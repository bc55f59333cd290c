import CellGrading.Proofs.Symbol.Table
import CellGrading.Verdict.Basic
import Mathlib.Data.Finset.Card
import Mathlib.Data.List.Induction

/-!
# Tables by what was written

A table that came about by writes, one after the other, gives each name the value that
was written for it last.  So only the writes of one name have to keep their order, and
what a table lists, looks up and counts can be said of the writes alone.
-/

namespace CellGrading

/-! ## Writes -/

/-- The last of the writes to the name writes the value. -/
def LastWrites (writes : List (String × String)) (name value : String) : Prop :=
  ∃ before after, writes = before ++ (name, value) :: after ∧ name ∉ after.map Prod.fst

def valuesFor (writes : List (String × String)) (name : String) : List String :=
  (writes.filter fun write => write.1 = name).map Prod.snd

section

variable (writes : List (String × String)) (name value : String)

theorem valuesFor_concat (write : String × String) :
    valuesFor (writes ++ [write]) name =
      valuesFor writes name ++ if write.1 = name then [write.2] else [] := by
  by_cases h : write.1 = name <;> simp [valuesFor, h]

theorem valuesFor_eq_nil_iff : valuesFor writes name = [] ↔ name ∉ writes.map Prod.fst := by
  simp only [valuesFor, List.map_eq_nil_iff, List.filter_eq_nil_iff, decide_eq_true_eq,
    List.mem_map, not_exists, not_and]

theorem lastWrites_iff : LastWrites writes name value ↔
    (valuesFor writes name).getLast? = some value := by
  constructor
  · rintro ⟨before, after, rfl, hafter⟩
    rw [← valuesFor_eq_nil_iff, valuesFor] at hafter
    simp [valuesFor, hafter]
  · induction writes using List.reverseRecOn with
    | nil => simp [valuesFor]
    | append_singleton writes write ih =>
        obtain ⟨written, given⟩ := write
        rw [valuesFor_concat]
        by_cases h : written = name
        · subst h
          intro hvalue
          obtain rfl : given = value := by simpa using hvalue
          exact ⟨writes, [], rfl, by simp⟩
        · intro hvalue
          obtain ⟨before, after, rfl, hafter⟩ := ih (by simpa [h] using hvalue)
          exact ⟨before, after ++ [(written, given)], by simp, by simpa [Ne.symm h] using hafter⟩

end

/-! ## Names in order -/

def codePoints (text : String) : List Nat := text.toList.map Char.toNat

theorem codePoints_lt {first second : String} (h : first < second) :
    codePoints first < codePoints second :=
  List.map_lt (fun _ _ hlt => hlt) (String.lt_iff.1 h)

namespace SymbolTable

/-! ## Values and writes -/

theorem ofList_append_singleton (writes : List (String × String)) (name value : String) :
    ofList (writes ++ [(name, value)]) = (ofList writes).insert name value := by
  simp [ofList]

theorem get?_ofList (writes : List (String × String)) (name : String) :
    (ofList writes).get? name = (valuesFor writes name).getLast? := by
  induction writes using List.reverseRecOn with
  | nil => rfl
  | append_singleton writes write ih =>
      obtain ⟨written, given⟩ := write
      rw [ofList_append_singleton, get?_insert, ih, valuesFor_concat]
      by_cases h : written = name
      · simp [h]
      · simp [h, Ne.symm h]

theorem record_ofList (writes : List (String × String)) (verdict : Verdict) :
    (ofList writes).record verdict = ofList
      (writes ++ verdict.binding.toList.map fun binding => (binding.name, binding.value)) := by
  unfold record
  cases verdict.binding with
  | none => simp
  | some binding => exact (ofList_append_singleton writes binding.name binding.value).symm

theorem ofList_eq_of_valuesFor {writes writes' : List (String × String)}
    (h : ∀ name, valuesFor writes name = valuesFor writes' name) :
    ofList writes = ofList writes' := by
  refine ext_get? (funext fun name => ?_)
  rw [get?_ofList, get?_ofList, h]

/-! ## What a table holds -/

/-- The table is what the writes come to.  It lists the names that were written, each once and
in the order of the code points, with the value that was written last.  That value is also
what a name is looked up as, and the size counts the names. -/
structure Holds (table : SymbolTable) (writes : List (String × String)) : Prop where
  ascending : (table.entries.map fun entry => codePoints entry.1).Pairwise (· < ·)
  once : (table.entries.map Prod.fst).Nodup
  listed (name value : String) : (name, value) ∈ table.entries ↔ LastWrites writes name value
  bound (name value : String) : table.get? name = some value ↔ LastWrites writes name value
  unbound (name : String) : table.get? name = none ↔ name ∉ writes.map Prod.fst
  size_eq_length : table.size = table.entries.length
  size_eq_card : table.size = (writes.map Prod.fst).toFinset.card

theorem nodup_names (table : SymbolTable) : (table.entries.map Prod.fst).Nodup := by
  refine List.pairwise_map.2 (table.sorted.imp ?_)
  intro first second hlt heq
  exact String.lt_irrefl _ (heq ▸ hlt)

theorem get?_eq_none_iff_notMem (table : SymbolTable) (name : String) :
    table.get? name = none ↔ name ∉ table.entries.map Prod.fst := by
  simp only [Option.eq_none_iff_forall_ne_some, ne_eq, get?_eq_some_iff_mem, List.mem_map,
    Prod.exists, exists_and_right, exists_eq_right, not_exists]

theorem holds_ofList (writes : List (String × String)) : (ofList writes).Holds writes := by
  have hbound (name value : String) :
      (ofList writes).get? name = some value ↔ LastWrites writes name value := by
    rw [get?_ofList, lastWrites_iff]
  have hunbound (name : String) :
      (ofList writes).get? name = none ↔ name ∉ writes.map Prod.fst := by
    rw [get?_ofList, List.getLast?_eq_none_iff, valuesFor_eq_nil_iff]
  have hnames : ((ofList writes).entries.map Prod.fst).toFinset =
      (writes.map Prod.fst).toFinset := by
    ext name
    rw [List.mem_toFinset, List.mem_toFinset, ← not_iff_not, ← get?_eq_none_iff_notMem, hunbound]
  refine ⟨?_, nodup_names _, ?_, hbound, hunbound, rfl, ?_⟩
  · exact List.pairwise_map.2 ((ofList writes).sorted.imp codePoints_lt)
  · intro name value
    rw [← get?_eq_some_iff_mem, hbound]
  · rw [← hnames, List.toFinset_card_of_nodup (nodup_names _), List.length_map]
    rfl

theorem holds_iff {table : SymbolTable} {writes : List (String × String)} :
    table.Holds writes ↔ table = ofList writes := by
  constructor
  · intro h
    refine ext_get? (funext fun name => Option.ext fun value => ?_)
    rw [h.bound, (holds_ofList writes).bound]
  · rintro rfl
    exact holds_ofList writes

end SymbolTable

end CellGrading
