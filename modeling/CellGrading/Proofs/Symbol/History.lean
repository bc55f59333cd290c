import CellGrading.Proofs.Record.Bindings
import CellGrading.Proofs.Symbol.Writes
import CellGrading.Record.Encoding

/-!
# Tables in the course of operations

A table is collected from a list or decoded from a JSON object, which both start anew, and
it is changed by setting a name and by applying a verdict.  Each operation leaves a list
of writes behind it, and after any sequence of them the table holds what was written.
-/

namespace CellGrading

open Json

namespace SymbolTable

/-! ## Operations -/

inductive Operation where
  | collect (bindings : List (String × String))
  | set (name value : String)
  | apply (verdict : Verdict)
  | decode (text : String)

namespace Operation

def perform (table : SymbolTable) : Operation → Decoded SymbolTable
  | collect bindings => .ok (ofList bindings)
  | set name value => .ok (table.insert name value)
  | apply verdict => .ok (table.apply verdict).1
  | decode text => Json.decode SymbolTable.decode text

/-- The writes behind the table after the operation, from those before it. -/
inductive Leaves (earlier : List (String × String)) : Operation → List (String × String) → Prop
  | collect (bindings : List (String × String)) : Leaves earlier (.collect bindings) bindings
  | set (name value : String) : Leaves earlier (.set name value) (earlier ++ [(name, value)])
  | apply (verdict : Verdict) : Leaves earlier (.apply verdict)
      (earlier ++ verdict.binding.toList.map fun binding => (binding.name, binding.value))
  | decode {text : String} {bindings : List (String × String)}
      (h : SpellsBindings bindings text) : Leaves earlier (.decode text) bindings

theorem perform_eq_ok_iff {earlier : List (String × String)} {operation : Operation}
    {table : SymbolTable} : operation.perform (ofList earlier) = .ok table ↔
      ∃ writes, operation.Leaves earlier writes ∧ table = ofList writes := by
  cases operation with
  | collect bindings =>
      constructor
      · rintro ⟨⟩
        exact ⟨bindings, .collect bindings, rfl⟩
      · rintro ⟨_, ⟨⟩, rfl⟩
        rfl
  | set name value =>
      rw [perform, ← ofList_append_singleton]
      constructor
      · rintro ⟨⟩
        exact ⟨_, .set name value, rfl⟩
      · rintro ⟨_, ⟨⟩, rfl⟩
        rfl
  | apply verdict =>
      rw [perform, SymbolTable.apply, record_ofList]
      constructor
      · rintro ⟨⟩
        exact ⟨_, .apply verdict, rfl⟩
      · rintro ⟨_, ⟨⟩, rfl⟩
        rfl
  | decode text =>
      rw [perform, decode_text_eq_ok_iff]
      constructor
      · rintro ⟨bindings, hspells, rfl⟩
        exact ⟨bindings, .decode hspells, rfl⟩
      · rintro ⟨bindings, hleaves, rfl⟩
        cases hleaves with
        | decode hspells => exact ⟨bindings, hspells, rfl⟩

end Operation

inductive Leads : List (String × String) → List Operation → List (String × String) → Prop
  | nil (writes : List (String × String)) : Leads writes [] writes
  | cons {earlier next writes : List (String × String)} {operation : Operation}
      {rest : List Operation} (h : operation.Leaves earlier next) (hrest : Leads next rest writes) :
      Leads earlier (operation :: rest) writes

theorem foldlM_perform_eq_ok_iff {earlier : List (String × String)} {operations : List Operation}
    {table : SymbolTable} : operations.foldlM Operation.perform (ofList earlier) = .ok table ↔
      ∃ writes, Leads earlier operations writes ∧ table = ofList writes := by
  induction operations generalizing earlier with
  | nil =>
      constructor
      · rintro ⟨⟩
        exact ⟨earlier, .nil earlier, rfl⟩
      · rintro ⟨_, ⟨⟩, rfl⟩
        rfl
  | cons operation rest ih =>
      rw [List.foldlM_cons, except_bind_eq_ok_iff]
      constructor
      · rintro ⟨found, hfound, hrest⟩
        obtain ⟨next, hnext, rfl⟩ := Operation.perform_eq_ok_iff.1 hfound
        obtain ⟨writes, hwrites, rfl⟩ := ih.1 hrest
        exact ⟨writes, .cons hnext hwrites, rfl⟩
      · rintro ⟨writes, ⟨⟩ | ⟨hnext, hwrites⟩, rfl⟩
        exact ⟨_, Operation.perform_eq_ok_iff.2 ⟨_, hnext, rfl⟩, ih.2 ⟨writes, hwrites, rfl⟩⟩

def build (operations : List Operation) : Decoded SymbolTable :=
  operations.foldlM Operation.perform .empty

theorem build_eq_ok_iff {operations : List Operation} {table : SymbolTable} :
    build operations = .ok table ↔ ∃ writes, Leads [] operations writes ∧ table.Holds writes := by
  simp only [holds_iff]
  exact @foldlM_perform_eq_ok_iff [] operations table

/-! ## Applying a verdict -/

/-- The result of applying the verdict: its binding is written, if it has one, and every
other name is as it was. -/
structure Applies (table : SymbolTable) (verdict : Verdict) (result : SymbolTable × Bool) :
    Prop where
  answer : result.2 = true ↔ ∃ binding, verdict.binding = some binding
  written (binding : SymbolBinding) (h : verdict.binding = some binding) :
    result.1.get? binding.name = some binding.value
  kept (name : String) (h : ∀ binding, verdict.binding = some binding → binding.name ≠ name) :
    result.1.get? name = table.get? name

theorem apply_eq_iff {table : SymbolTable} {verdict : Verdict} {result : SymbolTable × Bool} :
    table.apply verdict = result ↔ table.Applies verdict result := by
  obtain ⟨after, answer⟩ := result
  rw [apply, record, Prod.mk.injEq]
  cases hbinding : verdict.binding with
  | none =>
      constructor
      · rintro ⟨rfl, rfl⟩
        exact ⟨by simp [hbinding], by simp [hbinding], fun _ _ => rfl⟩
      · rintro ⟨hanswer, -, hkept⟩
        refine ⟨(ext_get? (funext fun name => hkept name (by simp [hbinding]))).symm, ?_⟩
        simpa [hbinding, eq_comm] using hanswer
  | some binding =>
      have hinsert (name : String) := get?_insert table binding.name binding.value name
      constructor
      · rintro ⟨rfl, rfl⟩
        refine ⟨by simp [hbinding], ?_, ?_⟩
        · intro _ hsame
          cases hbinding.symm.trans hsame
          rw [hinsert, if_pos rfl]
        · intro name hname
          rw [hinsert, if_neg (hname binding hbinding).symm]
      · rintro ⟨hanswer, hwritten, hkept⟩
        refine ⟨ext_get? (funext fun name => ?_), by simpa [hbinding, eq_comm] using hanswer⟩
        rw [hinsert]
        split
        · next heq =>
          rw [heq, hwritten binding hbinding]
        · next hne =>
          refine (hkept name ?_).symm
          rintro _ hsame rfl
          cases hbinding.symm.trans hsame
          exact hne rfl

/-- A table is the last-write-wins map of its operations.  They give one when every decoded
text is that of an object of strings, and the table then holds what they wrote.  Applying a
verdict writes its binding and nothing else.  Where the values for each name are written in
the same order, whatever stands between them, the tables and their JSON are the same. -/
theorem build_last_write_wins :
    (∀ operations table, build operations = .ok table ↔
      ∃ writes, Leads [] operations writes ∧ table.Holds writes) ∧
    (∀ (table : SymbolTable) verdict result,
      table.apply verdict = result ↔ table.Applies verdict result) ∧
    ∀ operations operations' writes writes', Leads [] operations writes →
      Leads [] operations' writes' →
      (∀ name, valuesFor writes name = valuesFor writes' name) →
      ∃ table table', build operations = .ok table ∧ build operations' = .ok table' ∧
        table = table' ∧ table.toJson.compact = table'.toJson.compact ∧
        table.toJson.pretty = table'.toJson.pretty := by
  refine ⟨fun _ _ => build_eq_ok_iff, fun _ _ _ => apply_eq_iff, ?_⟩
  intro operations operations' writes writes' hleads hleads' hvalues
  have hbuild := build_eq_ok_iff.2 ⟨writes, hleads, holds_ofList writes⟩
  have hbuild' := build_eq_ok_iff.2 ⟨writes', hleads', holds_ofList writes'⟩
  have htable : ofList writes = ofList writes' := ofList_eq_of_valuesFor hvalues
  exact ⟨_, _, hbuild, hbuild', htable, by rw [htable], by rw [htable]⟩

def capturing : Verdict :=
  ⟨.ignore, "$X<-[42]", .capture, "$X=", "42", some ⟨"X", "42"⟩⟩

theorem build_last_write_wins_mixed :
    let operations := [.decode "\x7b\"b\":\"1\",\"a\":\"2\",\"b\":\"3\"\x7d", .set "é" "4",
      .apply capturing]
    let operations' := [.set "b" "7", .collect [("é", "4"), ("b", "1")], .apply capturing,
      .set "b" "3", .set "a" "2"]
    let writes := [("b", "1"), ("a", "2"), ("b", "3"), ("é", "4"), ("X", "42")]
    let writes' := [("é", "4"), ("b", "1"), ("X", "42"), ("b", "3"), ("a", "2")]
    Leads [] operations writes ∧ Leads [] operations' writes' ∧
      (∀ name, valuesFor writes name = valuesFor writes' name) ∧
      ∃ table, build operations = .ok table ∧ build operations' = .ok table ∧
        table.entries = [("X", "42"), ("a", "2"), ("b", "3"), ("é", "4")] := by
  intro operations operations' writes writes'
  obtain ⟨hbuild, -, hsame⟩ := build_last_write_wins
  have hspells := spellsBindings_compact [("b", "1"), ("a", "2"), ("b", "3")]
  have hleads : Leads [] operations writes :=
    .cons (.decode hspells) (.cons (.set ..) (.cons (.apply _) (.nil _)))
  have hleads' : Leads [] operations' writes' :=
    .cons (.set ..) (.cons (.collect _) (.cons (.apply _)
      (.cons (.set ..) (.cons (.set ..) (.nil _)))))
  have hvalues (name : String) : valuesFor writes name = valuesFor writes' name := by
    have hnames : ∀ name ∈ writes'.map Prod.fst, name ∈ writes.map Prod.fst := by decide
    have hsome : ∀ name ∈ writes.map Prod.fst, valuesFor writes name = valuesFor writes' name := by
      decide
    by_cases hname : name ∈ writes.map Prod.fst
    · exact hsome name hname
    · have hname' : name ∉ writes'.map Prod.fst := fun hmem => hname (hnames name hmem)
      rw [(valuesFor_eq_nil_iff ..).2 hname, (valuesFor_eq_nil_iff ..).2 hname']
  obtain ⟨table, _, hfirst, hsecond, rfl, -⟩ := hsame _ _ _ _ hleads hleads' hvalues
  have htable := (hbuild operations (ofList writes)).2 ⟨writes, hleads, holds_ofList writes⟩
  cases hfirst.symm.trans htable
  exact ⟨hleads, hleads', hvalues, _, hfirst, hsecond, by decide +kernel⟩

end SymbolTable

end CellGrading
