import CellGrading.Symbol.Table
import Mathlib.Data.List.Perm.Basic

/-!
# Tables by their bindings

A table is the same as the values that it gives to names: its entries are the
bound names with their values, and the order of the entries leaves no choice.
A table made of the entries of a table is that table.
-/

namespace CellGrading

/-! ## Entries -/

theorem lookup_eq_some_iff_mem {entries : List (String × String)}
    (h : entries.Pairwise (·.1 < ·.1)) (name value : String) :
    entries.lookup name = some value ↔ (name, value) ∈ entries := by
  induction entries with
  | nil => simp
  | cons head rest ih =>
      obtain ⟨other, kept⟩ := head
      obtain ⟨hhead, hrest⟩ := List.pairwise_cons.1 h
      rw [lookup_cons_eq, List.mem_cons, Prod.mk.injEq]
      by_cases heq : name = other
      · subst heq
        have hnot : (name, value) ∉ rest := fun hmem => String.lt_irrefl name (hhead _ hmem)
        simp [hnot, eq_comm]
      · simp [heq, ih hrest]

namespace SymbolTable

theorem get?_eq_some_iff_mem (table : SymbolTable) (name value : String) :
    table.get? name = some value ↔ (name, value) ∈ table.entries :=
  lookup_eq_some_iff_mem table.sorted name value

theorem nodup_entries (table : SymbolTable) : table.entries.Nodup := by
  refine table.sorted.imp ?_
  rintro first second hlt rfl
  exact String.lt_irrefl _ hlt

theorem ext_entries {first second : SymbolTable} (h : first.entries = second.entries) :
    first = second := by
  cases first
  cases second
  cases h
  rfl

theorem ext_get? {first second : SymbolTable} (h : first.get? = second.get?) :
    first = second := by
  have hperm : first.entries.Perm second.entries := by
    rw [List.perm_ext_iff_of_nodup first.nodup_entries second.nodup_entries]
    rintro ⟨name, value⟩
    rw [← get?_eq_some_iff_mem, ← get?_eq_some_iff_mem, h]
  exact ext_entries <| hperm.eq_of_pairwise
    (fun _ _ _ _ hlt hgt => absurd hgt (String.lt_asymm hlt)) first.sorted second.sorted

end SymbolTable

/-! ## Tables from lists -/

theorem insertBinding_of_lt {name : String} {entries : List (String × String)}
    (h : ∀ entry ∈ entries, entry.1 < name) (value : String) :
    insertBinding name value entries = entries ++ [(name, value)] := by
  induction entries with
  | nil => rfl
  | cons head rest ih =>
      obtain ⟨other, kept⟩ := head
      have hlt : other < name := h (other, kept) (by simp)
      have hne : name ≠ other := fun heq => String.lt_irrefl name (heq ▸ hlt)
      have hrest := ih fun entry hentry => h entry (List.mem_cons_of_mem _ hentry)
      simp [insertBinding, String.lt_asymm hlt, hne, hrest]

namespace SymbolTable

theorem entries_foldl_insert {bindings : List (String × String)} {table : SymbolTable}
    (h : (table.entries ++ bindings).Pairwise (·.1 < ·.1)) :
    (bindings.foldl (fun table binding => table.insert binding.1 binding.2) table).entries =
      table.entries ++ bindings := by
  induction bindings generalizing table with
  | nil => simp
  | cons binding rest ih =>
      have hlast : ∀ entry ∈ table.entries, entry.1 < binding.1 := fun entry hentry =>
        (List.pairwise_append.1 h).2.2 entry hentry binding (by simp)
      have hentries : (table.insert binding.1 binding.2).entries =
          table.entries ++ [binding] := insertBinding_of_lt hlast binding.2
      have hinsert := @ih (table.insert binding.1 binding.2)
        (by rw [hentries, List.append_assoc]; exact h)
      rw [List.foldl_cons, hinsert, hentries, List.append_assoc]
      rfl

@[simp] theorem ofList_entries (table : SymbolTable) : ofList table.entries = table :=
  ext_entries (@entries_foldl_insert _ empty table.sorted)

end SymbolTable

end CellGrading
