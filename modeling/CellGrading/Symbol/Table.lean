/-!
# Symbol tables

A symbol table holds the values of the symbols bound so far.  Names stand in
ascending order of their code points, each once; binding a name again replaces
its value.  The order is part of the type, so two tables with the same bindings
are equal however they were built.
-/

namespace CellGrading

/-! ## Ordered lists of bindings -/

def insertBinding (name value : String) : List (String × String) → List (String × String)
  | [] => [(name, value)]
  | (other, kept) :: rest =>
      if name < other then (name, value) :: (other, kept) :: rest
      else if name = other then (name, value) :: rest
      else (other, kept) :: insertBinding name value rest

theorem fst_mem_insertBinding {name value : String} {entries : List (String × String)}
    {entry : String × String} (h : entry ∈ insertBinding name value entries) :
    entry = (name, value) ∨ entry ∈ entries := by
  induction entries with
  | nil => simpa [insertBinding] using h
  | cons head rest ih =>
      obtain ⟨other, kept⟩ := head
      unfold insertBinding at h
      split at h
      · simpa using h
      · split at h
        · simp only [List.mem_cons] at h ⊢
          exact h.imp_right .inr
        · simp only [List.mem_cons] at h ⊢
          rcases h with h | h
          · exact .inr (.inl h)
          · exact (ih h).imp_right .inr

theorem pairwise_insertBinding {entries : List (String × String)} (name value : String)
    (h : entries.Pairwise (·.1 < ·.1)) :
    (insertBinding name value entries).Pairwise (·.1 < ·.1) := by
  induction entries with
  | nil => simp [insertBinding]
  | cons head rest ih =>
      obtain ⟨other, kept⟩ := head
      rw [List.pairwise_cons] at h
      unfold insertBinding
      split
      · next hlt =>
        refine List.pairwise_cons.2 ⟨?_, List.pairwise_cons.2 h⟩
        intro entry hentry
        rcases List.mem_cons.1 hentry with rfl | hmem
        · exact hlt
        · exact String.lt_trans hlt (h.1 entry hmem)
      · next hge =>
        split
        · next heq =>
          subst heq
          exact List.pairwise_cons.2 h
        · next hne =>
          refine List.pairwise_cons.2 ⟨?_, ih h.2⟩
          intro entry hentry
          rcases fst_mem_insertBinding hentry with rfl | hmem
          · rcases String.le_total other name with hle | hle
            · exact String.not_le.1 fun hback => hne (String.le_antisymm hback hle)
            · exact String.not_le.1 fun hback => hne (String.le_antisymm hback (String.not_lt.1 hge))
          · exact h.1 entry hmem

theorem lookup_cons_eq (name value other : String) (rest : List (String × String)) :
    ((name, value) :: rest).lookup other =
      if other = name then some value else rest.lookup other := by
  rw [List.lookup_cons]
  by_cases h : other = name
  · simp [h]
  · simp [h, beq_eq_false_iff_ne.2 h]

theorem lookup_insertBinding (name value other : String) (entries : List (String × String)) :
    (insertBinding name value entries).lookup other =
      if other = name then some value else entries.lookup other := by
  induction entries with
  | nil => simp [insertBinding]
  | cons head rest ih =>
      obtain ⟨first, kept⟩ := head
      unfold insertBinding
      split
      · rw [lookup_cons_eq]
      · split
        · next heq =>
          subst heq
          rw [lookup_cons_eq, lookup_cons_eq]
          split <;> rfl
        · next hne =>
          rw [lookup_cons_eq, lookup_cons_eq, ih]
          by_cases h : other = first
          · subst h; simp [Ne.symm hne]
          · simp [h]

/-! ## Tables -/

/-- Bindings of names to values, ordered by name. -/
structure SymbolTable where
  entries : List (String × String)
  sorted : entries.Pairwise (·.1 < ·.1)
deriving DecidableEq

namespace SymbolTable

def empty : SymbolTable := ⟨[], .nil⟩

instance : Inhabited SymbolTable := ⟨empty⟩

def insert (table : SymbolTable) (name value : String) : SymbolTable :=
  ⟨insertBinding name value table.entries, pairwise_insertBinding name value table.sorted⟩

def get? (table : SymbolTable) (name : String) : Option String :=
  table.entries.lookup name

def size (table : SymbolTable) : Nat := table.entries.length

def isEmpty (table : SymbolTable) : Bool := table.entries.isEmpty

def ofList (bindings : List (String × String)) : SymbolTable :=
  bindings.foldl (fun table binding => table.insert binding.1 binding.2) empty

theorem get?_empty (name : String) : empty.get? name = none := rfl

theorem get?_insert (table : SymbolTable) (name value other : String) :
    (table.insert name value).get? other =
      if other = name then some value else table.get? other :=
  lookup_insertBinding name value other table.entries

end SymbolTable

end CellGrading
