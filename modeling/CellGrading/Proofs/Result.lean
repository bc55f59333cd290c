/-!
# Results that may be errors

A chain of steps is a success when each step is, and it stops at the first error.
-/

namespace CellGrading

section

variable {ε α β : Type}

theorem except_bind_eq_ok_iff {first : Except ε α} {next : α → Except ε β} {result : β} :
    (first >>= next) = .ok result ↔ ∃ found, first = .ok found ∧ next found = .ok result := by
  cases first with
  | error fault => exact ⟨nofun, nofun⟩
  | ok found =>
      constructor
      · intro h
        exact ⟨found, rfl, h⟩
      · rintro ⟨_, ⟨⟩, h⟩
        exact h

theorem except_bind_eq_error_iff {first : Except ε α} {next : α → Except ε β} {fault : ε} :
    (first >>= next) = .error fault ↔
      first = .error fault ∨ ∃ found, first = .ok found ∧ next found = .error fault := by
  cases first with
  | error other =>
      constructor
      · rintro ⟨⟩
        exact .inl rfl
      · rintro (⟨⟨⟩⟩ | ⟨_, ⟨⟩, -⟩)
        rfl
  | ok found =>
      constructor
      · intro h
        exact .inr ⟨found, rfl, h⟩
      · rintro (⟨⟨⟩⟩ | ⟨_, ⟨⟩, h⟩)
        exact h

theorem eq_none_of_eq_ok {result : Except ε α} {fault? : Option ε}
    (hfault : ∀ fault, result = .error fault ↔ fault? = some fault) {found : α}
    (hfound : result = .ok found) : fault? = none := by
  rw [Option.eq_none_iff_forall_ne_some]
  intro fault hsome
  cases hfound.symm.trans ((hfault fault).2 hsome)

theorem mapM_eq_error_iff {step : α → Except ε β} {fault? : α → Option ε}
    (hfault : ∀ item fault, step item = .error fault ↔ fault? item = some fault)
    (items : List α) (fault : ε) :
    items.mapM step = .error fault ↔ items.findSome? fault? = some fault := by
  induction items with
  | nil => exact ⟨nofun, nofun⟩
  | cons item rest ih =>
      rw [List.mapM_cons, except_bind_eq_error_iff, List.findSome?_cons]
      cases hitem : step item with
      | error other => simp [(hfault item other).1 hitem]
      | ok found =>
          rw [eq_none_of_eq_ok (hfault item) hitem, ← ih]
          constructor
          · rintro (⟨⟨⟩⟩ | ⟨_, -, hrest⟩)
            obtain hrest | ⟨_, -, ⟨⟩⟩ := except_bind_eq_error_iff.1 hrest
            exact hrest
          · intro hrest
            exact .inr ⟨found, rfl, except_bind_eq_error_iff.2 (.inl hrest)⟩

end

end CellGrading
