import CellGrading.CommandLine.SymbolArgument
import CellGrading.Proofs.Result
import Mathlib.Data.List.TakeWhile

/-!
# Symbols that cannot be bound

An argument binds no symbol if it has no equals sign, or no name in front of the first
one.  The first such argument is what is complained about.
-/

namespace CellGrading.CommandLine

def beforeEquals (argument : String) : List Char := argument.toList.takeWhile (· ≠ '=')

/-- The argument has no equals sign, or no name in front of it. -/
def Malformed (argument : String) : Prop :=
  '=' ∉ argument.toList ∨ bareName (beforeEquals argument) = []

instance : DecidablePred Malformed := fun _ => inferInstanceAs (Decidable (_ ∨ _))

def symbolFault? (argument : String) : Option SymbolFault :=
  if '=' ∉ argument.toList then some (.noValue argument)
  else if bareName (beforeEquals argument) = [] then some (.noName argument)
  else none

theorem isSome_symbolFault?_iff (argument : String) :
    (symbolFault? argument).isSome = true ↔ Malformed argument := by
  by_cases hequals : '=' ∈ argument.toList <;>
    by_cases hname : bareName (beforeEquals argument) = [] <;>
    simp [symbolFault?, Malformed, hequals, hname]

theorem splitAtEquals?_eq_none_iff (argument : List Char) :
    splitAtEquals? argument = none ↔ '=' ∉ argument := by
  have hnil : argument.dropWhile (· ≠ '=') = [] ↔ '=' ∉ argument := by
    rw [List.dropWhile_eq_nil_iff]
    constructor
    · intro h hequals
      simpa using h '=' hequals
    · intro h c hc
      simpa using fun heq : c = '=' => h (heq ▸ hc)
  rw [← hnil, splitAtEquals?]
  cases argument.dropWhile (· ≠ '=') <;> simp

theorem fst_of_splitAtEquals? {argument name value : List Char}
    (h : splitAtEquals? argument = some (name, value)) : name = argument.takeWhile (· ≠ '=') := by
  unfold splitAtEquals? at h
  split at h
  · cases h
  · cases h
    rfl

theorem readSymbol_eq_error_iff (argument : String) (fault : SymbolFault) :
    readSymbol argument = .error fault ↔ symbolFault? argument = some fault := by
  unfold readSymbol symbolFault?
  cases hsplit : splitAtEquals? argument.toList with
  | none => simp [(splitAtEquals?_eq_none_iff _).1 hsplit]
  | some parts =>
      obtain ⟨name, value⟩ := parts
      have hequals : ¬ '=' ∉ argument.toList := by
        rw [← splitAtEquals?_eq_none_iff, hsplit]
        simp
      rw [fst_of_splitAtEquals? hsplit, ← beforeEquals, if_neg hequals]
      by_cases hname : bareName (beforeEquals argument) = [] <;> simp [hname]

theorem readSymbols_eq_error_iff (arguments : List String) (fault : SymbolFault) :
    readSymbols arguments = .error fault ↔ arguments.findSome? symbolFault? = some fault := by
  rw [← mapM_eq_error_iff readSymbol_eq_error_iff, readSymbols, except_bind_eq_error_iff]
  constructor
  · rintro (h | ⟨_, -, ⟨⟩⟩)
    exact h
  · exact .inl

theorem exists_readSymbols_eq_error_iff (arguments : List String) :
    (∃ fault, readSymbols arguments = .error fault) ↔
      ∃ argument ∈ arguments, Malformed argument := by
  simp only [readSymbols_eq_error_iff, ← isSome_symbolFault?_iff, ← Option.isSome_iff_exists,
    List.findSome?_isSome_iff]

end CellGrading.CommandLine
