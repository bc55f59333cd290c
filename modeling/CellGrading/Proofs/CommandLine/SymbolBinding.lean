import CellGrading.Proofs.CommandLine.SymbolArgument
import CellGrading.Proofs.Symbol.Table
import CellGrading.Proofs.Text.Stretch
import Mathlib.Data.List.Induction

/-!
# What arguments bind

An argument binds a name to a value if it writes the two with an equals sign between
them.  A name may be written in several ways, so arguments that look different may be
for one name; of these the last one counts, and arguments for different names do not
get in each other's way.
-/

namespace CellGrading.CommandLine

open Text

/-! ## Single arguments -/

/-- A name as it is written: with blanks around it, and dollar signs in front of it.
Blanks between the dollar signs and the name count as its own. -/
def WritesName (written name : List Char) : Prop :=
  ∃ before dollars after, written = before ++ (dollars ++ name) ++ after ∧
    Blanks before ∧ Blanks after ∧ (∀ c ∈ dollars, c = '$') ∧
    Trimmed (dollars ++ name) ∧ StopsAt (· = '$') name

/-- The argument is a name, an equals sign and a value. -/
def Binds (argument name value : String) : Prop :=
  ∃ written, argument.toList = written ++ '=' :: value.toList ∧ '=' ∉ written ∧
    WritesName written name.toList ∧ name ≠ ""

def IsFor (argument name : String) : Prop := ∃ value, Binds argument name value

theorem bareName_eq_iff (written name : List Char) :
    bareName written = name ↔ WritesName written name := by
  constructor
  · rintro rfl
    obtain ⟨before, after, hbefore, hafter, hwritten⟩ := exists_trimChars written
    have hcut : (trimChars written).takeWhile (· = '$') ++ bareName written =
        trimChars written := List.takeWhile_append_dropWhile
    refine ⟨before, (trimChars written).takeWhile (· = '$'), after, ?_, hbefore, hafter, ?_, ?_,
      stopsAt_dropWhile _ _⟩
    · rw [hcut, ← hwritten]
    · intro c hc
      simpa using List.mem_takeWhile_imp hc
    · rw [hcut]
      exact trimmed_trimChars written
  · rintro ⟨before, dollars, after, rfl, hbefore, hafter, hdollars, htrimmed, hname⟩
    rw [bareName, trimChars_blanks hbefore htrimmed hafter]
    exact dropWhile_run (fun c hc => by simpa using hdollars c hc) hname

theorem splitAtEquals?_eq_some_iff (argument written value : List Char) :
    splitAtEquals? argument = some (written, value) ↔
      argument = written ++ '=' :: value ∧ '=' ∉ written := by
  constructor
  · intro h
    have htake := fst_of_splitAtEquals? h
    refine ⟨?_, ?_⟩
    · unfold splitAtEquals? at h
      split at h
      · cases h
      · next c rest hdrop =>
          cases h
          have hstop : StopsAt (· ≠ '=') (c :: value) := hdrop ▸ stopsAt_dropWhile _ argument
          have hc : c = '=' := by simpa using hstop
          calc
            argument = argument.takeWhile (· ≠ '=') ++ argument.dropWhile (· ≠ '=') :=
              List.takeWhile_append_dropWhile.symm
            _ = argument.takeWhile (· ≠ '=') ++ '=' :: value := by rw [hdrop, hc]
    · intro hmem
      rw [htake] at hmem
      simpa using List.mem_takeWhile_imp hmem
  · rintro ⟨rfl, hwritten⟩
    have hrun : ∀ c ∈ written, decide (c ≠ '=') = true := by
      intro c hc
      simpa using fun heq : c = '=' => hwritten (heq ▸ hc)
    have hstop : StopsAt (· ≠ '=') ('=' :: value) := by simp
    rw [splitAtEquals?, dropWhile_run hrun hstop, takeWhile_run hrun hstop]

theorem readSymbol_eq_ok_iff (argument name value : String) :
    readSymbol argument = .ok (name, value) ↔ Binds argument name value := by
  unfold readSymbol Binds
  constructor
  · intro h
    split at h
    · cases h
    · next written rest hsplit =>
        split at h
        · cases h
        · next hname =>
            cases h
            obtain ⟨hargument, hequals⟩ := (splitAtEquals?_eq_some_iff _ _ _).1 hsplit
            refine ⟨written, ?_, hequals, ?_, ?_⟩
            · rw [String.toList_ofList, hargument]
            · rw [String.toList_ofList, ← bareName_eq_iff]
            · simpa [← String.toList_eq_nil_iff] using hname
  · rintro ⟨written, hargument, hequals, hwritten, hne⟩
    rw [(splitAtEquals?_eq_some_iff _ _ _).2 ⟨hargument, hequals⟩]
    rw [← bareName_eq_iff] at hwritten
    simp [hwritten, hne]

theorem Binds.unique {argument name name' value value' : String}
    (h : Binds argument name value) (h' : Binds argument name' value') :
    name = name' ∧ value = value' := by
  rw [← readSymbol_eq_ok_iff] at h h'
  cases h.symm.trans h'
  exact ⟨rfl, rfl⟩

theorem not_malformed_iff (argument : String) :
    ¬ Malformed argument ↔ ∃ name, IsFor argument name := by
  have hread : Malformed argument ↔ ∃ fault, readSymbol argument = .error fault := by
    simp only [readSymbol_eq_error_iff, ← isSome_symbolFault?_iff, Option.isSome_iff_exists]
  simp only [hread, IsFor, ← readSymbol_eq_ok_iff]
  cases readSymbol argument with
  | error fault => simp
  | ok binding => exact ⟨fun _ => ⟨binding.1, binding.2, rfl⟩, fun _ => nofun⟩

instance (argument name : String) : Decidable (IsFor argument name) :=
  decidable_of_iff ((readSymbol argument).toOption.map Prod.fst = some name) <| by
    simp only [IsFor, ← readSymbol_eq_ok_iff]
    cases readSymbol argument with
    | error fault => simp [Except.toOption]
    | ok binding => simp [Except.toOption, Prod.ext_iff]

/-! ## Arguments in a row -/

/-- Of the arguments for the name, the last gives it the value. -/
def LastBinds (arguments : List String) (name value : String) : Prop :=
  ∃ before argument after, arguments = before ++ argument :: after ∧
    Binds argument name value ∧ ∀ later ∈ after, ¬ IsFor later name

theorem lastBinds_concat_iff (arguments : List String) (argument name value : String) :
    LastBinds (arguments ++ [argument]) name value ↔
      Binds argument name value ∨ LastBinds arguments name value ∧ ¬ IsFor argument name := by
  constructor
  · rintro ⟨before, found, after, harguments, hfound, hafter⟩
    rcases List.eq_nil_or_concat after with rfl | ⟨others, last, rfl⟩
    · obtain ⟨-, hlast⟩ := List.append_inj' harguments rfl
      cases hlast
      exact .inl hfound
    · rw [List.concat_eq_append] at harguments hafter
      rw [← List.cons_append, ← List.append_assoc] at harguments
      obtain ⟨rfl, hlast⟩ := List.append_inj' harguments rfl
      cases hlast
      refine .inr ⟨⟨before, found, others, rfl, hfound, ?_⟩, hafter argument (by simp)⟩
      exact fun later hlater => hafter later (by simp [hlater])
  · rintro (h | ⟨⟨before, found, after, rfl, hfound, hafter⟩, hlast⟩)
    · exact ⟨arguments, argument, [], rfl, h, by simp⟩
    · refine ⟨before, found, after ++ [argument], by simp, hfound, ?_⟩
      intro later hlater
      rcases List.mem_append.1 hlater with hlater | hlater
      · exact hafter later hlater
      · rwa [List.mem_singleton.1 hlater]

theorem lastBinds_iff_getLast? (arguments : List String) (name value : String) :
    LastBinds arguments name value ↔
      ∃ argument, (arguments.filter (IsFor · name)).getLast? = some argument ∧
        Binds argument name value := by
  induction arguments using List.reverseRecOn with
  | nil => simp [LastBinds]
  | append_singleton arguments argument ih =>
      rw [lastBinds_concat_iff, ih]
      by_cases hfor : IsFor argument name
      · simp [List.filter_append, hfor]
      · have hbinds : ¬ Binds argument name value := fun h => hfor ⟨value, h⟩
        simp [List.filter_append, hfor, hbinds]

theorem readSymbols_concat_eq_ok_iff (arguments : List String) (argument : String)
    (table : SymbolTable) :
    readSymbols (arguments ++ [argument]) = .ok table ↔
      ∃ earlier name value, readSymbols arguments = .ok earlier ∧ Binds argument name value ∧
        table = earlier.insert name value := by
  simp only [readSymbols, List.mapM_append, List.mapM_cons, List.mapM_nil,
    except_bind_eq_ok_iff, ← readSymbol_eq_ok_iff]
  constructor
  · rintro ⟨_, ⟨bindings, hbindings, _, ⟨⟨name, value⟩, hargument, _, ⟨⟩, ⟨⟩⟩, ⟨⟩⟩, ⟨⟩⟩
    refine ⟨_, name, value, ⟨bindings, hbindings, rfl⟩, hargument, ?_⟩
    simp [SymbolTable.ofList]
  · rintro ⟨_, name, value, ⟨bindings, hbindings, ⟨⟩⟩, hargument, rfl⟩
    refine ⟨_, ⟨bindings, hbindings, _, ⟨⟨name, value⟩, hargument, _, rfl, rfl⟩, rfl⟩, ?_⟩
    simp [SymbolTable.ofList]
    rfl

theorem get?_eq_some_iff_lastBinds {arguments : List String} {table : SymbolTable}
    (h : readSymbols arguments = .ok table) (name value : String) :
    table.get? name = some value ↔ LastBinds arguments name value := by
  induction arguments using List.reverseRecOn generalizing table with
  | nil =>
      cases h
      simp [LastBinds, SymbolTable.ofList, SymbolTable.get?_empty]
  | append_singleton arguments argument ih =>
      obtain ⟨earlier, bound, given, hearlier, hargument, rfl⟩ :=
        (readSymbols_concat_eq_ok_iff _ _ _).1 h
      rw [SymbolTable.get?_insert, lastBinds_concat_iff, ← ih hearlier]
      by_cases hname : name = bound
      · subst hname
        have hfor : IsFor argument name := ⟨given, hargument⟩
        rw [if_pos rfl, Option.some.injEq, iff_true_intro hfor, not_true, and_false, or_false]
        constructor
        · rintro rfl
          exact hargument
        · exact fun hvalue => (hargument.unique hvalue).2
      · have hfor : ¬ IsFor argument name := fun ⟨_, hvalue⟩ =>
          hname (hvalue.unique hargument).1
        have hbinds : ¬ Binds argument name value := fun hvalue => hfor ⟨value, hvalue⟩
        simp [hname, hfor, hbinds]

theorem exists_readSymbols_eq_ok_iff (arguments : List String) :
    (∃ table, readSymbols arguments = .ok table) ↔
      ∀ argument ∈ arguments, ∃ name, IsFor argument name := by
  simp only [← not_malformed_iff]
  have hfault := exists_readSymbols_eq_error_iff arguments
  cases hread : readSymbols arguments with
  | error fault =>
      obtain ⟨argument, hmem, hmalformed⟩ := hfault.1 ⟨fault, hread⟩
      refine ⟨nofun, fun hall => absurd hmalformed (hall argument hmem)⟩
  | ok table =>
      refine ⟨fun _ argument hmem hmalformed => ?_, fun _ => ⟨table, rfl⟩⟩
      obtain ⟨fault, herror⟩ := hfault.2 ⟨argument, hmem, hmalformed⟩
      cases hread.symm.trans herror

theorem readSymbols_of_lastBinds {arguments : List String} {table : SymbolTable}
    (hall : ∀ argument ∈ arguments, ∃ name, IsFor argument name)
    (hlast : ∀ name value, table.get? name = some value ↔ LastBinds arguments name value) :
    readSymbols arguments = .ok table := by
  obtain ⟨found, hfound⟩ := (exists_readSymbols_eq_ok_iff arguments).2 hall
  rw [hfound]
  congr 1
  refine SymbolTable.ext_get? (funext fun name => Option.ext fun value => ?_)
  rw [get?_eq_some_iff_lastBinds hfound, hlast]

theorem readSymbols_eq_of_perm {arguments other : List String} {table : SymbolTable}
    (h : readSymbols arguments = .ok table) (hperm : other.Perm arguments)
    (horder : ∀ name, other.filter (IsFor · name) = arguments.filter (IsFor · name)) :
    readSymbols other = .ok table := by
  refine readSymbols_of_lastBinds ?_ ?_
  · intro argument hmem
    exact (exists_readSymbols_eq_ok_iff arguments).1 ⟨table, h⟩ argument (hperm.mem_iff.1 hmem)
  · intro name value
    rw [get?_eq_some_iff_lastBinds h, lastBinds_iff_getLast?, lastBinds_iff_getLast?, horder]

theorem symbolFault?_eq_some_iff (argument : String) (fault : SymbolFault) :
    symbolFault? argument = some fault ↔ (¬ ∃ name, IsFor argument name) ∧
      fault = if '=' ∈ argument.toList then .noName argument else .noValue argument := by
  rw [← not_malformed_iff, not_not, Malformed, symbolFault?]
  by_cases hequals : '=' ∈ argument.toList <;>
    by_cases hname : bareName (beforeEquals argument) = [] <;>
    simp [hequals, hname, eq_comm]

/-- A list of arguments is read iff each of them binds a name.  Each name then has the
value of the last argument for it, so only the order of arguments for the same name
counts.  Else the first argument that binds nothing is complained about, in quotes. -/
theorem readSymbols_last_wins (arguments : List String) :
    ((∃ table, readSymbols arguments = .ok table) ↔
      ∀ argument ∈ arguments, ∃ name, IsFor argument name) ∧
    (∀ table, readSymbols arguments = .ok table →
      (∀ name value, table.get? name = some value ↔ LastBinds arguments name value) ∧
      ∀ other : List String, other.Perm arguments →
        (∀ name, other.filter (IsFor · name) = arguments.filter (IsFor · name)) →
          readSymbols other = .ok table) ∧
    ∀ fault, readSymbols arguments = .error fault ↔
      ∃ before argument after, arguments = before ++ argument :: after ∧
        (∀ earlier ∈ before, ∃ name, IsFor earlier name) ∧ (¬ ∃ name, IsFor argument name) ∧
        fault = (if '=' ∈ argument.toList then .noName argument else .noValue argument) ∧
        fault.message = (if '=' ∈ argument.toList then "symbol name is empty in "
          else "symbol must be NAME=VALUE, got ") ++ Text.quote argument := by
  refine ⟨exists_readSymbols_eq_ok_iff arguments, ?_, ?_⟩
  · intro table h
    exact ⟨get?_eq_some_iff_lastBinds h, fun _ => readSymbols_eq_of_perm h⟩
  · intro fault
    have hnone (argument : String) :
        symbolFault? argument = none ↔ ∃ name, IsFor argument name := by
      rw [← not_malformed_iff, ← isSome_symbolFault?_iff, Bool.not_eq_true,
        Option.isSome_eq_false_iff, Option.isNone_iff_eq_none]
    simp only [readSymbols_eq_error_iff, List.findSome?_eq_some_iff, symbolFault?_eq_some_iff,
      hnone]
    constructor
    · rintro ⟨before, argument, after, harguments, ⟨hfor, rfl⟩, hbefore⟩
      refine ⟨before, argument, after, harguments, hbefore, hfor, rfl, ?_⟩
      split <;> rfl
    · rintro ⟨before, argument, after, harguments, hbefore, hfor, hfault, -⟩
      exact ⟨before, argument, after, harguments, ⟨hfor, hfault⟩, hbefore⟩

end CellGrading.CommandLine
