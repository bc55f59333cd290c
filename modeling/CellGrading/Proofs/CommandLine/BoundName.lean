import CellGrading.Proofs.CommandLine.SymbolBinding

/-!
# Names that arguments bind

A name is meant to be bound without the dollar signs and blanks around it.  Blanks between
a dollar sign and the name are missed, and only these: a table with such a name, which no
cell can refer to, does not come back from its own entries.
-/

namespace CellGrading.CommandLine

open Text

/-! ## The form of bound names -/

structure IsBound (name : List Char) : Prop where
  ne_nil : name ≠ []
  equals : '=' ∉ name
  dollar : StopsAt (· = '$') name
  last : ∀ c ∈ name.getLast?, isBlank c = false

theorem Binds.isBound {argument name value : String} (h : Binds argument name value) :
    IsBound name.toList := by
  obtain ⟨written, -, hequals, ⟨before, dollars, after, rfl, -, -, -, htrimmed, hdollar⟩, hne⟩ := h
  have hnil : name.toList ≠ [] := by simpa using hne
  refine ⟨hnil, fun hmem => hequals (by simp [hmem]), hdollar, fun c hc => htrimmed.2 c ?_⟩
  rwa [List.getLast?_append_of_ne_nil _ hnil]

theorem Binds.stopsAt_or_dollar {argument name value : String} (h : Binds argument name value) :
    StopsAt isBlank name.toList ∨
      ∃ before after, argument.toList = before ++ '$' :: (name.toList ++ after) := by
  obtain ⟨written, hargument, -,
    ⟨before, dollars, after, rfl, -, -, hdollars, htrimmed, -⟩, -⟩ := h
  rcases List.eq_nil_or_concat dollars with rfl | ⟨others, dollar, rfl⟩
  · exact .inl htrimmed.stopsAt
  · have hdollar : dollar = '$' := hdollars dollar (by simp)
    refine .inr ⟨before ++ others, after ++ '=' :: value.toList, ?_⟩
    rw [hargument, hdollar]
    simp

theorem exists_binds_of_mem_entries {arguments : List String} {table : SymbolTable}
    (h : readSymbols arguments = .ok table) {entry : String × String}
    (hentry : entry ∈ table.entries) : ∃ argument ∈ arguments, Binds argument entry.1 entry.2 := by
  rw [← SymbolTable.get?_eq_some_iff_mem, get?_eq_some_iff_lastBinds h] at hentry
  obtain ⟨before, argument, after, rfl, hbinds, -⟩ := hentry
  exact ⟨argument, by simp, hbinds⟩

/-! ## Entries as arguments -/

def argumentFor (binding : String × String) : String := binding.1 ++ "=" ++ binding.2

theorem binds_argumentFor_iff {name : String} (hname : '=' ∉ name.toList)
    (value bound given : String) :
    Binds (argumentFor (name, value)) bound given ↔
      bareName name.toList = bound.toList ∧ bound ≠ "" ∧ given = value := by
  have hsplit : splitAtEquals? (argumentFor (name, value)).toList =
      some (name.toList, value.toList) :=
    (splitAtEquals?_eq_some_iff _ _ _).2 ⟨by simp [argumentFor], hname⟩
  unfold Binds
  constructor
  · rintro ⟨written, hargument, hequals, hwritten, hne⟩
    have hparts := (splitAtEquals?_eq_some_iff _ _ _).2 ⟨hargument, hequals⟩
    rw [hsplit, Option.some.injEq, Prod.mk.injEq, String.toList_inj] at hparts
    obtain ⟨rfl, rfl⟩ := hparts
    exact ⟨(bareName_eq_iff _ _).2 hwritten, hne, rfl⟩
  · rintro ⟨hbare, hne, rfl⟩
    exact ⟨name.toList, ((splitAtEquals?_eq_some_iff _ _ _).1 hsplit).1, hname,
      (bareName_eq_iff _ _).1 hbare, hne⟩

theorem bareName_eq_self {name : List Char} (h : IsBound name) (hblank : StopsAt isBlank name) :
    bareName name = name := by
  rw [bareName, (trimChars_eq_self_iff _).2 ⟨hblank, h.last⟩]
  exact @dropWhile_run _ [] name (by simp) h.dollar

theorem length_bareName_lt {name : List Char} (h : ¬ StopsAt isBlank name) :
    (bareName name).length < name.length := by
  have hne : name ≠ [] := by
    rintro rfl
    exact h (stopsAt_nil isBlank)
  obtain ⟨c, rest, rfl⟩ := List.exists_cons_of_ne_nil hne
  have hc : isBlank c = true := by simpa using h
  have hblanks : (dropBlanks (c :: rest)).length ≤ rest.length := by
    rw [dropBlanks, List.dropWhile_cons_of_pos hc]
    exact (List.dropWhile_sublist isBlank).length_le
  have htrailing : (trimChars (c :: rest)).length ≤ (dropBlanks (c :: rest)).length := by
    have hdrop := (List.dropWhile_sublist isBlank
      (l := (dropBlanks (c :: rest)).reverse)).length_le
    rwa [List.length_reverse, ← dropBlanks, ← List.length_reverse] at hdrop
  have hdollars : (bareName (c :: rest)).length ≤ (trimChars (c :: rest)).length :=
    (List.dropWhile_sublist _).length_le
  rw [List.length_cons]
  omega

theorem pairwise_ne_of_perm {table : SymbolTable} {bindings : List (String × String)}
    (h : bindings.Perm table.entries) : bindings.Pairwise (·.1 ≠ ·.1) := by
  refine (h.pairwise_iff fun hne => hne.symm).2 (table.sorted.imp ?_)
  intro first second hlt heq
  exact String.lt_irrefl _ (heq ▸ hlt)

section

variable {table : SymbolTable} (hbound : ∀ entry ∈ table.entries, IsBound entry.1.toList)
include hbound

theorem readSymbols_entries (hblank : ∀ entry ∈ table.entries, StopsAt isBlank entry.1.toList)
    {bindings : List (String × String)} (hperm : bindings.Perm table.entries) :
    readSymbols (bindings.map argumentFor) = .ok table := by
  have hbinds (entry : String × String) (hentry : entry ∈ bindings) (name value : String) :
      Binds (argumentFor entry) name value ↔ entry = (name, value) := by
    have hmem := hperm.mem_iff.1 hentry
    have hname := hbound entry hmem
    rw [binds_argumentFor_iff hname.equals, bareName_eq_self hname (hblank entry hmem),
      String.toList_inj, Prod.ext_iff, eq_comm (a := value)]
    constructor
    · exact fun ⟨heq, _, hvalue⟩ => ⟨heq, hvalue⟩
    · rintro ⟨rfl, rfl⟩
      exact ⟨rfl, by simpa using hname.ne_nil, rfl⟩
  refine readSymbols_of_lastBinds ?_ ?_
  · intro argument hargument
    obtain ⟨entry, hentry, rfl⟩ := List.mem_map.1 hargument
    exact ⟨entry.1, entry.2, (hbinds entry hentry _ _).2 rfl⟩
  · intro name value
    rw [SymbolTable.get?_eq_some_iff_mem, ← hperm.mem_iff]
    constructor
    · intro hmem
      obtain ⟨before, after, rfl⟩ := List.append_of_mem hmem
      refine ⟨before.map argumentFor, argumentFor (name, value), after.map argumentFor,
        by simp, (hbinds _ hmem _ _).2 rfl, ?_⟩
      rintro later hlater ⟨given, hgiven⟩
      obtain ⟨entry, hentry, rfl⟩ := List.mem_map.1 hlater
      have hdistinct := (List.pairwise_cons.1
        (List.pairwise_append.1 (pairwise_ne_of_perm hperm)).2.1).1 entry hentry
      rw [hbinds entry (by simp [hentry])] at hgiven
      exact hdistinct (by rw [hgiven])
    · rintro ⟨before, argument, after, harguments, hargument, -⟩
      obtain ⟨entry, hentry, rfl⟩ := List.mem_map.1
        (show argument ∈ bindings.map argumentFor by simp [harguments])
      rwa [← (hbinds entry hentry _ _).1 hargument]

/-- If the entries are arguments for the table itself, a name with a blank at its head comes
from a longer such name. -/
theorem stopsAt_isBlank_of_readSymbols_entries
    (hread : readSymbols (table.entries.map argumentFor) = .ok table) :
    ∀ entry ∈ table.entries, StopsAt isBlank entry.1.toList := by
  by_contra hsome
  push Not at hsome
  have hlonger (length : Nat) : ∃ entry ∈ table.entries, ¬ StopsAt isBlank entry.1.toList ∧
      length ≤ entry.1.toList.length := by
    induction length with
    | zero =>
        obtain ⟨entry, hentry, hblank⟩ := hsome
        exact ⟨entry, hentry, hblank, Nat.zero_le _⟩
    | succ length ih =>
        obtain ⟨entry, hentry, hblank, hlength⟩ := ih
        obtain ⟨argument, hargument, hbinds⟩ := exists_binds_of_mem_entries hread hentry
        obtain ⟨source, hsource, rfl⟩ := List.mem_map.1 hargument
        have hname := hbound source hsource
        have hbare := ((binds_argumentFor_iff hname.equals _ _ _).1 hbinds).1
        have hsourceBlank : ¬ StopsAt isBlank source.1.toList := by
          intro hstop
          rw [bareName_eq_self hname hstop] at hbare
          exact hblank (hbare ▸ hstop)
        have hlt := length_bareName_lt hsourceBlank
        rw [hbare] at hlt
        exact ⟨source, hsource, hsourceBlank, Nat.lt_of_le_of_lt hlength hlt⟩
  let lengths := table.entries.map fun entry => entry.1.toList.length
  obtain ⟨entry, hentry, -, hlength⟩ := hlonger (lengths.max?.getD 0 + 1)
  have hmem : entry.1.toList.length ∈ lengths := List.mem_map.2 ⟨entry, hentry, rfl⟩
  exact Nat.lt_irrefl _ (Nat.lt_of_lt_of_le hlength (List.le_max?_getD_of_mem hmem))

end

/-- The names of a table that is made of arguments are not empty, begin with no dollar sign
and end in no blank.  A blank at the head stood between a dollar sign and the name.  The
entries of the table are arguments for the same table, in any order, if and only if no name
has a blank at its head. -/
theorem readSymbols_names {arguments : List String} {table : SymbolTable}
    (h : readSymbols arguments = .ok table) :
    (∀ entry ∈ table.entries, entry.1 ≠ "" ∧ StopsAt (· = '$') entry.1.toList ∧
      (∀ c ∈ entry.1.toList.getLast?, isBlank c = false) ∧
      (StopsAt isBlank entry.1.toList ∨ ∃ argument ∈ arguments, ∃ before after,
        argument.toList = before ++ '$' :: (entry.1.toList ++ after))) ∧
    ((∀ bindings : List (String × String), bindings.Perm table.entries →
        readSymbols (bindings.map argumentFor) = .ok table) ↔
      ∀ entry ∈ table.entries, StopsAt isBlank entry.1.toList) := by
  have hbound : ∀ entry ∈ table.entries, IsBound entry.1.toList := by
    intro entry hentry
    obtain ⟨argument, -, hbinds⟩ := exists_binds_of_mem_entries h hentry
    exact hbinds.isBound
  refine ⟨?_, ?_, ?_⟩
  · intro entry hentry
    obtain ⟨argument, hargument, hbinds⟩ := exists_binds_of_mem_entries h hentry
    refine ⟨by simpa using hbinds.isBound.ne_nil, hbinds.isBound.dollar, hbinds.isBound.last, ?_⟩
    exact hbinds.stopsAt_or_dollar.imp_right fun hdollar => ⟨argument, hargument, hdollar⟩
  · intro hall
    exact stopsAt_isBlank_of_readSymbols_entries hbound (hall _ (.refl _))
  · exact fun hblank bindings hperm => readSymbols_entries hbound hblank hperm

theorem readSymbols_names_spellings :
    readSymbols [" $X =a", "Y= $b=c", "$$X="] = .ok (.ofList [("X", ""), ("Y", " $b=c")]) ∧
      readSymbols ["Y= $b=c", "X="] = .ok (.ofList [("X", ""), ("Y", " $b=c")]) := by
  have hread : readSymbols [" $X =a", "Y= $b=c", "$$X="] =
      .ok (.ofList [("X", ""), ("Y", " $b=c")]) := by decide +kernel
  exact ⟨hread, (readSymbols_names hread).2.2 (by decide +kernel) [("Y", " $b=c"), ("X", "")]
    (by decide +kernel)⟩

/-- The blank behind the dollar sign is missed when the name is bound, and lost when the entry
is read again. -/
theorem readSymbols_blank_behind_dollar :
    ∃ table, readSymbols ["$ X=v"] = .ok table ∧
      (∃ entry ∈ table.entries, ¬ Trimmed entry.1.toList) ∧
      readSymbols (table.entries.map argumentFor) ≠ .ok table :=
  ⟨.ofList [(" X", "v")], by decide +kernel, by decide +kernel, by decide +kernel⟩

end CellGrading.CommandLine
