import CellGrading.File.Path
import CellGrading.Proofs.Text.Stretch

/-!
# The grammar of paths

Which file a path names shows at its end.  Slashes and single dots there lead nowhere and
are passed over; what stands before them, up to the slash in front of it, is the name.  The
extension is the end of the name behind its last dot.
-/

namespace CellGrading.Path

open Text

/-! ## The end of a path -/

/-- Slashes behind a name, and single dots between and behind them. -/
inductive Idle : List Char → Prop where
  | nil : Idle []
  | slash {tail : List Char} (h : Idle tail) : Idle (tail ++ ['/'])
  | dot {tail : List Char} (h : Idle tail) : Idle (tail ++ ['/', '.'])

def EndsIn (path name : List Char) : Prop :=
  ∃ front tail, path = front ++ (name ++ tail) ∧ (front = [] ∨ ∃ rest, front = rest ++ ['/']) ∧
    Idle tail ∧ '/' ∉ name ∧ name ≠ [] ∧ name ≠ ['.']

def Nameless (path : List Char) : Prop :=
  ∃ front tail, path = front ++ tail ∧ (front = [] ∨ front = ['.']) ∧ Idle tail

/-- The extension of the file that a path names, in lower case. -/
inductive HasExtension (path : String) : String → Prop where
  /-- The text behind the last dot, which is not the first character. -/
  | dotted {name stem behind : List Char} (h : EndsIn path.toList name) (hup : name ≠ ['.', '.'])
      (hname : name = stem ++ '.' :: behind) (hstem : stem ≠ []) (hbehind : '.' ∉ behind) :
      HasExtension path (.ofList (behind.map Char.toLower))
  /-- There is no dot in the name, or none but its first character. -/
  | undotted {name : List Char} (h : EndsIn path.toList name)
      (hname : ∀ stem behind, name = stem ++ '.' :: behind → stem = []) : HasExtension path ""
  | upward (h : EndsIn path.toList ['.', '.']) : HasExtension path ""
  | nameless (h : Nameless path.toList) : HasExtension path ""

/-! ## Parts -/

def charParts (path : List Char) : List (List Char) :=
  (path.splitOn '/').filter fun part => part ≠ [] ∧ part ≠ ['.']

theorem parts_eq_map (path : String) : parts path = (charParts path.toList).map String.ofList := by
  rw [parts, charParts, List.filter_map]
  congr 1
  refine List.filter_congr fun part _ => ?_
  have hempty : String.ofList part = "" ↔ part = [] := by rw [← String.toList_inj]; simp
  have hdot : String.ofList part = "." ↔ part = ['.'] := by rw [← String.toList_inj]; simp
  simp [hempty, hdot]

theorem charParts_slash (first second : List Char) :
    charParts (first ++ '/' :: second) = charParts first ++ charParts second := by
  rw [charParts, List.splitOn_append_cons_self, List.filter_append]
  rfl

theorem charParts_of_not_mem {part : List Char} (h : '/' ∉ part) (hnil : part ≠ [])
    (hdot : part ≠ ['.']) : charParts part = [part] := by
  simp [charParts, List.splitOn_eq_singleton h, hnil, hdot]

theorem charParts_idle (front : List Char) {tail : List Char} (h : Idle tail) :
    charParts (front ++ tail) = charParts front := by
  have hempty : charParts [] = [] := by decide
  have hdot : charParts ['.'] = [] := by decide
  induction h with
  | nil => rw [List.append_nil]
  | slash _ ih => rw [← List.append_assoc, charParts_slash, ih, hempty, List.append_nil]
  | dot _ ih => rw [← List.append_assoc, charParts_slash, ih, hdot, List.append_nil]

theorem Nameless.charParts_eq_nil {path : List Char} (h : Nameless path) : charParts path = [] := by
  obtain ⟨front, tail, rfl, hfront, htail⟩ := h
  rw [charParts_idle front htail]
  rcases hfront with rfl | rfl <;> decide

theorem EndsIn.getLast?_charParts {path name : List Char} (h : EndsIn path name) :
    (charParts path).getLast? = some name := by
  obtain ⟨front, tail, rfl, hfront, htail, hslash, hnil, hdot⟩ := h
  rw [← List.append_assoc, charParts_idle _ htail]
  rcases hfront with rfl | ⟨rest, rfl⟩
  · simp [charParts_of_not_mem hslash hnil hdot]
  · rw [List.append_assoc, List.singleton_append, charParts_slash,
      charParts_of_not_mem hslash hnil hdot, List.getLast?_concat]

/-! ## Every path has an end -/

section

variable {path last : List Char} (hidle : ∀ tail, Idle tail → Idle (tail ++ last))
include hidle

theorem EndsIn.append {name : List Char} (h : EndsIn path name) : EndsIn (path ++ last) name := by
  obtain ⟨front, tail, rfl, hfront, htail, hname⟩ := h
  exact ⟨front, tail ++ last, by simp, hfront, hidle tail htail, hname⟩

theorem Nameless.append (h : Nameless path) : Nameless (path ++ last) := by
  obtain ⟨front, tail, rfl, hfront, htail⟩ := h
  exact ⟨front, tail ++ last, by simp, hfront, hidle tail htail⟩

end

theorem exists_append_of_mem {text : List Char} {c : Char} (h : c ∈ text) :
    ∃ before after, text = before ++ c :: after ∧ c ∉ after := by
  obtain ⟨after, before, hreverse, hafter⟩ := List.eq_append_cons_of_mem (List.mem_reverse.2 h)
  refine ⟨before.reverse, after.reverse, ?_, by simpa using hafter⟩
  rw [← List.reverse_reverse text, hreverse]
  simp

theorem endsIn_or_nameless (path : List Char) : (∃ name, EndsIn path name) ∨ Nameless path := by
  by_cases hslash : '/' ∈ path
  · obtain ⟨rest, last, rfl, hlast⟩ := exists_append_of_mem hslash
    by_cases hleads : last ≠ [] ∧ last ≠ ['.']
    · exact .inl ⟨last, rest ++ ['/'], [], by simp, .inr ⟨rest, rfl⟩, .nil, hlast, hleads⟩
    · have hidle : ∀ tail, Idle tail → Idle (tail ++ '/' :: last) := by
        intro tail htail
        by_cases hnil : last = []
        · exact hnil ▸ .slash htail
        · have hdot : last = ['.'] := by simpa [hnil] using hleads
          exact hdot ▸ .dot htail
      exact (endsIn_or_nameless rest).imp (fun ⟨name, h⟩ => ⟨name, h.append hidle⟩)
        fun h => h.append hidle
  · by_cases hleads : path ≠ [] ∧ path ≠ ['.']
    · exact .inl ⟨path, [], [], by simp, .inl rfl, .nil, hslash, hleads⟩
    · refine .inr ⟨path, [], by simp, ?_, .nil⟩
      simpa [Classical.or_iff_not_imp_left] using hleads
termination_by path.length
decreasing_by simp [*]

/-! ## Names and extensions -/

theorem fileName?_of_endsIn {path : String} {name : List Char} (h : EndsIn path.toList name) :
    fileName? path = if name = ['.', '.'] then none else some (.ofList name) := by
  have hup : String.ofList name = ".." ↔ name = ['.', '.'] := by rw [← String.toList_inj]; simp
  rw [fileName?, parts_eq_map, List.getLast?_map, h.getLast?_charParts]
  by_cases hname : name = ['.', '.'] <;> simp [Option.filter, hup, hname]

theorem fileName?_of_nameless {path : String} (h : Nameless path.toList) :
    fileName? path = none := by
  rw [fileName?, parts_eq_map, h.charParts_eq_nil]
  rfl

theorem extensionOfName?_eq_some_iff (name behind : List Char) :
    extensionOfName? name = some behind ↔
      ∃ stem, name = stem ++ '.' :: behind ∧ stem ≠ [] ∧ '.' ∉ behind := by
  constructor
  · intro h
    unfold extensionOfName? at h
    dsimp only at h
    split at h
    · cases h
    · next hbefore =>
        cases h
        cases hdrop : name.reverse.dropWhile (· ≠ '.') with
        | nil =>
            rw [hdrop] at hbefore
            exact absurd rfl hbefore
        | cons c rest =>
            rw [hdrop] at hbefore
            have hstop : StopsAt (· ≠ '.') (c :: rest) := hdrop ▸ stopsAt_dropWhile _ _
            have hc : c = '.' := by simpa using hstop
            have hcut := @List.takeWhile_append_dropWhile _ (· ≠ '.') name.reverse
            rw [hdrop, hc] at hcut
            refine ⟨rest.reverse, (List.reverse_eq_iff.1 hcut.symm).trans (by simp), ?_, ?_⟩
            · simpa using hbefore
            · intro hmem
              simpa using List.mem_takeWhile_imp (List.mem_reverse.1 hmem)
  · rintro ⟨stem, rfl, hstem, hbehind⟩
    have hrun : ∀ c ∈ behind.reverse, decide (c ≠ '.') = true := by
      intro c hc
      simpa using fun heq : c = '.' => hbehind (heq ▸ List.mem_reverse.1 hc)
    have hstop : StopsAt (· ≠ '.') ('.' :: stem.reverse) := by simp
    have hreverse : (stem ++ '.' :: behind).reverse = behind.reverse ++ '.' :: stem.reverse := by
      simp
    rw [extensionOfName?, hreverse, takeWhile_run hrun hstop, dropWhile_run hrun hstop]
    simp [hstem]

theorem extensionOfName?_eq_none_iff (name : List Char) :
    extensionOfName? name = none ↔ ∀ stem behind, name = stem ++ '.' :: behind → stem = [] := by
  simp only [Option.eq_none_iff_forall_ne_some, ne_eq, extensionOfName?_eq_some_iff]
  constructor
  · intro h stem behind hname
    by_contra hstem
    by_cases hdot : '.' ∈ behind
    · obtain ⟨before, after, rfl, hafter⟩ := exists_append_of_mem hdot
      exact h after ⟨stem ++ '.' :: before, by simp [hname], by simp, hafter⟩
    · exact h behind ⟨stem, hname, hstem, hdot⟩
  · rintro h behind ⟨stem, hname, hstem, -⟩
    exact hstem (h stem behind hname)

theorem extension_of_hasExtension {path text : String} (h : HasExtension path text) :
    extension path = text := by
  cases h with
  | dotted hends hup hname hstem hbehind =>
      have hextension := (extensionOfName?_eq_some_iff _ _).2 ⟨_, hname, hstem, hbehind⟩
      rw [extension, fileName?_of_endsIn hends, if_neg hup]
      simp [hextension]
  | @undotted name hends hname =>
      have hup : name ≠ ['.', '.'] := by
        rintro rfl
        cases hname ['.'] [] rfl
      rw [extension, fileName?_of_endsIn hends, if_neg hup]
      simp [(extensionOfName?_eq_none_iff name).2 hname]
  | upward hends =>
      rw [extension, fileName?_of_endsIn hends, if_pos rfl]
  | nameless hnameless =>
      rw [extension, fileName?_of_nameless hnameless]

theorem exists_hasExtension (path : String) : ∃ text, HasExtension path text := by
  rcases endsIn_or_nameless path.toList with ⟨name, hends⟩ | hnameless
  · by_cases hup : name = ['.', '.']
    · exact ⟨_, .upward (hup ▸ hends)⟩
    · cases hextension : extensionOfName? name with
      | none => exact ⟨_, .undotted hends ((extensionOfName?_eq_none_iff name).1 hextension)⟩
      | some behind =>
          obtain ⟨stem, hname, hstem, hbehind⟩ := (extensionOfName?_eq_some_iff _ _).1 hextension
          exact ⟨_, .dotted hends hup hname hstem hbehind⟩
  · exact ⟨_, .nameless hnameless⟩

theorem extension_eq_iff (path text : String) :
    extension path = text ↔ HasExtension path text := by
  refine ⟨?_, extension_of_hasExtension⟩
  rintro rfl
  obtain ⟨text, htext⟩ := exists_hasExtension path
  rwa [extension_of_hasExtension htext]

end CellGrading.Path
