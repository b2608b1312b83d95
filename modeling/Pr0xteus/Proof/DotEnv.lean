import Pr0xteus.ConfigInit

/-!
# The managed line of `.env`

What `replaceDotEnvValue` does to the lines of a text. The last piece behind the splitting newlines is
empty where the text ends in one; the line that is added goes before that piece.
-/

namespace Pr0xteus.ConfigInit

open Encoding

variable {key value contents : List UInt8} {lines : List (List UInt8)}

def dotEnvLines (contents : List UInt8) : List (List UInt8) := contents.splitOn '\n'.toUInt8

def assignment (key value : List UInt8) : List UInt8 := key ++ '='.toUInt8 :: value

theorem assigns_assignment (htrim : Utf8.trimSpace key = key) (hkey : '='.toUInt8 ∉ key)
    (value : List UInt8) : assigns key (assignment key value) = true := by
  unfold assigns assignment
  rw [Bytes.cut_append hkey]
  exact decide_eq_true htrim

/-! ## The lines after a replacement -/

def updatedLines (key value : List UInt8) (lines : List (List UInt8)) : List (List UInt8) :=
  if lines.any (assigns key) then
    lines.map fun line => if assigns key line then assignment key value else line
  else if lines.getLast? = some [] then lines.dropLast ++ [assignment key value, []]
  else lines ++ [assignment key value, []]

theorem replaceDotEnvValue_eq (contents key value : List UInt8) :
    replaceDotEnvValue contents key value =
      joinLines (updatedLines key value (dotEnvLines contents)) := by
  have hne : dotEnvLines contents ≠ [] := List.splitOn_ne_nil _ _
  unfold replaceDotEnvValue updatedLines
  dsimp only
  rw [← dotEnvLines, if_neg hne, ← assignment]
  split
  · rfl
  · split <;> rfl

theorem updatedLines_of_found (hfound : lines.any (assigns key) = true) :
    updatedLines key value lines =
      lines.map fun line => if assigns key line then assignment key value else line :=
  if_pos hfound

/-- Where there is no such line, one is added before the last piece, if that is empty. -/
theorem updatedLines_of_absent (value : List UInt8) (habsent : lines.any (assigns key) = false) :
    ∃ front rest, lines = front ++ rest ∧ (rest = [] ∨ rest = [[]]) ∧
      updatedLines key value lines = front ++ [assignment key value, []] := by
  unfold updatedLines
  rw [habsent, if_neg Bool.false_ne_true]
  split
  · next hlast =>
      obtain ⟨front, rfl⟩ := List.getLast?_eq_some_iff.mp hlast
      exact ⟨front, [[]], rfl, .inr rfl, by rw [List.dropLast_concat]⟩
  · exact ⟨lines, [], (List.append_nil lines).symm, .inl rfl, rfl⟩

theorem newline_notMem_updatedLines (hlines : ∀ line ∈ lines, '\n'.toUInt8 ∉ line)
    (hkey : '\n'.toUInt8 ∉ key) (hvalue : '\n'.toUInt8 ∉ value) :
    ∀ line ∈ updatedLines key value lines, '\n'.toUInt8 ∉ line := by
  have hassignment : '\n'.toUInt8 ∉ assignment key value := by
    rw [assignment, List.mem_append, List.mem_cons]
    rintro (hmem | hmem | hmem)
    · exact hkey hmem
    · cases hmem
    · exact hvalue hmem
  intro line hline
  cases hfound : lines.any (assigns key) with
  | true =>
      rw [updatedLines_of_found hfound] at hline
      obtain ⟨old, hold, rfl⟩ := List.mem_map.mp hline
      split
      · exact hassignment
      · exact hlines old hold
  | false =>
      obtain ⟨front, rest, rfl, -, hupdated⟩ := updatedLines_of_absent value hfound
      rw [hupdated, List.mem_append, List.mem_pair] at hline
      rcases hline with hline | rfl | rfl
      · exact hlines line (List.mem_append_left _ hline)
      · exact hassignment
      · exact List.not_mem_nil

theorem updatedLines_ne_nil (hlines : lines ≠ []) : updatedLines key value lines ≠ [] := by
  unfold updatedLines
  split
  · exact mt List.map_eq_nil_iff.mp hlines
  · split <;> simp

theorem dotEnvLines_replaceDotEnvValue (hkey : '\n'.toUInt8 ∉ key) (hvalue : '\n'.toUInt8 ∉ value)
    (contents : List UInt8) :
    dotEnvLines (replaceDotEnvValue contents key value) =
      updatedLines key value (dotEnvLines contents) := by
  rw [replaceDotEnvValue_eq]
  refine List.splitOn_intercalate _ (newline_notMem_updatedLines ?_ hkey hvalue) ?_
  · intro line hline
    exact Bytes.not_mem_of_mem_splitOn hline
  · exact updatedLines_ne_nil (List.splitOn_ne_nil _ _)

/-! ## What the lines are -/

theorem eq_assignment_of_mem_updatedLines {line : List UInt8}
    (hline : line ∈ updatedLines key value lines) (hassigns : assigns key line = true) :
    line = assignment key value := by
  cases hfound : lines.any (assigns key) with
  | true =>
      rw [updatedLines_of_found hfound] at hline
      obtain ⟨old, -, rfl⟩ := List.mem_map.mp hline
      split
      · rfl
      · next hold =>
          rw [if_neg hold] at hassigns
          exact absurd hassigns hold
  | false =>
      obtain ⟨front, rest, rfl, -, hupdated⟩ := updatedLines_of_absent value hfound
      rw [hupdated, List.mem_append, List.mem_pair] at hline
      rcases hline with hline | rfl | rfl
      · exact absurd hassigns (List.any_eq_false.mp hfound line (List.mem_append_left _ hline))
      · rfl
      · cases hassigns

theorem assignment_mem_updatedLines : assignment key value ∈ updatedLines key value lines := by
  cases hfound : lines.any (assigns key) with
  | true =>
      obtain ⟨old, hold, hassigns⟩ := List.any_eq_true.mp hfound
      rw [updatedLines_of_found hfound]
      exact List.mem_map.mpr ⟨old, hold, if_pos hassigns⟩
  | false =>
      obtain ⟨front, rest, -, -, hupdated⟩ := updatedLines_of_absent value hfound
      rw [hupdated]
      simp

/-- What is seen of the other lines is unchanged, but for an empty piece at the end. -/
theorem filter_updatedLines (p : List UInt8 → Bool) (lines : List (List UInt8))
    (hp : ∀ line, assigns key line = true → p line = false)
    (hassignment : p (assignment key value) = false) :
    (updatedLines key value lines).filter p = lines.filter p ∨
      (updatedLines key value lines).filter p = lines.filter p ++ [[]] ∧ p [] = true := by
  cases hfound : lines.any (assigns key) with
  | true =>
      left
      have hcongr : ∀ line ∈ lines,
          (p ∘ fun line => if assigns key line then assignment key value else line) line = p line := by
        intro line _
        rw [Function.comp_apply]
        split
        · next hassigns => rw [hassignment, hp line hassigns]
        · rfl
      rw [updatedLines_of_found hfound, List.filter_map, List.filter_congr hcongr]
      refine (List.map_congr_left fun line hline => if_neg ?_).trans (List.map_id _)
      intro hassigns
      cases (hp line hassigns).symm.trans (List.mem_filter.mp hline).2
  | false =>
      obtain ⟨front, rest, rfl, hrest, hupdated⟩ := updatedLines_of_absent value hfound
      rw [hupdated, List.filter_append, List.filter_append, List.filter_cons_of_neg (by simp [hassignment])]
      rcases hrest with rfl | rfl
      · cases hnil : p [] with
        | true => exact .inr ⟨by simp [hnil], rfl⟩
        | false => exact .inl (by simp [hnil])
      · exact .inl rfl

theorem updatedLines_idem (hassigns : assigns key (assignment key value) = true) :
    updatedLines key value (updatedLines key value lines) = updatedLines key value lines := by
  have hfound : (updatedLines key value lines).any (assigns key) = true :=
    List.any_eq_true.mpr ⟨_, assignment_mem_updatedLines, hassigns⟩
  rw [updatedLines_of_found hfound]
  refine (List.map_congr_left fun line hline => ?_).trans (List.map_id _)
  split
  · next hline' => exact (eq_assignment_of_mem_updatedLines hline hline').symm
  · rfl

theorem joinLines_concat_nil (h : lines ≠ []) :
    joinLines (lines ++ [[]]) = joinLines lines ++ ['\n'.toUInt8] := by
  unfold joinLines
  induction lines with
  | nil => exact absurd rfl h
  | cons line lines ih =>
      cases lines with
      | nil => simp [List.intercalate]
      | cons next lines =>
          rw [List.cons_append, List.cons_append, List.intercalate_cons_cons,
            List.intercalate_cons_cons, ← List.cons_append, ih (List.cons_ne_nil _ _)]
          simp only [List.append_assoc]

/-- **The managed line.** After a replacement every line with the key is the assignment, and there is
one; the other lines that are not empty are those of the text, in order; where the key was absent the
text ends in a newline; and a second replacement changes nothing. -/
theorem replaceDotEnvValue_spec (contents key value : List UInt8)
    (htrim : Utf8.trimSpace key = key) (hequals : '='.toUInt8 ∉ key) (hkey : '\n'.toUInt8 ∉ key)
    (hvalue : '\n'.toUInt8 ∉ value) :
    (∀ line ∈ dotEnvLines (replaceDotEnvValue contents key value), assigns key line = true →
      line = assignment key value) ∧
    (∃ line ∈ dotEnvLines (replaceDotEnvValue contents key value), assigns key line = true) ∧
    (dotEnvLines (replaceDotEnvValue contents key value)).filter
        (fun line => !assigns key line && !line.isEmpty) =
      (dotEnvLines contents).filter (fun line => !assigns key line && !line.isEmpty) ∧
    ((∀ line ∈ dotEnvLines contents, assigns key line = false) →
      (replaceDotEnvValue contents key value).getLast? = some '\n'.toUInt8) ∧
    replaceDotEnvValue (replaceDotEnvValue contents key value) key value =
      replaceDotEnvValue contents key value := by
  have hassigns := assigns_assignment htrim hequals value
  have hlines := dotEnvLines_replaceDotEnvValue hkey hvalue contents
  refine ⟨?_, ?_, ?_, ?_, ?_⟩
  · intro line hline
    rw [hlines] at hline
    exact eq_assignment_of_mem_updatedLines hline
  · exact ⟨_, hlines ▸ assignment_mem_updatedLines, hassigns⟩
  · rw [hlines]
    have hother : ∀ line, assigns key line = true → (!assigns key line && !line.isEmpty) = false := by
      intro line hline
      rw [hline, Bool.not_true, Bool.false_and]
    rcases filter_updatedLines _ (dotEnvLines contents) hother (hother _ hassigns) with h | ⟨-, h⟩
    · exact h
    · simp at h
  · intro habsent
    have hfound : (dotEnvLines contents).any (assigns key) = false := by
      simpa using habsent
    obtain ⟨front, rest, -, -, hupdated⟩ := updatedLines_of_absent value hfound
    have hjoin := joinLines_concat_nil (List.concat_ne_nil (assignment key value) front)
    rw [replaceDotEnvValue_eq, hupdated, List.append_cons, hjoin, List.getLast?_concat]
  · rw [replaceDotEnvValue_eq (replaceDotEnvValue contents key value), hlines,
      updatedLines_idem hassigns, ← replaceDotEnvValue_eq]

theorem replaceDotEnvValue_spec_runtimeUser :
    let contents := utf8 "A=1\n PR0XTEUS_RUNTIME_USER = 0:0"
    let key := utf8 runtimeUserEnvName
    replaceDotEnvValue (replaceDotEnvValue contents key (utf8 "1000:1000")) key (utf8 "1000:1000") =
      replaceDotEnvValue contents key (utf8 "1000:1000") :=
  (replaceDotEnvValue_spec _ _ _ (by decide +kernel) (by decide) (by decide) (by decide)).2.2.2.2

example : replaceDotEnvValue (utf8 "# KEY=0\nA=1\n KEY = 2") (utf8 "KEY") (utf8 "3") =
    utf8 "# KEY=0\nA=1\nKEY=3" := by
  decide +kernel

/-! ## The token -/

/-- What a line of the scanner assigns to the token. -/
def scannedToken (line : List UInt8) : Option (List UInt8) := apiTokenOfLine (dropCR line)

theorem dropCR_append {front back : List UInt8} {b : UInt8} (hb : b ≠ '\r'.toUInt8) :
    ∃ back', dropCR (front ++ b :: back) = front ++ b :: back' := by
  unfold dropCR
  split
  · next hlast =>
      cases back with
      | nil =>
          rw [List.getLast?_concat] at hlast
          exact absurd (Option.some.inj hlast) hb
      | cons c back => exact ⟨(c :: back).dropLast, by simp⟩
  · exact ⟨back, rfl⟩

/-- A line that assigns another key does not assign the token. -/
theorem scannedToken_of_assigns {line : List UInt8} (hkey : key ≠ []) (htoken : key ≠ utf8 apiTokenEnvName)
    (h : assigns key line = true) : scannedToken line = none := by
  unfold assigns at h
  split at h
  · cases h
  · next lineKey rest hcut =>
      have htrim : Utf8.trimSpace lineKey = key := of_decide_eq_true h
      have hne : Utf8.trimSpace lineKey ≠ [] := htrim ▸ hkey
      obtain ⟨hline, hequals⟩ := Bytes.append_of_cut hcut
      obtain ⟨rest', hrest⟩ : ∃ rest', dropCR line = lineKey ++ '='.toUInt8 :: rest' := by
        rw [hline]
        exact dropCR_append (by decide)
      obtain ⟨front, back, hfront, hsubset, htrim'⟩ :=
        Utf8.trimSpace_append_ascii (t := rest') (b := '='.toUInt8) (by decide) (by decide) hne
      have hcut' : Bytes.cut '='.toUInt8 (front ++ '='.toUInt8 :: back) = (front, some back) :=
        Bytes.cut_append fun hmem => hequals (hsubset hmem)
      unfold scannedToken apiTokenOfLine
      rw [hrest, hfront]
      dsimp only
      split
      · rfl
      · rw [hcut']
        exact if_neg (by rw [htrim', htrim]; exact htoken)

theorem filterMap_scannedToken_updatedLines (hkey : key ≠ []) (htoken : key ≠ utf8 apiTokenEnvName)
    (hassigns : assigns key (assignment key value) = true) :
    (updatedLines key value lines).filterMap scannedToken = lines.filterMap scannedToken := by
  have hsees : ∀ lines : List (List UInt8), lines.filterMap scannedToken =
      (lines.filter fun line => (scannedToken line).isSome).filterMap scannedToken := by
    intro lines
    rw [List.filterMap_filter]
    refine List.filterMap_congr fun line _ => ?_
    cases scannedToken line <;> rfl
  have hother : ∀ line, assigns key line = true → (scannedToken line).isSome = false := by
    intro line hline
    rw [scannedToken_of_assigns hkey htoken hline]
    rfl
  rw [hsees, hsees lines]
  rcases filter_updatedLines _ lines hother (hother _ hassigns) with h | ⟨-, h⟩
  · rw [h]
  · cases h

/-- The loop of the scanner, where no line is too long for it. -/
theorem scanAPIToken_eq (hshort : ∀ line ∈ lines, line.length < maxScanTokenSize) :
    scanAPIToken none lines =
      match (lines.filterMap scannedToken).head? with
      | some value => .ok value
      | none => .error (.invalid (apiTokenEnvName ++ " is required in .env")) := by
  induction lines with
  | nil => rfl
  | cons line lines ih =>
      have hline : ¬ maxScanTokenSize ≤ line.length := Nat.not_le.mpr (hshort line List.mem_cons_self)
      rw [scanAPIToken, if_neg hline, List.filterMap_cons, ← scannedToken]
      cases scannedToken line with
      | some value => rfl
      | none => exact ih fun line hmem => hshort line (List.mem_cons_of_mem _ hmem)

/-- A replacement of another key leaves the token as it is. -/
theorem scanAPIToken_replaceDotEnvValue (hkey : key ≠ []) (htoken : key ≠ utf8 apiTokenEnvName)
    (htrim : Utf8.trimSpace key = key) (hequals : '='.toUInt8 ∉ key) (hnewline : '\n'.toUInt8 ∉ key)
    (hvalue : '\n'.toUInt8 ∉ value)
    (hshort : ∀ line ∈ dotEnvLines contents, line.length < maxScanTokenSize)
    (hshort' : ∀ line ∈ dotEnvLines (replaceDotEnvValue contents key value),
      line.length < maxScanTokenSize) :
    scanAPIToken none (dotEnvLines (replaceDotEnvValue contents key value)) =
      scanAPIToken none (dotEnvLines contents) := by
  rw [scanAPIToken_eq hshort, scanAPIToken_eq hshort',
    dotEnvLines_replaceDotEnvValue hnewline hvalue,
    filterMap_scannedToken_updatedLines hkey htoken (assigns_assignment htrim hequals value)]

end Pr0xteus.ConfigInit
