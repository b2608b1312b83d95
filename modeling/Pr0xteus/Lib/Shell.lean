import Mathlib.Data.List.DropRight
import Pr0xteus.Lib.Bytes

/-!
# Text tools of a shell script

A text is a list of characters. What stands here are the small filters a script puts in a pipeline:
records and fields of awk, the two uses of `tr`, command substitution, parameter expansion at the
last separator. `words` are the non-empty pieces between separators, and its lemmas follow them
through the filters.
-/

namespace Shell

abbrev Str := List Char

/-- The `isspace` of the C locale. -/
def isSpace (c : Char) : Bool := c == ' ' || (9 ≤ c.toNat && c.toNat ≤ 13)

def trim (s : Str) : Str := (s.dropWhile isSpace).rdropWhile isSpace

/-- The lines of a file; a newline at the end of the file ends its last line. -/
def records (text : Str) : List Str :=
  let lines := text.splitOn '\n'
  if lines.getLast? = some [] then lines.dropLast else lines

/-- What is printed one line at a time. -/
def unlines (lines : List Str) : Str := lines.flatMap (· ++ ['\n'])

section Fields

variable {α : Type} [DecidableEq α]

/-- The two sides of the first occurrence of a separator of several characters. -/
def cutAt (sep : List α) : List α → List α × Option (List α)
  | [] => ([], none)
  | x :: s =>
      if sep.isPrefixOf (x :: s) then ([], some ((x :: s).drop sep.length))
      else (x :: (cutAt sep s).1, (cutAt sep s).2)

/-- `$2` with the field separator `sep`: what is between its first two occurrences. -/
def secondField (sep s : List α) : List α :=
  match (cutAt sep s).2 with
  | none => []
  | some rest => (cutAt sep rest).1

theorem subset_of_cutAt (sep s : List α) :
    (cutAt sep s).1 ⊆ s ∧ ∀ rest ∈ (cutAt sep s).2, rest ⊆ s := by
  induction s with
  | nil => simp [cutAt]
  | cons x s ih =>
      rw [cutAt]
      split
      · refine ⟨List.nil_subset _, ?_⟩
        rintro rest hrest
        cases hrest
        exact (List.drop_sublist _ _).subset
      · refine ⟨List.cons_subset_cons x ih.1, fun rest hrest => ?_⟩
        exact fun y hy => List.mem_cons_of_mem x (ih.2 rest hrest hy)

theorem secondField_subset (sep s : List α) : secondField sep s ⊆ s := by
  unfold secondField
  split
  · exact List.nil_subset _
  · next rest hrest =>
      exact List.Subset.trans (subset_of_cutAt sep rest).1 ((subset_of_cutAt sep s).2 rest hrest)

end Fields

section Words

variable {α : Type} {p : α → Bool}

/-- The non-empty pieces between the elements that satisfy `p`. -/
def words (p : α → Bool) (s : List α) : List (List α) := (s.splitOnP p).filter (· ≠ [])

@[simp]
theorem words_nil : words p [] = [] := by
  simp [words]

theorem words_append_cons (s t : List α) {sep : α} (hsep : p sep = true) :
    words p (s ++ sep :: t) = words p s ++ words p t := by
  rw [words, List.splitOnP_append_cons s t hsep, List.filter_append]
  rfl

/-- Separators at the end make no words. -/
theorem words_rdropWhile {q : α → Bool} (hq : ∀ c, q c = true → p c = true) (s : List α) :
    words p (s.rdropWhile q) = words p s := by
  induction s using List.reverseRecOn with
  | nil => simp
  | append_singleton s c ih =>
      by_cases hc : q c = true
      · rw [List.rdropWhile_concat_pos _ _ _ hc, ih]
        rw [words_append_cons s [] (hq c hc), words_nil, List.append_nil]
      · rw [List.rdropWhile_concat_neg _ _ _ hc]

/-- A function with nothing to say of an empty piece sees the words only. -/
theorem filterMap_splitOnP {β : Type} {f : List α → Option β} (hf : f [] = none) (s : List α) :
    (s.splitOnP p).filterMap f = (words p s).filterMap f := by
  rw [words, List.filterMap_filter]
  refine List.filterMap_congr fun piece _ => ?_
  by_cases hpiece : piece = []
  · simp [hpiece, hf]
  · simp [hpiece]

theorem splitOnP_congr {q : α → Bool} {s : List α} (h : ∀ c ∈ s, p c = q c) :
    s.splitOnP p = s.splitOnP q := by
  induction s with
  | nil => simp
  | cons c s ih =>
      rw [List.splitOnP_cons_eq_if_modifyHead, List.splitOnP_cons_eq_if_modifyHead,
        h c List.mem_cons_self, ih fun d hd => h d (List.mem_cons_of_mem c hd)]

end Words

/-- The `n`th field of a line, counted from one, with the separator awk has by default. -/
def nthField (n : Nat) (line : Str) : Str :=
  (words (fun c => c == ' ' || c == '\t') line).getD (n - 1) []

/-- `$(…)`, which drops the newlines at the end of what was printed. -/
def substitute (printed : Str) : Str := printed.rdropWhile (· == '\n')

/-- `tr -d`. -/
def trDelete (c : Char) (s : Str) : Str := s.filter (· ≠ c)

/-- `tr a b`. -/
def trReplace (a b : Char) (s : Str) : Str := s.map fun c => if c = a then b else c

/-- What `read -r` reads of a here-string, line by line. -/
def readLines (s : Str) : List Str := s.splitOn '\n'

/-- `${s%c*}`. -/
def beforeLast (c : Char) (s : Str) : Str := ((Bytes.cutLast c s).map Prod.fst).getD s

/-- `${s##*c}`. -/
def afterLast (c : Char) (s : Str) : Str := ((Bytes.cutLast c s).map Prod.snd).getD s

theorem newline_notMem_of_mem_records {text line : Str} (hline : line ∈ records text) :
    '\n' ∉ line := by
  have hsplit : line ∈ text.splitOn '\n' := by
    simp only [records] at hline
    split at hline
    · exact (List.dropLast_subset _) hline
    · exact hline
  exact Bytes.not_mem_of_mem_splitOn hsplit

/-- After `tr a '\n'` a text is read at both separators. -/
theorem readLines_trReplace (a : Char) (s : Str) :
    readLines (trReplace a '\n' s) = s.splitOnP fun c => c == a || c == '\n' := by
  induction s with
  | nil => simp [readLines, trReplace]
  | cons c s ih =>
      have hcons : trReplace a '\n' (c :: s) =
          (if c = a then '\n' else c) :: trReplace a '\n' s := rfl
      rw [readLines, hcons, List.splitOn_cons_eq_if_modifyHead, List.splitOnP_cons_eq_if_modifyHead]
      rw [readLines] at ih
      rw [ih]
      by_cases hc : c = a <;> simp [hc]

theorem trDelete_unlines {c : Char} (hc : c ≠ '\n') (lines : List Str) :
    trDelete c (unlines lines) = unlines (lines.map (trDelete c)) := by
  simp [trDelete, unlines, List.filter_flatMap, List.flatMap_map, Ne.symm hc]

/-- Nothing is left of printed lines where every line was empty. -/
theorem substitute_unlines_eq_nil_iff {lines : List Str} (hlines : ∀ line ∈ lines, '\n' ∉ line) :
    substitute (unlines lines) = [] ↔ ∀ line ∈ lines, line = [] := by
  rw [substitute, List.rdropWhile_eq_nil_iff]
  constructor
  · intro h line hline
    refine List.eq_nil_iff_forall_not_mem.mpr fun c hc => ?_
    have hnewline : c = '\n' := by
      simpa using h c (List.mem_flatMap.mpr ⟨line, hline, List.mem_append_left _ hc⟩)
    exact hlines line hline (hnewline ▸ hc)
  · intro h c hc
    obtain ⟨line, hline, hc⟩ := List.mem_flatMap.mp hc
    simpa [h line hline] using hc

/-- The words of printed lines are those of the lines. -/
theorem words_unlines {p : Char → Bool} (hp : p '\n' = true) (lines : List Str) :
    words p (unlines lines) = lines.flatMap (words p) := by
  induction lines with
  | nil => simp [unlines]
  | cons line lines ih =>
      have hcons : unlines (line :: lines) = line ++ '\n' :: unlines lines := by
        simp [unlines]
      rw [hcons, words_append_cons _ _ hp, ih, List.flatMap_cons]

end Shell
