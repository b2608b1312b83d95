import Mathlib.Data.List.DropRight
import Pr0xteus.Lib.Bytes
import Pr0xteus.Lib.Text

/-!
# Byte strings read as UTF-8

`utf8.DecodeRune` and what `strings` does with it on byte strings that need not be UTF-8: a byte
that begins no character is a character of its own, the replacement character, one byte long.
-/

namespace Utf8

open Encoding

variable {s : List UInt8} {x y : Nat}

def replacementChar : Char := Char.ofNat 0xFFFD

def isContinuation (b : UInt8) : Bool := 0x80 ≤ b && b ≤ 0xBF

/-- The second byte that the first byte of a longer character allows. -/
def allowsSecond (b c : UInt8) : Bool :=
  if b = 0xE0 then 0xA0 ≤ c && c ≤ 0xBF
  else if b = 0xED then 0x80 ≤ c && c ≤ 0x9F
  else if b = 0xF0 then 0x90 ≤ c && c ≤ 0xBF
  else if b = 0xF4 then 0x80 ≤ c && c ≤ 0x8F
  else isContinuation c

/-- The low bits of a byte, as many as the power of two says. -/
def low (b : UInt8) (power : Nat) : Nat := b.toNat % power

/-- `utf8.DecodeRune`: the character and the number of its bytes after the first one. -/
def decodeRune (b : UInt8) (rest : List UInt8) : Char × Nat :=
  let bad := (replacementChar, 0)
  if b < 0x80 then (Char.ofNat b.toNat, 0)
  else if b < 0xC2 || 0xF4 < b then bad
  else
    match rest with
    | [] => bad
    | c :: rest =>
        if !allowsSecond b c then bad
        else if b < 0xE0 then (Char.ofNat (low b 32 * 64 + low c 64), 1)
        else
          match rest with
          | [] => bad
          | d :: rest =>
              if !isContinuation d then bad
              else if b < 0xF0 then (Char.ofNat ((low b 16 * 64 + low c 64) * 64 + low d 64), 2)
              else
                match rest with
                | [] => bad
                | e :: _ =>
                    if !isContinuation e then bad
                    else (Char.ofNat (((low b 8 * 64 + low c 64) * 64 + low d 64) * 64 +
                      low e 64), 3)

/-- The characters of a byte string, each with its bytes, where `more` bytes still belong to the
current one. -/
def runesFrom (current : Char) (taken : List UInt8) :
    (more : Nat) → List UInt8 → List (Char × List UInt8)
  | _, [] => [(current, taken)]
  | 0, b :: s =>
      let (c, more) := decodeRune b s
      (current, taken) :: runesFrom c [b] more s
  | more + 1, b :: s => runesFrom current (taken ++ [b]) more s

def runes : List UInt8 → List (Char × List UInt8)
  | [] => []
  | b :: s =>
      let (c, more) := decodeRune b s
      runesFrom c [b] more s

/-- A `range` over the string. -/
def chars (s : List UInt8) : List Char := (runes s).map Prod.fst

/-- `strings.TrimSpace`. -/
def trimSpace (s : List UInt8) : List UInt8 :=
  let isSpace (rune : Char × List UInt8) := Text.isSpace rune.1
  ((((runes s).dropWhile isSpace).reverse.dropWhile isSpace).reverse).flatMap Prod.snd

section Runes

variable {b : UInt8} {s t : List UInt8}

theorem decodeRune_ascii (hb : b < 0x80) (rest : List UInt8) :
    decodeRune b rest = (Char.ofNat b.toNat, 0) := by
  simp only [decodeRune, if_pos hb]

theorem runesFrom_eq (c : Char) (taken : List UInt8) (more : Nat) (s : List UInt8) :
    runesFrom c taken more s = (c, taken ++ s.take more) :: runes (s.drop more) := by
  induction s generalizing c taken more with
  | nil => simp [runesFrom, runes]
  | cons b s ih =>
      cases more with
      | zero => simp [runesFrom, runes]
      | succ more => simp [runesFrom, ih]

/-- The first character with its bytes, and the characters of the rest. -/
theorem runes_cons (b : UInt8) (s : List UInt8) :
    runes (b :: s) = ((decodeRune b s).1, b :: s.take (decodeRune b s).2) ::
      runes (s.drop (decodeRune b s).2) := by
  rw [runes]
  exact runesFrom_eq _ _ _ _

theorem flatMap_runes (s : List UInt8) : (runes s).flatMap Prod.snd = s := by
  induction hlen : s.length using Nat.strongRecOn generalizing s with
  | ind n ih =>
      cases s with
      | nil => rfl
      | cons b s =>
          have hlt : (s.drop (decodeRune b s).2).length < n := by
            rw [List.length_drop, ← hlen, List.length_cons]
            omega
          rw [runes_cons, List.flatMap_cons, ih _ hlt _ rfl, List.cons_append, List.take_append_drop]

/-- What is left of the characters, when some are dropped in front, are the characters of what is
left. -/
theorem runes_flatMap_of_append {front back : List (Char × List UInt8)}
    (h : runes s = front ++ back) : runes (back.flatMap Prod.snd) = back := by
  induction front generalizing s with
  | nil => rw [← List.nil_append back, ← h, flatMap_runes]
  | cons r front ih =>
      cases s with
      | nil => cases h
      | cons b s =>
          rw [runes_cons] at h
          exact ih (List.cons.inj h).2

theorem isContinuation_ascii (hb : b < 0x80) : isContinuation b = false := by
  have hb : b.toNat < 128 := hb
  simp only [isContinuation, Bool.and_eq_false_iff, decide_eq_false_iff_not, UInt8.le_iff_toNat_le]
  exact .inl (Nat.not_le.mpr hb)

theorem allowsSecond_ascii (hb : b < 0x80) (first : UInt8) : allowsSecond first b = false := by
  have hlow : ∀ bound : UInt8, 0x80 ≤ bound → ∀ c, (decide (bound ≤ b) && c) = false := by
    intro bound hbound c
    rw [decide_eq_false (UInt8.not_le.mpr (UInt8.lt_of_lt_of_le hb hbound)), Bool.false_and]
  unfold allowsSecond
  split
  · exact hlow _ (by decide) _
  · split
    · exact hlow _ (by decide) _
    · split
      · exact hlow _ (by decide) _
      · split
        · exact hlow _ (by decide) _
        · exact isContinuation_ascii hb

/-- An ASCII byte does not go on a character. -/
theorem decodeRune_append_ascii (hb : b < 0x80) (first : UInt8) (s t : List UInt8) :
    decodeRune first (s ++ b :: t) = decodeRune first s ∧ (decodeRune first s).2 ≤ s.length := by
  have hsecond := allowsSecond_ascii hb first
  have hnext := isContinuation_ascii hb
  unfold decodeRune
  dsimp only
  split
  · exact ⟨rfl, Nat.zero_le _⟩
  · split
    · exact ⟨rfl, Nat.zero_le _⟩
    · match s with
      | [] => simp [hsecond]
      | [c] =>
          simp only [List.cons_append, List.nil_append, hnext]
          split
          · exact ⟨rfl, Nat.zero_le _⟩
          · split <;> simp
      | [c, d] =>
          simp only [List.cons_append, List.nil_append, hnext]
          split
          · exact ⟨rfl, Nat.zero_le _⟩
          · split
            · simp
            · split
              · simp
              · split <;> simp
      | c :: d :: e :: s =>
          refine ⟨rfl, ?_⟩
          repeat' split
          all_goals simp

theorem runes_append_ascii (hb : b < 0x80) (s t : List UInt8) :
    runes (s ++ b :: t) = runes s ++ (Char.ofNat b.toNat, [b]) :: runes t := by
  induction hlen : s.length using Nat.strongRecOn generalizing s with
  | ind n ih =>
      cases s with
      | nil => rw [List.nil_append, runes_cons, decodeRune_ascii hb]; rfl
      | cons d s =>
          obtain ⟨hdecode, hmore⟩ := decodeRune_append_ascii hb d s t
          have hlt : (s.drop (decodeRune d s).2).length < n := by
            rw [List.length_drop, ← hlen, List.length_cons]
            omega
          rw [List.cons_append, runes_cons, runes_cons, hdecode, List.take_append_of_le_length hmore,
            List.drop_append_of_le_length hmore, ih _ hlt _ rfl, List.cons_append]

/-- Trimming a text at both sides of an ASCII byte that is no space, where something is left of what is
before it. -/
theorem trimSpace_append_ascii (hb : b < 0x80) (hspace : Text.isSpace (Char.ofNat b.toNat) = false)
    (hs : trimSpace s ≠ []) :
    ∃ front back, trimSpace (s ++ b :: t) = front ++ b :: back ∧ front ⊆ s ∧
      trimSpace front = trimSpace s := by
  let isSpace (rune : Char × List UInt8) := Text.isSpace rune.1
  let kept := (runes s).dropWhile isSpace
  have hkept : kept ≠ [] := by
    intro hnil
    exact hs (by rw [trimSpace, show (runes s).dropWhile _ = [] from hnil]; rfl)
  have hrunes : runes (kept.flatMap Prod.snd) = kept :=
    runes_flatMap_of_append (List.takeWhile_append_dropWhile (p := isSpace)).symm
  refine ⟨kept.flatMap Prod.snd, ((runes t).reverse.dropWhile isSpace).reverse.flatMap Prod.snd,
    ?_, ?_, ?_⟩
  · have hfront : (runes s ++ (Char.ofNat b.toNat, [b]) :: runes t).dropWhile isSpace =
        kept ++ (Char.ofNat b.toNat, [b]) :: runes t := by
      rw [List.dropWhile_append, if_neg (by simpa [kept] using hkept)]
    have hback : ((runes t).reverse ++ (Char.ofNat b.toNat, [b]) :: kept.reverse).dropWhile isSpace =
        (runes t).reverse.dropWhile isSpace ++ (Char.ofNat b.toNat, [b]) :: kept.reverse := by
      rw [List.dropWhile_append, List.dropWhile_cons_of_neg (by simpa [isSpace] using hspace)]
      split
      · next hempty => rw [List.isEmpty_iff.mp hempty, List.nil_append]
      · rfl
    change (((runes (s ++ b :: t)).dropWhile isSpace).reverse.dropWhile isSpace).reverse.flatMap
      Prod.snd = _
    rw [runes_append_ascii hb, hfront, List.reverse_append, List.reverse_cons, List.append_assoc,
      List.singleton_append, hback, List.reverse_append, List.reverse_cons, List.reverse_reverse,
      List.append_assoc, List.flatMap_append, List.flatMap_append]
    rfl
  · intro d hd
    obtain ⟨rune, hrune, hd⟩ := List.mem_flatMap.mp hd
    rw [← flatMap_runes s]
    exact List.mem_flatMap.mpr ⟨rune, (List.dropWhile_sublist _).subset hrune, hd⟩
  · change (((runes (kept.flatMap Prod.snd)).dropWhile isSpace).reverse.dropWhile isSpace).reverse.flatMap
      Prod.snd = (kept.reverse.dropWhile isSpace).reverse.flatMap Prod.snd
    rw [hrunes, List.dropWhile_idempotent]

end Runes

section CaseFold

/-- The classes that `unicode.SimpleFold` goes round, each by a representative. Which ASCII characters
are in one class is known; the rest of the table is a parameter. -/
structure CaseFold where
  rep : Char → Char
  rep_eq_iff : ∀ c d : Char, c.toNat < 128 → d.toNat < 128 →
    (rep c = rep d ↔ c.toLower = d.toLower)

/-- The table where only ASCII letters have a case. -/
def CaseFold.ascii : CaseFold := ⟨Char.toLower, fun _ _ _ _ => Iff.rfl⟩

/-- `strings.EqualFold`. -/
def equalFold (fold : CaseFold) (s t : List UInt8) : Bool :=
  (chars s).map fold.rep == (chars t).map fold.rep

theorem runesFrom_ascii (c : Char) (taken : List UInt8) (h : ∀ b ∈ s, b < 0x80) :
    (runesFrom c taken 0 s).map Prod.fst = c :: s.map fun b => Char.ofNat b.toNat := by
  induction s generalizing c taken with
  | nil => rfl
  | cons b s ih =>
      rw [runesFrom, decodeRune_ascii (h b List.mem_cons_self), List.map_cons,
        ih _ _ fun d hd => h d (List.mem_cons_of_mem _ hd), List.map_cons]

theorem chars_ascii (h : ∀ b ∈ s, b < 0x80) : chars s = s.map fun b => Char.ofNat b.toNat := by
  cases s with
  | nil => rfl
  | cons b s =>
      rw [chars, runes, decodeRune_ascii (h b List.mem_cons_self), List.map_cons]
      exact runesFrom_ascii _ _ fun d hd => h d (List.mem_cons_of_mem _ hd)

/-- On ASCII texts only the case of letters is ignored. -/
theorem equalFold_ascii {s t : List UInt8} (fold : CaseFold) (hs : ∀ b ∈ s, b < 0x80)
    (ht : ∀ b ∈ t, b < 0x80) :
    equalFold fold s t = true ↔
      s.map (fun b => (Char.ofNat b.toNat).toLower) =
        t.map (fun b => (Char.ofNat b.toNat).toLower) := by
  have hsmall : ∀ b : UInt8, b < 0x80 → (Char.ofNat b.toNat).toNat < 128 := by
    intro b hb
    have hb : b.toNat < 128 := hb
    rw [(Bytes.char_of_byte b).1]
    exact hb
  rw [equalFold, beq_iff_eq, chars_ascii hs, chars_ascii ht, List.map_map, List.map_map]
  induction s generalizing t with
  | nil => cases t <;> simp
  | cons b s ih =>
      cases t with
      | nil => simp
      | cons d t =>
          have hhead := fold.rep_eq_iff _ _ (hsmall b (hs b List.mem_cons_self))
            (hsmall d (ht d List.mem_cons_self))
          have htail := ih (fun e he => hs e (List.mem_cons_of_mem _ he))
            fun e he => ht e (List.mem_cons_of_mem _ he)
          simp only [List.map_cons, List.cons.injEq, Function.comp_apply, hhead, htail]

end CaseFold

example : trimSpace (utf8 " \n 198.51.100.7 ") = utf8 "198.51.100.7" := by decide +kernel

example : chars [0x41, 0xE2, 0x82, 0xAC, 0xE2, 0x22, 0xFF] =
    ['A', '€', replacementChar, '"', replacementChar] := by
  decide

section Encoded

theorem toNat_ofNat_of_lt {n : Nat} (h : n < 256) : (UInt8.ofNat n).toNat = n := by
  rw [UInt8.toNat_ofNat']
  omega

theorem isContinuation_ofNat (h : y < 64) : isContinuation (.ofNat (y + 128)) = true := by
  have hy := toNat_ofNat_of_lt (n := y + 128) (by omega)
  simp only [isContinuation, UInt8.le_iff_toNat_le, hy, UInt8.reduceToNat, Bool.and_eq_true,
    decide_eq_true_eq]
  omega

theorem low_ofNat (h : y < 64) : low (.ofNat (y + 128)) 64 = y := by
  rw [low, toNat_ofNat_of_lt (by omega)]
  omega

theorem decodeRune_two (hx : 2 ≤ x) (hx' : x < 32) (hy : y < 64) :
    decodeRune (.ofNat (x + 192)) (.ofNat (y + 128) :: s) = (Char.ofNat (x * 64 + y), 1) := by
  have hb := toNat_ofNat_of_lt (n := x + 192) (by omega)
  have hlow : low (.ofNat (x + 192)) 32 = x := by
    rw [low, hb]
    omega
  have hsecond : allowsSecond (.ofNat (x + 192)) (.ofNat (y + 128)) = true := by
    simp only [allowsSecond, ← UInt8.toNat_inj, hb, UInt8.reduceToNat]
    rw [if_neg (by omega), if_neg (by omega), if_neg (by omega), if_neg (by omega)]
    exact isContinuation_ofNat hy
  simp only [decodeRune, UInt8.lt_iff_toNat_lt, hb, UInt8.reduceToNat, hsecond, hlow, low_ofNat hy]
  rw [if_neg (by omega), if_neg (by simp; omega)]
  simp only [Bool.not_true, Bool.false_eq_true, if_false]
  rw [if_pos (by omega)]

theorem decodeRune_three {x y z : Nat} (hx : x < 16) (hy : y < 64) (hz : z < 64)
    (hlong : x = 0 → 32 ≤ y) (hsurrogate : x = 13 → y < 32) :
    decodeRune (.ofNat (x + 224)) (.ofNat (y + 128) :: .ofNat (z + 128) :: s) =
      (Char.ofNat ((x * 64 + y) * 64 + z), 2) := by
  have hb := toNat_ofNat_of_lt (n := x + 224) (by omega)
  have hc := toNat_ofNat_of_lt (n := y + 128) (by omega)
  have hlow : low (.ofNat (x + 224)) 16 = x := by
    rw [low, hb]
    omega
  have hsecond : allowsSecond (.ofNat (x + 224)) (.ofNat (y + 128)) = true := by
    simp only [allowsSecond, isContinuation, ← UInt8.toNat_inj, UInt8.le_iff_toNat_le, hb, hc,
      UInt8.reduceToNat]
    split_ifs <;> simp <;> omega
  simp only [decodeRune, UInt8.lt_iff_toNat_lt, hb, UInt8.reduceToNat, hsecond, hlow, low_ofNat hy,
    low_ofNat hz, isContinuation_ofNat hz]
  rw [if_neg (by omega), if_neg (by simp; omega)]
  simp only [Bool.not_true, Bool.false_eq_true, if_false]
  rw [if_neg (by omega), if_pos (by omega)]

theorem decodeRune_four {x y z w : Nat} (hx : x < 5) (hy : y < 64) (hz : z < 64) (hw : w < 64)
    (hlong : x = 0 → 16 ≤ y) (hlast : x = 4 → y < 16) :
    decodeRune (.ofNat (x + 240)) (.ofNat (y + 128) :: .ofNat (z + 128) :: .ofNat (w + 128) :: s) =
      (Char.ofNat (((x * 64 + y) * 64 + z) * 64 + w), 3) := by
  have hb := toNat_ofNat_of_lt (n := x + 240) (by omega)
  have hc := toNat_ofNat_of_lt (n := y + 128) (by omega)
  have hlow : low (.ofNat (x + 240)) 8 = x := by
    rw [low, hb]
    omega
  have hsecond : allowsSecond (.ofNat (x + 240)) (.ofNat (y + 128)) = true := by
    simp only [allowsSecond, isContinuation, ← UInt8.toNat_inj, UInt8.le_iff_toNat_le, hb, hc,
      UInt8.reduceToNat]
    split_ifs <;> simp <;> omega
  simp only [decodeRune, UInt8.lt_iff_toNat_lt, hb, UInt8.reduceToNat, hsecond, hlow, low_ofNat hy,
    low_ofNat hz, low_ofNat hw, isContinuation_ofNat hz, isContinuation_ofNat hw]
  rw [if_neg (by omega), if_neg (by simp; omega)]
  simp only [Bool.not_true, Bool.false_eq_true, if_false]
  rw [if_neg (by omega), if_neg (by omega)]

/-- A character is read back from its bytes, whatever follows. -/
theorem decodeRune_utf8EncodeChar (c : Char) :
    ∃ b more, String.utf8EncodeChar c = b :: more ∧
      ∀ s, decodeRune b (more ++ s) = (c, more.length) := by
  have hc : Char.ofNat c.val.toNat = c := Char.ofNat_toNat c
  have hvalid : c.val.toNat.isValidChar := c.valid
  unfold String.utf8EncodeChar
  generalize c.val.toNat = v at hc hvalid
  subst hc
  dsimp only
  split_ifs with h1 h2 h3
  · refine ⟨_, [], rfl, fun s => ?_⟩
    have hv := toNat_ofNat_of_lt (n := v) (by omega)
    rw [decodeRune_ascii (by rw [UInt8.lt_iff_toNat_lt, hv]; simp; omega), hv]
    rfl
  · refine ⟨_, _, rfl, fun s => ?_⟩
    rw [List.cons_append, List.nil_append, decodeRune_two (by omega) (by omega) (by omega)]
    congr 2
    omega
  · refine ⟨_, _, rfl, fun s => ?_⟩
    rw [List.cons_append, List.cons_append, List.nil_append,
      decodeRune_three (by omega) (by omega) (by omega) (by omega) (by unfold Nat.isValidChar at hvalid; omega)]
    congr 2
    omega
  · refine ⟨_, _, rfl, fun s => ?_⟩
    unfold Nat.isValidChar at hvalid
    rw [List.cons_append, List.cons_append, List.cons_append, List.nil_append,
      decodeRune_four (by omega) (by omega) (by omega) (by omega) (by omega) (by omega)]
    congr 2
    omega

/-- The characters of a text, from its bytes. -/
theorem chars_utf8 (cs : List Char) : chars (utf8 (String.ofList cs)) = cs := by
  have hutf8 : utf8 (String.ofList cs) = cs.flatMap String.utf8EncodeChar := by
    simp [utf8, List.utf8Encode]
  rw [hutf8, chars]
  clear hutf8
  induction cs with
  | nil => rfl
  | cons c cs ih =>
      obtain ⟨b, more, hencoded, hdecode⟩ := decodeRune_utf8EncodeChar c
      rw [List.flatMap_cons, hencoded, List.cons_append, runes_cons, hdecode, List.map_cons,
        List.drop_left, ih]

theorem chars_string (s : String) : chars (utf8 s) = s.toList := by
  rw [← String.ofList_toList (s := s), chars_utf8, String.ofList_toList]

end Encoded

end Utf8
