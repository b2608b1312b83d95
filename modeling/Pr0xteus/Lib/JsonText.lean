import Pr0xteus.Lib.Json
import Pr0xteus.Lib.Net

/-!
# JSON as it is written

`json.Marshal` and `json.Encoder`, and how the strings and numbers they write are read back. Strings are
escaped as both of them do it, with `<`, `>` and `&` among the characters that are never written as they
are.
-/

namespace Json

open Encoding

variable {n : Nat} {c : Char} {rest : List Char}

section Writer

def hexChar (n : Nat) : Char := if n < 10 then Char.ofNat (48 + n) else Char.ofNat (87 + n)

def unicodeEscape (n : Nat) : List Char :=
  ['\\', 'u', hexChar (n / 0x1000 % 16), hexChar (n / 0x100 % 16), hexChar (n / 0x10 % 16),
    hexChar (n % 16)]

/-- A character of a string. -/
def escapeChar (c : Char) : List Char :=
  if c = '"' ∨ c = '\\' then ['\\', c]
  else if c = Char.ofNat 8 then ['\\', 'b']
  else if c = Char.ofNat 12 then ['\\', 'f']
  else if c = '\n' then ['\\', 'n']
  else if c = '\r' then ['\\', 'r']
  else if c = '\t' then ['\\', 't']
  else if c.toNat < 0x20 ∨ c ∈ ['<', '>', '&'] ∨ c.toNat = 0x2028 ∨ c.toNat = 0x2029 then
    unicodeEscape c.toNat
  else [c]

/-- A character with the bytes it was read from. A byte that begins no character is written as an
escape. -/
def escapeRune (rune : Char × List UInt8) : List Char :=
  if rune.1 = Utf8.replacementChar ∧ rune.2.length = 1 then unicodeEscape 0xFFFD
  else escapeChar rune.1

def quoted (s : List UInt8) : List Char := '"' :: (Utf8.runes s).flatMap escapeRune ++ ['"']

/-- What may stand behind a value. -/
def Delimited (rest : List Char) : Prop := ∀ c ∈ rest.head?, c ∈ [',', ']', '\x7d', '\n']

/-- A number in the notation of JSON. -/
structure Number where
  text : List Char
  scans : ∀ rest, Delimited rest → scanNumber (text ++ rest) = some (text, rest)

/-- What is written: a Go value without the members that are left out of it. A string need not be
UTF-8. -/
inductive Doc where
  | null
  | bool (b : Bool)
  | number (n : Number)
  | string (s : List UInt8)
  | array (items : List Doc)
  | object (members : List (String × Doc))

/-- How a text is laid out: in one line, or indented by two blanks for each level. -/
inductive Layout where
  | compact
  | indented

def Layout.newline (level : Nat) : Layout → List Char
  | .compact => []
  | .indented => '\n' :: List.replicate (2 * level) ' '

def Layout.colon : Layout → List Char
  | .compact => [':']
  | .indented => [':', ' ']

mutual

def render (layout : Layout) (level : Nat) : Doc → List Char
  | .null => ['n', 'u', 'l', 'l']
  | .bool true => ['t', 'r', 'u', 'e']
  | .bool false => ['f', 'a', 'l', 's', 'e']
  | .number n => n.text
  | .string s => quoted s
  | .array [] => ['[', ']']
  | .array (item :: items) =>
      '[' :: (layout.newline (level + 1) ++ (render layout (level + 1) item ++
        renderItems layout (level + 1) items (layout.newline level ++ [']'])))
  | .object [] => ['\x7b', '\x7d']
  | .object ((key, value) :: members) =>
      '\x7b' :: (layout.newline (level + 1) ++ (quoted (utf8 key) ++ (layout.colon ++
        (render layout (level + 1) value ++
          renderMembers layout (level + 1) members (layout.newline level ++ ['\x7d'])))))

/-- The items of an array behind the first one, and what closes it. -/
def renderItems (layout : Layout) (level : Nat) : List Doc → List Char → List Char
  | [], closing => closing
  | item :: items, closing =>
      ',' :: (layout.newline level ++
        (render layout level item ++ renderItems layout level items closing))

def renderMembers (layout : Layout) (level : Nat) : List (String × Doc) → List Char → List Char
  | [], closing => closing
  | (key, value) :: members, closing =>
      ',' :: (layout.newline level ++ (quoted (utf8 key) ++ (layout.colon ++
        (render layout level value ++ renderMembers layout level members closing))))

end

/-- `json.Marshal`. -/
def marshal (doc : Doc) : List UInt8 := utf8 (.ofList (render .compact 0 doc))

/-- `Encode`, of an encoder with this layout. -/
def encode (layout : Layout) (doc : Doc) : List UInt8 :=
  utf8 (.ofList (render layout 0 doc ++ ['\n']))

mutual

/-- What is written, as it is read. -/
def Doc.value : Doc → Value
  | .null => .null
  | .bool b => .bool b
  | .number n => .number n.text
  | .string s => .string (Utf8.chars s)
  | .array items => .array (values items)
  | .object members => .object (memberValues members)

def values : List Doc → List Value
  | [] => []
  | item :: items => item.value :: values items

def memberValues : List (String × Doc) → Members
  | [] => []
  | (key, doc) :: members => (key.toList, doc.value) :: memberValues members

end

mutual

/-- How deep containers are nested. -/
def Doc.nesting : Doc → Nat
  | .array items => nestingItems items + 1
  | .object members => nestingMembers members + 1
  | .null | .bool _ | .number _ | .string _ => 0

def nestingItems : List Doc → Nat
  | [] => 0
  | item :: items => max item.nesting (nestingItems items)

def nestingMembers : List (String × Doc) → Nat
  | [] => 0
  | (_, doc) :: members => max doc.nesting (nestingMembers members)

end

end Writer

/-! ## Reading back -/

section Strings

theorem hexValue_hexChar (h : n < 16) : hexValue (hexChar n) = some n := by
  have hall : ∀ n < 16, hexValue (hexChar n) = some n := by decide
  exact hall n h

theorem stringUnits_unicodeEscape (h : n < 0x10000) (s : List Char) :
    stringUnits (unicodeEscape n ++ s) =
      (stringUnits s).map fun read => (.code n :: read.1, read.2) := by
  have hcode : hexCode (hexChar (n / 0x1000 % 16)) (hexChar (n / 0x100 % 16))
      (hexChar (n / 0x10 % 16)) (hexChar (n % 16)) = some n := by
    simp only [hexCode, hexValue_hexChar (Nat.mod_lt _ (by decide : 16 > 0)), Option.bind_eq_bind,
      Option.bind_some, Option.some.injEq]
    omega
  simp only [unicodeEscape, List.cons_append, List.nil_append, stringUnits, hcode,
    Option.bind_eq_bind, Option.bind_some]
  cases stringUnits s <;> rfl

theorem unquote_code (h : ¬(0xD800 ≤ n ∧ n < 0xE000)) (units : List StringUnit) :
    unquote (.code n :: units) = Char.ofNat n :: unquote units := by
  match units with
  | [] => simp only [unquote, if_neg h]
  | .char c :: units => simp only [unquote, if_neg h]
  | .code low :: units =>
      have hhigh : ¬(0xD800 ≤ n ∧ n < 0xDC00 ∧ 0xDC00 ≤ low ∧ low < 0xE000) := by omega
      simp only [unquote, if_neg h, if_neg hhigh]

theorem scanString_of_unit {text s : List Char} {unit : StringUnit}
    (hunits : stringUnits (text ++ s) =
      (stringUnits s).map fun read => (unit :: read.1, read.2))
    (hunquote : ∀ units, unquote (unit :: units) = c :: unquote units) :
    scanString (text ++ s) = (scanString s).map fun read => (c :: read.1, read.2) := by
  rw [scanString, scanString, hunits]
  cases stringUnits s with
  | none => rfl
  | some read => simp [hunquote]

theorem stringUnits_plain (hquote : c ≠ '"') (hbackslash : c ≠ '\\') (hcontrol : ¬c.toNat < 0x20)
    (s : List Char) :
    stringUnits ([c] ++ s) = (stringUnits s).map fun read => (.char c :: read.1, read.2) := by
  rw [List.singleton_append, stringUnits.eq_def]
  split
  · next heq => cases heq
  · next heq => exact absurd (List.cons.inj heq).1 hquote
  · next heq => exact absurd (List.cons.inj heq).1 hbackslash
  · next heq => exact absurd (List.cons.inj heq).1 hbackslash
  · next heq =>
      obtain ⟨rfl, rfl⟩ := List.cons.inj heq
      rw [if_neg hcontrol]
      cases stringUnits s <;> rfl

theorem stringUnits_short {e c : Char} (hu : e ≠ 'u') (he : escaped e = some c) (s : List Char) :
    stringUnits (['\\', e] ++ s) = (stringUnits s).map fun read => (.char c :: read.1, read.2) := by
  rw [List.cons_append, List.singleton_append, stringUnits.eq_def]
  split
  · next heq => cases heq
  · next heq => exact absurd (List.cons.inj heq).1 (by decide)
  · next heq => exact absurd (List.cons.inj (List.cons.inj heq).2).1 hu
  · next heq =>
      obtain ⟨rfl, rfl⟩ := List.cons.inj (List.cons.inj heq).2
      rw [he]
      cases stringUnits s <;> rfl
  · next hother heq =>
      obtain ⟨rfl, rfl⟩ := List.cons.inj heq
      exact absurd rfl (hother e s rfl)

/-- A character is read back from its escape. -/
theorem scanString_escapeChar (c : Char) (s : List Char) :
    scanString (escapeChar c ++ s) = (scanString s).map fun read => (c :: read.1, read.2) := by
  have hshort : ∀ {e : Char}, e ≠ 'u' → escaped e = some c →
      scanString (['\\', e] ++ s) = (scanString s).map fun read => (c :: read.1, read.2) :=
    fun hu he => scanString_of_unit (stringUnits_short hu he s) fun _ => rfl
  unfold escapeChar
  split_ifs with h1 h2 h3 h4 h5 h6 h7
  · rcases h1 with rfl | rfl
    · exact hshort (by decide) (by decide)
    · exact hshort (by decide) (by decide)
  · subst h2
    exact hshort (by decide) (by decide)
  · subst h3
    exact hshort (by decide) (by decide)
  · subst h4
    exact hshort (by decide) (by decide)
  · subst h5
    exact hshort (by decide) (by decide)
  · subst h6
    exact hshort (by decide) (by decide)
  · have hsmall : c.toNat < 0xD800 := by
      rcases h7 with hlt | hmem | heq | heq
      · omega
      · simp only [List.mem_cons, List.not_mem_nil, or_false] at hmem
        rcases hmem with rfl | rfl | rfl <;> decide
      · omega
      · omega
    refine scanString_of_unit (stringUnits_unicodeEscape (by omega) s) fun units => ?_
    rw [unquote_code (by omega), Char.ofNat_toNat]
  · rw [not_or] at h1 h7
    exact scanString_of_unit (stringUnits_plain h1.1 h1.2 h7.1 s) fun _ => rfl

theorem scanString_escapeRune (rune : Char × List UInt8) (s : List Char) :
    scanString (escapeRune rune ++ s) = (scanString s).map fun read => (rune.1 :: read.1, read.2) := by
  unfold escapeRune
  split_ifs with hbad
  · rw [hbad.1]
    exact scanString_of_unit (stringUnits_unicodeEscape (by decide) s) fun units =>
      unquote_code (by decide) units
  · exact scanString_escapeChar rune.1 s

/-- A string is read back from its quotes. -/
theorem scanString_quoted (s : List UInt8) (rest : List Char) :
    scanString ((Utf8.runes s).flatMap escapeRune ++ '"' :: rest) = some (Utf8.chars s, rest) := by
  rw [Utf8.chars]
  induction Utf8.runes s with
  | nil => simp [scanString, stringUnits, unquote]
  | cons rune runes ih =>
      rw [List.flatMap_cons, List.append_assoc, scanString_escapeRune, ih, Option.map_some,
        List.map_cons]

end Strings

section Numbers

theorem delimited_nil : Delimited [] := fun _ hc => by cases hc

theorem Delimited.not_isDigit (h : Delimited rest) : ∀ c ∈ rest.head?, c.isDigit = false := by
  intro c hc
  have hmem := h c hc
  simp only [List.mem_cons, List.not_mem_nil, or_false] at hmem
  rcases hmem with rfl | rfl | rfl | rfl <;> rfl

theorem digits_append {run rest : List Char} (hrun : ∀ c ∈ run, c.isDigit = true) (hne : run ≠ [])
    (hrest : Delimited rest) : digits (run ++ rest) = some (run, rest) := by
  have hstop : rest.takeWhile Char.isDigit = [] ∧ rest.dropWhile Char.isDigit = rest := by
    cases rest with
    | nil => exact ⟨rfl, rfl⟩
    | cons c rest =>
        have hc := hrest.not_isDigit c rfl
        exact ⟨List.takeWhile_cons_of_neg (by simp [hc]), List.dropWhile_cons_of_neg (by simp [hc])⟩
  rw [digits, List.takeWhile_append_of_pos hrun, List.dropWhile_append_of_pos hrun, hstop.1, hstop.2,
    List.append_nil, if_neg hne]

/-- An integer: digits without a zero before others. -/
theorem scanNumber_digits {run rest : List Char}
    (hrun : ∀ c ∈ run, c.isDigit = true) (hne : run ≠ []) (hzero : run.head? = some '0' → run = ['0'])
    (hrest : Delimited rest) :
    scanNumber (run ++ rest) = some (run, rest) ∧
      scanNumber ('-' :: (run ++ rest)) = some ('-' :: run, rest) := by
  have hdigits := digits_append hrun hne hrest
  have hcases : rest = [] ∨ ∃ c rest', rest = c :: rest' ∧ c ∈ [',', ']', '\x7d', '\n'] := by
    cases rest with
    | nil => exact .inl rfl
    | cons c rest => exact .inr ⟨c, rest, rfl, hrest c rfl⟩
  obtain ⟨d, more, rfl⟩ := List.exists_cons_of_ne_nil hne
  have hd := hrun d List.mem_cons_self
  by_cases hd0 : d = '0'
  · subst hd0
    obtain rfl : more = [] := (List.cons.inj (hzero rfl)).2
    rcases hcases with rfl | ⟨c, rest', rfl, hc⟩
    · exact ⟨rfl, rfl⟩
    · simp only [List.mem_cons, List.not_mem_nil, or_false] at hc
      rcases hc with rfl | rfl | rfl | rfl <;> exact ⟨rfl, rfl⟩
  · have hdash : d ≠ '-' := by
      rintro rfl
      exact absurd hd (by decide)
    rw [List.cons_append] at hdigits ⊢
    rcases hcases with rfl | ⟨c, rest', rfl, hc⟩
    · rw [List.append_nil] at hdigits ⊢
      simp [scanNumber, hdigits, hdash, hd0]
    · simp only [List.mem_cons, List.not_mem_nil, or_false] at hc
      rcases hc with rfl | rfl | rfl | rfl <;> simp [scanNumber, hdigits, hdash, hd0]

theorem toDigits_head (h : (Nat.toDigits 10 n).head? = some '0') : n = 0 := by
  induction n using Nat.strongRecOn with
  | ind n ih =>
      by_cases hn : n < 10
      · rw [Nat.toDigits_of_lt_base hn, List.head?_cons, Option.some.injEq] at h
        have hall : ∀ n < 10, n.digitChar = '0' → n = 0 := by decide
        exact hall n hn h
      · rw [Nat.toDigits_of_base_le (by decide) (by omega), List.head?_append_of_ne_nil _
          Nat.toDigits_ne_nil] at h
        have hzero := ih (n / 10) (by omega) h
        omega

theorem scanNumber_toDigits (n : Nat) (hrest : Delimited rest) :
    scanNumber (Nat.toDigits 10 n ++ rest) = some (Nat.toDigits 10 n, rest) ∧
      scanNumber ('-' :: (Nat.toDigits 10 n ++ rest)) = some ('-' :: Nat.toDigits 10 n, rest) := by
  refine scanNumber_digits (fun c hc => Nat.isDigit_of_mem_toDigits (by decide) (by decide) hc)
    Nat.toDigits_ne_nil (fun h => ?_) hrest
  rw [toDigits_head h]
  rfl

/-- An integer. -/
def Number.ofInt (n : Int) : Number where
  text := (toString n).toList
  scans := by
    intro rest hrest
    rw [Int.toString_eq_repr, Int.repr_eq_if]
    split_ifs
    · rw [Nat.toList_repr]
      exact (scanNumber_toDigits _ hrest).1
    · rw [String.toList_append, Nat.toList_repr]
      exact (scanNumber_toDigits _ hrest).2

/-- A number begins like one. -/
theorem Number.head (n : Number) : ∃ c s, n.text = c :: s ∧ (c = '-' ∨ c.isDigit = true) := by
  have hscan := n.scans [] delimited_nil
  rw [List.append_nil] at hscan
  match htext : n.text with
  | [] =>
      rw [htext] at hscan
      exact absurd hscan (by decide)
  | c :: s =>
      refine ⟨c, s, rfl, ?_⟩
      by_contra hc
      rw [not_or] at hc
      have hzero : c ≠ '0' := fun h => hc.2 (by rw [h]; rfl)
      have hdigits : digits (c :: s) = none := by
        rw [digits, List.takeWhile_cons_of_neg hc.2]
        rfl
      rw [htext] at hscan
      simp [scanNumber, hc.1, hzero, hdigits] at hscan

end Numbers

end Json
