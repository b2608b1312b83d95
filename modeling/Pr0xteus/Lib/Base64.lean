import Mathlib.Data.List.Basic

/-!
# Standard base64

`base64.StdEncoding`: three bytes are four digits, and the last group is padded. The decoder passes
over line breaks wherever they stand, and does not look at the bits that padding leaves unused.
-/

namespace Base64

def padding : UInt8 := '='.toUInt8

def digit (n : Nat) : UInt8 :=
  if n < 26 then UInt8.ofNat (65 + n)
  else if n < 52 then UInt8.ofNat (97 + (n - 26))
  else if n < 62 then UInt8.ofNat (48 + (n - 52))
  else if n = 62 then '+'.toUInt8
  else '/'.toUInt8

def value? (b : UInt8) : Option Nat :=
  let n := b.toNat
  if 65 ≤ n ∧ n ≤ 90 then some (n - 65)
  else if 97 ≤ n ∧ n ≤ 122 then some (n - 97 + 26)
  else if 48 ≤ n ∧ n ≤ 57 then some (n - 48 + 52)
  else if b = '+'.toUInt8 then some 62
  else if b = '/'.toUInt8 then some 63
  else none

/-- `EncodeToString`. -/
def encode : List UInt8 → List UInt8
  | [] => []
  | [a] => [digit (a.toNat / 4), digit (a.toNat % 4 * 16), padding, padding]
  | [a, b] =>
      [digit (a.toNat / 4), digit (a.toNat % 4 * 16 + b.toNat / 16), digit (b.toNat % 16 * 4),
        padding]
  | a :: b :: c :: rest =>
      digit (a.toNat / 4) :: digit (a.toNat % 4 * 16 + b.toNat / 16) ::
        digit (b.toNat % 16 * 4 + c.toNat / 64) :: digit (c.toNat % 64) :: encode rest

/-- `decodeQuantum` over and over, on a text without line breaks. Nothing follows a padded group. -/
def decodeQuanta : List UInt8 → Option (List UInt8)
  | [] => some []
  | a :: b :: c :: d :: rest => do
      let x ← value? a
      let y ← value? b
      let first := UInt8.ofNat (x * 4 + y / 16)
      if c = padding then
        if d = padding ∧ rest = [] then some [first] else none
      else
        let z ← value? c
        let second := UInt8.ofNat (y % 16 * 16 + z / 4)
        if d = padding then
          if rest = [] then some [first, second] else none
        else
          let w ← value? d
          let more ← decodeQuanta rest
          some (first :: second :: UInt8.ofNat (z % 4 * 64 + w) :: more)
  | _ => none

def isLineBreak (b : UInt8) : Bool := b = '\n'.toUInt8 || b = '\r'.toUInt8

/-- `DecodeString`. -/
def decode (s : List UInt8) : Option (List UInt8) := decodeQuanta (s.filter (!isLineBreak ·))

section RoundTrip

/-- A digit is read back as its value, and is neither padding nor a line break. -/
theorem digit_spec {n : Nat} (hn : n < 64) :
    value? (digit n) = some n ∧ digit n ≠ padding ∧ isLineBreak (digit n) = false := by
  have hall : ∀ n : Fin 64,
      value? (digit n) = some n.val ∧ digit n ≠ padding ∧ isLineBreak (digit n) = false := by
    decide
  exact hall ⟨n, hn⟩

theorem ofNat_of_eq {n : Nat} {b : UInt8} (h : n = b.toNat) : UInt8.ofNat n = b := by
  rw [h, UInt8.ofNat_toNat]

variable {x y z w : Nat}

theorem decodeQuanta_one (hx : x < 64) (hy : y < 64) :
    decodeQuanta [digit x, digit y, padding, padding] = some [UInt8.ofNat (x * 4 + y / 16)] := by
  simp [decodeQuanta, (digit_spec hx).1, (digit_spec hy).1]

theorem decodeQuanta_two (hx : x < 64) (hy : y < 64) (hz : z < 64) :
    decodeQuanta [digit x, digit y, digit z, padding] =
      some [UInt8.ofNat (x * 4 + y / 16), UInt8.ofNat (y % 16 * 16 + z / 4)] := by
  simp [decodeQuanta, (digit_spec hx).1, (digit_spec hy).1, (digit_spec hz).1,
    (digit_spec hz).2.1]

theorem decodeQuanta_three {rest : List UInt8} (hx : x < 64) (hy : y < 64) (hz : z < 64)
    (hw : w < 64) :
    decodeQuanta (digit x :: digit y :: digit z :: digit w :: rest) =
      (decodeQuanta rest).map fun more =>
        UInt8.ofNat (x * 4 + y / 16) :: UInt8.ofNat (y % 16 * 16 + z / 4) ::
          UInt8.ofNat (z % 4 * 64 + w) :: more := by
  simp only [decodeQuanta, (digit_spec hx).1, (digit_spec hy).1, (digit_spec hz).1,
    (digit_spec hw).1, if_neg (digit_spec hz).2.1, if_neg (digit_spec hw).2.1, Option.bind_eq_bind,
    Option.bind_some]
  cases decodeQuanta rest with
  | none => rfl
  | some more => rfl

theorem decodeQuanta_encode (bytes : List UInt8) : decodeQuanta (encode bytes) = some bytes := by
  induction bytes using encode.induct with
  | case1 => rfl
  | case2 a =>
      have ha := a.toNat_lt
      rw [encode, decodeQuanta_one (by omega) (by omega), ofNat_of_eq (b := a) (by omega)]
  | case3 a b =>
      have ha := a.toNat_lt
      have hb := b.toNat_lt
      rw [encode, decodeQuanta_two (by omega) (by omega) (by omega), ofNat_of_eq (b := a) (by omega),
        ofNat_of_eq (b := b) (by omega)]
  | case4 a b c rest ih =>
      have ha := a.toNat_lt
      have hb := b.toNat_lt
      have hc := c.toNat_lt
      rw [encode, decodeQuanta_three (by omega) (by omega) (by omega) (by omega), ih,
        ofNat_of_eq (b := a) (by omega), ofNat_of_eq (b := b) (by omega),
        ofNat_of_eq (b := c) (by omega)]
      rfl

theorem isLineBreak_of_mem_encode {bytes : List UInt8} {d : UInt8} (h : d ∈ encode bytes) :
    isLineBreak d = false := by
  have hpadding : isLineBreak padding = false := by decide
  induction bytes using encode.induct with
  | case1 => cases h
  | case2 a =>
      have ha := a.toNat_lt
      simp only [encode, List.mem_cons, List.not_mem_nil, or_false] at h
      obtain rfl | rfl | rfl | rfl := h
      · exact (digit_spec (by omega)).2.2
      · exact (digit_spec (by omega)).2.2
      · exact hpadding
      · exact hpadding
  | case3 a b =>
      have ha := a.toNat_lt
      have hb := b.toNat_lt
      simp only [encode, List.mem_cons, List.not_mem_nil, or_false] at h
      obtain rfl | rfl | rfl | rfl := h
      · exact (digit_spec (by omega)).2.2
      · exact (digit_spec (by omega)).2.2
      · exact (digit_spec (by omega)).2.2
      · exact hpadding
  | case4 a b c rest ih =>
      have ha := a.toNat_lt
      have hb := b.toNat_lt
      have hc := c.toNat_lt
      simp only [encode, List.mem_cons] at h
      obtain rfl | rfl | rfl | rfl | h := h
      · exact (digit_spec (by omega)).2.2
      · exact (digit_spec (by omega)).2.2
      · exact (digit_spec (by omega)).2.2
      · exact (digit_spec (by omega)).2.2
      · exact ih h

theorem decode_encode (bytes : List UInt8) : decode (encode bytes) = some bytes := by
  have hfilter : (encode bytes).filter (!isLineBreak ·) = encode bytes := by
    apply List.filter_eq_self.mpr
    intro d hd
    rw [isLineBreak_of_mem_encode hd, Bool.not_false]
  rw [decode, hfilter, decodeQuanta_encode]

end RoundTrip

theorem encode_ne_nil {bytes : List UInt8} (h : bytes ≠ []) : encode bytes ≠ [] := by
  match bytes with
  | [] => exact absurd rfl h
  | [_] | [_, _] | _ :: _ :: _ :: _ => exact List.cons_ne_nil _ _

end Base64
