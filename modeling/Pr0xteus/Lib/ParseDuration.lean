import Pr0xteus.Lib.GoTime
import Pr0xteus.Lib.Net

/-!
# Durations as text

`time.ParseDuration`: a sign, and then numbers with a unit each, whose sum is the duration. The sum is
an unsigned 64-bit integer. An error is nothing: no caller looks at which one it was.
-/

namespace GoTime

open Net

/-- `leadingInt`, with the value read so far. -/
def leadingInt (x : Nat) : List UInt8 → Option (Nat × List UInt8)
  | [] => some (x, [])
  | b :: s =>
      if !isDigit b then some (x, b :: s)
      else if 2 ^ 63 / 10 < x then none
      else if 2 ^ 63 < 10 * x + digitValue b then none
      else leadingInt (10 * x + digitValue b) s

/-- `leadingFraction`, with the digits and the scale read so far. Digits that do not fit are passed
over. -/
def leadingFraction (x : Nat) (scale : Float) (overflow : Bool) :
    List UInt8 → Nat × Float × List UInt8
  | [] => (x, scale, [])
  | b :: s =>
      if !isDigit b then (x, scale, b :: s)
      else if overflow || (2 ^ 63 - 1) / 10 < x || 2 ^ 63 < 10 * x + digitValue b then
        leadingFraction x scale true s
      else leadingFraction (10 * x + digitValue b) (scale * 10) false s

/-- `unitMap`; the two ways to write a microsecond with a Greek letter are two characters. -/
def unit? (u : List UInt8) : Option Nat :=
  if u = Encoding.utf8 "ns" then some 1
  else if u = Encoding.utf8 "us" then some (10 ^ 3)
  else if u = Encoding.utf8 "µs" then some (10 ^ 3)
  else if u = Encoding.utf8 "μs" then some (10 ^ 3)
  else if u = Encoding.utf8 "ms" then some (10 ^ 6)
  else if u = Encoding.utf8 "s" then some (10 ^ 9)
  else if u = Encoding.utf8 "m" then some (60 * 10 ^ 9)
  else if u = Encoding.utf8 "h" then some (3600 * 10 ^ 9)
  else none

def isNumberByte (b : UInt8) : Bool := b = '.'.toUInt8 || isDigit b

/-- The number that `s` begins with, as its whole part, the digits of its fraction and their scale,
and what follows it. -/
def leadingNumber (s : List UInt8) : Option (Nat × Nat × Float × List UInt8) := do
  let (v, afterInt) ← leadingInt 0 s
  let pre := afterInt.length ≠ s.length
  if afterInt.head? = some '.'.toUInt8 then
    let (f, scale, rest) := leadingFraction 0 1 false afterInt.tail
    let post := rest.length ≠ afterInt.tail.length
    if ¬pre ∧ ¬post then none else some (v, f, scale, rest)
  else if ¬pre then none
  else some (v, 0, 1, afterInt)

/-- The nanoseconds of a fraction of a unit. -/
def fractionOf (f : Nat) (scale : Float) (unit : Nat) : Nat :=
  if 0 < f then (Float.ofNat f * (Float.ofNat unit / scale)).toUInt64.toNat else 0

/-- One round of the loop: a number and its unit, in nanoseconds, and what follows them. -/
def leadingAmount (s : List UInt8) : Option (Nat × List UInt8) := do
  let (v, f, scale, rest) ← leadingNumber s
  let u := rest.takeWhile fun b => !isNumberByte b
  if u = [] then none
  else
    let unit ← unit? u
    let v' := v * unit + fractionOf f scale unit
    if 2 ^ 63 / unit < v ∨ 2 ^ 63 < v' then none
    else some (v', rest.dropWhile fun b => !isNumberByte b)

/-! ## The rounds of the loop -/

variable {s rest : List UInt8}

theorem length_of_leadingInt {x v : Nat} (h : leadingInt x s = some (v, rest)) :
    rest.length ≤ s.length := by
  induction s generalizing x with
  | nil =>
      cases h
      exact Nat.le_refl _
  | cons b s ih =>
      simp only [leadingInt] at h
      split at h
      · cases h
        exact Nat.le_refl _
      · split at h
        · cases h
        · split at h
          · cases h
          · exact Nat.le_succ_of_le (ih h)

theorem length_leadingFraction (x : Nat) (scale : Float) (overflow : Bool) (s : List UInt8) :
    (leadingFraction x scale overflow s).2.2.length ≤ s.length := by
  induction s generalizing x scale overflow with
  | nil => exact Nat.le_refl _
  | cons b s ih =>
      simp only [leadingFraction]
      split
      · exact Nat.le_refl _
      · split
        · exact Nat.le_succ_of_le (ih _ _ _)
        · exact Nat.le_succ_of_le (ih _ _ _)

theorem length_of_leadingNumber {v f : Nat} {scale : Float}
    (h : leadingNumber s = some (v, f, scale, rest)) : rest.length ≤ s.length := by
  simp only [leadingNumber, Option.bind_eq_bind, Option.bind_eq_some_iff] at h
  obtain ⟨⟨v', afterInt⟩, hint, h⟩ := h
  have hlength := length_of_leadingInt hint
  dsimp only at h
  split at h
  · split at h
    · cases h
    · cases h
      calc (leadingFraction 0 1 false afterInt.tail).2.2.length
          ≤ afterInt.tail.length := length_leadingFraction _ _ _ _
        _ ≤ afterInt.length := by rw [List.length_tail]; omega
        _ ≤ s.length := hlength
  · split at h
    · cases h
    · cases h
      exact hlength

/-- A round takes a unit of at least one byte. -/
theorem length_of_leadingAmount {v : Nat} (h : leadingAmount s = some (v, rest)) :
    rest.length < s.length := by
  simp only [leadingAmount, Option.bind_eq_bind, Option.bind_eq_some_iff] at h
  obtain ⟨⟨v', f, scale, afterNumber⟩, hnumber, h⟩ := h
  have hlength := length_of_leadingNumber hnumber
  dsimp only at h
  split at h
  · cases h
  · next hunit =>
      obtain ⟨unit, -, h⟩ := Option.bind_eq_some_iff.mp h
      split at h
      · cases h
      · cases h
        have hsplit := congrArg List.length
          (List.takeWhile_append_dropWhile (p := fun b => !isNumberByte b) (l := afterNumber))
        rw [List.length_append] at hsplit
        have := List.length_pos_of_ne_nil hunit
        omega

/-- The loop, with the sum so far. -/
def sumAmounts (d : Nat) (s : List UInt8) : Option Nat :=
  if s = [] then some d
  else
    match hamount : leadingAmount s with
    | none => none
    | some (v, rest) =>
        have : rest.length < s.length := length_of_leadingAmount hamount
        if 2 ^ 63 < (d + v) % 2 ^ 64 then none else sumAmounts ((d + v) % 2 ^ 64) rest
termination_by s.length

def parseDuration (s : List UInt8) : Option Duration :=
  let neg := s.head? = some '-'.toUInt8
  let s := if neg ∨ s.head? = some '+'.toUInt8 then s.tail else s
  if s = ['0'.toUInt8] then some 0
  else if s = [] then none
  else do
    let d ← sumAmounts 0 s
    if neg then some (-.ofNat d)
    else if 2 ^ 63 - 1 < d then none
    else some (.ofNat d)

example : parseDuration (Encoding.utf8 "1h15m30s") = some (4530 * second) := by decide +kernel

end GoTime
