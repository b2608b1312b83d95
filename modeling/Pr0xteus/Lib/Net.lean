import Mathlib.Algebra.Order.Ring.Int
import Pr0xteus.Lib.Bytes

/-!
# Addresses

`net.SplitHostPort`, `net.JoinHostPort`, `strconv.Atoi` and `netip.ParseAddr`. What is read is a byte
string. An error is nothing: no caller looks at which one it was.
-/

namespace Net

open Bytes

def isDigit (b : UInt8) : Bool := '0'.toUInt8 ≤ b && b ≤ '9'.toUInt8

def digitValue (b : UInt8) : Nat := b.toNat - '0'.toNat

section HostPort

/-- `net.SplitHostPort`. A host in brackets ends at the first closing one, and the last colon follows
it; a host without brackets has no colon. No other bracket occurs. -/
def splitHostPort (hostport : List UInt8) : Option (List UInt8 × List UInt8) := do
  let (before, port) ← cutLast ':'.toUInt8 hostport
  if hostport.head? = some '['.toUInt8 then
    match cut ']'.toUInt8 hostport.tail with
    | (_, none) => none
    | (host, some after) =>
        if before ≠ '['.toUInt8 :: host ++ [']'.toUInt8] then none
        else if '['.toUInt8 ∈ hostport.tail ∨ ']'.toUInt8 ∈ after then none
        else some (host, port)
  else if ':'.toUInt8 ∈ before then none
  else if '['.toUInt8 ∈ hostport ∨ ']'.toUInt8 ∈ hostport then none
  else some (before, port)

/-- `net.JoinHostPort`. -/
def joinHostPort (host port : String) : String :=
  if ':' ∈ host.toList then "[" ++ host ++ "]:" ++ port else host ++ ":" ++ port

def decimal (digits : List UInt8) : Nat := digits.foldl (fun n b => 10 * n + digitValue b) 0

def parseDigits (digits : List UInt8) : Option Int :=
  if digits = [] ∨ ¬digits.all isDigit then none else some (decimal digits)

def fits64 (n : Int) : Option Int := if -2 ^ 63 ≤ n ∧ n < 2 ^ 63 then some n else none

/-- `strconv.Atoi`: a sign is allowed, and the result fits 64 bits. -/
def atoi (s : List UInt8) : Option Int :=
  if s.head? = some '-'.toUInt8 then parseDigits s.tail >>= fun n => fits64 (-n)
  else if s.head? = some '+'.toUInt8 then parseDigits s.tail >>= fits64
  else parseDigits s >>= fits64

inductive NumError where
  | invalidSyntax
  | outOfRange
  deriving DecidableEq, Repr

/-- The loop of `strconv.ParseUint` in base ten, with the value read so far. -/
def parseUintFrom (bitSize n : Nat) : List UInt8 → Except NumError Nat
  | [] => .ok n
  | b :: s =>
      if !isDigit b then .error .invalidSyntax
      else if 2 ^ bitSize ≤ 10 * n + digitValue b then .error .outOfRange
      else parseUintFrom bitSize (10 * n + digitValue b) s

/-- `strconv.ParseUint` in base ten. -/
def parseUint (bitSize : Nat) (s : List UInt8) : Except NumError Nat :=
  if s = [] then .error .invalidSyntax else parseUintFrom bitSize 0 s

variable {addr host port : List UInt8}

/-- The two shapes of an address that `SplitHostPort` accepts. -/
inductive AddressShape (host port : List UInt8) : List UInt8 → Prop
  | plain (hcolon : ':'.toUInt8 ∉ host) (hbracket : '['.toUInt8 ∉ host)
      (hhead : (host ++ ':'.toUInt8 :: port).head? ≠ some '['.toUInt8) :
      AddressShape host port (host ++ ':'.toUInt8 :: port)
  | bracketed (hbracket : '['.toUInt8 ∉ host) :
      AddressShape host port ('['.toUInt8 :: host ++ ']'.toUInt8 :: ':'.toUInt8 :: port)

theorem addressShape_of_split (h : splitHostPort addr = some (host, port)) :
    AddressShape host port addr := by
  unfold splitHostPort at h
  cases hlast : cutLast ':'.toUInt8 addr with
  | none => simp [hlast] at h
  | some cut =>
      obtain ⟨before, port'⟩ := cut
      obtain ⟨hsplit, -⟩ := eq_append_of_cutLast hlast
      simp only [hlast, Option.bind_eq_bind, Option.bind_some] at h
      split at h
      · next hhead =>
          split at h
          · cases h
          · next host' after hcut =>
              split at h
              · cases h
              · next hbefore =>
                  split at h
                  · cases h
                  · next hbrackets =>
                      cases h
                      rw [not_not] at hbefore
                      rw [hbefore, List.append_assoc, List.singleton_append] at hsplit
                      rw [hsplit] at hbrackets ⊢
                      refine .bracketed fun hmem => hbrackets (.inl ?_)
                      simp [hmem]
      · next hhead =>
          split at h
          · cases h
          · next hcolon =>
              split at h
              · cases h
              · next hbrackets =>
                  cases h
                  rw [hsplit] at hbrackets hhead ⊢
                  refine .plain hcolon (fun hmem => hbrackets (.inl ?_)) hhead
                  simp [hmem]

/-- What is left of a port that `strconv.Atoi` reads as a positive number: digits, and a sign. -/
def portByte (b : UInt8) : Bool := b = '+'.toUInt8 || isDigit b

theorem parseDigits_eq_some_iff {n : Int} : parseDigits port = some n ↔
    port ≠ [] ∧ (∀ b ∈ port, isDigit b = true) ∧ (decimal port : Int) = n := by
  rw [parseDigits]
  split
  · next h => simp only [reduceCtorEq, false_iff]; rintro ⟨hne, hall, -⟩; simp_all
  · next h =>
      rw [not_or, not_not, List.all_eq_true] at h
      exact ⟨fun hn => ⟨h.1, h.2, Option.some.inj hn⟩, fun hn => congrArg some hn.2.2⟩

theorem eq_of_fits64 {n n' : Int} (h : fits64 n = some n') : n = n' := by
  unfold fits64 at h
  split at h
  · exact Option.some.inj h
  · cases h

theorem portByte_of_atoi {n : Int} (h : atoi port = some n) (hn : 0 < n) :
    port ≠ [] ∧ ∀ b ∈ port, portByte b = true := by
  have hdigit : ∀ b, isDigit b = true → portByte b = true := fun b hb => by simp [portByte, hb]
  unfold atoi at h
  split at h
  · -- a number with a minus sign is not positive
    obtain ⟨k, hk, hfits⟩ := Option.bind_eq_some_iff.mp h
    obtain ⟨-, -, rfl⟩ := parseDigits_eq_some_iff.mp hk
    have := eq_of_fits64 hfits
    omega
  · split at h
    · next hplus =>
        obtain ⟨k, hk, -⟩ := Option.bind_eq_some_iff.mp h
        obtain ⟨-, hall, -⟩ := parseDigits_eq_some_iff.mp hk
        cases port with
        | nil => cases hplus
        | cons b rest =>
            cases hplus
            refine ⟨List.cons_ne_nil _ _, List.forall_mem_cons.mpr ⟨by decide, fun b hb => ?_⟩⟩
            exact hdigit b (hall b hb)
    · obtain ⟨k, hk, -⟩ := Option.bind_eq_some_iff.mp h
      obtain ⟨hne, hall, -⟩ := parseDigits_eq_some_iff.mp hk
      exact ⟨hne, fun b hb => hdigit b (hall b hb)⟩

section Round

theorem isDigit_toUInt8 {c : Char} (h : c.isDigit = true) :
    isDigit c.toUInt8 = true ∧ digitValue c.toUInt8 = c.toNat - '0'.toNat := by
  obtain ⟨hlow, hhigh⟩ := Char.isDigit_iff_toNat.mp h
  have hzero : '0'.toNat = 48 := rfl
  have hnine : '9'.toNat = 57 := rfl
  have hbyte : c.toUInt8.toNat = c.toNat := by
    have hval : c.toUInt8.toNat = c.toNat % 256 := rfl
    omega
  rw [isDigit, digitValue, Bool.and_eq_true, decide_eq_true_iff, decide_eq_true_iff,
    UInt8.le_iff_toNat_le, UInt8.le_iff_toNat_le, hbyte]
  exact ⟨⟨hlow, hhigh⟩, rfl⟩

/-- The text of a number has the bytes of its digits. -/
theorem utf8_toString (n : Nat) :
    Encoding.utf8 (toString n) = (Nat.toDigits 10 n).map Char.toUInt8 := by
  rw [Nat.toString_eq_ofList_toDigits]
  apply utf8_ofList_ascii
  intro c hc
  have hdigit := Nat.isDigit_of_mem_toDigits (by decide) (by decide) hc
  have hnine : '9'.toNat = 57 := rfl
  have := (Char.isDigit_iff_toNat.mp hdigit).2
  omega

theorem isDigit_of_mem_toString {n : Nat} {b : UInt8} (h : b ∈ Encoding.utf8 (toString n)) :
    isDigit b = true := by
  rw [utf8_toString] at h
  obtain ⟨c, hc, rfl⟩ := List.mem_map.mp h
  exact (isDigit_toUInt8 (Nat.isDigit_of_mem_toDigits (by decide) (by decide) hc)).1

/-- The text of an integer has digits, and a sign where it is negative. -/
theorem isDigit_or_dash_of_mem_toString {i : Int} {c : Char} (h : c ∈ (toString i).toList) :
    c.isDigit = true ∨ c = '-' := by
  have hdigits : ∀ n : Nat, c ∈ n.repr.toList → c.isDigit = true := by
    intro n hmem
    rw [Nat.toList_repr] at hmem
    exact Nat.isDigit_of_mem_toDigits (by decide) (by decide) hmem
  rw [Int.toString_eq_repr, Int.repr_eq_if] at h
  split at h
  · exact .inl (hdigits _ h)
  · rw [String.toList_append, List.mem_append] at h
    rcases h with hsign | h
    · exact .inr (by simpa using hsign)
    · exact .inl (hdigits _ h)

theorem utf8_toString_int (i : Int) :
    Encoding.utf8 (toString i) = (toString i).toList.map Char.toUInt8 := by
  have hascii : ∀ c ∈ (toString i).toList, c.toNat < 128 := by
    intro c hc
    rcases isDigit_or_dash_of_mem_toString hc with hdigit | rfl
    · have hnine : '9'.toNat = 57 := rfl
      have := (Char.isDigit_iff_toNat.mp hdigit).2
      omega
    · decide
  rw [← utf8_ofList_ascii hascii, String.ofList_toList]

theorem decimal_toString (n : Nat) : decimal (Encoding.utf8 (toString n)) = n := by
  have hfold : ∀ (cs : List Char) (init : Nat), (∀ c ∈ cs, c.isDigit = true) →
      (cs.map Char.toUInt8).foldl (fun n b => 10 * n + digitValue b) init =
        Nat.ofDigitChars 10 cs init := by
    intro cs
    induction cs with
    | nil => intro init _; rfl
    | cons c cs ih =>
        intro init hcs
        obtain ⟨hc, hcs⟩ := List.forall_mem_cons.mp hcs
        rw [List.map_cons, List.foldl_cons, (isDigit_toUInt8 hc).2, ih _ hcs]
        rfl
  rw [decimal, utf8_toString, hfold _ _ fun c hc =>
    Nat.isDigit_of_mem_toDigits (by decide) (by decide) hc]
  exact Nat.ofDigitChars_toDigits (by decide) (by decide)

theorem toString_ne_nil (n : Nat) : Encoding.utf8 (toString n) ≠ [] := by
  rw [utf8_toString, Ne, List.map_eq_nil_iff]
  exact Nat.toDigits_ne_nil

/-- `strconv.Atoi` reads what `strconv.Itoa` writes. -/
theorem atoi_toString {n : Nat} (h : n < 2 ^ 63) : atoi (Encoding.utf8 (toString n)) = some ↑n := by
  have hhead : ∀ sign : UInt8, isDigit sign = false →
      (Encoding.utf8 (toString n)).head? ≠ some sign := by
    intro sign hsign hhead
    rw [isDigit_of_mem_toString (List.mem_of_mem_head? hhead)] at hsign
    cases hsign
  have hdigits : parseDigits (Encoding.utf8 (toString n)) = some ↑n :=
    parseDigits_eq_some_iff.mpr ⟨toString_ne_nil n, fun b hb => isDigit_of_mem_toString hb,
      congrArg _ (decimal_toString n)⟩
  have hfits : -2 ^ 63 ≤ (n : Int) ∧ (n : Int) < 2 ^ 63 := ⟨by omega, by omega⟩
  rw [atoi, if_neg (hhead _ (by decide)), if_neg (hhead _ (by decide)), hdigits,
    Option.bind_eq_bind, Option.bind_some, fits64, if_pos hfits]

theorem atoi_toString_int {n : Int} (hlow : -2 ^ 63 ≤ n) (hhigh : n < 2 ^ 63) :
    atoi (Encoding.utf8 (toString n)) = some n := by
  by_cases hn : 0 ≤ n
  · obtain ⟨m, rfl⟩ := Int.eq_ofNat_of_zero_le hn
    exact atoi_toString (by omega)
  · obtain ⟨m, hm⟩ := Int.eq_ofNat_of_zero_le (show 0 ≤ -n by omega)
    have htext : toString n = "-" ++ toString m := by
      rw [Int.toString_eq_repr, Int.repr_eq_if, if_neg hn, hm]
      rfl
    have hdigits : parseDigits (Encoding.utf8 (toString m)) = some ↑m :=
      parseDigits_eq_some_iff.mpr ⟨toString_ne_nil m, fun b hb => isDigit_of_mem_toString hb,
        congrArg _ (decimal_toString m)⟩
    have hbytes : Encoding.utf8 (toString n) = '-'.toUInt8 :: Encoding.utf8 (toString m) := by
      rw [htext, Bytes.utf8_append]
      rfl
    rw [atoi, hbytes, List.head?_cons, if_pos rfl, List.tail_cons, hdigits, Option.bind_eq_bind,
      Option.bind_some, fits64, ← hm, Int.neg_neg, if_pos ⟨hlow, hhigh⟩]

/-- Digits that follow do not make a value smaller. -/
theorem le_foldl_digits (s : List UInt8) (n : Nat) :
    n ≤ s.foldl (fun n b => 10 * n + digitValue b) n := by
  induction s generalizing n with
  | nil => exact Nat.le_refl n
  | cons b s ih =>
      calc n ≤ 10 * n + digitValue b := by omega
        _ ≤ s.foldl (fun n b => 10 * n + digitValue b) (10 * n + digitValue b) := ih _

/-- What is accepted is digits, and the value of all of them fits. -/
theorem parseUintFrom_eq_ok_iff {bitSize n m : Nat} {s : List UInt8} (hn : n < 2 ^ bitSize) :
    parseUintFrom bitSize n s = .ok m ↔ (∀ b ∈ s, isDigit b = true) ∧
      s.foldl (fun n b => 10 * n + digitValue b) n = m ∧ m < 2 ^ bitSize := by
  induction s generalizing n with
  | nil =>
      constructor
      · intro h
        cases h
        exact ⟨fun b hb => absurd hb List.not_mem_nil, rfl, hn⟩
      · rintro ⟨-, rfl, -⟩
        rfl
  | cons b s ih =>
      rw [List.forall_mem_cons, List.foldl_cons]
      cases hdigit : isDigit b with
      | false => simp [parseUintFrom, hdigit]
      | true =>
          by_cases hfits : 2 ^ bitSize ≤ 10 * n + digitValue b
          · simp only [parseUintFrom, hdigit, Bool.not_true, Bool.false_eq_true, if_false, if_pos hfits,
              reduceCtorEq, true_and, false_iff]
            rintro ⟨-, rfl, hlt⟩
            exact absurd hlt (Nat.not_lt.mpr (hfits.trans (le_foldl_digits s _)))
          · simp only [parseUintFrom, hdigit, Bool.not_true, Bool.false_eq_true, if_false,
              if_neg hfits, true_and]
            exact ih (Nat.lt_of_not_le hfits)

theorem parseUint_eq_ok_iff {bitSize n : Nat} {s : List UInt8} :
    parseUint bitSize s = .ok n ↔
      s ≠ [] ∧ (∀ b ∈ s, isDigit b = true) ∧ decimal s = n ∧ n < 2 ^ bitSize := by
  unfold parseUint
  split
  · next hnil => simp [hnil]
  · next hne =>
      rw [parseUintFrom_eq_ok_iff (Nat.two_pow_pos bitSize)]
      exact ⟨fun h => ⟨hne, h⟩, fun h => h.2⟩

end Round

end HostPort

section Netip

/-- A `netip.Addr`; a zone that was not given is empty. -/
inductive Addr where
  | v4 (value : BitVec 32)
  | v6 (value : BitVec 128) (zone : List UInt8)
  deriving DecidableEq, Repr

def Addr.is4 : Addr → Bool
  | .v4 _ => true
  | .v6 _ _ => false

/-- `Unmap`: an IPv4 address written as an IPv6 one is that address. -/
def Addr.unmap : Addr → Addr
  | .v4 value => .v4 value
  | .v6 value zone =>
      if value >>> 32 = 0xFFFF#128 then .v4 (value.setWidth 32) else .v6 value zone

/-- `parseIPv4Fields`, with the fields read so far and the value and length of the current one. -/
def parseIPv4Fields (fields : List Nat) (val digLen : Nat) : List UInt8 → Option (List Nat)
  | [] => if fields.length < 3 then none else some (fields ++ [val])
  | b :: s =>
      if isDigit b then
        if digLen = 1 ∧ val = 0 then none
        else if 255 < 10 * val + digitValue b then none
        else parseIPv4Fields fields (10 * val + digitValue b) (digLen + 1) s
      else if b = '.'.toUInt8 then
        if digLen = 0 ∨ s = [] then none
        else if fields.length = 3 then none
        else parseIPv4Fields (fields ++ [val]) 0 0 s
      else none

def isHex (b : UInt8) : Bool :=
  isDigit b || ('a'.toUInt8 ≤ b && b ≤ 'f'.toUInt8) || ('A'.toUInt8 ≤ b && b ≤ 'F'.toUInt8)

def unhex (b : UInt8) : Nat :=
  if isDigit b then digitValue b
  else if 'a'.toUInt8 ≤ b then b.toNat - 'a'.toNat + 10
  else b.toNat - 'A'.toNat + 10

/-- The loop of `parseIPv6`. `room` is the number of 16-bit fields that still fit, and the ellipsis is
the number of fields before it. -/
def parseIPv6Fields (fields : List Nat) (ellipsis : Option Nat) :
    (room : Nat) → List UInt8 → Option (List Nat × Option Nat)
  | 0, s => if s = [] then some (fields, ellipsis) else none
  | room + 1, s =>
      let digits := s.takeWhile isHex
      let fields' := fields ++ [digits.foldl (fun n b => 16 * n + unhex b) 0]
      if digits = [] ∨ 4 < digits.length then none
      else
        match s.dropWhile isHex with
        | [] => some (fields', ellipsis)
        | b :: rest =>
            if b = '.'.toUInt8 then
              if ellipsis = none ∧ fields.length ≠ 6 then none
              else if 8 < fields.length + 2 then none
              else
                match parseIPv4Fields [] 0 0 s with
                | some [w, x, y, z] => some (fields ++ [256 * w + x, 256 * y + z], ellipsis)
                | _ => none
            else if b ≠ ':'.toUInt8 then none
            else
              match rest with
              | [] => none
              | c :: rest' =>
                  if c ≠ ':'.toUInt8 then parseIPv6Fields fields' ellipsis room (c :: rest')
                  else if ellipsis.isSome then none
                  else if rest' = [] then some (fields', some fields'.length)
                  else parseIPv6Fields fields' (some fields'.length) room rest'

/-- The end of `parseIPv6`: an ellipsis stands for at least one field of zeros. -/
def expand : List Nat × Option Nat → Option (List Nat)
  | (fields, none) => if fields.length < 8 then none else some fields
  | (fields, some ellipsis) =>
      if fields.length < 8 then
        some (fields.take ellipsis ++ List.replicate (8 - fields.length) 0 ++ fields.drop ellipsis)
      else none

def parseIPv6 (s : List UInt8) : Option Addr := do
  let (s, zone) := cut '%'.toUInt8 s
  if zone = some [] then none
  else
    let leading := s.take 2 = [':'.toUInt8, ':'.toUInt8]
    let fields ←
      if leading ∧ s.drop 2 = [] then some (List.replicate 8 0)
      else if leading then parseIPv6Fields [] (some 0) 8 (s.drop 2) >>= expand
      else parseIPv6Fields [] none 8 s >>= expand
    some (.v6 (BitVec.ofNat 128 (fields.foldl (fun n field => 65536 * n + field) 0))
      (zone.getD []))

def parseIPv4 (s : List UInt8) : Option Addr := do
  let fields ← parseIPv4Fields [] 0 0 s
  some (.v4 (BitVec.ofNat 32 (fields.foldl (fun n field => 256 * n + field) 0)))

/-- `netip.ParseAddr`: the first dot, colon or percent sign decides the family. -/
def parseAddr (s : List UInt8) : Option Addr :=
  match s.find? fun b => [('.' : Char), ':', '%'].any fun c => b = c.toUInt8 with
  | none => none
  | some b =>
      if b = '.'.toUInt8 then parseIPv4 s
      else if b = ':'.toUInt8 then parseIPv6 s
      else none

/-- `net.ParseIP`, up to `IP.Equal`: no zone, and both ways to write an IPv4 address are one. -/
def parseIP (s : List UInt8) : Option Addr :=
  match parseAddr s with
  | some (.v6 _ (_ :: _)) => none
  | addr => addr.map Addr.unmap

end Netip

example : parseAddr (Encoding.utf8 "127.0.0.1") = some (.v4 0x7F000001#32) := by decide

example : parseAddr (Encoding.utf8 "fe80::1%eth0") =
    some (.v6 0xFE800000000000000000000000000001#128 (Encoding.utf8 "eth0")) := by decide

example : (parseAddr (Encoding.utf8 "::ffff:1.2.3.4")).map Addr.unmap =
    parseAddr (Encoding.utf8 "1.2.3.4") := by decide

end Net
