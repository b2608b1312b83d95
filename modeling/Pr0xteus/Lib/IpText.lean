import Mathlib.Data.List.Induction
import Mathlib.Data.List.TakeWhile
import Mathlib.Tactic.NormNum
import Mathlib.Tactic.Ring
import Pr0xteus.Lib.Net

/-!
# IP addresses as bytes and as text

A `net.IP` is four bytes, or sixteen of which the last four may be an IPv4 address. `IP.String` writes
it with dots, or in groups of hexadecimal digits with the longest run of zero groups left out, and
`net.ParseIP` reads back what it writes.
-/

namespace Net

open Bytes Encoding

variable {b : UInt8} {fields groups : List Nat} {ip ip4 s : List UInt8} {n : Nat}

section BigEndian

/-- The last `k` bytes of a number, the highest one first. -/
def bigEndian : Nat → Nat → List UInt8
  | 0, _ => []
  | k + 1, n => bigEndian k (n / 256) ++ [.ofNat n]

def bigEndianValue (bytes : List UInt8) : Nat := bytes.foldl (fun n b => 256 * n + b.toNat) 0

@[simp] theorem length_bigEndian (k n : Nat) : (bigEndian k n).length = k := by
  induction k generalizing n with
  | zero => rfl
  | succ k ih => rw [bigEndian, List.length_append, ih, List.length_singleton]

theorem bigEndianValue_concat (bytes : List UInt8) (b : UInt8) :
    bigEndianValue (bytes ++ [b]) = 256 * bigEndianValue bytes + b.toNat := by
  rw [bigEndianValue, List.foldl_append]
  rfl

theorem bigEndianValue_append (bytes more : List UInt8) :
    bigEndianValue (bytes ++ more) =
      bigEndianValue bytes * 256 ^ more.length + bigEndianValue more := by
  induction more using List.reverseRecOn with
  | nil => simp [bigEndianValue]
  | append_singleton more b ih =>
      rw [← List.append_assoc, bigEndianValue_concat, ih, bigEndianValue_concat, List.length_append,
        List.length_singleton, pow_succ]
      ring

theorem bigEndianValue_lt (bytes : List UInt8) : bigEndianValue bytes < 256 ^ bytes.length := by
  induction bytes using List.reverseRecOn with
  | nil => exact Nat.one_pos
  | append_singleton bytes b ih =>
      rw [bigEndianValue_concat, List.length_append, List.length_singleton, pow_succ]
      have := b.toNat_lt
      omega

theorem bigEndian_value (bytes : List UInt8) :
    bigEndian bytes.length (bigEndianValue bytes) = bytes := by
  induction bytes using List.reverseRecOn with
  | nil => rfl
  | append_singleton bytes b ih =>
      have hb := b.toNat_lt
      have hdiv : (256 * bigEndianValue bytes + b.toNat) / 256 = bigEndianValue bytes := by omega
      have hlast : UInt8.ofNat (256 * bigEndianValue bytes + b.toNat) = b := by
        apply UInt8.toNat_inj.mp
        rw [UInt8.toNat_ofNat']
        omega
      rw [List.length_append, List.length_singleton, bigEndianValue_concat, bigEndian, hdiv, ih,
        hlast]

theorem bigEndianValue_bigEndian {k n : Nat} (h : n < 256 ^ k) :
    bigEndianValue (bigEndian k n) = n := by
  induction k generalizing n with
  | zero => simpa [bigEndianValue, bigEndian] using (Nat.lt_one_iff.mp h).symm
  | succ k ih =>
      have hdiv : n / 256 < 256 ^ k := Nat.div_lt_of_lt_mul (by rwa [pow_succ, mul_comm] at h)
      rw [bigEndian, bigEndianValue_concat, ih hdiv, UInt8.toNat_ofNat']
      omega

theorem bigEndianValue_inj {a b : List UInt8} (hlen : a.length = b.length) :
    bigEndianValue a = bigEndianValue b ↔ a = b := by
  constructor
  · intro h
    rw [← bigEndian_value a, h, hlen, bigEndian_value]
  · rintro rfl
    rfl

end BigEndian

/-! ## Bytes -/

section Bytes

def bytes4 (value : BitVec 32) : List UInt8 := bigEndian 4 value.toNat

def bytes16 (value : BitVec 128) : List UInt8 := bigEndian 16 value.toNat

/-- The first twelve bytes of an IPv4 address among sixteen. -/
def v4InV6Bytes : List UInt8 := List.replicate 10 0 ++ [0xff, 0xff]

/-- `net.IPv4`, of four bytes. -/
def ipv4In6 (ip4 : List UInt8) : List UInt8 := v4InV6Bytes ++ ip4

def ipv4Zero : List UInt8 := ipv4In6 [0, 0, 0, 0]

/-- `IP.To4`. -/
def to4 (ip : List UInt8) : Option (List UInt8) :=
  if ip.length = 4 then some ip
  else if ip.length = 16 ∧ ip.take 12 = v4InV6Bytes then some (ip.drop 12)
  else none

/-- The address that the bytes stand for, up to `IP.Equal`. -/
def addrOfIP (ip : List UInt8) : Option Addr :=
  match to4 ip with
  | some ip4 => some (.v4 (.ofNat 32 (bigEndianValue ip4)))
  | none =>
      if ip.length = 16 then some (.v6 (.ofNat 128 (bigEndianValue ip)) []) else none

theorem to4_ipv4In6 (h : ip4.length = 4) : to4 (ipv4In6 ip4) = some ip4 := by
  have hlen : (ipv4In6 ip4).length = 16 := by
    rw [ipv4In6, List.length_append, h]
    rfl
  have htake : (ipv4In6 ip4).take 12 = v4InV6Bytes := by
    change (v4InV6Bytes ++ ip4).take v4InV6Bytes.length = v4InV6Bytes
    exact List.take_left
  have hdrop : (ipv4In6 ip4).drop 12 = ip4 := by
    change (v4InV6Bytes ++ ip4).drop v4InV6Bytes.length = ip4
    exact List.drop_left
  rw [to4, if_neg (by omega), if_pos ⟨hlen, htake⟩, hdrop]

theorem length_of_to4 (h : to4 ip = some ip4) : ip4.length = 4 := by
  unfold to4 at h
  split at h
  · next hlen =>
      cases h
      exact hlen
  · split at h
    · next hlen =>
        cases h
        rw [List.length_drop, hlen.1]
    · cases h

theorem addrOfIP_ipv4In6 (value : BitVec 32) :
    addrOfIP (ipv4In6 (bytes4 value)) = some (.v4 value) := by
  have hvalue : bigEndianValue (bytes4 value) = value.toNat :=
    bigEndianValue_bigEndian (by have := value.isLt; omega)
  have hlen : (bytes4 value).length = 4 := length_bigEndian 4 _
  simp only [addrOfIP, to4_ipv4In6 hlen, hvalue, BitVec.ofNat_toNat, BitVec.setWidth_eq]

/-- Sixteen bytes stand for an IPv4 address where the twelve highest of its value say so. -/
theorem take_eq_v4InV6_iff (h : ip.length = 16) :
    ip.take 12 = v4InV6Bytes ↔ BitVec.ofNat 128 (bigEndianValue ip) >>> 32 = 0xFFFF#128 := by
  have hvalue : bigEndianValue ip =
      bigEndianValue (ip.take 12) * 2 ^ 32 + bigEndianValue (ip.drop 12) := by
    have happend := bigEndianValue_append (ip.take 12) (ip.drop 12)
    rw [List.take_append_drop, List.length_drop, h] at happend
    exact happend
  have hlow : bigEndianValue (ip.drop 12) < 2 ^ 32 := by
    have hlt := bigEndianValue_lt (ip.drop 12)
    rw [List.length_drop, h] at hlt
    exact hlt
  have hhigh : bigEndianValue ip < 2 ^ 128 := by
    have hlt := bigEndianValue_lt ip
    rw [h] at hlt
    exact hlt.trans_eq (by norm_num)
  have hprefix : bigEndianValue v4InV6Bytes = 0xFFFF := by decide
  have hlen : (ip.take 12).length = v4InV6Bytes.length := by
    rw [List.length_take, h]
    rfl
  rw [← bigEndianValue_inj hlen, hprefix, ← BitVec.toNat_inj, BitVec.toNat_ushiftRight,
    BitVec.toNat_ofNat, Nat.mod_eq_of_lt hhigh, Nat.shiftRight_eq_div_pow, hvalue]
  have hrhs : (0xFFFF#128).toNat = 0xFFFF := rfl
  omega

theorem addrOfIP_bytes16 {value : BitVec 128} (h : ¬value >>> 32 = 0xFFFF#128) :
    addrOfIP (bytes16 value) = some (.v6 value []) := by
  have hlen : (bytes16 value).length = 16 := length_bigEndian 16 _
  have hvalue : BitVec.ofNat 128 (bigEndianValue (bytes16 value)) = value := by
    rw [bytes16, bigEndianValue_bigEndian (value.isLt.trans_eq (by norm_num)), BitVec.ofNat_toNat,
      BitVec.setWidth_eq]
  have hto4 : to4 (bytes16 value) = none := by
    rw [to4, if_neg (by omega), if_neg]
    rintro ⟨-, htake⟩
    rw [take_eq_v4InV6_iff hlen, hvalue] at htake
    exact h htake
  rw [addrOfIP, hto4]
  simp only [if_pos hlen, hvalue]

end Bytes

/-! ## Text -/

section Text

def joined (sep : Char) (parts : List (List UInt8)) : List UInt8 :=
  List.intercalate [sep.toUInt8] parts

def lowerHex (n : Nat) : UInt8 := if n < 10 then .ofNat (48 + n) else .ofNat (87 + n)

/-- A group of 16 bits, without leading zeros. -/
def hexText (x : Nat) : List UInt8 :=
  (if 0x1000 ≤ x then [lowerHex (x / 0x1000)] else []) ++
    (if 0x100 ≤ x then [lowerHex (x / 0x100 % 16)] else []) ++
    (if 0x10 ≤ x then [lowerHex (x / 0x10 % 16)] else []) ++ [lowerHex (x % 16)]

/-- The longest run of at least two zero groups, and the first of them if there are several. -/
def zeroRun (groups : List Nat) : Option (Nat × Nat) :=
  (List.range groups.length).foldl (fun best i =>
    let l := ((groups.drop i).takeWhile (· = 0)).length
    if 2 ≤ l ∧ (best.map fun run => run.2 - run.1).getD 0 < l then some (i, i + l) else best) none

def string4 (ip4 : List UInt8) : List UInt8 := joined '.' (ip4.map fun b => utf8 (toString b.toNat))

def string6 (groups : List Nat) : List UInt8 :=
  match zeroRun groups with
  | none => joined ':' (groups.map hexText)
  | some (i, j) =>
      joined ':' ((groups.take i).map hexText) ++
        utf8 "::" ++ joined ':' ((groups.drop j).map hexText)

def groupsOf : List UInt8 → List Nat
  | high :: low :: rest => (256 * high.toNat + low.toNat) :: groupsOf rest
  | _ => []

/-- `IP.String`. -/
def ipString (ip : List UInt8) : List UInt8 :=
  match to4 ip with
  | some ip4 => string4 ip4
  | none =>
      if ip.length = 16 then string6 (groupsOf ip)
      else if ip = [] then utf8 "<nil>"
      else '?'.toUInt8 :: ip.flatMap fun b => [lowerHex (b.toNat / 16), lowerHex (b.toNat % 16)]

example : ipString [0x20, 1, 0xd, 0xb8, 0, 0, 0, 0, 0, 0, 0, 0, 0, 0, 0, 1] = utf8 "2001:db8::1" := by
  decide

end Text

/-! ## Reading back -/

section Groups

theorem isHex_lowerHex (h : n < 16) : isHex (lowerHex n) = true ∧ unhex (lowerHex n) = n := by
  have hall : ∀ n < 16, isHex (lowerHex n) = true ∧ unhex (lowerHex n) = n := by decide
  exact hall n h

theorem hexText_spec {x : Nat} (h : x < 0x10000) :
    (∀ b ∈ hexText x, isHex b = true) ∧ (hexText x).length ≤ 4 ∧
      (hexText x).foldl (fun n b => 16 * n + unhex b) 0 = x := by
  have h3 := isHex_lowerHex (n := x / 0x1000) (by omega)
  have h2 := isHex_lowerHex (n := x / 0x100 % 16) (by omega)
  have h1 := isHex_lowerHex (n := x / 0x10 % 16) (by omega)
  have h0 := isHex_lowerHex (n := x % 16) (by omega)
  unfold hexText
  split_ifs <;> simp [h3, h2, h1, h0] <;> omega

theorem hexText_ne_nil (x : Nat) : hexText x ≠ [] := by
  simp [hexText]

/-- A byte of a group is no separator. -/
theorem ne_of_isHex (h : isHex b = true) : b ≠ '.'.toUInt8 ∧ b ≠ ':'.toUInt8 ∧ b ≠ '%'.toUInt8 := by
  revert b
  have hall : ∀ b : UInt8, isHex b = true → b ≠ '.'.toUInt8 ∧ b ≠ ':'.toUInt8 ∧ b ≠ '%'.toUInt8 := by
    apply forall_byte
    decide +kernel
  exact fun {b} h => hall b h

theorem takeWhile_hexText {x : Nat} (h : x < 0x10000) (rest : List UInt8)
    (hrest : ∀ b ∈ rest.head?, isHex b = false) :
    (hexText x ++ rest).takeWhile isHex = hexText x ∧
      (hexText x ++ rest).dropWhile isHex = rest := by
  have hall := (hexText_spec h).1
  rw [List.takeWhile_append_of_pos hall, List.dropWhile_append_of_pos hall]
  cases rest with
  | nil => simp
  | cons b rest => simp [hrest b rfl]

/-! What the loop of `parseIPv6` does with a group: it is the last one, another follows, or an ellipsis
does. -/

section Loop

variable {fields : List Nat} {ellipsis : Option Nat} {room x : Nat} {rest : List UInt8}

theorem parseIPv6Fields_last (hx : x < 0x10000) :
    parseIPv6Fields fields ellipsis (room + 1) (hexText x) = some (fields ++ [x], ellipsis) := by
  obtain ⟨-, hlen, hvalue⟩ := hexText_spec hx
  have hdigits : ¬(hexText x = [] ∨ 4 < (hexText x).length) := by simp [hexText_ne_nil, hlen]
  obtain ⟨htake, hdrop⟩ := takeWhile_hexText hx [] (by simp)
  rw [List.append_nil] at htake hdrop
  simp only [parseIPv6Fields, htake, hdrop, hvalue, if_neg hdigits]

theorem parseIPv6Fields_next (hx : x < 0x10000) (hb : isHex b = true) :
    parseIPv6Fields fields ellipsis (room + 1) (hexText x ++ ':'.toUInt8 :: b :: rest) =
      parseIPv6Fields (fields ++ [x]) ellipsis room (b :: rest) := by
  obtain ⟨-, hlen, hvalue⟩ := hexText_spec hx
  have hdigits : ¬(hexText x = [] ∨ 4 < (hexText x).length) := by simp [hexText_ne_nil, hlen]
  have hcolon : isHex ':'.toUInt8 = false ∧ ':'.toUInt8 ≠ '.'.toUInt8 := by decide
  obtain ⟨htake, hdrop⟩ := takeWhile_hexText hx (':'.toUInt8 :: b :: rest) (by simp [hcolon.1])
  rw [parseIPv6Fields, htake, hdrop, hvalue, if_neg hdigits]
  simp [hcolon.2, (ne_of_isHex hb).2.1]

theorem parseIPv6Fields_ellipsis (hx : x < 0x10000) :
    parseIPv6Fields fields none (room + 1) (hexText x ++ ':'.toUInt8 :: ':'.toUInt8 :: rest) =
      if rest = [] then some (fields ++ [x], some (fields ++ [x]).length)
      else parseIPv6Fields (fields ++ [x]) (some (fields ++ [x]).length) room rest := by
  obtain ⟨-, hlen, hvalue⟩ := hexText_spec hx
  have hdigits : ¬(hexText x = [] ∨ 4 < (hexText x).length) := by simp [hexText_ne_nil, hlen]
  have hcolon : isHex ':'.toUInt8 = false ∧ ':'.toUInt8 ≠ '.'.toUInt8 := by decide
  obtain ⟨htake, hdrop⟩ :=
    takeWhile_hexText hx (':'.toUInt8 :: ':'.toUInt8 :: rest) (by simp [hcolon.1])
  rw [parseIPv6Fields, htake, hdrop, hvalue, if_neg hdigits]
  simp [hcolon.2]

end Loop

theorem joined_cons_cons (sep : Char) (x y : List UInt8) (parts : List (List UInt8)) :
    joined sep (x :: y :: parts) = x ++ sep.toUInt8 :: joined sep (y :: parts) := by
  simp [joined, List.intercalate]

theorem joined_singleton (sep : Char) (x : List UInt8) : joined sep [x] = x := by
  simp [joined, List.intercalate]

/-- The first byte of a text of groups is the first of a group. -/
theorem exists_cons_groups (hne : groups ≠ []) (hlt : ∀ x ∈ groups, x < 0x10000) :
    ∃ b rest, joined ':' (groups.map hexText) = b :: rest ∧ isHex b = true := by
  obtain ⟨x, groups, rfl⟩ := List.exists_cons_of_ne_nil hne
  obtain ⟨b, more, hx⟩ := List.exists_cons_of_ne_nil (hexText_ne_nil x)
  have hb : isHex b = true := (hexText_spec (hlt x List.mem_cons_self)).1 b (by simp [hx])
  cases groups with
  | nil => exact ⟨b, more, by rw [List.map_singleton, joined_singleton, hx], hb⟩
  | cons y groups =>
      refine ⟨b, more ++ ':'.toUInt8 :: joined ':' ((y :: groups).map hexText), ?_, hb⟩
      rw [List.map_cons, List.map_cons, joined_cons_cons, hx]
      rfl

section Groups

variable {groups after fields : List Nat} {ellipsis : Option Nat} {room : Nat}

/-- Groups up to the end of the text. -/
theorem parseIPv6Fields_groups (hne : groups ≠ []) (hlt : ∀ x ∈ groups, x < 0x10000)
    (hroom : groups.length ≤ room) :
    parseIPv6Fields fields ellipsis room (joined ':' (groups.map hexText)) =
      some (fields ++ groups, ellipsis) := by
  induction groups generalizing fields room with
  | nil => exact absurd rfl hne
  | cons x groups ih =>
      obtain ⟨hx, hlt⟩ := List.forall_mem_cons.mp hlt
      cases room with
      | zero => cases hroom
      | succ room =>
          cases groups with
          | nil => rw [List.map_singleton, joined_singleton, parseIPv6Fields_last hx]
          | cons y groups =>
              obtain ⟨b, rest, hrest, hb⟩ := exists_cons_groups (List.cons_ne_nil y groups) hlt
              rw [List.map_cons, List.map_cons, joined_cons_cons, ← List.map_cons, hrest,
                parseIPv6Fields_next hx hb, ← hrest, ih (List.cons_ne_nil y groups) hlt
                  (Nat.le_of_succ_le_succ hroom), List.append_assoc, List.singleton_append]

/-- Groups up to an ellipsis. -/
theorem parseIPv6Fields_upTo_ellipsis (hne : groups ≠ []) (hlt : ∀ x ∈ groups, x < 0x10000)
    (hlt' : ∀ x ∈ after, x < 0x10000) (hroom : groups.length + after.length ≤ room) :
    parseIPv6Fields fields none room (joined ':' (groups.map hexText) ++
        ':'.toUInt8 :: ':'.toUInt8 :: joined ':' (after.map hexText)) =
      some (fields ++ groups ++ after, some (fields ++ groups).length) := by
  induction groups generalizing fields room with
  | nil => exact absurd rfl hne
  | cons x groups ih =>
      obtain ⟨hx, hlt⟩ := List.forall_mem_cons.mp hlt
      rw [List.length_cons] at hroom
      cases room with
      | zero => omega
      | succ room =>
          cases groups with
          | nil =>
              rw [List.map_singleton, joined_singleton, parseIPv6Fields_ellipsis hx]
              cases after with
              | nil => simp [joined, List.intercalate]
              | cons y after =>
                  have hafter : joined ':' ((y :: after).map hexText) ≠ [] := by
                    obtain ⟨b, rest, hrest, -⟩ := exists_cons_groups (List.cons_ne_nil y after) hlt'
                    rw [hrest]
                    exact List.cons_ne_nil b rest
                  rw [if_neg hafter, parseIPv6Fields_groups (List.cons_ne_nil y after) hlt'
                    (by simp at hroom ⊢; omega)]
          | cons y groups =>
              obtain ⟨b, rest, hrest, hb⟩ := exists_cons_groups (List.cons_ne_nil y groups) hlt
              rw [List.map_cons, List.map_cons, joined_cons_cons, ← List.map_cons, hrest,
                List.append_assoc, List.cons_append, List.cons_append, parseIPv6Fields_next hx hb,
                ← List.cons_append, ← hrest, ih (List.cons_ne_nil y groups) hlt (by omega),
                List.append_assoc fields, List.singleton_append]

end Groups

/-! The longest run of zeros is one, and it has at least two. -/

/-- A run of at least two zero groups. -/
def IsRun (groups : List Nat) (i j : Nat) : Prop :=
  i + 2 ≤ j ∧ j ≤ groups.length ∧
    groups = groups.take i ++ List.replicate (j - i) 0 ++ groups.drop j

theorem isRun_takeWhile {i : Nat} (h : 2 ≤ ((groups.drop i).takeWhile (· = 0)).length) :
    IsRun groups i (i + ((groups.drop i).takeWhile (· = 0)).length) := by
  generalize hzeros : (groups.drop i).takeWhile (· = 0) = zeros at h ⊢
  have hsplit : groups.drop i = zeros ++ (groups.drop i).drop zeros.length := by
    have hprefix : zeros <+: groups.drop i := hzeros ▸ List.takeWhile_prefix _
    rw [List.prefix_iff_eq_append.mp hprefix]
  have hzero : zeros = List.replicate zeros.length 0 := by
    rw [List.eq_replicate_iff]
    refine ⟨rfl, fun x hx => ?_⟩
    rw [← hzeros] at hx
    simpa using List.mem_takeWhile_imp hx
  have hlen := congrArg List.length hsplit
  rw [List.length_append, List.length_drop] at hlen
  refine ⟨by omega, by omega, ?_⟩
  rw [Nat.add_sub_cancel_left, ← hzero, List.append_assoc, ← List.drop_drop, ← hsplit,
    List.take_append_drop]

theorem isRun_of_zeroRun {i j : Nat} (h : zeroRun groups = some (i, j)) : IsRun groups i j := by
  have hfold : ∀ (is : List Nat) (best : Option (Nat × Nat)),
      (∀ run ∈ best, IsRun groups run.1 run.2) →
      ∀ run ∈ is.foldl (fun best i =>
        let l := ((groups.drop i).takeWhile (· = 0)).length
        if 2 ≤ l ∧ (best.map fun run => run.2 - run.1).getD 0 < l then some (i, i + l)
        else best) best, IsRun groups run.1 run.2 := by
    intro is
    induction is with
    | nil => exact fun best hbest => hbest
    | cons k is ih =>
        intro best hbest
        refine ih _ fun run hrun => ?_
        dsimp only at hrun
        split at hrun
        · next hlong =>
            cases hrun
            exact isRun_takeWhile hlong.1
        · exact hbest run hrun
  exact hfold _ none (by simp) (i, j) h

/-- The bytes of a text of groups. -/
theorem mem_joined {sep : Char} {parts : List (List UInt8)} (h : b ∈ joined sep parts) :
    b = sep.toUInt8 ∨ ∃ part ∈ parts, b ∈ part := by
  induction parts with
  | nil => simp [joined, List.intercalate] at h
  | cons x parts ih =>
      cases parts with
      | nil =>
          rw [joined_singleton] at h
          exact .inr ⟨x, List.mem_cons_self, h⟩
      | cons y parts =>
          rw [joined_cons_cons, List.mem_append, List.mem_cons] at h
          rcases h with h | h | h
          · exact .inr ⟨x, List.mem_cons_self, h⟩
          · exact .inl h
          · rcases ih h with hsep | ⟨part, hpart, hb⟩
            · exact .inl hsep
            · exact .inr ⟨part, List.mem_cons_of_mem x hpart, hb⟩

theorem isHex_or_colon_of_mem (hlt : ∀ x ∈ groups, x < 0x10000)
    (h : b ∈ joined ':' (groups.map hexText)) : isHex b = true ∨ b = ':'.toUInt8 := by
  rcases mem_joined h with hsep | ⟨part, hpart, hb⟩
  · exact .inr hsep
  · obtain ⟨x, hx, rfl⟩ := List.mem_map.mp hpart
    exact .inl ((hexText_spec (hlt x hx)).1 b hb)

theorem utf8_ellipsis : utf8 "::" = [':'.toUInt8, ':'.toUInt8] := by decide

theorem cut_zone (h : ∀ b ∈ s, isHex b = true ∨ b = ':'.toUInt8) :
    cut '%'.toUInt8 s = (s, none) := by
  apply cut_of_not_mem
  intro hmem
  rcases h _ hmem with hhex | hcolon
  · exact (ne_of_isHex hhex).2.2 rfl
  · exact absurd hcolon (by decide)

/-- A text that begins with an ellipsis. -/
theorem parseIPv6_leading (hbytes : ∀ b ∈ s, isHex b = true ∨ b = ':'.toUInt8)
    (h : (if s = [] then some (List.replicate 8 0)
      else parseIPv6Fields [] (some 0) 8 s >>= expand) = some fields) :
    parseIPv6 (':'.toUInt8 :: ':'.toUInt8 :: s) =
      some (.v6 (.ofNat 128 (fields.foldl (fun n group => 65536 * n + group) 0)) []) := by
  have hcut : cut '%'.toUInt8 (':'.toUInt8 :: ':'.toUInt8 :: s) =
      (':'.toUInt8 :: ':'.toUInt8 :: s, none) := by
    apply cut_zone
    intro b hb
    rcases List.mem_cons.mp hb with rfl | hb
    · exact .inr rfl
    · rcases List.mem_cons.mp hb with rfl | hb
      · exact .inr rfl
      · exact hbytes b hb
  simp only [parseIPv6, hcut, List.take_succ_cons, List.take_zero, List.drop_succ_cons,
    List.drop_zero, true_and, reduceIte]
  split at h
  · next hs =>
      cases h
      simp [hs]
  · next hs =>
      simp only [hs, if_false, h]
      simp

/-- A text that begins with a group. -/
theorem parseIPv6_group (hbytes : ∀ b ∈ s, isHex b = true ∨ b = ':'.toUInt8)
    (hfirst : ∃ b rest, s = b :: rest ∧ isHex b)
    (h : (parseIPv6Fields [] none 8 s >>= expand) = some fields) :
    parseIPv6 s =
      some (.v6 (.ofNat 128 (fields.foldl (fun n group => 65536 * n + group) 0)) []) := by
  have hlead : ¬s.take 2 = [':'.toUInt8, ':'.toUInt8] := by
    obtain ⟨b, rest, rfl, hb⟩ := hfirst
    intro htake
    exact (ne_of_isHex hb).2.1 (List.cons.inj htake).1
  simp only [parseIPv6, cut_zone hbytes, hlead, false_and, if_false, h]
  simp

theorem expand_run {before after : List Nat} {l : Nat} (hl : 1 ≤ l)
    (hlen : before.length + l + after.length = 8) :
    expand (before ++ after, some before.length) =
      some (before ++ List.replicate l 0 ++ after) := by
  have hshort : (before ++ after).length < 8 := by
    rw [List.length_append]
    omega
  have hzeros : 8 - (before ++ after).length = l := by
    rw [List.length_append]
    omega
  simp only [expand, if_pos hshort, hzeros, List.take_left, List.drop_left]

/-- `parseIPv6` reads eight groups back. -/
theorem parseIPv6_string6 (hlen : groups.length = 8) (hlt : ∀ x ∈ groups, x < 0x10000) :
    parseIPv6 (string6 groups) =
      some (.v6 (.ofNat 128 (groups.foldl (fun n group => 65536 * n + group) 0)) []) := by
  unfold string6
  cases hrun : zeroRun groups with
  | none =>
      have hne : groups ≠ [] := List.ne_nil_of_length_eq_add_one hlen
      apply parseIPv6_group (fun b hb => isHex_or_colon_of_mem hlt hb) (exists_cons_groups hne hlt)
      simp [parseIPv6Fields_groups hne hlt hlen.le, expand, hlen]
  | some run =>
      obtain ⟨i, j⟩ := run
      obtain ⟨hij, hj, hsplit⟩ := isRun_of_zeroRun hrun
      have hbefore : ∀ x ∈ groups.take i, x < 0x10000 := fun x hx => hlt x (List.mem_of_mem_take hx)
      have hafter : ∀ x ∈ groups.drop j, x < 0x10000 := fun x hx => hlt x (List.mem_of_mem_drop hx)
      have htake : (groups.take i).length = i := List.length_take_of_le (by omega)
      have hdrop : (groups.drop j).length = 8 - j := by rw [List.length_drop, hlen]
      dsimp only
      generalize groups.take i = before at *
      generalize groups.drop j = after at *
      have hexpand : expand (before ++ after, some before.length) = some groups := by
        rw [hsplit]
        exact expand_run (by omega) (by omega)
      rw [utf8_ellipsis, List.append_assoc, List.cons_append, List.singleton_append]
      cases before with
      | nil =>
          refine parseIPv6_leading (fun b hb => isHex_or_colon_of_mem hafter hb) ?_
          cases after with
          | nil =>
              have hnone : joined ':' (([] : List Nat).map hexText) = [] := rfl
              rw [if_pos hnone, hsplit, List.nil_append, List.append_nil]
              congr 2
              rw [List.length_nil] at htake hdrop
              omega
          | cons y after =>
              obtain ⟨b, rest, hrest, -⟩ := exists_cons_groups (List.cons_ne_nil y after) hafter
              rw [if_neg (by rw [hrest]; exact List.cons_ne_nil b rest),
                parseIPv6Fields_groups (List.cons_ne_nil y after) hafter (by omega)]
              exact hexpand
      | cons x before =>
          have hne : x :: before ≠ [] := List.cons_ne_nil x before
          obtain ⟨b, rest, hrest, hb⟩ := exists_cons_groups hne hbefore
          refine parseIPv6_group ?_ ⟨b, _, by rw [hrest]; rfl, hb⟩ ?_
          · intro b hb
            rw [List.mem_append, List.mem_cons, List.mem_cons] at hb
            rcases hb with hb | rfl | rfl | hb
            · exact isHex_or_colon_of_mem hbefore hb
            · exact .inr rfl
            · exact .inr rfl
            · exact isHex_or_colon_of_mem hafter hb
          · rw [parseIPv6Fields_upTo_ellipsis hne hbefore hafter (by omega)]
            exact hexpand

end Groups

section Dotted

/-- The loop of `parseIPv4Fields` over the digits of one field: the value and the number of digits. -/
def dotDigits (val digLen : Nat) : List UInt8 → Option (Nat × Nat)
  | [] => some (val, digLen)
  | b :: s =>
      if isDigit b ∧ ¬(digLen = 1 ∧ val = 0) ∧ 10 * val + digitValue b ≤ 255 then
        dotDigits (10 * val + digitValue b) (digLen + 1) s
      else none

theorem parseIPv4Fields_digits {digits rest : List UInt8} {val digLen v n : Nat}
    (h : dotDigits val digLen digits = some (v, n)) :
    parseIPv4Fields fields val digLen (digits ++ rest) = parseIPv4Fields fields v n rest := by
  induction digits generalizing val digLen with
  | nil =>
      cases h
      rfl
  | cons b digits ih =>
      rw [dotDigits] at h
      split at h
      · next hb =>
          obtain ⟨hdigit, hzero, hle⟩ := hb
          rw [List.cons_append, parseIPv4Fields, if_pos hdigit, if_neg hzero,
            if_neg (Nat.not_lt.mpr hle), ih h]
      · cases h

theorem dotDigits_toString (b : UInt8) :
    dotDigits 0 0 (utf8 (toString b.toNat)) =
      some (b.toNat, (utf8 (toString b.toNat)).length) := by
  revert b
  apply forall_byte
  decide +kernel

/-- A field, and the dot behind it. -/
theorem parseIPv4Fields_dot (hfields : fields.length < 3) (b : UInt8) {rest : List UInt8}
    (hrest : rest ≠ []) :
    parseIPv4Fields fields 0 0 (utf8 (toString b.toNat) ++ '.'.toUInt8 :: rest) =
      parseIPv4Fields (fields ++ [b.toNat]) 0 0 rest := by
  have hdigits : ¬((utf8 (toString b.toNat)).length = 0 ∨ rest = []) := by
    rw [List.length_eq_zero_iff, not_or]
    exact ⟨toString_ne_nil _, hrest⟩
  have hdot : ¬isDigit '.'.toUInt8 := by decide
  rw [parseIPv4Fields_digits (dotDigits_toString b), parseIPv4Fields, if_neg hdot, if_pos rfl,
    if_neg hdigits, if_neg (by omega)]

theorem parseIPv4Fields_last (hfields : fields.length = 3) (b : UInt8) :
    parseIPv4Fields fields 0 0 (utf8 (toString b.toNat)) = some (fields ++ [b.toNat]) := by
  rw [← List.append_nil (utf8 _), parseIPv4Fields_digits (dotDigits_toString b), parseIPv4Fields,
    if_neg (by omega)]

theorem parseIPv4_string4 (h : ip4.length = 4) :
    parseIPv4 (string4 ip4) = some (.v4 (.ofNat 32 (bigEndianValue ip4))) := by
  obtain ⟨a, b, c, d, rfl⟩ : ∃ a b c d, ip4 = [a, b, c, d] := by
    match ip4, h with
    | [a, b, c, d], _ => exact ⟨a, b, c, d, rfl⟩
  have hfields : parseIPv4Fields [] 0 0 (string4 [a, b, c, d]) =
      some [a.toNat, b.toNat, c.toNat, d.toNat] := by
    have hne : ∀ b : UInt8, utf8 (toString b.toNat) ≠ [] := fun b => toString_ne_nil _
    simp only [string4, List.map_cons, List.map_nil, joined_cons_cons, joined_singleton]
    rw [parseIPv4Fields_dot (by decide) a (by simp), parseIPv4Fields_dot (by simp) b (by simp),
      parseIPv4Fields_dot (by simp) c (hne d), parseIPv4Fields_last (by simp) d]
    rfl
  rw [parseIPv4, hfields]
  rfl

end Dotted

section Whole

/-- The first separator of a text whose only separators are of one kind. -/
theorem find_separator {sep : UInt8} {p : UInt8 → Bool} (hmem : sep ∈ s) (hsep : p sep = true)
    (honly : ∀ b ∈ s, p b = true → b = sep) : s.find? p = some sep := by
  cases hfind : s.find? p with
  | none => exact absurd hsep (List.find?_eq_none.mp hfind sep hmem)
  | some b =>
      rw [honly b (List.mem_of_find?_eq_some hfind) (List.find?_some hfind)]

theorem mem_joined_sep {sep : Char} {x y : List UInt8} {parts : List (List UInt8)} :
    sep.toUInt8 ∈ joined sep (x :: y :: parts) := by
  rw [joined_cons_cons]
  simp

theorem isHex_or_dot_of_mem (hb : b ∈ string4 ip4) : isHex b = true ∨ b = '.'.toUInt8 := by
  rcases mem_joined hb with hdot | ⟨part, hpart, hbyte⟩
  · exact .inr hdot
  · obtain ⟨x, -, rfl⟩ := List.mem_map.mp hpart
    exact .inl (by simp [isHex, isDigit_of_mem_toString hbyte])

theorem parseAddr_string4 (h : ip4.length = 4) :
    parseAddr (string4 ip4) = some (.v4 (.ofNat 32 (bigEndianValue ip4))) := by
  have hmem : '.'.toUInt8 ∈ string4 ip4 := by
    match ip4, h with
    | [a, b, c, d], _ => exact mem_joined_sep
  have honly : ∀ b ∈ string4 ip4, ([('.' : Char), ':', '%'].any fun c => b = c.toUInt8) = true →
      b = '.'.toUInt8 := by
    intro b hb hsep
    rcases isHex_or_dot_of_mem hb with hhex | hdot
    · have := ne_of_isHex hhex
      simp_all
    · exact hdot
  rw [parseAddr, find_separator hmem (by decide) honly]
  simp only [reduceIte]
  exact parseIPv4_string4 h

theorem groupsOf_spec (bytes : List UInt8) (n : Nat) :
    (∀ x ∈ groupsOf bytes, x < 0x10000) ∧
      (bytes.length = 2 * n → (groupsOf bytes).length = n ∧
        ∀ init, (groupsOf bytes).foldl (fun n group => 65536 * n + group) init =
          bytes.foldl (fun n b => 256 * n + b.toNat) init) := by
  induction bytes using groupsOf.induct generalizing n with
  | case1 high low rest ih =>
      have hhigh := high.toNat_lt
      have hlow := low.toNat_lt
      rw [groupsOf, List.forall_mem_cons]
      refine ⟨⟨by omega, (ih 0).1⟩, fun hlen => ?_⟩
      rw [List.length_cons, List.length_cons] at hlen
      obtain ⟨hgroups, hfold⟩ := (ih (n - 1)).2 (by omega)
      refine ⟨by rw [List.length_cons, hgroups]; omega, fun init => ?_⟩
      rw [List.foldl_cons, List.foldl_cons, List.foldl_cons, hfold]
      congr 1
      ring
  | case2 bytes hshort =>
      have hnil : groupsOf bytes = [] := by
        unfold groupsOf
        split
        · next high low rest => exact absurd rfl (hshort high low rest)
        · rfl
      rw [hnil]
      refine ⟨by simp, fun hlen => ?_⟩
      match bytes, hshort with
      | [], _ => exact ⟨by simp at hlen; simp [hlen], fun _ => rfl⟩
      | [b], _ => rw [List.length_singleton] at hlen; omega
      | high :: low :: rest, hshort => exact absurd rfl (hshort high low rest)

theorem isHex_or_colon_of_mem_string6 (hlt : ∀ x ∈ groups, x < 0x10000) (hb : b ∈ string6 groups) :
    isHex b = true ∨ b = ':'.toUInt8 := by
  unfold string6 at hb
  split at hb
  · exact isHex_or_colon_of_mem hlt hb
  · next i j _ =>
      rw [List.append_assoc, List.mem_append, List.mem_append, utf8_ellipsis] at hb
      rcases hb with hb | hb | hb
      · exact isHex_or_colon_of_mem (fun x hx => hlt x (List.mem_of_mem_take hx)) hb
      · exact .inr (by simpa using hb)
      · exact isHex_or_colon_of_mem (fun x hx => hlt x (List.mem_of_mem_drop hx)) hb

theorem parseAddr_string6 (h : ip.length = 16) :
    parseAddr (string6 (groupsOf ip)) = some (.v6 (.ofNat 128 (bigEndianValue ip)) []) := by
  obtain ⟨hlt, hgroups⟩ := groupsOf_spec ip 8
  obtain ⟨hlen, hfold⟩ := hgroups h
  have hvalue : (groupsOf ip).foldl (fun n group => 65536 * n + group) 0 = bigEndianValue ip :=
    hfold 0
  have hparse := parseIPv6_string6 hlen hlt
  rw [hvalue] at hparse
  have honly : ∀ b ∈ string6 (groupsOf ip), isHex b = true ∨ b = ':'.toUInt8 :=
    fun b hb => isHex_or_colon_of_mem_string6 hlt hb
  have hmem : ':'.toUInt8 ∈ string6 (groupsOf ip) := by
    unfold string6
    split
    · match groupsOf ip, hlen with
      | x :: y :: groups, _ => exact mem_joined_sep
    · rw [utf8_ellipsis]
      simp
  rw [parseAddr, find_separator hmem (by decide) fun b hb hsep => ?_]
  · have hdot : ':'.toUInt8 ≠ '.'.toUInt8 := by decide
    simp only [hdot, if_false, reduceIte]
    exact hparse
  · rcases honly b hb with hhex | hcolon
    · have := ne_of_isHex hhex
      simp_all
    · exact hcolon

/-- `net.ParseIP` reads back what `IP.String` writes. -/
theorem parseIP_ipString {addr : Addr} (h : addrOfIP ip = some addr) :
    parseIP (ipString ip) = some addr := by
  unfold addrOfIP at h
  unfold ipString
  cases hto4 : to4 ip with
  | some ip4 =>
      rw [hto4] at h
      cases h
      simp only [parseIP, parseAddr_string4 (length_of_to4 hto4), Option.map_some, Addr.unmap]
  | none =>
      rw [hto4] at h
      dsimp only at h ⊢
      split at h
      · next hlen =>
          cases h
          have hmapped : ¬BitVec.ofNat 128 (bigEndianValue ip) >>> 32 = 0xFFFF#128 := by
            rw [← take_eq_v4InV6_iff hlen]
            intro htake
            rw [to4, if_neg (by omega), if_pos ⟨hlen, htake⟩] at hto4
            cases hto4
          rw [if_pos hlen, parseIP, parseAddr_string6 hlen]
          simp only [Option.map_some, Addr.unmap, if_neg hmapped]
      · cases h

/-- The text of an address has no bracket. -/
theorem not_mem_ipString {addr : Addr} (h : addrOfIP ip = some addr) :
    '['.toUInt8 ∉ ipString ip ∧ ']'.toUInt8 ∉ ipString ip := by
  have hbyte : ∀ b ∈ ipString ip, isHex b = true ∨ b = '.'.toUInt8 ∨ b = ':'.toUInt8 := by
    intro b hb
    unfold addrOfIP at h
    unfold ipString at hb
    cases hto4 : to4 ip with
    | some ip4 =>
        rw [hto4] at hb
        exact (isHex_or_dot_of_mem hb).imp_right .inl
    | none =>
        rw [hto4] at hb h
        by_cases hlen : ip.length = 16
        · simp only [if_pos hlen] at hb
          exact (isHex_or_colon_of_mem_string6 (groupsOf_spec ip 8).1 hb).imp_right .inr
        · simp only [if_neg hlen] at h
          cases h
  exact ⟨fun hmem => absurd (hbyte _ hmem) (by decide), fun hmem => absurd (hbyte _ hmem) (by decide)⟩

/-- An address that `net.ParseIP` gives is the address of its bytes. -/
theorem addrOfIP_of_parseIP_v6 {value : BitVec 128} {zone : List UInt8}
    (h : parseIP s = some (.v6 value zone)) : addrOfIP (bytes16 value) = some (.v6 value zone) := by
  unfold parseIP at h
  split at h
  · cases h
  · next addr hzone =>
      obtain ⟨addr', haddr, hunmap⟩ := Option.map_eq_some_iff.mp h
      cases addr' with
      | v4 value' => cases hunmap
      | v6 value' zone' =>
          rw [Addr.unmap] at hunmap
          split at hunmap
          · cases hunmap
          · next hmapped =>
              cases hunmap
              cases zone with
              | nil => exact addrOfIP_bytes16 hmapped
              | cons b zone => exact absurd haddr (hzone value b zone)

end Whole

/-! ## Host and port -/

section HostPort

variable {host port : List UInt8}

/-- `net.JoinHostPort`, on bytes. -/
def joinBytes (host port : List UInt8) : List UInt8 :=
  if ':'.toUInt8 ∈ host then '['.toUInt8 :: host ++ ']'.toUInt8 :: ':'.toUInt8 :: port
  else host ++ ':'.toUInt8 :: port

/-- A host that `SplitHostPort` gives has no bracket. -/
theorem not_mem_of_split {addr : List UInt8} (h : splitHostPort addr = some (host, port)) :
    '['.toUInt8 ∉ host ∧ ']'.toUInt8 ∉ host := by
  unfold splitHostPort at h
  cases hlast : cutLast ':'.toUInt8 addr with
  | none => simp [hlast] at h
  | some sides =>
      obtain ⟨before, port'⟩ := sides
      obtain ⟨hsplit, -⟩ := eq_append_of_cutLast hlast
      simp only [hlast, Option.bind_eq_bind, Option.bind_some] at h
      split at h
      · split at h
        · cases h
        · next host' after hcut =>
            obtain ⟨htail, hclose⟩ := append_of_cut hcut
            split at h
            · cases h
            · split at h
              · cases h
              · next hbrackets =>
                  cases h
                  rw [not_or, htail, List.mem_append, not_or] at hbrackets
                  exact ⟨hbrackets.1.1, hclose⟩
      · split at h
        · cases h
        · split at h
          · cases h
          · next hbrackets =>
              cases h
              rw [hsplit, not_or, List.mem_append, List.mem_append, not_or, not_or] at hbrackets
              exact ⟨hbrackets.1.1, hbrackets.2.1⟩

/-- `SplitHostPort` takes apart what `JoinHostPort` puts together. -/
theorem split_joinBytes (hopen : '['.toUInt8 ∉ host) (hclose : ']'.toUInt8 ∉ host)
    (hport : ∀ b ∈ port, isDigit b = true) :
    splitHostPort (joinBytes host port) = some (host, port) := by
  have hcolon : ':'.toUInt8 ∉ port := fun h => absurd (hport _ h) (by decide)
  have hopen' : '['.toUInt8 ∉ port := fun h => absurd (hport _ h) (by decide)
  have hclose' : ']'.toUInt8 ∉ port := fun h => absurd (hport _ h) (by decide)
  have hne : '['.toUInt8 ≠ ']'.toUInt8 ∧ '['.toUInt8 ≠ ':'.toUInt8 ∧ ']'.toUInt8 ≠ ':'.toUInt8 := by
    decide
  unfold joinBytes splitHostPort
  split
  · have hlast : cutLast ':'.toUInt8 ('['.toUInt8 :: host ++ ']'.toUInt8 :: ':'.toUInt8 :: port) =
        some ('['.toUInt8 :: host ++ [']'.toUInt8], port) := by
      rw [← cutLast_append hcolon, List.append_assoc, List.singleton_append]
    have hcut : cut ']'.toUInt8 (host ++ ']'.toUInt8 :: ':'.toUInt8 :: port) =
        (host, some (':'.toUInt8 :: port)) := cut_append hclose
    rw [List.cons_append] at hlast ⊢
    rw [hlast]
    simp [hcut, hopen, hopen', hclose', hne.1, hne.2.1, hne.2.2]
  · next hplain =>
      have hlast : cutLast ':'.toUInt8 (host ++ ':'.toUInt8 :: port) = some (host, port) :=
        cutLast_append hcolon
      have hhead : (host ++ ':'.toUInt8 :: port).head? ≠ some '['.toUInt8 := by
        cases host with
        | nil => exact fun h => hne.2.1 (Option.some.inj h).symm
        | cons b host =>
            intro h
            exact hopen (by simp [Option.some.inj h])
      simp only [hlast, Option.bind_eq_bind, Option.bind_some, if_neg hhead]
      simp [hplain, hopen, hopen', hclose, hclose', hne.2.1, hne.2.2]

end HostPort

end Net
