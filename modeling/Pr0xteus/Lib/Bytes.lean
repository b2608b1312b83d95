import Pr0xteus.Lib.Encoding

/-!
# Byte strings

A Go string is a sequence of bytes, and its parsers cut it at bytes: at the first or at the last
occurrence of a separator. The cuts are over any type with a decidable equality. A text is recovered
from its bytes where they are UTF-8.
-/

namespace Bytes

open Encoding

def text? (bytes : List UInt8) : Option String := String.fromUTF8? ⟨bytes.toArray⟩

theorem text?_utf8 (s : String) : text? (utf8 s) = some s := by
  have hbytes : (⟨(utf8 s).toArray⟩ : ByteArray) = s.toByteArray := rfl
  rw [text?, hbytes, String.fromUTF8?, dif_pos s.isValidUTF8]
  rfl

theorem utf8_append (s t : String) : utf8 (s ++ t) = utf8 s ++ utf8 t := by
  simp [utf8]

/-- ASCII characters are their own bytes. -/
theorem utf8_ofList_ascii {cs : List Char} (h : ∀ c ∈ cs, c.toNat < 128) :
    utf8 (String.ofList cs) = cs.map Char.toUInt8 := by
  have hutf8 : utf8 (String.ofList cs) = cs.flatMap String.utf8EncodeChar := by
    simp [utf8, List.utf8Encode]
  rw [hutf8]
  clear hutf8
  induction cs with
  | nil => rfl
  | cons c cs ih =>
      rw [List.flatMap_cons, ih fun d hd => h d (List.mem_cons_of_mem _ hd), List.map_cons]
      have hc : c.val.toNat ≤ 127 := Nat.le_of_lt_succ (h c List.mem_cons_self)
      rw [String.utf8EncodeChar, if_pos hc]
      rfl

theorem utf8_injective : Function.Injective utf8 := by
  intro s t h
  have htext := congrArg text? h
  rwa [text?_utf8, text?_utf8, Option.some.injEq] at htext

/-- What holds of each of the 256 bytes, by evaluation. -/
theorem forall_byte {p : UInt8 → Prop} [DecidablePred p]
    (h : (List.range 256).all (fun n => decide (p (UInt8.ofNat n))) = true) (b : UInt8) : p b := by
  have hb := List.all_eq_true.mp h b.toNat (List.mem_range.mpr b.toNat_lt)
  rw [UInt8.ofNat_toNat] at hb
  exact of_decide_eq_true hb

theorem char_of_byte (b : UInt8) :
    (Char.ofNat b.toNat).toNat = b.toNat ∧ (Char.ofNat b.toNat).toUInt8 = b := by
  revert b
  apply forall_byte
  decide +kernel

section Cut

variable {α : Type} [DecidableEq α] {sep : α} {s a b : List α}

/-- `strings.Cut` at a single byte: what is before the first separator, and what is after it. -/
def cut (sep : α) : List α → List α × Option (List α)
  | [] => ([], none)
  | x :: s => if x = sep then ([], some s) else (x :: (cut sep s).1, (cut sep s).2)

/-- The two sides of the last separator, as `strings.LastIndexByte` finds it. -/
def cutLast (sep : α) : List α → Option (List α × List α)
  | [] => none
  | x :: s =>
      match cutLast sep s with
      | some (a, b) => some (x :: a, b)
      | none => if x = sep then some ([], s) else none

theorem cut_append (h : sep ∉ a) : cut sep (a ++ sep :: b) = (a, some b) := by
  induction a with
  | nil => simp [cut]
  | cons x a ih =>
      obtain ⟨hx, ha⟩ := not_or.mp (mt List.mem_cons.mpr h)
      simp [cut, Ne.symm hx, ih ha]

theorem cut_of_not_mem (h : sep ∉ s) : cut sep s = (s, none) := by
  induction s with
  | nil => rfl
  | cons x s ih =>
      obtain ⟨hx, hs⟩ := not_or.mp (mt List.mem_cons.mpr h)
      simp [cut, Ne.symm hx, ih hs]

/-- What is before the first separator does not have it. -/
theorem append_of_cut (h : cut sep s = (a, some b)) : s = a ++ sep :: b ∧ sep ∉ a := by
  induction s generalizing a with
  | nil => cases h
  | cons x s ih =>
      simp only [cut] at h
      split at h
      · next hx =>
          cases h
          exact ⟨by rw [hx, List.nil_append], List.not_mem_nil⟩
      · next hx =>
          obtain ⟨rfl, hb⟩ := Prod.mk.inj h
          obtain ⟨heq, hmem⟩ := ih (Prod.ext rfl hb)
          constructor
          · rw [List.cons_append, ← heq]
          · rw [List.mem_cons, not_or]
            exact ⟨Ne.symm hx, hmem⟩

theorem eq_append_of_cut (h : cut sep s = (a, some b)) : s = a ++ sep :: b := (append_of_cut h).1

theorem cutLast_eq_none_iff : cutLast sep s = none ↔ sep ∉ s := by
  induction s with
  | nil => simp [cutLast]
  | cons x s ih =>
      simp only [cutLast, List.mem_cons, not_or, ← ih]
      cases cutLast sep s with
      | some cut => simp
      | none => simp [eq_comm]

theorem cutLast_append (h : sep ∉ b) : cutLast sep (a ++ sep :: b) = some (a, b) := by
  induction a with
  | nil => simp [cutLast, cutLast_eq_none_iff.mpr h]
  | cons x a ih => simp [cutLast, ih]

theorem eq_append_of_cutLast (h : cutLast sep s = some (a, b)) : s = a ++ sep :: b ∧ sep ∉ b := by
  induction s generalizing a with
  | nil => cases h
  | cons x s ih =>
      simp only [cutLast] at h
      split at h
      · next a' b' hcut =>
          cases h
          obtain ⟨hs, hmem⟩ := ih hcut
          exact ⟨by rw [List.cons_append, ← hs], hmem⟩
      · next hcut =>
          split at h
          · next hx =>
              cases h
              exact ⟨by rw [hx, List.nil_append], cutLast_eq_none_iff.mp hcut⟩
          · cases h

omit [DecidableEq α] in
/-- Two texts around a separator are one text: the same cut, or a cut at another separator. -/
theorem append_cons_eq_append_cons_iff {a' b' : List α} :
    a ++ sep :: b = a' ++ sep :: b' ↔ (a = a' ∧ b = b') ∨
      (∃ mid, a = a' ++ sep :: mid ∧ b' = mid ++ sep :: b) ∨
      (∃ mid, a' = a ++ sep :: mid ∧ b = mid ++ sep :: b') := by
  constructor
  · intro h
    obtain ⟨mid, ha', hb⟩ | ⟨mid, ha, hb'⟩ := List.append_eq_append_iff.mp h
    · obtain ⟨rfl, htail⟩ | ⟨mid', rfl, htail⟩ := List.cons_eq_append_iff.mp hb
      · cases htail
        exact .inl ⟨by rw [ha', List.append_nil], rfl⟩
      · exact .inr (.inr ⟨mid', ha', htail⟩)
    · obtain ⟨rfl, htail⟩ | ⟨mid', rfl, htail⟩ := List.cons_eq_append_iff.mp hb'
      · cases htail
        exact .inl ⟨by rw [ha, List.append_nil], rfl⟩
      · exact .inr (.inl ⟨mid', ha, htail⟩)
  · rintro (⟨rfl, rfl⟩ | ⟨mid, rfl, rfl⟩ | ⟨mid, rfl, rfl⟩)
    · rfl
    · rw [List.append_assoc, List.cons_append]
    · rw [List.append_assoc, List.cons_append]

end Cut

section Pieces

variable {α : Type} [DecidableEq α] {sep : α}

theorem not_mem_of_mem_splitOn {s piece : List α} (hpiece : piece ∈ s.splitOn sep) :
    sep ∉ piece := by
  induction s generalizing piece with
  | nil =>
      rw [List.splitOn_nil, List.mem_singleton] at hpiece
      simp [hpiece]
  | cons c s ih =>
      rw [List.splitOn_cons_eq_if_modifyHead] at hpiece
      split at hpiece
      · rcases List.mem_cons.mp hpiece with rfl | hpiece
        · simp
        · exact ih hpiece
      · next hc =>
          obtain ⟨first, rest, hs⟩ := List.exists_cons_of_ne_nil (List.splitOn_ne_nil sep s)
          rw [hs, List.modifyHead_cons] at hpiece
          rcases List.mem_cons.mp hpiece with rfl | hpiece
          · intro hmem
            rcases List.mem_cons.mp hmem with rfl | hmem
            · exact hc (beq_self_eq_true _)
            · exact ih (hs ▸ List.mem_cons_self) hmem
          · exact ih (hs ▸ List.mem_cons_of_mem first hpiece)

end Pieces

end Bytes
