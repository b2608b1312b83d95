import Mathlib.Algebra.Order.Ring.Int
import Mathlib.Data.Finset.Insert
import Mathlib.Data.Fintype.EquivFin
import Mathlib.Data.List.Chain
import Mathlib.Order.Bounds.Defs
import Mathlib.Order.WellFounded

/-!
# Layers of a dependency relation

`r a b` says that `a` depends on `b`. A layering puts elements into numbered layers so that every
dependency is in an earlier one and each layer after the first is needed; the layer of an element is
then the length of its longest chain of dependencies, whatever way the layers were found.

The way in which they are usually found counts, for each element, the dependencies that are not done
yet. `tick` takes one off such a counter and notes who came to zero.
-/

namespace Layering

variable {α : Type}

section Layers

variable {r : α → α → Prop}

/-- `At i a`: the element `a` is in layer `i`. -/
structure IsLayering (r : α → α → Prop) (At : Nat → α → Prop) : Prop where
  earlier : ∀ i a b, At i a → r a b → ∃ j < i, At j b
  needed : ∀ i a, At (i + 1) a → ∃ b, r a b ∧ At i b

variable {At : Nat → α → Prop}

theorem IsLayering.length_le (h : IsLayering r At) {l : List α} {a : α} {i : Nat} (ha : At i a)
    (hchain : (a :: l).IsChain r) : l.length ≤ i := by
  induction l generalizing a i with
  | nil => exact Nat.zero_le i
  | cons b l ih =>
      obtain ⟨hab, hrest⟩ := List.isChain_cons_cons.mp hchain
      obtain ⟨j, hj, hb⟩ := h.earlier i a b ha hab
      exact Nat.succ_le_of_lt (Nat.lt_of_le_of_lt (ih hb hrest) hj)

theorem IsLayering.exists_chain (h : IsLayering r At) {a : α} {i : Nat} (ha : At i a) :
    ∃ l, (a :: l).IsChain r ∧ l.length = i := by
  induction i generalizing a with
  | zero => exact ⟨[], List.isChain_singleton a, rfl⟩
  | succ i ih =>
      obtain ⟨b, hab, hb⟩ := h.needed i a ha
      obtain ⟨l, hchain, hlength⟩ := ih hb
      exact ⟨b :: l, List.isChain_cons_cons.mpr ⟨hab, hchain⟩, by rw [List.length_cons, hlength]⟩

/-- The lengths of the chains of dependencies that begin at an element. -/
def chainLengths (r : α → α → Prop) (a : α) : Set Nat := {n | ∃ l, (a :: l).IsChain r ∧ l.length = n}

theorem exists_longer {a b : α} (hab : Relation.TransGen r a b) {n : Nat}
    (hn : n ∈ chainLengths r b) : ∃ m ∈ chainLengths r a, n < m := by
  induction hab using Relation.TransGen.head_induction_on with
  | single hab =>
      obtain ⟨l, hchain, rfl⟩ := hn
      exact ⟨l.length + 1, ⟨_ :: l, List.isChain_cons_cons.mpr ⟨hab, hchain⟩, rfl⟩, Nat.lt_succ_self _⟩
  | head hac _ ih =>
      obtain ⟨m, ⟨l, hchain, rfl⟩, hlt⟩ := ih
      exact ⟨l.length + 1, ⟨_ :: l, List.isChain_cons_cons.mpr ⟨hac, hchain⟩, rfl⟩,
        Nat.lt_succ_of_lt hlt⟩

/-- **The layer of an element** is the length of its longest chain. -/
theorem IsLayering.isGreatest (h : IsLayering r At) {a : α} {i : Nat} (ha : At i a) :
    IsGreatest (chainLengths r a) i := by
  refine ⟨h.exists_chain ha, ?_⟩
  rintro n ⟨l, hchain, rfl⟩
  exact h.length_le ha hchain

theorem IsLayering.earlier_of_transGen (h : IsLayering r At) {a b : α}
    (hab : Relation.TransGen r a b) {i : Nat} (ha : At i a) : ∃ j < i, At j b := by
  induction hab with
  | single hab => exact h.earlier i a _ ha hab
  | tail _ hbc ih =>
      obtain ⟨j, hj, hb⟩ := ih
      obtain ⟨k, hk, hc⟩ := h.earlier j _ _ hb hbc
      exact ⟨k, hk.trans hj, hc⟩

theorem IsLayering.not_cyclic (h : IsLayering r At) {a : α} {i : Nat} (ha : At i a) :
    ¬Relation.TransGen r a a := by
  intro hcycle
  induction i using Nat.strong_induction_on with
  | _ i ih =>
      obtain ⟨j, hj, ha⟩ := h.earlier_of_transGen hcycle ha
      exact ih j hj ha

/-- Going on and on inside a finite set, one comes back. -/
theorem exists_cycle {S : Finset α} (hne : S.Nonempty) (hgoes : ∀ a ∈ S, ∃ b ∈ S, r a b) :
    ∃ a ∈ S, Relation.TransGen r a a := by
  by_contra hacyclic
  push Not at hacyclic
  let below : S → S → Prop := fun b a => Relation.TransGen r a b
  have htrans : IsTrans S below := ⟨fun _ _ _ hab hbc => hbc.trans hab⟩
  have hirrefl : Std.Irrefl below := ⟨fun a => hacyclic a a.2⟩
  obtain ⟨a₀, ha₀⟩ := hne
  obtain ⟨a, -, hmin⟩ :=
    (Finite.wellFounded_of_trans_of_irrefl below).has_min Set.univ ⟨⟨a₀, ha₀⟩, trivial⟩
  obtain ⟨b, hb, hab⟩ := hgoes a a.2
  exact hmin ⟨b, hb⟩ trivial (.single hab)

end Layers

section Countdown

variable [DecidableEq α] {c : α → Int} {x : α} {zeros l : List α}

/-- Take one off the counter of `x`, and note `x` if that made it zero. -/
def tick (s : (α → Int) × List α) (x : α) : (α → Int) × List α :=
  let counts := Function.update s.1 x (s.1 x - 1)
  if counts x ≠ 0 then (counts, s.2) else (counts, s.2 ++ [x])

theorem tick_fst (s : (α → Int) × List α) (x : α) :
    (tick s x).1 = Function.update s.1 x (s.1 x - 1) := by
  unfold tick
  dsimp only
  split <;> rfl

theorem tick_snd (s : (α → Int) × List α) (x : α) :
    (tick s x).2 = if s.1 x = 1 then s.2 ++ [x] else s.2 := by
  have hzero : s.1 x - 1 = 0 ↔ s.1 x = 1 := by omega
  unfold tick
  simp only [Function.update_self, ne_eq, hzero]
  split <;> simp_all

theorem foldl_tick_fst (l : List α) (c : α → Int) (zeros : List α) (x : α) :
    (l.foldl tick (c, zeros)).1 x = c x - l.count x := by
  induction l generalizing c zeros with
  | nil => simp
  | cons y l ih =>
      have hstep := ih (tick (c, zeros) y).1 (tick (c, zeros) y).2
      rw [List.foldl_cons, hstep, tick_fst, List.count_cons]
      by_cases hxy : x = y
      · subst hxy
        simp
        omega
      · simp [Function.update_of_ne hxy, Ne.symm hxy]

/-- Those whose counter the ticks bring down to zero. -/
theorem mem_foldl_tick_snd (l : List α) (c : α → Int) (zeros : List α) (x : α) :
    x ∈ (l.foldl tick (c, zeros)).2 ↔ x ∈ zeros ∨ 0 < c x ∧ c x ≤ l.count x := by
  induction l generalizing c zeros with
  | nil =>
      simp only [List.foldl_nil, List.count_nil, Nat.cast_zero]
      constructor
      · exact .inl
      · rintro (hx | ⟨hpos, hle⟩)
        · exact hx
        · omega
  | cons y l ih =>
      have hstep := ih (tick (c, zeros) y).1 (tick (c, zeros) y).2
      rw [List.foldl_cons, hstep, tick_fst, tick_snd, List.count_cons]
      by_cases hxy : x = y
      · subst hxy
        by_cases hone : c x = 1
        · simp [hone]
        · simp only [hone, if_false, Function.update_self, BEq.rfl, if_true, Nat.cast_add,
            Nat.cast_one]
          refine or_congr_right ⟨fun h => ⟨by omega, by omega⟩, fun h => ⟨by omega, by omega⟩⟩
      · have hmem : x ∈ (if c y = 1 then zeros ++ [y] else zeros) ↔ x ∈ zeros := by
          split <;> simp [hxy]
        simp [hmem, Function.update_of_ne hxy, Ne.symm hxy]

theorem nodup_foldl_tick_snd (hnodup : zeros.Nodup) (hzeros : ∀ x ∈ zeros, c x ≤ 0) :
    (l.foldl tick (c, zeros)).2.Nodup := by
  induction l generalizing c zeros with
  | nil => exact hnodup
  | cons y l ih =>
      rw [List.foldl_cons]
      have hstep : (tick (c, zeros) y).2.Nodup ∧
          ∀ x ∈ (tick (c, zeros) y).2, (tick (c, zeros) y).1 x ≤ 0 := by
        rw [tick_fst, tick_snd]
        by_cases hone : c y = 1
        · have hy : y ∉ zeros := fun hy => by
            have hle := hzeros y hy
            omega
          simp only [hone, if_true]
          refine ⟨List.nodup_append.mpr ⟨hnodup, List.nodup_singleton y, ?_⟩, fun x hx => ?_⟩
          · rintro a ha b hb rfl
            exact hy (List.mem_singleton.mp hb ▸ ha)
          · rcases List.mem_append.mp hx with hx | hx
            · have hxy : x ≠ y := fun h => hy (h ▸ hx)
              rw [Function.update_of_ne hxy]
              exact hzeros x hx
            · rw [List.mem_singleton.mp hx, Function.update_self]
              omega
        · simp only [hone, if_false]
          refine ⟨hnodup, fun x hx => ?_⟩
          have hle := hzeros x hx
          by_cases hxy : x = y
          · subst hxy
            rw [Function.update_self]
            omega
          · rw [Function.update_of_ne hxy]
            exact hle
      exact ih hstep.1 hstep.2

end Countdown

end Layering
