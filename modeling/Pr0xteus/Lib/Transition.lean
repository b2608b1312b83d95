import Mathlib.Data.List.Induction

/-!
# Runs of a step function

A system is a partial step function `step : σ → α → Option σ`; an action is enabled where it is
defined. A run is the list of its edges. `edges` computes it from a list of actions, and `Path` is
the same thing as a relation, which is the form the induction rules are stated for: an invariant of
the states, an invariant under a condition on the edges, and an invariant of a state together with
the edges that led to it. What is seen of a run is a `filterMap` of its edges.
-/

namespace Transition

universe u v

/-- One step taken: the state before it, the action, and the state after it. -/
structure Edge (σ : Type u) (α : Type v) where
  source : σ
  action : α
  target : σ

variable {σ : Type u} {α : Type v} (step : σ → α → Option σ)

/-- The edges a list of actions goes through, up to the first action that is not enabled. -/
def edges : σ → List α → List (Edge σ α)
  | _, [] => []
  | s, a :: as =>
      match step s a with
      | none => []
      | some t => ⟨s, a, t⟩ :: edges t as

inductive Path : σ → List (Edge σ α) → σ → Prop
  | nil (s : σ) : Path s [] s
  | cons {s t u : σ} {a : α} {es : List (Edge σ α)} :
      step s a = some t → Path t es u → Path s (⟨s, a, t⟩ :: es) u

variable {step}

theorem exists_path_edges (s : σ) (as : List α) : ∃ t, Path step s (edges step s as) t := by
  induction as generalizing s with
  | nil => exact ⟨s, .nil s⟩
  | cons a as ih =>
      rw [edges]
      cases hstep : step s a with
      | none => exact ⟨s, .nil s⟩
      | some t =>
          obtain ⟨u, hu⟩ := ih t
          exact ⟨u, .cons hstep hu⟩

theorem path_append_iff {s u : σ} {es fs : List (Edge σ α)} :
    Path step s (es ++ fs) u ↔ ∃ t, Path step s es t ∧ Path step t fs u := by
  induction es generalizing s with
  | nil =>
      constructor
      · intro h
        exact ⟨s, .nil s, h⟩
      · rintro ⟨t, hnil, h⟩
        cases hnil
        exact h
  | cons e es ih =>
      constructor
      · intro h
        cases h with
        | cons hstep htail =>
            obtain ⟨t, hes, hfs⟩ := ih.mp htail
            exact ⟨t, .cons hstep hes, hfs⟩
      · rintro ⟨t, hes, hfs⟩
        cases hes with
        | cons hstep htail => exact .cons hstep (ih.mpr ⟨t, htail, hfs⟩)

/-- Where a run ends that starts in `s`. -/
def final (s : σ) (es : List (Edge σ α)) : σ := (es.getLast?.map Edge.target).getD s

theorem final_cons (s : σ) (e : Edge σ α) (es : List (Edge σ α)) :
    final s (e :: es) = final e.target es := by
  unfold final
  cases es with
  | nil => rfl
  | cons f es => simp [List.getLast?_cons]

theorem Path.eq_final {s t : σ} {es : List (Edge σ α)} (h : Path step s es t) : t = final s es := by
  induction h with
  | nil s => rfl
  | cons hstep htail ih => rw [ih, final_cons]

/-- Cutting a run at one of its edges: the edge was enabled, and both halves are runs. -/
theorem Path.split {s u : σ} {es fs : List (Edge σ α)} {e : Edge σ α}
    (h : Path step s (es ++ e :: fs) u) :
    Path step s es e.source ∧ step e.source e.action = some e.target ∧
      Path step e.target fs u := by
  obtain ⟨t, hes, hrest⟩ := path_append_iff.mp h
  cases hrest with
  | cons hstep htail => exact ⟨hes, hstep, htail⟩

theorem Path.enabled {s t : σ} {es : List (Edge σ α)} (h : Path step s es t) {e : Edge σ α}
    (he : e ∈ es) : step e.source e.action = some e.target := by
  obtain ⟨front, back, rfl⟩ := List.append_of_mem he
  exact h.split.2.1

theorem Path.cut {s u : σ} {es : List (Edge σ α)} (h : Path step s es u) {j : Nat} {e : Edge σ α}
    (he : es[j]? = some e) :
    Path step s (es.take j) e.source ∧ step e.source e.action = some e.target ∧
      Path step e.target (es.drop (j + 1)) u := by
  obtain ⟨hlt, rfl⟩ := List.getElem?_eq_some_iff.mp he
  apply Path.split
  rw [← List.drop_eq_getElem_cons hlt, List.take_append_drop]
  exact h

theorem Path.take {s u : σ} {es : List (Edge σ α)} (h : Path step s es u) {j : Nat} {e : Edge σ α}
    (he : es[j]? = some e) : Path step s (es.take (j + 1)) e.target := by
  obtain ⟨hfront, hstep, -⟩ := h.cut he
  rw [List.take_add_one, he]
  exact path_append_iff.mpr ⟨e.source, hfront, .cons hstep (.nil _)⟩

/-- The part of a run that ends with one of its edges. -/
theorem Path.upTo {s u : σ} {es : List (Edge σ α)} (h : Path step s es u) {e : Edge σ α}
    (he : e ∈ es) : ∃ fs, Path step s fs e.target ∧ fs ⊆ es := by
  obtain ⟨front, back, rfl⟩ := List.append_of_mem he
  obtain ⟨hfront, hstep, -⟩ := h.split
  refine ⟨front ++ [e], path_append_iff.mpr ⟨e.source, hfront, .cons hstep (.nil _)⟩, ?_⟩
  exact List.append_subset.mpr ⟨List.subset_append_left _ _, by simp⟩

theorem Path.between {s u : σ} {es : List (Edge σ α)} (h : Path step s es u) {j k : Nat}
    {e f : Edge σ α} (hjk : j < k) (he : es[j]? = some e) (hf : es[k]? = some f) :
    ∃ fs, Path step e.target fs f.source ∧ ∀ g ∈ fs, ∃ l, j < l ∧ l < k ∧ es[l]? = some g := by
  have hf' : (es.drop (j + 1))[k - (j + 1)]? = some f := by
    rw [List.getElem?_drop, Nat.add_sub_cancel' hjk, hf]
  refine ⟨_, ((h.cut he).2.2.cut hf').1, fun g hg => ?_⟩
  obtain ⟨l, hl, hget⟩ := List.mem_take_iff_getElem.mp hg
  refine ⟨j + 1 + l, by omega, by omega, ?_⟩
  rw [← List.getElem?_drop, List.getElem?_eq_some_iff]
  exact ⟨by omega, hget⟩

/-- **Induction along a run.** What holds of a state together with the edges that led to it, when
it holds at the start and every enabled edge carries it on. -/
theorem Path.history_along {s t : σ} {es : List (Edge σ α)} (h : Path step s es t)
    (Hist : List (Edge σ α) → σ → Prop) (hstart : Hist [] s)
    (hstep : ∀ fs u a v, Hist fs u → step u a = some v → fs ++ [⟨u, a, v⟩] <+: es →
      Hist (fs ++ [⟨u, a, v⟩]) v) : Hist es t := by
  induction es using List.reverseRecOn generalizing t with
  | nil =>
      cases h
      exact hstart
  | append_singleton es e ih =>
      obtain ⟨hes, henabled, hlast⟩ := h.split
      cases hlast
      have hhist : Hist es e.source := ih hes fun fs u a v hfs hu hfront =>
        hstep fs u a v hfs hu (hfront.trans (List.prefix_append es _))
      exact hstep es e.source e.action e.target hhist henabled (List.prefix_refl _)

theorem Path.history {s t : σ} {es : List (Edge σ α)} (h : Path step s es t)
    (Hist : List (Edge σ α) → σ → Prop) (hstart : Hist [] s)
    (hstep : ∀ fs u a v, Hist fs u → step u a = some v → (⟨u, a, v⟩ : Edge σ α) ∈ es →
      Hist (fs ++ [⟨u, a, v⟩]) v) : Hist es t :=
  h.history_along Hist hstart fun fs u a v hfs hu hfront =>
    hstep fs u a v hfs hu (hfront.subset (List.mem_append_right _ (List.mem_singleton.mpr rfl)))

/-- An invariant that the edges of a run carry on holds where the run ends. -/
theorem Path.invariant {s t : σ} {es : List (Edge σ α)} (h : Path step s es t) (Inv : σ → Prop)
    (hstart : Inv s)
    (hstep : ∀ e ∈ es, Inv e.source → step e.source e.action = some e.target → Inv e.target) :
    Inv t :=
  h.history (fun _ => Inv) hstart fun _ u a v hu henabled hmem =>
    hstep ⟨u, a, v⟩ hmem hu henabled

/-- What does not hold at the start and holds at the end comes about in one of the steps. -/
theorem Path.exists_turning {s t : σ} {es : List (Edge σ α)} (h : Path step s es t) (P : σ → Prop)
    (hstart : ¬P s) (hend : P t) : ∃ e ∈ es, ¬P e.source ∧ P e.target := by
  by_contra hnone
  refine h.invariant (fun u => ¬P u) hstart (fun e he hsource _ htarget => ?_) hend
  exact hnone ⟨e, he, hsource, htarget⟩

theorem invariant_final {s : σ} {as : List α} (Inv : σ → Prop) (hstart : Inv s)
    (hstep : ∀ e ∈ edges step s as, Inv e.source → step e.source e.action = some e.target →
      Inv e.target) : Inv (final s (edges step s as)) := by
  obtain ⟨t, hpath⟩ : ∃ t, Path step s (edges step s as) t := exists_path_edges s as
  rw [← hpath.eq_final]
  exact hpath.invariant Inv hstart hstep

theorem Path.invariant_of_mem {s t : σ} {es : List (Edge σ α)} (h : Path step s es t)
    (Inv : σ → Prop) (hstart : Inv s)
    (hstep : ∀ e ∈ es, Inv e.source → step e.source e.action = some e.target → Inv e.target)
    {e : Edge σ α} (he : e ∈ es) : Inv e.source ∧ Inv e.target := by
  obtain ⟨front, back, rfl⟩ := List.append_of_mem he
  obtain ⟨hfront, henabled, -⟩ := h.split
  have hsource : Inv e.source := hfront.invariant Inv hstart fun e' he' =>
    hstep e' (List.mem_append_left _ he')
  exact ⟨hsource, hstep e he hsource henabled⟩

/-- What holds behind one of the edges of a run, and is kept from then on, holds where it ends. -/
theorem final_of_mem {s : σ} {as : List α} (Inv : σ → Prop) {e : Edge σ α}
    (he : e ∈ edges step s as) (htarget : Inv e.target)
    (hstep : ∀ u a v, Inv u → step u a = some v → Inv v) : Inv (final s (edges step s as)) := by
  obtain ⟨t, hpath⟩ : ∃ t, Path step s (edges step s as) t := exists_path_edges s as
  rw [← hpath.eq_final]
  obtain ⟨front, back, hrun⟩ := List.append_of_mem he
  rw [hrun] at hpath
  exact hpath.split.2.2.invariant Inv htarget fun f _ hsource henabled =>
    hstep f.source f.action f.target hsource henabled

theorem enabled_of_mem {s : σ} {as : List α} {e : Edge σ α} (he : e ∈ edges step s as) :
    step e.source e.action = some e.target := by
  obtain ⟨t, hpath⟩ : ∃ t, Path step s (edges step s as) t := exists_path_edges s as
  exact hpath.enabled he

/-- An edge that shows nothing leaves what has been seen of the run as it was. -/
theorem filterMap_append_unseen {β : Type*} {see : Edge σ α → Option β} {e : Edge σ α}
    (es : List (Edge σ α)) (h : see e = none) : (es ++ [e]).filterMap see = es.filterMap see := by
  rw [List.filterMap_append, List.filterMap_cons_none h, List.filterMap_nil, List.append_nil]

end Transition
