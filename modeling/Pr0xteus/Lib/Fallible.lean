import Mathlib.Data.List.Basic

/-!
# Loops that may fail

A loop whose body returns an error ends with the first one. The rules here read off a loop that came
to its end what every pass of it did.
-/

namespace Fallible

variable {ε α β : Type} {l : List α} {result start : β} {x : Except ε α} {f : β → α → Except ε β}

theorem bind_eq_ok_iff {f : α → Except ε β} {b : β} :
    x >>= f = .ok b ↔ ∃ a, x = .ok a ∧ f a = .ok b := by
  cases x with
  | error err => exact ⟨nofun, fun ⟨_, hx, _⟩ => nomatch hx⟩
  | ok a => exact ⟨fun h => ⟨a, rfl, h⟩, fun ⟨_, hx, h⟩ => by cases hx; exact h⟩

@[simp]
theorem mapError_eq_ok_iff {ε' : Type} {f : ε → ε'} {a : α} : x.mapError f = .ok a ↔ x = .ok a := by
  cases x <;> simp [Except.mapError]

theorem ite_error_eq_ok_iff {p : Prop} [Decidable p] {err : ε} {a : α} :
    (if p then .error err else x) = .ok a ↔ ¬p ∧ x = .ok a := by
  split <;> simp_all

/-- The same where what holds speaks of the elements that the loop has gone through. -/
theorem foldlM_passed (I : List α → β → Prop) (hstart : I [] start)
    (hstep : ∀ passed acc x acc', I passed acc → f acc x = .ok acc' → I (passed ++ [x]) acc')
    (h : l.foldlM f start = .ok result) : I l result := by
  suffices hrest : ∀ (rest passed : List α) (acc : β), I passed acc →
      rest.foldlM f acc = .ok result → I (passed ++ rest) result from hrest l [] start hstart h
  intro rest
  induction rest with
  | nil =>
      intro passed acc hacc hresult
      cases hresult
      simpa using hacc
  | cons x rest ih =>
      intro passed acc hacc hresult
      rw [List.foldlM_cons, bind_eq_ok_iff] at hresult
      obtain ⟨acc', hacc', hresult⟩ := hresult
      rw [List.append_cons]
      exact ih _ _ (hstep _ _ _ _ hacc hacc') hresult

/-- A loop comes to its end where no element stops it. -/
theorem exists_foldlM_eq_ok_iff {p : α → Prop} (hpass : ∀ acc x, (∃ acc', f acc x = .ok acc') ↔ p x) :
    (∃ result, l.foldlM f start = .ok result) ↔ ∀ x ∈ l, p x := by
  induction l generalizing start with
  | nil => exact ⟨fun _ => by simp, fun _ => ⟨start, rfl⟩⟩
  | cons x l ih =>
      rw [List.forall_mem_cons]
      constructor
      · rintro ⟨result, hresult⟩
        rw [List.foldlM_cons, bind_eq_ok_iff] at hresult
        obtain ⟨acc, hacc, hresult⟩ := hresult
        exact ⟨(hpass start x).mp ⟨acc, hacc⟩, ih.mp ⟨result, hresult⟩⟩
      · rintro ⟨hx, hl⟩
        obtain ⟨acc, hacc⟩ := (hpass start x).mpr hx
        obtain ⟨result, hresult⟩ := (@ih acc).mpr hl
        exact ⟨result, by rw [List.foldlM_cons, hacc]; exact hresult⟩

/-- A loop that tests each element before it goes on. -/
theorem foldlM_test_eq_ok_iff {p : α → Prop} [DecidablePred p] {err : α → ε} {f : β → α → β} :
    l.foldlM (fun acc x => (if p x then .ok (f acc x) else .error (err x) : Except ε β)) start =
        .ok result ↔
      (∀ x ∈ l, p x) ∧ l.foldl f start = result := by
  induction l generalizing start with
  | nil => simp [pure, Except.pure]
  | cons x l ih =>
      rw [List.foldlM_cons, List.forall_mem_cons, List.foldl_cons]
      by_cases hx : p x
      · rw [if_pos hx, and_iff_right hx]
        exact ih
      · rw [if_neg hx]
        exact ⟨nofun, fun h => absurd h.1.1 hx⟩

theorem forM_eq_ok_iff {f : α → Except ε Unit} : forM l f = .ok ⟨⟩ ↔ ∀ x ∈ l, f x = .ok ⟨⟩ := by
  induction l with
  | nil => simp [pure, Except.pure]
  | cons x l ih =>
      rw [List.forM_cons, bind_eq_ok_iff, List.forall_mem_cons, ← ih]
      exact ⟨fun ⟨_, hx, hl⟩ => ⟨hx, hl⟩, fun ⟨hx, hl⟩ => ⟨_, hx, hl⟩⟩

end Fallible
