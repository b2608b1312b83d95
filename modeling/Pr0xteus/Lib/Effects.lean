import Mathlib.Data.List.Basic

/-!
# Programs with a state and errors

A program changes a state and returns a value or an error; the state it leaves behind is there in both
cases. `Ensures` is about the state before, the error if there is one, and the state after: a relation
that holds where nothing happens and goes on through a sequence holds of every program whose parts
ensure it.
-/

namespace Effects

abbrev Prog (σ ε α : Type) := ExceptT ε (StateM σ) α

variable {σ ε α β : Type}

def runOn (x : Prog σ ε α) (s : σ) : Except ε α × σ := (ExceptT.run x).run s

/-- The error of a program as a value. -/
def observe (x : Prog σ ε α) : Prog σ ε (Except ε α) :=
  ExceptT.mk (ExceptT.run x >>= fun r => pure (.ok r))

theorem runOn_modify (f : σ → σ) (s : σ) : runOn (modify f : Prog σ ε Unit) s = (.ok (), f s) := rfl

theorem runOn_observe (x : Prog σ ε α) (s : σ) :
    runOn (observe x) s = (.ok (runOn x s).1, (runOn x s).2) := rfl

theorem runOn_bind (x : Prog σ ε α) (f : α → Prog σ ε β) (s : σ) :
    runOn (x >>= f) s =
      match runOn x s with
      | (.ok a, t) => runOn (f a) t
      | (.error err, t) => (.error err, t) := by
  change (match (runOn x s).1 with
    | .ok a => ExceptT.run (f a)
    | .error err => pure (.error err) : StateM σ (Except ε β)).run (runOn x s).2 = _
  rcases runOn x s with ⟨r, t⟩
  cases r <;> rfl

theorem exists_of_runOn_bind {x : Prog σ ε α} {f : α → Prog σ ε β} {s u : σ} {b : β}
    (h : runOn (x >>= f) s = (.ok b, u)) :
    ∃ a t, runOn x s = (.ok a, t) ∧ runOn (f a) t = (.ok b, u) := by
  rw [runOn_bind] at h
  generalize runOn x s = outcome at h
  obtain ⟨r, t⟩ := outcome
  cases r with
  | error err => cases h
  | ok a => exact ⟨a, t, rfl, h⟩

/-! ## What a program ensures -/

def failure : Except ε α → Option ε
  | .ok _ => none
  | .error err => some err

def Ensures (R : σ → Option ε → σ → Prop) (x : Prog σ ε α) : Prop :=
  ∀ s, R s (failure (runOn x s).1) (runOn x s).2

/-- A relation that goes on through a sequence. -/
structure Sequential (R : σ → Option ε → σ → Prop) : Prop where
  refl : ∀ s, R s none s
  fails : ∀ s err, R s (some err) s
  trans : ∀ {s t u err?}, R s none t → R t err? u → R s err? u

/-- What holds of every value that is returned. -/
def Yields (P : α → Prop) (x : Prog σ ε α) : Prop :=
  ∀ s a t, runOn x s = (.ok a, t) → P a

section Ensures

variable {R : σ → Option ε → σ → Prop} {x : Prog σ ε α} {f : α → Prog σ ε β}

theorem ensures_pure (h : Sequential R) (a : α) : Ensures R (pure a) := fun s => h.refl s

theorem ensures_throw (h : Sequential R) (err : ε) : Ensures R (throw err : Prog σ ε α) :=
  fun s => h.fails s err

theorem ensures_bind_of_yields {P : α → Prop} (h : Sequential R) (hx : Ensures R x)
    (hP : Yields P x) (hf : ∀ a, P a → Ensures R (f a)) : Ensures R (x >>= f) := by
  intro s
  have hfirst := hx s
  have hvalue := hP s
  rw [runOn_bind]
  generalize runOn x s = outcome at hfirst hvalue
  obtain ⟨r, t⟩ := outcome
  cases r with
  | error err => exact hfirst
  | ok a => exact h.trans hfirst (hf a (hvalue a t rfl) t)

theorem ensures_bind (h : Sequential R) (hx : Ensures R x) (hf : ∀ a, Ensures R (f a)) :
    Ensures R (x >>= f) := by
  have hP : Yields (fun _ => True) x := fun _ _ _ _ => trivial
  exact ensures_bind_of_yields h hx hP fun a _ => hf a

theorem ensures_forM (h : Sequential R) {f : α → Prog σ ε PUnit} {l : List α}
    (hf : ∀ a ∈ l, Ensures R (f a)) : Ensures R (l.forM f) := by
  induction l with
  | nil => exact ensures_pure h _
  | cons a l ih =>
      refine ensures_bind h (hf a List.mem_cons_self) fun _ => ?_
      exact ih fun b hb => hf b (List.mem_cons_of_mem a hb)

theorem ensures_foldlM (h : Sequential R) {f : β → α → Prog σ ε β} {l : List α}
    (hf : ∀ b, ∀ a ∈ l, Ensures R (f b a)) (b : β) : Ensures R (l.foldlM f b) := by
  induction l generalizing b with
  | nil => exact ensures_pure h b
  | cons a l ih =>
      rw [List.foldlM_cons]
      refine ensures_bind h (hf b a List.mem_cons_self) fun b' => ?_
      exact ih (fun b a' ha' => hf b a' (List.mem_cons_of_mem a ha')) b'

theorem yields_pure {P : α → Prop} {a : α} (h : P a) : Yields P (pure a : Prog σ ε α) := by
  intro s b t hrun
  cases hrun
  exact h

theorem yields_bind {P : α → Prop} {Q : β → Prop} (hx : Yields P x) (hf : ∀ a, P a → Yields Q (f a)) :
    Yields Q (x >>= f) := by
  intro s b u hrun
  obtain ⟨a, t, hfirst, hsecond⟩ := exists_of_runOn_bind hrun
  exact hf a (hx s a t hfirst) t b u hsecond

end Ensures

end Effects
