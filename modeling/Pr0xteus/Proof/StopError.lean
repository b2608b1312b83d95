import Pr0xteus.Runner

/-!
# The error of `Stop`

An error that `Stop` returns goes into `stopErrCh`, and the goroutine then counts as done. From there
on the final `select` of `run` may find `doneCh` closed as well, or the deadline passed, and each of
these cases returns without the error.
-/

namespace Pr0xteus.Runner

open Transition

variable {ε : Type} {s t : State ε} {action : Action ε} {err runErr : ε}
  {shutdownErr : Option (Err ε)}

/-! ## Steps -/

structure SameStop (s t : State ε) : Prop where
  stopper : t.stopper = s.stopper
  stopErrCh : t.stopErrCh = s.stopErrCh

/-- What a step does to `run` and to the goroutine of `Stop`. -/
inductive Turn (s : State ε) : Action ε → State ε → Prop
  | leave (choice : Choice) (t : State ε) (shutdownErr : Option (Err ε))
      (hmain : s.main = .waitForShutdown) (hleft : t.main = .withTimeout shutdownErr)
      (hstop : SameStop s t)
      (herr : ∀ err, choice = .errCh → s.errCh = some err → shutdownErr = runError err) :
      Turn s (.main choice) t
  | withTimeout (shutdownErr : Option (Err ε)) (hmain : s.main = .withTimeout shutdownErr) :
      Turn s (.main .go) { s with main := .wgGo shutdownErr }
  | wgGo (shutdownErr : Option (Err ε)) (hmain : s.main = .wgGo shutdownErr) :
      Turn s (.main .go) { s with stopper := .stopping, main := .goWaiter shutdownErr }
  | goWaiter (shutdownErr : Option (Err ε)) (hmain : s.main = .goWaiter shutdownErr) :
      Turn s (.main .go) { s with waiter := .wgWait, main := .select shutdownErr }
  | stopError (shutdownErr : Option (Err ε)) (err : ε) (hmain : s.main = .select shutdownErr)
      (hsent : s.stopErrCh = some err) :
      Turn s (.main .stopErrCh)
        { s with stopErrCh := none, main := .returned (some (stopFailure shutdownErr err)) }
  | timeout (shutdownErr : Option (Err ε)) (hmain : s.main = .select shutdownErr)
      (hdeadline : s.deadline = true) :
      Turn s (.main .shutdownDone) { s with main := .returned (some .shutdownTimeout) }
  | allDone (shutdownErr : Option (Err ε)) (hmain : s.main = .select shutdownErr)
      (hdone : s.doneCh = true) :
      Turn s (.main .doneCh) { s with main := .returned shutdownErr }
  | failed (err : ε) (hstopper : s.stopper = .stopping) :
      Turn s (.stopper (some err)) { s with stopper := .sending err }
  | stopped (hstopper : s.stopper = .stopping) :
      Turn s (.stopper none) { s with stopper := .wgDone }
  | sent (err : ε) (answer : Option ε) (hstopper : s.stopper = .sending err) :
      Turn s (.stopper answer) { s with stopErrCh := some err, stopper := .wgDone }
  | exited (answer : Option ε) (hstopper : s.stopper = .wgDone) :
      Turn s (.stopper answer) { s with stopper := .done }
  | other (action : Action ε) (t : State ε) (hmain : t.main = s.main) (hstop : SameStop s t)
      (hne : ∀ choice, action ≠ .main choice) (hne' : ∀ answer, action ≠ .stopper answer) :
      Turn s action t

theorem turn_of_mainStep {choice : Choice} (h : mainStep s choice = some t) :
    Turn s (.main choice) t := by
  unfold mainStep at h
  split at h
  · next hmain =>
      split at h <;> cases h
      exact .leave .ctxDone _ none hmain rfl ⟨rfl, rfl⟩ nofun
  · next hmain =>
      split at h <;> cases h
      exact .leave .sigCh _ none hmain rfl ⟨rfl, rfl⟩ nofun
  · next hmain =>
      split at h
      · next err hsent =>
          cases h
          refine .leave .errCh _ (runError err) hmain rfl ⟨rfl, rfl⟩ fun err' _ hsent' => ?_
          cases hsent.symm.trans hsent'
          rfl
      · next hempty =>
          split at h <;> cases h
          refine .leave .errCh _ none hmain rfl ⟨rfl, rfl⟩ fun err' _ hsent => ?_
          cases hempty.symm.trans hsent
  · next shutdownErr hmain =>
      cases h
      exact .withTimeout shutdownErr hmain
  · next shutdownErr hmain =>
      cases h
      exact .wgGo shutdownErr hmain
  · next shutdownErr hmain =>
      cases h
      exact .goWaiter shutdownErr hmain
  · next shutdownErr hmain =>
      obtain ⟨err, hsent, rfl⟩ := Option.map_eq_some_iff.mp h
      exact .stopError shutdownErr err hmain hsent
  · next shutdownErr hmain =>
      split at h
      · next hdeadline =>
          cases h
          rw [State.shutdownCtxErr, if_pos hdeadline]
          exact .timeout shutdownErr hmain hdeadline
      · cases h
  · next shutdownErr hmain =>
      split at h
      · next hdone =>
          cases h
          exact .allDone shutdownErr hmain hdone
      · cases h
  · cases h

theorem turn_of_stopperStep {answer : Option ε} (h : stopperStep s answer = some t) :
    Turn s (.stopper answer) t := by
  unfold stopperStep at h
  split at h
  · next hstopper =>
      split at h
      · next err =>
          cases h
          exact .failed err hstopper
      · cases h
        exact .stopped hstopper
  · next err hstopper =>
      split at h <;> cases h
      exact .sent err answer hstopper
  · next hstopper =>
      cases h
      exact .exited answer hstopper
  · cases h
  · cases h

theorem turn_of_step (h : step s action = some t) : Turn s action t := by
  cases action with
  | main choice => exact turn_of_mainStep h
  | stopper answer => exact turn_of_stopperStep h
  | app answer =>
      rw [step, appStep] at h
      split at h
      · cases h
        exact .other _ _ rfl ⟨rfl, rfl⟩ nofun nofun
      · split at h <;> cases h
        exact .other _ _ rfl ⟨rfl, rfl⟩ nofun nofun
      · cases h
        exact .other _ _ rfl ⟨rfl, rfl⟩ nofun nofun
      · cases h
        exact .other _ _ rfl ⟨rfl, rfl⟩ nofun nofun
      · cases h
  | waiter =>
      rw [step, waiterStep] at h
      split at h
      · split at h <;> cases h
        exact .other _ _ rfl ⟨rfl, rfl⟩ nofun nofun
      · cases h
        exact .other _ _ rfl ⟨rfl, rfl⟩ nofun nofun
      · cases h
      · cases h
  | cancel | signal =>
      cases h
      exact .other _ _ rfl ⟨rfl, rfl⟩ nofun nofun
  | deadline =>
      rw [step] at h
      split at h <;> cases h
      exact .other _ _ rfl ⟨rfl, rfl⟩ nofun nofun

/-! ## The channel of `Stop` -/

/-- The goroutine of `Stop` has not been started. -/
def MainPc.beforeStop : MainPc ε → Bool
  | .waitForShutdown | .withTimeout _ | .wgGo _ => true
  | .goWaiter _ | .select _ | .returned _ => false

def StopperPc.unsent : StopperPc ε → Bool
  | .absent | .stopping | .sending _ => true
  | .wgDone | .done => false

structure Ordered (s : State ε) : Prop where
  before : s.main.beforeStop = true → s.stopper = .absent
  unsent : s.stopper.unsent = true → s.stopErrCh = none

theorem ordered_step (h : Ordered s) (hstep : step s action = some t) : Ordered t := by
  cases turn_of_step hstep with
  | leave choice t shutdownErr hmain hleft hstop herr =>
      have habsent : s.stopper = .absent := h.before (by rw [hmain]; rfl)
      refine ⟨fun _ => hstop.stopper.trans habsent, fun hunsent => ?_⟩
      rw [hstop.stopper] at hunsent
      exact hstop.stopErrCh.trans (h.unsent hunsent)
  | withTimeout shutdownErr hmain =>
      exact ⟨fun _ => h.before (by rw [hmain]; rfl), h.unsent⟩
  | wgGo shutdownErr hmain =>
      have habsent : s.stopper = .absent := h.before (by rw [hmain]; rfl)
      exact ⟨nofun, fun _ => h.unsent (by rw [habsent]; rfl)⟩
  | goWaiter shutdownErr hmain => exact ⟨nofun, h.unsent⟩
  | stopError shutdownErr err hmain hsent => exact ⟨nofun, fun _ => rfl⟩
  | timeout | allDone => exact ⟨nofun, h.unsent⟩
  | failed err hstopper =>
      refine ⟨fun hbefore => ?_, fun _ => h.unsent (by rw [hstopper]; rfl)⟩
      cases hstopper.symm.trans (h.before hbefore)
  | stopped hstopper =>
      refine ⟨fun hbefore => ?_, nofun⟩
      cases hstopper.symm.trans (h.before hbefore)
  | sent err answer hstopper =>
      refine ⟨fun hbefore => ?_, nofun⟩
      cases hstopper.symm.trans (h.before hbefore)
  | exited answer hstopper =>
      refine ⟨fun hbefore => ?_, nofun⟩
      cases hstopper.symm.trans (h.before hbefore)
  | other action t hmain hstop hne hne' =>
      refine ⟨fun hbefore => hstop.stopper.trans (h.before (hmain ▸ hbefore)), fun hunsent => ?_⟩
      rw [hstop.stopper] at hunsent
      exact hstop.stopErrCh.trans (h.unsent hunsent)

/-- `Stop` has returned the error: it is on its way to `run`, or `run` has returned. -/
inductive Failed (err : ε) (s : State ε) : Prop
  | sending (hstopper : s.stopper = .sending err)
  | sent (hstopper : s.stopper = .wgDone ∨ s.stopper = .done) (hsent : s.stopErrCh = some err)
  | returned (result : Option (Err ε)) (hmain : s.main = .returned result)

theorem Failed.of_same (h : Failed err s) (hmain : t.main = s.main ∨ ∀ r, s.main ≠ .returned r)
    (hstop : SameStop s t) : Failed err t := by
  cases h with
  | sending hstopper => exact .sending (hstop.stopper.trans hstopper)
  | sent hstopper hsent =>
      exact .sent (by rwa [hstop.stopper]) (hstop.stopErrCh.trans hsent)
  | returned result hreturned =>
      rcases hmain with hmain | hmain
      · exact .returned result (hmain.trans hreturned)
      · exact absurd hreturned (hmain result)

theorem failed_step (ho : Ordered s) (h : Failed err s) (hstep : step s action = some t) :
    Failed err t := by
  cases turn_of_step hstep with
  | leave choice t shutdownErr hmain hleft hstop herr =>
      exact h.of_same (.inr fun r hr => by cases hmain.symm.trans hr) hstop
  | withTimeout shutdownErr hmain =>
      exact h.of_same (.inr fun r hr => by cases hmain.symm.trans hr) ⟨rfl, rfl⟩
  | wgGo shutdownErr hmain =>
      have habsent : s.stopper = .absent := ho.before (by rw [hmain]; rfl)
      cases h with
      | sending hstopper => cases habsent.symm.trans hstopper
      | sent hstopper hsent => rcases hstopper with hs | hs <;> cases habsent.symm.trans hs
      | returned result hreturned => cases hmain.symm.trans hreturned
  | goWaiter shutdownErr hmain =>
      exact h.of_same (.inr fun r hr => by cases hmain.symm.trans hr) ⟨rfl, rfl⟩
  | stopError | timeout | allDone => exact .returned _ rfl
  | failed err' hstopper =>
      cases h with
      | sending hsending => cases hstopper.symm.trans hsending
      | sent hsent _ => rcases hsent with hs | hs <;> cases hstopper.symm.trans hs
      | returned result hreturned => exact .returned result hreturned
  | stopped hstopper =>
      cases h with
      | sending hsending => cases hstopper.symm.trans hsending
      | sent hsent _ => rcases hsent with hs | hs <;> cases hstopper.symm.trans hs
      | returned result hreturned => exact .returned result hreturned
  | sent err' answer hstopper =>
      cases h with
      | sending hsending =>
          cases hstopper.symm.trans hsending
          exact .sent (.inl rfl) rfl
      | sent hsent _ => rcases hsent with hs | hs <;> cases hstopper.symm.trans hs
      | returned result hreturned => exact .returned result hreturned
  | exited answer hstopper =>
      cases h with
      | sending hsending => cases hstopper.symm.trans hsending
      | sent _ hsent => exact .sent (.inr rfl) hsent
      | returned result hreturned => exact .returned result hreturned
  | other action t hmain hstop hne hne' => exact h.of_same (.inl hmain) hstop

/-! ## Runs -/

/-- `Stop` returns this error. -/
def StopFails (err : ε) (e : Edge (State ε) (Action ε)) : Prop :=
  e.action = .stopper (some err) ∧ e.source.stopper = .stopping

/-- `waitForShutdown` receives this error of `Run`. -/
def ReceivesRun (runErr : ε) (e : Edge (State ε) (Action ε)) : Prop :=
  e.action = .main .errCh ∧ e.source.main = .waitForShutdown ∧ e.source.errCh = some (some runErr)

/-- The shutdown was started with this error, or is over. -/
def ShutsDownWith (shutdownErr : Option (Err ε)) : MainPc ε → Prop
  | .waitForShutdown => False
  | .withTimeout err | .wgGo err | .goWaiter err | .select err => err = shutdownErr
  | .returned _ => True

theorem shutsDownWith_step (h : ShutsDownWith shutdownErr s.main) (hstep : step s action = some t) :
    ShutsDownWith shutdownErr t.main := by
  cases turn_of_step hstep with
  | leave choice t err hmain hleft hstop herr =>
      rw [hmain] at h
      exact h.elim
  | withTimeout err hmain | wgGo err hmain | goWaiter err hmain =>
      rw [hmain] at h
      exact h
  | stopError | timeout | allDone => trivial
  | failed | stopped | sent | exited => exact h
  | other action t hmain hstop hne hne' => rwa [hmain]

section Runs

variable {actions : List (Action ε)} {e : Edge (State ε) (Action ε)}

theorem ordered_init : Ordered (init : State ε) := ⟨fun _ => rfl, fun _ => rfl⟩

theorem ordered_of_mem (he : e ∈ runs actions) : Ordered e.target := by
  obtain ⟨s, hpath⟩ : ∃ s, Path step init (runs actions) s := exists_path_edges init actions
  exact (hpath.invariant_of_mem Ordered ordered_init
    (fun _ _ hsource hstep => ordered_step hsource hstep) he).2

theorem failed_final (he : e ∈ runs actions) (hfails : StopFails err e) :
    Ordered (final init (runs actions)) ∧ Failed err (final init (runs actions)) := by
  have htarget : Failed err e.target := by
    have hstep := enabled_of_mem he
    rw [hfails.1, step, stopperStep, hfails.2] at hstep
    generalize e.target = t at hstep
    cases hstep
    exact .sending rfl
  refine final_of_mem (fun s => Ordered s ∧ Failed err s) he ⟨ordered_of_mem he, htarget⟩ ?_
  rintro s action t ⟨hordered, hfailed⟩ hstep
  exact ⟨ordered_step hordered hstep, failed_step hordered hfailed hstep⟩

theorem shutsDownWith_final (he : e ∈ runs actions) (hreceives : ReceivesRun runErr e) :
    ShutsDownWith (runError (some runErr)) (final init (runs actions)).main := by
  obtain ⟨haction, hmain, hsent⟩ := hreceives
  have htarget : ShutsDownWith (runError (some runErr)) e.target.main := by
    have hstep := enabled_of_mem he
    rw [haction] at hstep
    generalize e.target = t at hstep
    cases turn_of_step hstep with
    | leave choice t shutdownErr hmain' hleft hstop herr =>
        rw [hleft]
        exact herr (some runErr) rfl hsent
    | other action t hmain' hstop hne hne' => exact absurd rfl (hne _)
  exact final_of_mem (fun s => ShutsDownWith (runError (some runErr)) s.main) he htarget
    fun _ _ _ h hstep => shutsDownWith_step h hstep

end Runs

/-! ## The final select -/

/-- `run` may return this from where it is. -/
def Returns (s : State ε) (result : Option (Err ε)) : Prop :=
  ∃ choice t, step s (.main choice) = some t ∧ t.main = .returned result

theorem returns_select_iff (hmain : s.main = .select shutdownErr) {result : Option (Err ε)} :
    Returns s result ↔
      (∃ err, s.stopErrCh = some err ∧ result = some (stopFailure shutdownErr err)) ∨
        (s.deadline = true ∧ result = some .shutdownTimeout) ∨
          (s.doneCh = true ∧ result = shutdownErr) := by
  constructor
  · rintro ⟨choice, t, hstep, hreturned⟩
    cases turn_of_step hstep with
    | leave choice t err hmain' | withTimeout err hmain' | wgGo err hmain' | goWaiter err hmain' =>
        cases hmain.symm.trans hmain'
    | stopError shutdownErr' err hmain' hsent =>
        cases hmain.symm.trans hmain'
        cases hreturned
        exact .inl ⟨err, hsent, rfl⟩
    | timeout shutdownErr' hmain' hdeadline =>
        cases hreturned
        exact .inr (.inl ⟨hdeadline, rfl⟩)
    | allDone shutdownErr' hmain' hdone =>
        cases hmain.symm.trans hmain'
        cases hreturned
        exact .inr (.inr ⟨hdone, rfl⟩)
    | other action t hmain' hstop hne hne' => exact absurd rfl (hne choice)
  · rintro (⟨err, hsent, rfl⟩ | ⟨hdeadline, rfl⟩ | ⟨hdone, rfl⟩)
    · refine ⟨.stopErrCh, { s with
        stopErrCh := none, main := .returned (some (stopFailure shutdownErr err)) }, ?_, rfl⟩
      simp [step, mainStep, hmain, hsent]
    · refine ⟨.shutdownDone, { s with main := .returned (some .shutdownTimeout) }, ?_, rfl⟩
      simp [step, mainStep, hmain, hdeadline, State.shutdownCtxErr, handleShutdownTimeout]
    · refine ⟨.doneCh, { s with main := .returned result }, ?_, rfl⟩
      simp [step, mainStep, hmain, hdone]

theorem ne_stopFailure (shutdownErr : Option (Err ε)) (err : ε) :
    shutdownErr ≠ some (stopFailure shutdownErr err) := by
  intro h
  have hsize := congrArg sizeOf h
  cases shutdownErr with
  | none => cases h
  | some first =>
      simp [stopFailure, errorsJoin] at hsize
      omega

theorem mem_chain_stopFailure (shutdownErr : Option (Err ε)) (err : ε) :
    .app err ∈ (stopFailure shutdownErr err).chain := by
  cases shutdownErr <;> simp [stopFailure, errorsJoin, Err.chain]

theorem mem_chain_stopFailure_runError (runErr err : ε) :
    .app runErr ∈ (stopFailure (runError (some runErr)) err).chain := by
  simp [stopFailure, errorsJoin, runError, Err.chain]

/-- **The error of `Stop` at the final select.** Once `Stop` has failed, `run` can return its error,
joined with an error of `Run` that `waitForShutdown` has received. It returns nothing else exactly where
neither `doneCh` is closed nor the deadline has passed. -/
theorem returns_stopFailure_iff (actions : List (Action ε)) (err : ε)
    (shutdownErr : Option (Err ε)) (hstop : ∃ e ∈ runs actions, StopFails err e)
    (hmain : (final init (runs actions)).main = .select shutdownErr) :
    ((∀ result, Returns (final init (runs actions)) result →
        result = some (stopFailure shutdownErr err)) ↔
      (final init (runs actions)).doneCh = false ∧ (final init (runs actions)).deadline = false) ∧
    (∃ answer t, (final init (runs actions) = t ∨
        step (final init (runs actions)) (.stopper answer) = some t) ∧
      Returns t (some (stopFailure shutdownErr err))) ∧
    .app err ∈ (stopFailure shutdownErr err).chain ∧
    ∀ runErr, (∃ e ∈ runs actions, ReceivesRun runErr e) →
      .app runErr ∈ (stopFailure shutdownErr err).chain := by
  obtain ⟨e, he, hfails⟩ := hstop
  obtain ⟨hordered, hfailed⟩ := failed_final he hfails
  have hreceived : ∀ runErr, (∃ e ∈ runs actions, ReceivesRun runErr e) →
      .app runErr ∈ (stopFailure shutdownErr err).chain := by
    rintro runErr ⟨e, he, hreceives⟩
    have hwith := shutsDownWith_final he hreceives
    rw [hmain] at hwith
    cases hwith
    exact mem_chain_stopFailure_runError runErr err
  generalize final init (runs actions) = s at *
  refine ⟨⟨fun hall => ⟨?_, ?_⟩, fun ⟨hdone, hdeadline⟩ result hreturns => ?_⟩, ?_,
    mem_chain_stopFailure shutdownErr err, hreceived⟩
  · by_contra hdone
    have hreturns := (returns_select_iff hmain).mpr (.inr (.inr ⟨eq_true_of_ne_false hdone, rfl⟩))
    exact ne_stopFailure shutdownErr err (hall _ hreturns)
  · by_contra hdeadline
    have hreturns := (returns_select_iff hmain).mpr (.inr (.inl ⟨eq_true_of_ne_false hdeadline, rfl⟩))
    cases hall _ hreturns
  · rcases (returns_select_iff hmain).mp hreturns with ⟨err', hsent, rfl⟩ | ⟨h, -⟩ | ⟨h, -⟩
    · cases hfailed with
      | sending hstopper =>
          cases (hordered.unsent (by rw [hstopper]; rfl)).symm.trans hsent
      | sent _ hsent' =>
          cases hsent.symm.trans hsent'
          rfl
      | returned result hreturned => cases hmain.symm.trans hreturned
    · cases hdeadline.symm.trans h
    · cases hdone.symm.trans h
  · cases hfailed with
    | sending hstopper =>
        -- the error is still to be sent
        have hempty := hordered.unsent (by rw [hstopper]; rfl)
        let t : State ε := { s with stopErrCh := some err, stopper := .wgDone }
        have hselect : t.main = .select shutdownErr := hmain
        refine ⟨none, t, .inr ?_, (returns_select_iff hselect).mpr (.inl ⟨err, rfl, rfl⟩)⟩
        simp [step, stopperStep, hstopper, hempty, t]
    | sent _ hsent =>
        exact ⟨none, s, .inl rfl, (returns_select_iff hmain).mpr (.inl ⟨err, hsent, rfl⟩)⟩
    | returned result hreturned => cases hmain.symm.trans hreturned

/-- `Run` fails, `waitForShutdown` receives its error, and `Stop` fails and sends its own. -/
def bothFail : List (Action String) :=
  [.app (some "boom"), .app none, .main .errCh, .main .go, .main .go, .main .go,
    .stopper (some "drain"), .stopper none]

/-- The error of `Run` alone is not returned. -/
theorem returns_stopFailure_iff_bothFail :
    ¬ Returns (final init (runs bothFail)) (some (.wrap (.app "boom") "run application")) := by
  intro hreturns
  obtain ⟨hiff, -⟩ := returns_stopFailure_iff bothFail "drain"
    (some (.wrap (.app "boom") "run application"))
    ⟨_, List.mem_of_getElem? (i := 6) rfl, rfl, rfl⟩ rfl
  cases hiff.mpr ⟨rfl, rfl⟩ _ hreturns

/-- The goroutines end, and `doneCh` is closed before `run` comes to its select; or the deadline
passes before it does. -/
theorem not_returns_stopFailure :
    let finished := bothFail ++
      [.stopper none, .app none, .app none, .waiter, .waiter, .main .doneCh]
    let late := bothFail ++ [.deadline, .main .shutdownDone]
    ((∃ e ∈ runs finished, StopFails "drain" e ∧ e.source.deadline = false) ∧
      (final init (runs finished)).main = .returned (some (.wrap (.app "boom") "run application")) ∧
      .app "drain" ∉ (Err.wrap (.app "boom") "run application").chain) ∧
    ((∃ e ∈ runs late, StopFails "drain" e ∧ e.source.deadline = false) ∧
      (final init (runs late)).main = .returned (some .shutdownTimeout) ∧
      .app "drain" ∉ (Err.shutdownTimeout : Err String).chain) := by
  refine ⟨⟨⟨_, List.mem_of_getElem? (i := 6) rfl, ⟨rfl, rfl⟩, rfl⟩, rfl, by decide⟩,
    ⟨_, List.mem_of_getElem? (i := 6) rfl, ⟨rfl, rfl⟩, rfl⟩, rfl, by decide⟩

end Pr0xteus.Runner
