import Pr0xteus.App
import Pr0xteus.Proof.Failures

/-!
# What a returned `Stop` stands for

`App.Stop` waits for the goroutine in which `Run` runs the service manager. If it comes to that wait
before `Run` has started the goroutine there is nothing to wait for: it runs the hooks and returns, and
`Run` goes on to start the services.
-/

namespace Pr0xteus.App

open ServiceManager (Once Quiet Service Startup invokesRun)
open Transition

variable {j : Nat} {a : Action} {pc : StopPc}

/-! ## The rules -/

/-- `Run` has not started the manager's goroutine. -/
def RunPc.early : RunPc → Bool
  | .idle | .storeCancel | .preRunHooks | .wgGo => true
  | _ => false

/-- The turns of a call of `Stop`. -/
inductive StopStep (m : Setup) (s : State) (j : Nat) : State → Prop
  | cancel (h : s.stops[j]? = some .cancel) :
      StopStep m s j
        { (if s.cancelStored then s.cancelCtx else s) with stops := s.stops.set j .once }
  | enter (h : s.stops[j]? = some .once) (hfresh : s.stopOnce = .fresh) :
      StopStep m s j { s with stopOnce := .running, stops := s.stops.set j .managerStop }
  | late (h : s.stops[j]? = some .once) (hfinished : s.stopOnce = .finished) :
      StopStep m s j { s with stops := s.stops.set j .returned }
  | managerStop (manager : ServiceManager.State) (h : s.stops[j]? = some .managerStop)
      (hstep : ServiceManager.step m.services s.manager .callStop = some manager) :
      StopStep m s j
        { s with
          manager := manager
          stops := s.stops.set j (.awaitManager s.manager.stops.length) }
  | managerStopped (i : Nat) (h : s.stops[j]? = some (.awaitManager i)) :
      StopStep m s j { s with stops := s.stops.set j .wgWait }
  | waited (h : s.stops[j]? = some .wgWait) (hidle : s.worker.idle = true) :
      StopStep m s j { s with stops := s.stops.set j (.postStopHooks 0) }
  | hook (k : Nat) (h : s.stops[j]? = some (.postStopHooks k)) (hk : k < m.postStopHooks) :
      StopStep m s j { s with stops := s.stops.set j (.postStopHooks (k + 1)) }
  | hooksRun (k : Nat) (h : s.stops[j]? = some (.postStopHooks k)) (hk : ¬k < m.postStopHooks) :
      StopStep m s j { s with stops := s.stops.set j .finish }
  | finish (h : s.stops[j]? = some .finish) :
      StopStep m s j { s with stopOnce := .finished, stops := s.stops.set j .returned }

inductive Step (m : Setup) (s : State) : Action → State → Prop
  | startRun (h : s.run = .idle) : Step m s .startRun { s with run := .storeCancel }
  | run (answer : Answer) (cancelStored closed : Bool) (errCh : Option ServiceManager.Err)
      (pc : RunPc) (hearly : pc.early = true → s.run.early = true) :
      Step m s (.run answer)
        { s with cancelStored := cancelStored, closed := closed, errCh := errCh, run := pc }
  | wgGo (answer : Answer) (h : s.run = .wgGo) :
      Step m s (.run answer) { s with worker := .created, run := .select }
  | callsStop (answer : Answer) (result : Option ServiceManager.Err) :
      Step m s (.run answer)
        { s with stops := s.stops ++ [.cancel], run := .stopping result s.stops.length }
  | cancels (answer : Answer) (result : Option ServiceManager.Err) :
      Step m s (.run answer) { s.cancelCtx with run := .returned result }
  | workerStarts (manager : ServiceManager.State) (h : s.worker = .created)
      (hstep : ServiceManager.step m.services s.manager .startRun = some manager) :
      Step m s .worker { s with manager := manager, worker := .running }
  | workerReturns (worker : Worker) (h : s.worker = .running)
      (hreturned : s.manager.run.hasReturned = true) (hworker : worker ≠ .absent ∧ worker ≠ .created) :
      Step m s .worker { s with worker := worker }
  | workerSends (err : ServiceManager.Err) (h : s.worker = .sending err) :
      Step m s .worker { s with errCh := some err, worker := .done }
  | workerCrashes : Step m s .worker { s with crashed := true }
  | manager (action : ServiceManager.Action) (manager : ServiceManager.State)
      (hinner : innerAction action = true)
      (hstep : ServiceManager.step m.services s.manager action = some manager) :
      Step m s (.manager action) { s with manager := manager }
  | cancelParent : Step m s .cancelParent s.cancelCtx
  | callStop : Step m s .callStop { s with stops := s.stops ++ [.cancel] }
  | stop {j : Nat} {t : State} (h : StopStep m s j t) : Step m s (.stop j) t

section Inversion

variable {m : Setup} {s t : State}

theorem runStep_cases {answer : Answer} (h : runStep s answer = some t) :
    Step m s (.run answer) t := by
  unfold runStep at h
  split at h
  case h_1 hrun => cases h; exact .run .go true _ _ _ (by simp [RunPc.early, hrun])
  case h_2 hrun => cases h; exact .run .go _ _ _ _ (by simp [RunPc.early, hrun])
  case h_3 hrun => cases h; exact .wgGo .go hrun
  case h_4 =>
    split at h
    · cases h; exact .run .cancelled _ _ _ _ (by simp [RunPc.early])
    · cases h
  case h_5 =>
    obtain ⟨err, -, rfl⟩ := Option.map_eq_some_iff.mp h
    exact .run .received _ _ none _ (by simp [RunPc.early])
  case h_6 => cases h; exact .callsStop .go _
  case h_7 =>
    split at h
    · cases h; exact .run .go _ _ _ _ (by simp [RunPc.early])
    · cases h
  case h_8 =>
    split at h
    · cases h; exact .run .go _ _ _ _ (by simp [RunPc.early])
    · cases h
  case h_9 => cases h; exact .run .go _ true _ _ (by simp [RunPc.early])
  case h_10 => cases h; exact .cancels .go _
  case h_11 => cases h

theorem workerStep_cases (h : workerStep m s = some t) : Step m s .worker t := by
  unfold workerStep at h
  split at h
  case h_1 hworker =>
    obtain ⟨manager, hstep, rfl⟩ := Option.map_eq_some_iff.mp h
    exact .workerStarts manager hworker hstep
  case h_2 hworker =>
    split at h
    · next hreturned =>
        cases h
        exact .workerReturns .done hworker (by rw [hreturned]; rfl) (by simp)
    · next err hreturned =>
        cases h
        exact .workerReturns (.sending err) hworker (by rw [hreturned]; rfl) (by simp)
    · cases h
  case h_3 err hworker =>
    split at h
    · cases h; exact .workerCrashes
    · split at h
      · cases h; exact .workerSends err hworker
      · cases h
  case h_4 => cases h
  case h_5 => cases h

theorem stopStep_cases (h : stopStep m s j = some t) : StopStep m s j t := by
  unfold stopStep at h
  split at h
  case h_1 hpc => cases h; exact .cancel hpc
  case h_2 hpc =>
    split at h
    · next hfresh => cases h; exact .enter hpc hfresh
    · cases h
    · next hfinished => cases h; exact .late hpc hfinished
  case h_3 hpc =>
    obtain ⟨manager, hstep, rfl⟩ := Option.map_eq_some_iff.mp h
    exact .managerStop manager hpc hstep
  case h_4 i hpc =>
    split at h
    · cases h; exact .managerStopped i hpc
    · cases h
  case h_5 hpc =>
    split at h
    · next hidle => cases h; exact .waited hpc hidle
    · cases h
  case h_6 k hpc =>
    cases h
    split
    · next hk => exact .hook k hpc hk
    · next hk => exact .hooksRun k hpc hk
  case h_7 hpc => cases h; exact .finish hpc
  case h_8 => cases h
  case h_9 => cases h

theorem step_cases (h : step m s a = some t) : Step m s a t := by
  cases a with
  | startRun =>
      simp only [step, Option.ite_none_right_eq_some, Option.some.injEq] at h
      exact h.2 ▸ .startRun h.1
  | run answer => exact runStep_cases h
  | worker => exact workerStep_cases h
  | manager action =>
      simp only [step, Option.ite_none_right_eq_some] at h
      obtain ⟨manager, hstep, rfl⟩ := Option.map_eq_some_iff.mp h.2
      exact .manager action manager h.1 hstep
  | cancelParent => cases h; exact .cancelParent
  | callStop => cases h; exact .callStop
  | stop j => exact .stop (stopStep_cases h)

/-- A turn of the application leaves the manager alone or is one of its turns. -/
theorem manager_step (h : step m s a = some t) :
    t.manager = s.manager ∨ ∃ b, ServiceManager.step m.services s.manager b = some t.manager := by
  cases step_cases h with
  | cancels answer result => exact .inr ⟨.cancelParent, rfl⟩
  | workerStarts manager _ hstep => exact .inr ⟨.startRun, hstep⟩
  | manager action manager _ hstep => exact .inr ⟨action, hstep⟩
  | cancelParent => exact .inr ⟨.cancelParent, rfl⟩
  | stop hstop =>
      cases hstop with
      | cancel _ =>
          by_cases hstored : s.cancelStored = true
          · exact .inr ⟨.cancelParent, by simp [hstored]; rfl⟩
          · exact .inl (by simp [hstored])
      | managerStop manager _ hstep => exact .inr ⟨.callStop, hstep⟩
      | _ => exact .inl rfl
  | _ => exact .inl rfl

/-- A call of `Stop` moves neither `Run` nor the manager's goroutine. -/
theorem StopStep.frame (h : StopStep m s j t) : t.run = s.run ∧ t.worker = s.worker := by
  cases h with
  | cancel _ => cases hstored : s.cancelStored <;> simp [State.cancelCtx]
  | _ => exact ⟨rfl, rfl⟩

end Inversion

/-- The service whose `Run` the turn invokes. -/
def startsService (e : Edge State Action) : Option Service :=
  match e.action with
  | .manager action => invokesRun ⟨e.source.manager, action, e.target.manager⟩
  | _ => none

/-- The post-stop hook that the turn runs. -/
def runsHook (m : Setup) (e : Edge State Action) : Option Nat :=
  match e.action with
  | .stop j =>
      match e.source.stops[j]? with
      | some (.postStopHooks k) => if k < m.postStopHooks then some k else none
      | _ => none
  | _ => none

/-- If the turn ends the wait for the manager's goroutine, `Run` has started that. -/
def WaitsForWorker (e : Edge State Action) : Prop :=
  match e.action with
  | .stop j => e.source.stops[j]? = some .wgWait → e.source.worker ≠ .absent
  | _ => True

instance (e : Edge State Action) : Decidable (WaitsForWorker e) := by
  unfold WaitsForWorker
  split <;> infer_instance

/-! ## The manager's goroutine -/

section Worker

theorem hasReturned_step {services : ServiceManager.Services} {u v : ServiceManager.State}
    {b : ServiceManager.Action} (h : ServiceManager.step services u b = some v)
    (hreturned : u.run.hasReturned = true) : v.run.hasReturned = true := by
  cases ServiceManager.step_cases h with
  | startRun hidle => simp [hidle, ServiceManager.RunPc.hasReturned] at hreturned
  | run hrun => cases hrun <;> simp_all [ServiceManager.RunPc.hasReturned]
  | service hg hnext => simpa using hreturned
  | stop hstop => cases hstop <;> exact hreturned
  | ready _ | cancelParent | callStop | stopper _ _ => exact hreturned

/-- How far the manager is, by where its goroutine is. -/
structure Working (m : Setup) (s : State) : Prop where
  startup : Startup m.services s.manager
  quiet : Quiet s.manager
  absent : s.run.early = true → s.worker = .absent
  returned : s.worker = .done ∨ (∃ err, s.worker = .sending err) → s.manager.run.hasReturned = true

variable {m : Setup} {s t : State}

theorem Working.init : Working m init where
  startup := .init
  quiet := .init
  absent _ := rfl
  returned h := by simp [App.init] at h

theorem Working.step (hs : Working m s) (h : step m s a = some t) : Working m t := by
  have hinner : Startup m.services t.manager ∧ Quiet t.manager := by
    rcases manager_step h with heq | ⟨b, hstep⟩
    · rw [heq]
      exact ⟨hs.startup, hs.quiet⟩
    · exact ⟨hs.startup.step hstep, hs.quiet.step hs.startup hstep⟩
  have hreturned : s.manager.run.hasReturned = true → t.manager.run.hasReturned = true := by
    rcases manager_step h with heq | ⟨b, hstep⟩
    · rw [heq]
      exact id
    · exact hasReturned_step hstep
  refine ⟨hinner.1, hinner.2, ?_, ?_⟩
  · cases step_cases h with
    | startRun hidle => exact fun _ => hs.absent (by rw [hidle]; rfl)
    | run answer _ _ _ pc hearly => exact fun hpc => hs.absent (hearly hpc)
    | wgGo | callsStop | cancels => simp [RunPc.early]
    | workerStarts _ hworker _ | workerReturns _ hworker _ _ | workerSends _ hworker =>
        intro hearly
        rw [hs.absent hearly] at hworker
        cases hworker
    | stop hstop =>
        rw [hstop.frame.1, hstop.frame.2]
        exact hs.absent
    | workerCrashes | manager _ _ _ _ | cancelParent | callStop => exact hs.absent
  · cases step_cases h with
    | wgGo answer hrun => simp
    | workerStarts manager hworker _ => simp
    | workerReturns worker hworker hmanager _ => exact fun _ => hmanager
    | workerSends err hworker => exact fun _ => hs.returned (.inr ⟨err, hworker⟩)
    | stop hstop =>
        rw [hstop.frame.2]
        exact fun hworker => hreturned (hs.returned hworker)
    | startRun _ | run _ _ _ _ _ _ | callsStop _ _ | cancels _ _ | workerCrashes | manager _ _ _ _
    | cancelParent | callStop => exact fun hworker => hreturned (hs.returned hworker)

theorem worker_done_step (hs : Working m s) (h : step m s a = some t) (hdone : s.worker = .done) :
    t.worker = .done := by
  cases step_cases h with
  | wgGo answer hrun =>
      rw [hs.absent (by rw [hrun]; rfl)] at hdone
      cases hdone
  | workerStarts _ hworker _ | workerReturns _ hworker _ _ =>
      rw [hdone] at hworker
      cases hworker
  | workerSends err hworker => rfl
  | stop hstop => exact hstop.frame.2.trans hdone
  | startRun _ | run _ _ _ _ _ _ | callsStop _ _ | cancels _ _ | workerCrashes | manager _ _ _ _
  | cancelParent | callStop => exact hdone

end Worker

/-! ## The hooks -/

section Hooks

/-- The call is inside `stopOnce`. -/
def StopPc.inside : StopPc → Bool
  | .managerStop | .awaitManager _ | .wgWait | .postStopHooks _ | .finish => true
  | .cancel | .once | .returned => false

variable {m : Setup} {fs gs : List (Edge State Action)} {e : Edge State Action} {s t : State}

/-- All hooks have been run, each once and in order, and the manager's goroutine is done. -/
def Ended (m : Setup) (fs : List (Edge State Action)) (s : State) : Prop :=
  fs.filterMap (runsHook m) = List.range m.postStopHooks ∧ s.worker = .done

/-- What holds where a call of `Stop` is. -/
def StopPc.Holds (m : Setup) (fs : List (Edge State Action)) (s : State) : StopPc → Prop
  | .managerStop | .awaitManager _ | .wgWait => fs.filterMap (runsHook m) = []
  | .postStopHooks k =>
      k ≤ m.postStopHooks ∧ fs.filterMap (runsHook m) = List.range k ∧ s.worker = .done
  | .finish => Ended m fs s
  | .returned => s.stopOnce = .finished
  | .cancel | .once => True

structure Stopping (m : Setup) (fs : List (Edge State Action)) (s : State) : Prop where
  once : Threads.Exclusive StopPc.inside s.stops (s.stopOnce = .running)
  fresh : s.stopOnce = .fresh → fs.filterMap (runsHook m) = []
  holds : ∀ pc ∈ s.stops, pc.Holds m fs s
  finished : s.stopOnce = .finished → Ended m fs s

theorem StopPc.Holds.same (hs : pc.Holds m fs s) (hhook : runsHook m e = none)
    (hdone : s.worker = .done → t.worker = .done) (honce : t.stopOnce = s.stopOnce ∨ pc ≠ .returned) :
    pc.Holds m (fs ++ [e]) t := by
  have hfilter := filterMap_append_unseen fs hhook
  cases pc with
  | managerStop | awaitManager _ | wgWait => exact hfilter.trans hs
  | postStopHooks k => exact ⟨hs.1, hfilter.trans hs.2.1, hdone hs.2.2⟩
  | finish => exact ⟨hfilter.trans hs.1, hdone hs.2⟩
  | returned =>
      rcases honce with honce | hne
      · exact honce.trans hs
      · exact absurd rfl hne
  | cancel | once => trivial

/-- A turn outside of the once. -/
theorem Stopping.outer (hs : Stopping m fs s) (hhook : runsHook m e = none)
    (hdone : s.worker = .done → t.worker = .done) (honce : t.stopOnce = s.stopOnce)
    (hexclusive : Threads.Exclusive StopPc.inside t.stops (s.stopOnce = .running))
    (hstops : ∀ pc ∈ t.stops, pc ∈ s.stops ∨ pc.Holds m (fs ++ [e]) t) :
    Stopping m (fs ++ [e]) t := by
  have hfilter := filterMap_append_unseen fs hhook
  refine ⟨honce ▸ hexclusive, fun hfresh => hfilter.trans (hs.fresh (honce ▸ hfresh)),
    fun pc hpc => ?_, fun hfinished => ?_⟩
  · rcases hstops pc hpc with hpc | hpc
    · exact (hs.holds pc hpc).same hhook hdone (.inl honce)
    · exact hpc
  · obtain ⟨hhooks, hworker⟩ := hs.finished (honce ▸ hfinished)
    exact ⟨hfilter.trans hhooks, hdone hworker⟩

theorem Stopping.same (hs : Stopping m fs s) (hhook : runsHook m e = none)
    (hdone : s.worker = .done → t.worker = .done) (honce : t.stopOnce = s.stopOnce)
    (hstops : t.stops = s.stops ∨ t.stops = s.stops ++ [.cancel]) : Stopping m (fs ++ [e]) t := by
  rcases hstops with hstops | hstops
  · exact hs.outer hhook hdone honce (hstops ▸ hs.once) fun pc hpc => .inl (hstops ▸ hpc)
  · refine hs.outer hhook hdone honce (hstops ▸ hs.once.start rfl) fun pc hpc => ?_
    rw [hstops, List.mem_append, List.mem_singleton] at hpc
    rcases hpc with hpc | rfl
    · exact .inl hpc
    · exact .inr trivial

theorem Stopping.running (hs : Stopping m fs s) (hj : s.stops[j]? = some pc)
    (hinside : pc.inside = true) : s.stopOnce = .running :=
  of_decide_eq_true (hs.once.locked_eq_true (List.mem_of_getElem? hj) hinside)

/-- A turn of the call that is inside, which stays there. -/
theorem Stopping.turn (hs : Stopping m fs s) {pc pc' : StopPc} (hj : s.stops[j]? = some pc)
    (hinside : pc.inside = true) (hinside' : pc'.inside = true)
    (hstops : t.stops = s.stops.set j pc') (honce : t.stopOnce = s.stopOnce)
    (hholds : pc'.Holds m gs t) : Stopping m gs t := by
  have hrunning := hs.running hj hinside
  refine ⟨?_, fun hfresh => ?_, fun q hq => ?_, fun hfinished => ?_⟩
  · rw [hstops, honce]
    exact hs.once.stay hj (hinside'.trans hinside.symm)
  · rw [honce, hrunning] at hfresh
    cases hfresh
  · rw [hstops] at hq
    rcases hs.once.mem_set hj hinside hq with rfl | ⟨hq, hout⟩
    · exact hholds
    · have hheld := hs.holds q hq
      cases q with
      | cancel | once => trivial
      | returned =>
          rw [StopPc.Holds, hrunning] at hheld
          cases hheld
      | managerStop | awaitManager _ | wgWait | postStopHooks _ | finish => cases hout
  · rw [honce, hrunning] at hfinished
    cases hfinished

theorem Stopping.stopStep (hs : Stopping m fs s) (h : StopStep m s j t)
    (hwaits : WaitsForWorker ⟨s, .stop j, t⟩) : Stopping m (fs ++ [⟨s, .stop j, t⟩]) t := by
  have hold : ∀ pc, s.stops[j]? = some pc → pc.Holds m fs s :=
    fun pc hpc => hs.holds pc (List.mem_of_getElem? hpc)
  -- only a turn at a hook runs one
  have hnone : ∀ pc, s.stops[j]? = some pc → (∀ k, pc ≠ .postStopHooks k) →
      (fs ++ [(⟨s, .stop j, t⟩ : Edge State Action)]).filterMap (runsHook m) =
        fs.filterMap (runsHook m) := by
    intro pc hpc hne
    refine filterMap_append_unseen fs ?_
    cases pc <;> simp_all [runsHook]
  have hframe := h.frame
  cases h with
  | cancel h =>
      refine hs.outer (by simp [runsHook, h]) hframe.2.trans ?_ (hs.once.stay h rfl) fun pc hpc => ?_
      · cases hstored : s.cancelStored <;> simp [State.cancelCtx]
      · rcases List.mem_or_eq_of_mem_set hpc with hpc | rfl
        · exact .inl hpc
        · exact .inr trivial
  | enter h hfresh =>
      have honce := hs.once
      simp only [hfresh, reduceCtorEq, decide_false] at honce
      refine ⟨honce.enter h rfl rfl, by simp, fun pc hpc => ?_, by simp⟩
      rcases List.mem_or_eq_of_mem_set hpc with hpc | rfl
      · have hheld := hs.holds pc hpc
        refine hheld.same (by simp [runsHook, h]) id (.inr ?_)
        rintro rfl
        rw [StopPc.Holds, hfresh] at hheld
        cases hheld
      · exact (hnone _ h (by simp)).trans (hs.fresh hfresh)
  | late h hfinished =>
      refine hs.outer (by simp [runsHook, h]) id rfl (hs.once.stay h rfl) fun pc hpc => ?_
      rcases List.mem_or_eq_of_mem_set hpc with hpc | rfl
      · exact .inl hpc
      · exact .inr hfinished
  | managerStop manager h _ =>
      exact hs.turn h rfl rfl rfl rfl ((hnone _ h (by simp)).trans (hold _ h))
  | managerStopped i h => exact hs.turn h rfl rfl rfl rfl ((hnone _ h (by simp)).trans (hold _ h))
  | waited h hidle =>
      have hworker : s.worker = .done := by
        have habsent : s.worker ≠ .absent := hwaits h
        cases hworker : s.worker <;> simp_all [Worker.idle]
      exact hs.turn h rfl rfl rfl rfl
        ⟨Nat.zero_le _, (hnone _ h (by simp)).trans (hold _ h), hworker⟩
  | hook k h hk =>
      obtain ⟨-, hhooks, hworker⟩ := hold _ h
      have hhook : runsHook m ⟨s, .stop j, { s with
          stops := s.stops.set j (.postStopHooks (k + 1)) }⟩ = some k := by
        simp [runsHook, h, hk]
      refine hs.turn h rfl rfl rfl rfl ⟨hk, ?_, hworker⟩
      rw [List.filterMap_append, hhooks, List.filterMap_cons_some hhook, List.range_succ]
      rfl
  | hooksRun k h hk =>
      obtain ⟨hle, hhooks, hworker⟩ := hold _ h
      obtain rfl : k = m.postStopHooks := by omega
      refine hs.turn h rfl rfl rfl rfl ⟨(filterMap_append_unseen fs ?_).trans hhooks, hworker⟩
      simp [runsHook, h]
  | finish h =>
      obtain ⟨hhooks, hworker⟩ := hold _ h
      refine ⟨hs.once.leave h rfl rfl, by simp, fun q hq => ?_,
        fun _ => ⟨(hnone _ h (by simp)).trans hhooks, hworker⟩⟩
      rcases hs.once.mem_set h rfl hq with rfl | ⟨hq, hout⟩
      · rfl
      · cases q with
        | cancel | once => trivial
        | returned => rfl
        | managerStop | awaitManager _ | wgWait | postStopHooks _ | finish => cases hout

theorem Stopping.step (hworking : Working m s) (hs : Stopping m fs s) (h : step m s a = some t)
    (hwaits : WaitsForWorker ⟨s, a, t⟩) : Stopping m (fs ++ [⟨s, a, t⟩]) t := by
  have hdone := worker_done_step hworking h
  cases step_cases h with
  | stop hstop => exact hs.stopStep hstop hwaits
  | callsStop answer result => exact hs.same rfl hdone rfl (.inr rfl)
  | callStop => exact hs.same rfl hdone rfl (.inr rfl)
  | _ => exact hs.same rfl hdone rfl (.inl rfl)

end Hooks

theorem invariants {m : Setup} {s : State} {es : List (Edge State Action)}
    (h : Path (step m) init es s) (hwaits : ∀ e ∈ es, WaitsForWorker e) :
    Working m s ∧ Stopping m es s := by
  refine h.history (fun fs s => Working m s ∧ Stopping m fs s) ⟨.init, ?_⟩ ?_
  · exact ⟨by simp [init, Threads.Exclusive], fun _ => rfl, by simp [init], by simp [init]⟩
  · exact fun _ _ _ _ hs hstep hmem =>
      ⟨hs.1.step hstep, hs.2.step hs.1 hstep (hwaits _ hmem)⟩

theorem startsService_eq_none {e : Edge State Action} (h : Quiet e.source.manager)
    (hreturned : e.source.manager.run.hasReturned = true) : startsService e = none := by
  have hquiet : e.source.manager.run.quiet = true := by
    cases hrun : e.source.manager.run <;>
      simp_all [ServiceManager.RunPc.hasReturned, ServiceManager.RunPc.quiet]
  unfold startsService
  split
  · unfold invokesRun
    split
    · next n _ =>
        cases hg : e.source.manager.goroutines[n]? with
        | none => rfl
        | some g => simp [h.done hquiet g (List.mem_of_getElem? hg)]
    · rfl
  · rfl

/-- **A returned `Stop` is final.** In a run in which no call of `Stop` gets past its wait for the
manager's goroutine before `Run` has started that: when a call has returned, no service's `Run` is
invoked any more, and the hooks have been run, each once and in order; and each was run when the
manager's `Run` had returned. -/
theorem stop_is_final (m : Setup) (actions : List Action)
    (hwaits : ∀ e ∈ runs m actions, WaitsForWorker e) :
    (∀ e ∈ runs m actions, .returned ∈ e.source.stops → startsService e = none) ∧
    (∀ (j : Nat) (e : Edge State Action), (runs m actions)[j]? = some e →
      .returned ∈ e.target.stops →
        ((runs m actions).take (j + 1)).filterMap (runsHook m) = List.range m.postStopHooks) ∧
    (∀ e ∈ runs m actions, (runsHook m e).isSome = true →
      e.source.manager.run.hasReturned = true) := by
  obtain ⟨s, hpath⟩ := exists_path_runs m actions
  have hsource : ∀ e ∈ runs m actions, ∃ fs, Working m e.source ∧ Stopping m fs e.source := by
    intro e he
    obtain ⟨front, back, heq⟩ := List.append_of_mem he
    rw [heq] at hpath hwaits
    exact ⟨front, invariants hpath.split.1 fun e' he' => hwaits e' (List.mem_append_left _ he')⟩
  refine ⟨fun e he hreturned => ?_, fun j e he hreturned => ?_, fun e he hhook => ?_⟩
  · obtain ⟨fs, hworking, hstopping⟩ := hsource e he
    have hended := hstopping.finished (hstopping.holds _ hreturned)
    exact startsService_eq_none hworking.quiet (hworking.returned (.inl hended.2))
  · obtain ⟨-, hstopping⟩ := invariants (hpath.take he) fun e' he' =>
      hwaits e' (List.mem_of_mem_take he')
    exact (hstopping.finished (hstopping.holds _ hreturned)).1
  · obtain ⟨fs, hworking, hstopping⟩ := hsource e he
    unfold runsHook at hhook
    split at hhook
    · split at hhook
      · next k hpc =>
          have hheld := hstopping.holds _ (List.mem_of_getElem? hpc)
          exact hworking.returned (.inl hheld.2.2)
      · cases hhook
    · cases hhook

namespace Sample

open ServiceManager.Sample (run service stop stopper exits)

/-- One service and two post-stop hooks. -/
def setup : Setup where
  services :=
    { map := AList.singleton "db" { name := "db" }
      named := by
        intro name svc hlookup
        have hmem := AList.mem_lookup_iff.mp hlookup
        rw [AList.singleton_entries, List.mem_singleton, Sigma.mk.injEq] at hmem
        obtain ⟨rfl, heq⟩ := hmem
        cases heq
        rfl }
  postStopHooks := 2

def go (n : Nat) : List Action := List.replicate n (.run .go)

def stops (j n : Nat) : List Action := List.replicate n (.stop j)

def manager (actions : List ServiceManager.Action) : List Action := actions.map .manager

/-- `App.Run` starts the manager, which launches "db", whose own `Run` begins. -/
def launch : List Action :=
  .startRun :: go 3 ++ .worker ::
    manager (run 2 ++ .run (.ranged ["db"] ["db"]) :: run 4 ++ service 0 2)

/-- The manager's `Stop` finds nothing to stop. -/
def stopsNothing : List Action := manager (stop 0 6)

/-- The manager's `Stop` stops "db", which exits, and the manager's `Run` returns. -/
def stopsDb : List Action :=
  manager (run 6 ++ stop 0 4 ++ stopper 0 ++ stop 0 4 ++ exits 0 ++ .run .cancelled :: run 1 ++
    stop 1 2 ++ run 4)

end Sample

open Sample in
/-- `Stop` comes with "db" up: it stops the manager, waits for it and runs the hooks. -/
theorem stop_is_final_launched :
    let es := runs setup (launch ++ .callStop :: stops 0 3 ++ stopsDb ++ .worker :: stops 0 6)
    (∀ e ∈ es, WaitsForWorker e) ∧ (∃ e ∈ es, (startsService e).isSome = true) ∧
      ∃ (j : Nat) (e : Edge State Action), es[j]? = some e ∧ .returned ∈ e.target.stops ∧
        (es.take (j + 1)).filterMap (runsHook setup) = [0, 1] := by
  intro es
  have hwaits : ∀ e ∈ es, WaitsForWorker e := by decide +kernel
  have hexists : ∃ e ∈ es, .returned ∈ e.target.stops := by decide +kernel
  obtain ⟨e, he, hreturned⟩ := hexists
  obtain ⟨j, hj⟩ := List.getElem?_of_mem he
  exact ⟨hwaits, by decide +kernel, j, e, hj, hreturned,
    (stop_is_final setup _ hwaits).2.1 j e hj hreturned⟩

open Sample in
/-- `Stop` comes before `Run` and returns, having run the hooks; then `Run` starts the manager, which
launches "db" and invokes its `Run`. -/
theorem not_stop_is_final :
    let es := runs setup (.callStop :: stops 0 3 ++ stopsNothing ++ stops 0 6 ++ launch)
    ¬(∀ e ∈ es, .returned ∈ e.source.stops → startsService e = none) ∧
      ¬(∀ e ∈ es, (runsHook setup e).isSome = true → e.source.manager.run.hasReturned = true) := by
  decide +kernel

end Pr0xteus.App
