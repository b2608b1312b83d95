import Pr0xteus.Proof.Readiness
import Pr0xteus.Proof.StopSequence

/-!
# Stops mirror the starts

Services are launched group by group and stopped the other way round, so a service is stopped only
when all that depend on it have been. Each is stopped once if the stop sequence comes after the start;
a sequence that comes before it finds nothing to stop and uses up `stopOnce`.
-/

namespace Pr0xteus.ServiceManager

open GoTime Transition

variable {es : List (Edge State Action)} {svc : Service} {e : Edge State Action}

/-- The service whose `Stop` the turn invokes. -/
def invokesStop (e : Edge State Action) : Option Service :=
  match e.action with
  | .stopper k .invoke => e.source.stoppers[k]?.map Stopper.service
  | _ => none

/-- The service whose `Run` the turn invokes. -/
def invokesRun (e : Edge State Action) : Option Service :=
  match e.action with
  | .service n .go =>
      e.source.goroutines[n]?.bind fun g =>
        match g.pc with
        | .attempt k _ => if k < g.service.attempts then some g.service else none
        | _ => none
  | _ => none

variable {services : Services} {s t : State}

/-! ## What only grows -/

section Growth

theorem services_grow {a : Action} (h : step services s a = some t) :
    s.goroutines.map Goroutine.service <+: t.goroutines.map Goroutine.service := by
  cases step_cases h with
  | run hrun =>
      cases hrun with
      | launch i k svc _ _ =>
          rw [List.map_append]
          exact List.prefix_append _ _
      | _ => exact List.prefix_rfl
  | service hg hnext => exact (map_service_set hg _).symm ▸ List.prefix_rfl
  | stop hstop => cases hstop <;> exact List.prefix_rfl
  | startRun _ | ready _ | cancelParent | callStop | stopper _ _ => exact List.prefix_rfl

theorem mem_services_of_path (h : Path (step services) s es t)
    (hsvc : svc ∈ s.goroutines.map Goroutine.service) : svc ∈ t.goroutines.map Goroutine.service :=
  h.invariant (fun s => svc ∈ s.goroutines.map Goroutine.service) hsvc fun _ _ hs hstep =>
    (services_grow hstep).subset hs

theorem late_step {a : Action} (h : step services s a = some t) (hlate : s.run.late = true) :
    t.run.late = true := by
  cases step_cases h with
  | startRun hidle => simp [hidle, RunPc.late, RunPc.early] at hlate
  | run hrun => cases hrun <;> simp_all [RunPc.late, RunPc.early, RunPc.starting]
  | service hg hnext => simpa using hlate
  | stop hstop => cases hstop <;> exact hlate
  | ready _ | cancelParent | callStop | stopper _ _ => exact hlate

theorem late_of_path (h : Path (step services) s es t) (hlate : s.run.late = true) :
    t.run.late = true :=
  h.invariant (·.run.late = true) hlate fun _ _ hs hstep => late_step hstep hs

end Growth

/-! ## Launches -/

section Launches

variable {e : Edge State Action} {p : Nat × Service}

theorem launches_eq_some_iff : p ∈ launches e ↔
    ∃ answer k, e.action = .run answer ∧ e.source.run = .launch p.1 k ∧
      (e.source.group p.1)[k]? = some p.2 := by
  unfold launches
  split
  · next answer i k haction hrun =>
      simp only [Option.mem_def, Option.map_eq_some_iff]
      constructor
      · rintro ⟨svc, hsvc, rfl⟩
        exact ⟨answer, k, haction, hrun, hsvc⟩
      · rintro ⟨_, k', _, hrun', hsvc⟩
        rw [hrun] at hrun'
        obtain ⟨rfl, rfl⟩ := RunPc.launch.inj hrun'
        exact ⟨p.2, hsvc, rfl⟩
  · next hnot =>
      simp only [Option.mem_def, reduceCtorEq, false_iff]
      rintro ⟨answer, k, haction, hrun, -⟩
      exact hnot answer p.1 k haction hrun

theorem mem_services_of_launches (h : step services e.source e.action = some e.target)
    (hp : p ∈ launches e) : p.2 ∈ e.target.goroutines.map Goroutine.service := by
  obtain ⟨u, a, v⟩ := e
  obtain ⟨answer, k, rfl, hrun, hsvc⟩ := launches_eq_some_iff.mp hp
  dsimp only at h hrun hsvc ⊢
  cases step_cases h with
  | run hstep => cases hstep <;> simp_all

/-- Every goroutine of a service was launched by a turn of the run. -/
theorem exists_launches (h : Path (step services) init es s) :
    ∀ svc ∈ s.goroutines.map Goroutine.service, ∃ e ∈ es, ∃ p ∈ launches e, p.2 = svc := by
  refine h.history (fun fs s => ∀ svc ∈ s.goroutines.map Goroutine.service,
    ∃ e ∈ fs, ∃ p ∈ launches e, p.2 = svc) (by simp [init]) ?_
  intro fs u a v hold hstep _ svc hsvc
  by_cases hu : svc ∈ u.goroutines.map Goroutine.service
  · obtain ⟨e, he, hlaunch⟩ := hold svc hu
    exact ⟨e, List.mem_append_left _ he, hlaunch⟩
  · refine ⟨⟨u, a, v⟩, List.mem_append_right _ (List.mem_singleton.mpr rfl), ?_⟩
    cases step_cases hstep with
    | run hrun =>
        cases hrun with
        | launch i k svc' hlaunch hsvc' =>
            have heq : svc = svc' := by
              rw [List.map_append, List.mem_append] at hsvc
              simpa using hsvc.resolve_left hu
            exact ⟨(i, svc'), launches_eq_some_iff.mpr ⟨_, k, rfl, hlaunch, hsvc'⟩, heq.symm⟩
        | _ => exact absurd hsvc hu
    | service hg hnext => exact absurd (map_service_set hg _ ▸ hsvc) hu
    | stop hstop => cases hstop <;> exact absurd hsvc hu
    | startRun _ | ready _ | cancelParent | callStop | stopper _ _ => exact absurd hsvc hu

end Launches

/-! ## The order of the stops -/

section Order

theorem mem_invokesStop (h : svc ∈ invokesStop e) : ∃ st ∈ e.source.stoppers, st.service = svc := by
  unfold invokesStop at h
  split at h
  · obtain ⟨st, hst, rfl⟩ := Option.map_eq_some_iff.mp h
    exact ⟨st, List.mem_of_getElem? hst, rfl⟩
  · cases h

theorem Startup.group_mem {i : Nat} {g : Group} (hs : Startup services s)
    (hg : s.startGroups[i]? = some g) : s.groups[i]? = some g := by
  obtain ⟨rest, hrest⟩ := hs.recorded
  rw [← hrest, List.getElem?_append_left (List.getElem?_eq_some_iff.mp hg).1, hg]

theorem Startup.order_of_ne_nil (hs : Startup services s) (hne : s.groups ≠ []) :
    IsStartOrder services s.groups := hs.order.resolve_left hne

/-- Past the start, what has been launched is what is recorded. -/
theorem Startup.mem_group_of_late (hs : Startup services s) (hlate : s.run.late = true)
    (hsvc : svc ∈ s.goroutines.map Goroutine.service) :
    ∃ (i : Nat) (g : Group), s.startGroups[i]? = some g ∧ svc ∈ g := by
  have hopened : s.opened = [] := by
    unfold State.opened
    split <;> simp_all [RunPc.late, RunPc.early, RunPc.starting]
  rw [hs.launched, hopened, List.append_nil] at hsvc
  obtain ⟨g, hg, hin⟩ := List.mem_flatten.mp hsvc
  obtain ⟨i, hi⟩ := List.getElem?_of_mem hg
  exact ⟨i, g, hi, hin⟩

/-- While a service is being stopped, all launched services that depend on it are through. -/
theorem Supervised.ended_of_depends {fs : List (Edge State Action)} (hs : Supervised services fs s)
    {st : Stopper} (hst : st ∈ s.stoppers) (hsvc : svc ∈ s.goroutines.map Goroutine.service)
    (hdepends : Relation.TransGen services.DependsOn svc.name st.service.name) :
    ∃ st' ∈ s.stoppers, st'.service = svc ∧ st'.ended = true := by
  obtain ⟨hlate, n, hsweep, hended⟩ := hs.sweep (List.ne_nil_of_mem hst)
  have hmem : (st.group, st.service) ∈ s.stopping := List.mem_map.mpr ⟨st, hst, rfl⟩
  obtain ⟨hn, g, hg, hin⟩ := (hsweep.mem_iff _ _).mp hmem
  obtain ⟨i, g', hg', hin'⟩ := hs.startup.mem_group_of_late hlate hsvc
  have horder : IsStartOrder services s.groups :=
    hs.startup.order_of_ne_nil (List.ne_nil_of_mem (List.mem_of_getElem? (hs.startup.group_mem hg)))
  have hlt : st.group < i :=
    horder.lt_of_transGen (hs.startup.group_mem hg') (hs.startup.group_mem hg) hin' hin hdepends
  obtain ⟨st', hst', heq⟩ := List.mem_map.mp ((hsweep.mem_iff i svc).mpr ⟨by omega, g', hg', hin'⟩)
  obtain ⟨rfl, rfl⟩ := Prod.mk.inj heq
  exact ⟨st', hst', rfl, hended st' hst' (by omega)⟩

/-- What a service depends on has been launched when the service is. -/
theorem Startup.dependency_launched (hs : Startup services s) {i k : Nat}
    (hrun : s.run = .launch i k) (hsvc : (s.group i)[k]? = some svc) {depName : String}
    (hdepends : Relation.TransGen services.DependsOn svc.name depName) :
    ∃ dep ∈ s.goroutines.map Goroutine.service, dep.name = depName := by
  have hopened : s.run.opened = some i := by rw [hrun]; rfl
  have hgroup := hs.getElem?_groups hopened
  have horder := hs.order_of_ne_nil (List.ne_nil_of_mem (List.mem_of_getElem? hgroup))
  have hpresent : depName ∈ services.map := by
    obtain ⟨b, -, hb⟩ := Relation.TransGen.tail'_iff.mp hdepends
    exact hb.2
  obtain ⟨dep, hlookup, rfl⟩ := Services.exists_lookup hpresent
  obtain ⟨j, g', hg', hdep⟩ := horder.exists_mem hlookup
  have hlt := horder.lt_of_transGen hgroup hg' (List.mem_of_getElem? hsvc) hdep hdepends
  refine ⟨dep, ?_, rfl⟩
  rw [hs.launched]
  have hmem : dep ∈ s.group j := by
    rw [State.group, hg']
    exact hdep
  exact List.mem_append_left _ (hs.mem_startGroups hopened hlt hmem)

theorem invoke_comm {k k' : Nat} {st st' : Stopper} (hne : k ≠ k') (hst : s.stoppers[k]? = some st)
    (hst' : s.stoppers[k']? = some st') (hcall : st.call = .created) (hcall' : st'.call = .created) :
    ∃ t, (step services s (.stopper k .invoke)).bind (step services · (.stopper k' .invoke)) = some t ∧
      (step services s (.stopper k' .invoke)).bind (step services · (.stopper k .invoke)) = some t := by
  let invoked := (s.stoppers.set k { st with call := .invoked }).set k' { st' with call := .invoked }
  refine ⟨{ s with stoppers := invoked }, ?_, ?_⟩
  · simp [step, stopperStep, hst, Stopper.next, hcall, List.getElem?_set_ne hne, hst', hcall', invoked]
  · simp [step, stopperStep, hst', Stopper.next, hcall', List.getElem?_set_ne (Ne.symm hne), hst,
      hcall, List.set_comm _ _ hne, invoked]

/-- **Mirror order.** In every run: what a service depends on, directly or through others, is launched
before it; its own `Stop` is invoked only when the services that depend on it have been launched and
their stops have returned or timed out; and two stops that have both begun come in either order. -/
theorem stops_mirror_starts (services : Services) (actions : List Action) :
    (∀ (j : Nat) (e : Edge State Action), (runs services actions)[j]? = some e →
      ∀ p ∈ launches e, ∀ depName, Relation.TransGen services.DependsOn p.2.name depName →
        ∃ j' < j, ∃ e', (runs services actions)[j']? = some e' ∧
          ∃ q ∈ launches e', q.2.name = depName) ∧
    (∀ (j j' : Nat) (e e' : Edge State Action), (runs services actions)[j]? = some e →
      (runs services actions)[j']? = some e' → ∀ p ∈ launches e, ∀ svc ∈ invokesStop e',
        Relation.TransGen services.DependsOn p.2.name svc.name →
          j < j' ∧ ∃ st ∈ e'.source.stoppers, st.service = p.2 ∧ st.ended = true) ∧
    (∀ e ∈ runs services actions, ∀ (k k' : Nat) (st st' : Stopper), k ≠ k' →
      e.target.stoppers[k]? = some st → e.target.stoppers[k']? = some st' →
      st.call = .created → st'.call = .created →
        ∃ t, (step services e.target (.stopper k .invoke)).bind
            (step services · (.stopper k' .invoke)) = some t ∧
          (step services e.target (.stopper k' .invoke)).bind
            (step services · (.stopper k .invoke)) = some t) := by
  obtain ⟨s, hpath⟩ := exists_path_runs services actions
  refine ⟨fun j e he p hp depName hdepends => ?_, fun j j' e e' he he' p hp svc hsvc hdepends => ?_,
    fun e _ k k' st st' hne hst hst' => invoke_comm hne hst hst'⟩
  · obtain ⟨hfront, -, -⟩ := hpath.cut he
    obtain ⟨answer, k, -, hrun, hlaunch⟩ := launches_eq_some_iff.mp hp
    obtain ⟨dep, hdep, rfl⟩ :=
      (Supervised.of_path hfront).startup.dependency_launched hrun hlaunch hdepends
    obtain ⟨e', he', q, hq, rfl⟩ := exists_launches hfront dep hdep
    obtain ⟨j', hj', hget⟩ := List.mem_take_iff_getElem.mp he'
    exact ⟨j', by omega, e', List.getElem?_eq_some_iff.mpr ⟨by omega, hget⟩, q, hq, rfl⟩
  · obtain ⟨st, hst, rfl⟩ := mem_invokesStop hsvc
    obtain ⟨hfront', -, -⟩ := hpath.cut he'
    have hs' := Supervised.of_path hfront'
    have hlate := (hs'.sweep (List.ne_nil_of_mem hst)).1
    obtain ⟨answer, k, haction, hrun, -⟩ := launches_eq_some_iff.mp hp
    -- once a service is being stopped nothing is launched
    have hbefore : j < j' := by
      have hnot : e.source.run.late = false := by rw [hrun]; rfl
      rcases Nat.lt_trichotomy j j' with hlt | rfl | hgt
      · exact hlt
      · rw [he, Option.some.injEq] at he'
        rw [← he', hnot] at hlate
        cases hlate
      · obtain ⟨fs, hbetween, -⟩ := hpath.between hgt he' he
        have hlate' := late_of_path hbetween (late_step (hpath.cut he').2.1 hlate)
        rw [hnot] at hlate'
        cases hlate'
    obtain ⟨fs, hbetween, -⟩ := hpath.between hbefore he he'
    have hlaunched := mem_services_of_path hbetween (mem_services_of_launches (hpath.cut he).2.1 hp)
    exact ⟨hbefore, hs'.ended_of_depends hst hlaunched hdepends⟩

end Order

namespace Sample

def stop (j n : Nat) : List Action := List.replicate n (.stop j)

/-- The `Stop` of a service, from its invocation to the end of the wait for it. -/
def stopper (k : Nat) : List Action := [.stopper k .invoke, .stopper k .returns, .stopper k .done]

/-- The `Run` of a service returns nil, and its goroutine ends. -/
def exits (n : Nat) : List Action := .service n (.returned none) :: service n 2

/-- "db" and "web" are up, and `Run` is at its `select`. -/
def bothLaunched : List Action :=
  dbLaunched ++ [.ready "db", .run .ready] ++ run 5 ++ service 1 2 ++ run 6

/-- A call of `Stop` stops "web" and then "db", and `Run` returns. -/
def wholeRun : List Action :=
  bothLaunched ++ .callStop :: stop 0 4 ++ stopper 0 ++ stop 0 2 ++ stopper 1 ++ stop 0 4 ++
    exits 1 ++ exits 0 ++ .run .cancelled :: run 1 ++ stop 1 2 ++ run 4

end Sample

open Sample in
/-- "db" is stopped when the stop of "web" has returned. -/
theorem stops_mirror_starts_two :
    ∃ e ∈ runs webOverDb wholeRun, ∃ e' ∈ runs webOverDb wholeRun, ∃ p ∈ launches e,
      p.2.name = "web" ∧ ∃ svc ∈ invokesStop e', svc.name = "db" ∧
        ∃ st ∈ e'.source.stoppers, st.service = p.2 ∧ st.ended = true := by
  have hlaunch : ∃ e ∈ runs webOverDb wholeRun, ∃ p ∈ launches e, p.2.name = "web" := by
    decide +kernel
  have hstop : ∃ e' ∈ runs webOverDb wholeRun, ∃ svc ∈ invokesStop e', svc.name = "db" := by
    decide +kernel
  obtain ⟨e, he, p, hp, hweb⟩ := hlaunch
  obtain ⟨e', he', svc, hsvc, hdb⟩ := hstop
  obtain ⟨j, hj⟩ := List.getElem?_of_mem he
  obtain ⟨j', hj'⟩ := List.getElem?_of_mem he'
  have hdepends : Relation.TransGen webOverDb.DependsOn p.2.name svc.name := by
    rw [hweb, hdb]
    exact .single ⟨by decide, by decide⟩
  exact ⟨e, he, e', he', p, hp, hweb, svc, hsvc, hdb,
    ((stops_mirror_starts webOverDb wholeRun).2.1 j j' e e' hj hj' p hp svc hsvc hdepends).2⟩

/-! ## Each stop once -/

/-- If the turn is a timer that ends the wait for a service's `Stop`, that has been invoked. -/
def OnTime (e : Edge State Action) : Prop :=
  match e.action with
  | .stopper k .timeout => ∀ st ∈ e.source.stoppers[k]?, st.call ≠ .created
  | _ => True

instance (e : Edge State Action) : Decidable (OnTime e) :=
  match e with
  | ⟨s, .stopper k .timeout, _⟩ =>
      inferInstanceAs (Decidable (∀ st ∈ s.stoppers[k]?, st.call ≠ .created))
  | ⟨_, .stopper _ .invoke, _⟩ | ⟨_, .stopper _ .returns, _⟩ | ⟨_, .stopper _ .done, _⟩
  | ⟨_, .startRun, _⟩ | ⟨_, .run _, _⟩ | ⟨_, .service _ _, _⟩ | ⟨_, .ready _, _⟩
  | ⟨_, .cancelParent, _⟩ | ⟨_, .callStop, _⟩ | ⟨_, .stop _, _⟩ => isTrue trivial

def RunPc.hasReturned : RunPc → Bool
  | .returned _ => true
  | _ => false

/-- Every service whose `Run` was invoked has had its `Stop` invoked once. -/
def StoppedOnce (es : List (Edge State Action)) : Prop :=
  ∀ e ∈ es, ∀ svc ∈ invokesRun e, es.countP (invokesStop · = some svc) = 1

instance (es : List (Edge State Action)) : Decidable (StoppedOnce es) :=
  inferInstanceAs (Decidable (∀ e ∈ es, _))

section Once

/-- The services whose `Stop` has been invoked, as the stoppers have it and as the turns do. -/
theorem countP_invokesStop (h : Path (step services) init es s) (svc : Service) :
    es.countP (invokesStop · = some svc) =
      s.stoppers.countP fun st => st.service = svc ∧ st.call ≠ .created := by
  refine h.history (fun fs s => fs.countP (invokesStop · = some svc) =
    s.stoppers.countP fun st => st.service = svc ∧ st.call ≠ .created) rfl ?_
  intro fs u a v hold hstep _
  rw [List.countP_append, hold, List.countP_singleton]
  cases step_cases hstep with
  | run hrun => cases hrun <;> simp [invokesStop]
  | service hg hnext => simp [invokesStop]
  | stop hstop =>
      cases hstop with
      | stopGroup n _ => simp [invokesStop, List.countP_append, List.countP_map, Function.comp_def]
      | _ => simp [invokesStop]
  | startRun _ | ready _ | cancelParent | callStop => simp [invokesStop]
  | @stopper k event st st' hst hnext =>
      have hadd := Threads.countP_set_add
        (fun st => decide (st.service = svc ∧ st.call ≠ .created)) st' hst
      cases event with
      | invoke =>
          simp only [Stopper.next, Option.ite_none_right_eq_some, Option.some.injEq] at hnext
          obtain ⟨hcreated, rfl⟩ := hnext
          simp only [invokesStop, hst, Option.map_some, Option.some.injEq]
          simpa [hcreated] using hadd.symm
      | returns =>
          simp only [Stopper.next, Option.ite_none_right_eq_some, Option.some.injEq] at hnext
          obtain ⟨hinvoked, rfl⟩ := hnext
          simpa [invokesStop, hinvoked] using hadd.symm
      | done | timeout =>
          simp only [Stopper.next, Option.ite_none_right_eq_some, Option.some.injEq] at hnext
          obtain ⟨-, rfl⟩ := hnext
          simpa [invokesStop] using hadd.symm

/-- Nobody goes on before the `Stop` it waits for has been invoked. -/
theorem called_of_over (h : Path (step services) init es s) (hontime : ∀ e ∈ es, OnTime e) :
    ∀ st ∈ s.stoppers, st.ended = true → st.call ≠ .created := by
  refine h.invariant (fun s => ∀ st ∈ s.stoppers, st.ended = true → st.call ≠ .created)
    (by simp [init]) ?_
  rintro ⟨u, a, v⟩ he hold hstep
  have hontime := hontime _ he
  dsimp only at hold hstep
  cases step_cases hstep with
  | run hrun => cases hrun <;> exact hold
  | service hg hnext => simpa using hold
  | stop hstop =>
      cases hstop with
      | stopGroup n _ =>
          intro st hst hended
          rcases List.mem_append.mp hst with hst | hst
          · exact hold st hst hended
          · obtain ⟨svc, -, rfl⟩ := List.mem_map.mp hst
            cases hended
      | _ => exact hold
  | startRun _ | ready _ | cancelParent | callStop => exact hold
  | @stopper k event st st' hst hnext =>
      have hold' := hold st (List.mem_of_getElem? hst)
      intro st'' hst'' hended
      rcases List.mem_or_eq_of_mem_set hst'' with hst'' | rfl
      · exact hold st'' hst'' hended
      · cases event with
        | timeout =>
            simp only [Stopper.next, Option.ite_none_right_eq_some, Option.some.injEq] at hnext
            obtain ⟨-, rfl⟩ := hnext
            exact hontime st hst
        | _ =>
            simp only [Stopper.next, Option.ite_none_right_eq_some, Option.some.injEq] at hnext
            obtain ⟨hcall, rfl⟩ := hnext
            simp_all

/-- `Run` has waited for its own `Stop`. -/
def RunPc.stopped : RunPc → Bool
  | .waitServices _ | .closeErrCh _ | .cancel _ | .returned _ => true
  | _ => false

theorem finished_of_stopped (h : Path (step services) init es s) (hstopped : s.run.stopped = true) :
    s.stopOnce = .finished ∨ s.goroutines = [] := by
  refine (h.history (fun fs s => Supervised services fs s ∧
    (s.run.stopped = true → s.stopOnce = .finished ∨ s.goroutines = []))
    ⟨.of_path (.nil _), by simp [init, RunPc.stopped]⟩ ?_).2 hstopped
  rintro fs u a v ⟨hs, hold⟩ hstep -
  refine ⟨⟨hs.startup.step hstep, hs.locking.step hstep,
    hs.stopping.step hs.startup hs.locking hstep⟩, ?_⟩
  cases step_cases hstep with
  | startRun hidle => simp [RunPc.stopped]
  | run hrun =>
      cases hrun with
      | factoryError err hrun =>
          intro _
          right
          have hlaunched := hs.startup.launched
          rw [hs.startup.early (by rw [hrun]; rfl)] at hlaunched
          simpa [State.opened, hrun] using hlaunched
      | stopped result j hrun hreturned =>
          intro _
          exact .inl (hs.stopping.holds _ (List.mem_of_getElem? hreturned))
      | _ => simp_all [RunPc.stopped]
  | service hg hnext =>
      intro hstopped
      rcases hold (by simpa using hstopped) with hfinished | hnone
      · exact .inl (by simpa using hfinished)
      · rw [hnone] at hg
        cases hg
  | stop hstop => cases hstop <;> simp_all
  | ready _ | cancelParent | callStop | stopper _ _ => exact hold

theorem mem_services_of_invokesRun (h : svc ∈ invokesRun e) :
    svc ∈ e.source.goroutines.map Goroutine.service := by
  unfold invokesRun at h
  split at h
  · obtain ⟨g, hg, hsvc⟩ := Option.bind_eq_some_iff.mp h
    split at hsvc
    · split at hsvc
      · cases hsvc
        exact List.mem_map.mpr ⟨g, List.mem_of_getElem? hg, rfl⟩
      · cases hsvc
    · cases hsvc
  · cases h

theorem mem_services_of_mem (h : Path (step services) init es s) (he : e ∈ es)
    (hsvc : svc ∈ invokesRun e) : svc ∈ s.goroutines.map Goroutine.service := by
  obtain ⟨front, back, rfl⟩ := List.append_of_mem he
  obtain ⟨-, hstep, hback⟩ := h.split
  exact mem_services_of_path hback
    ((services_grow hstep).subset (mem_services_of_invokesRun hsvc))

theorem stoppedOnce_of_returned (h : Path (step services) init es s)
    (hearly : ∀ e ∈ es, ¬StopsEarly e) (hontime : ∀ e ∈ es, OnTime e)
    (hreturned : s.run.hasReturned = true) : StoppedOnce es := by
  intro e he svc hsvc
  have hmem := mem_services_of_mem h he hsvc
  have hs := Supervised.of_path h
  have hlate : s.run.late = true := by
    cases hrun : s.run <;> simp_all [RunPc.hasReturned, RunPc.late, RunPc.early, RunPc.starting]
  have hstopped : s.run.stopped = true := by
    cases hrun : s.run <;> simp_all [RunPc.hasReturned, RunPc.stopped]
  rcases finished_of_stopped h hstopped with hfinished | hnone
  · obtain ⟨hended, ⟨-, hsweep⟩ | ⟨-, e', he', hstops⟩⟩ := hs.stopping.finished hfinished
    · -- everything launched is recorded, so it has one stopper, which is through
      obtain ⟨i, g, hg, hin⟩ := hs.startup.mem_group_of_late hlate hmem
      have hstopping : svc ∈ s.stoppers.map Stopper.service := by
        obtain ⟨st, hst, heq⟩ := List.mem_map.mp ((hsweep.mem_iff i svc).mpr ⟨Nat.zero_le i, g, hg, hin⟩)
        exact List.mem_map.mpr ⟨st, hst, congrArg Prod.snd heq⟩
      have hnodup : (s.stoppers.map Stopper.service).Nodup := by
        have hpairs := hsweep.nodup
        rw [State.stopping, List.map_map] at hpairs
        exact hpairs
      calc es.countP (invokesStop · = some svc)
          = s.stoppers.countP fun st => st.service = svc ∧ st.call ≠ .created :=
            countP_invokesStop h svc
        _ = s.stoppers.countP fun st => st.service = svc := by
            refine List.countP_congr fun st hst => ?_
            simp [called_of_over h hontime st hst (hended st hst)]
        _ = (s.stoppers.map Stopper.service).count svc := by
            rw [List.count, List.countP_map]
            exact List.countP_congr fun st _ => by simp
        _ = 1 := List.count_eq_one_of_mem hnodup hstopping
    · exact absurd hstops (hearly e' he')
  · rw [hnone] at hmem
    cases hmem

/-- **Each stop once.** In a run in which no stop sequence takes the lock before the start is over and
no stop timer fires before the `Stop` it guards has been invoked: when `Run` has returned, every
service whose `Run` was invoked has had its `Stop` invoked once. -/
theorem stops_each_once (services : Services) (actions : List Action)
    (hearly : ∀ e ∈ runs services actions, ¬StopsEarly e)
    (hontime : ∀ e ∈ runs services actions, OnTime e) {j : Nat} {e : Edge State Action}
    (he : (runs services actions)[j]? = some e) (hreturned : e.target.run.hasReturned = true) :
    StoppedOnce ((runs services actions).take (j + 1)) := by
  obtain ⟨s, hpath⟩ := exists_path_runs services actions
  exact stoppedOnce_of_returned (hpath.take he) (fun e' he' => hearly e' (List.mem_of_mem_take he'))
    (fun e' he' => hontime e' (List.mem_of_mem_take he')) hreturned

end Once

open Sample in
/-- `Run` returns with "web" and "db" stopped once each. -/
theorem stops_each_once_two :
    ∃ j e, (runs webOverDb wholeRun)[j]? = some e ∧ e.target.run.hasReturned = true ∧
      (∀ e ∈ runs webOverDb wholeRun, ¬StopsEarly e) ∧ (∀ e ∈ runs webOverDb wholeRun, OnTime e) ∧
      StoppedOnce ((runs webOverDb wholeRun).take (j + 1)) := by
  have hearly : ∀ e ∈ runs webOverDb wholeRun, ¬StopsEarly e := by decide +kernel
  have hontime : ∀ e ∈ runs webOverDb wholeRun, OnTime e := by decide +kernel
  have hexists : ∃ e ∈ runs webOverDb wholeRun, e.target.run.hasReturned = true := by decide +kernel
  obtain ⟨e, he, hreturned⟩ := hexists
  obtain ⟨j, hj⟩ := List.getElem?_of_mem he
  exact ⟨j, e, hj, hreturned, hearly, hontime,
    stops_each_once webOverDb wholeRun hearly hontime hj hreturned⟩

open Sample in
/-- A call of `Stop` comes before `Run`, finds nothing to stop and uses up the once; then "db" and "web"
are launched, their context is cancelled, they exit, and `Run` returns without having stopped them. -/
theorem not_stops_each_once :
    let es := runs webOverDb (.callStop :: stop 0 6 ++ bothLaunched ++
      [.cancelParent, .run .cancelled] ++ run 1 ++ stop 1 2 ++ exits 1 ++ exits 0 ++ run 4)
    ¬∀ j < es.length, ∀ e ∈ es[j]?, e.target.run.hasReturned = true →
      StoppedOnce (es.take (j + 1)) := by
  decide +kernel

end Pr0xteus.ServiceManager
