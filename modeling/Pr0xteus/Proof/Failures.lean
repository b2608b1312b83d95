import Mathlib.Algebra.Order.Ring.Int
import Pr0xteus.Proof.StopOrder

/-!
# What becomes of a failure

`handleServiceError` offers the error to `errCh` and goes on whether or not it was taken. The channel
holds one error and is closed when no goroutine is left to send, so the first report is what `Run` finds
there, unless it takes the other branch of its `select`.
-/

namespace Pr0xteus.ServiceManager

open GoTime Transition

variable {services : Services} {s t : State} {answer : Answer} {svc : Service} {n : Nat}
  {g : Goroutine} {pc : ServicePc} {e : Edge State Action}

/-! ## Nobody is left to send on the closed channel -/

/-- `Run` has waited for the services, or never started one. -/
def RunPc.quiet : RunPc → Bool
  | .closeErrCh _ | .cancel _ | .returned _ => true
  | _ => false

structure Quiet (s : State) : Prop where
  done : s.run.quiet = true → ∀ g ∈ s.goroutines, g.pc = .done
  closed : s.closed = true → s.run.quiet = true
  whole : s.crashed = false

theorem ServicePc.next_done {ctxDone : Bool} : ServicePc.done.next ctxDone svc answer = none := by
  cases answer <;> rfl

theorem ServicePc.effect_crashed (h : ∀ err, pc = .handleServiceError err → s.closed = false) :
    (pc.effect svc s).crashed = s.crashed := by
  cases pc with
  | handleServiceError err =>
      simp only [effect, State.report, h err rfl, Bool.false_eq_true, if_false]
      split
      · rfl
      · split <;> rfl
  | _ => rfl

namespace Quiet

theorem init : Quiet init where
  done h := by simp [ServiceManager.init, RunPc.quiet] at h
  closed h := by simp [ServiceManager.init] at h
  whole := rfl

theorem of_eq (hs : Quiet s) (hrun : t.run = s.run) (hgoroutines : t.goroutines = s.goroutines)
    (hclosed : t.closed = s.closed) (hcrashed : t.crashed = s.crashed) : Quiet t where
  done := by rw [hrun, hgoroutines]; exact hs.done
  closed := by rw [hrun, hclosed]; exact hs.closed
  whole := hcrashed.trans hs.whole

theorem runStep (hstart : Startup services s) (hs : Quiet s) (h : RunStep services s t) :
    Quiet t := by
  have hopen : s.run.quiet = false → s.closed = false := by
    intro hquiet
    by_contra hclosed
    rw [hs.closed (by simpa using hclosed)] at hquiet
    cases hquiet
  cases h with
  | factoryError err hrun =>
      have hnone : s.goroutines = [] := by
        have hlaunched := hstart.launched
        rw [hstart.early (by rw [hrun]; rfl)] at hlaunched
        simpa [State.opened, hrun] using hlaunched
      exact ⟨by simp [hnone], fun _ => rfl, hs.whole⟩
  | servicesDone result hrun hdone => exact ⟨fun _ => hdone, fun _ => rfl, hs.whole⟩
  | closeErrCh result hrun => exact ⟨fun _ => hs.done (by rw [hrun]; rfl), fun _ => rfl, hs.whole⟩
  | cancel result hrun => exact ⟨fun _ => hs.done (by rw [hrun]; rfl), fun _ => rfl, hs.whole⟩
  | _ =>
      refine ⟨by simp [RunPc.quiet], fun hclosed => ?_, hs.whole⟩
      have hfalse := hopen (by simp [*, RunPc.quiet])
      simp_all

theorem step {a : Action} (hstart : Startup services s) (hs : Quiet s)
    (h : step services s a = some t) : Quiet t := by
  cases step_cases h with
  | startRun hidle =>
      refine ⟨by simp [RunPc.quiet], fun hclosed => ?_, hs.whole⟩
      have hquiet := hs.closed hclosed
      rw [hidle] at hquiet
      cases hquiet
  | run hrun => exact hs.runStep hstart hrun
  | @service n answer g pc hg hnext =>
      have hnot : s.run.quiet = false := by
        by_contra hquiet
        have hdone := hs.done (by simpa using hquiet) g (List.mem_of_getElem? hg)
        rw [hdone, ServicePc.next_done] at hnext
        cases hnext
      have hopen : s.closed = false := by
        by_contra hclosed
        rw [hs.closed (by simpa using hclosed)] at hnot
        cases hnot
      refine ⟨by simp [hnot], by simp [hopen], ?_⟩
      exact (ServicePc.effect_crashed fun _ _ => hopen).trans hs.whole
  | stop hstop => cases hstop <;> exact hs.of_eq rfl rfl rfl rfl
  | ready _ | cancelParent | callStop | stopper _ _ => exact hs.of_eq rfl rfl rfl rfl

theorem of_path {es : List (Edge State Action)}
    (h : Path (ServiceManager.step services) ServiceManager.init es s) : Quiet s :=
  (h.invariant (fun s => Startup services s ∧ Quiet s) ⟨.init, init⟩ fun _ _ hs hstep =>
    ⟨hs.1.step hstep, hs.2.step hs.1 hstep⟩).2

end Quiet

/-! ## The retries -/

/-- A budget that `range maxRetries + 1` does not overflow. -/
def Service.Budgeted (svc : Service) : Prop :=
  0 ≤ svc.maxRetries.toInt ∧ svc.maxRetries.toInt < Int64.maxValue.toInt

theorem Service.Budgeted.attempts_eq (h : svc.Budgeted) :
    (svc.attempts : Int) = svc.maxRetries.toInt + 1 := by
  obtain ⟨hnonneg, hlt⟩ := h
  have hmax : Int64.maxValue.toInt = 9223372036854775807 := by decide
  have hone : (1 : Int64).toInt = 1 := by decide
  have hsum : (svc.maxRetries + 1).toInt = svc.maxRetries.toInt + 1 := by
    rw [Int64.toInt_add, hone]
    exact Int.bmod_eq_of_le (by omega) (by omega)
  rw [Service.attempts, hsum]
  omega

/-- Where the goroutine is in its budget; what it hands to `handleServiceError` is an error. -/
def ServicePc.InBudget (svc : Service) : ServicePc → Prop
  | .attempt n _ | .running n | .failed n _ => (n : Int) ≤ svc.maxRetries.toInt
  | .waitRetryDelay n _ => (n : Int) < svc.maxRetries.toInt
  | .handleServiceError err => err.isSome = true
  | .created | .trigger | .exiting | .exited | .done => True

theorem ServicePc.InBudget.next (hsvc : svc.Budgeted) {ctxDone : Bool} {pc pc' : ServicePc}
    (h : pc.InBudget svc) (hnext : pc.next ctxDone svc answer = some pc') : pc'.InBudget svc := by
  cases pc with
  | created =>
      cases answer with
      | go => cases hnext; exact hsvc.1
      | _ => cases hnext
  | attempt n lastErr =>
      cases answer with
      | go =>
          have hattempts := hsvc.attempts_eq
          have hn : (n : Int) ≤ svc.maxRetries.toInt := h
          obtain rfl := Option.some.inj hnext
          rw [if_pos (by omega)]
          exact hn
      | _ => cases hnext
  | running n =>
      cases answer with
      | returned err =>
          cases err <;> cases hnext
          · trivial
          · exact h
      | panicked value => cases hnext; exact h
      | _ => cases hnext
  | failed n err =>
      cases answer with
      | go =>
          obtain rfl := Option.some.inj hnext
          split
          · trivial
          · split
            · rfl
            · next hlt => exact Int.not_le.mp hlt
      | _ => cases hnext
  | waitRetryDelay n err =>
      cases answer with
      | go =>
          cases hnext
          have hn : (n : Int) < svc.maxRetries.toInt := h
          exact Int.add_one_le_of_lt hn
      | cancelled =>
          simp only [ServicePc.next, Option.ite_none_right_eq_some, Option.some.injEq] at hnext
          obtain ⟨-, rfl⟩ := hnext
          trivial
      | _ => cases hnext
  | handleServiceError err =>
      cases answer with
      | go =>
          obtain rfl := Option.some.inj hnext
          split <;> trivial
      | _ => cases hnext
  | trigger | exiting | exited =>
      cases answer with
      | go => cases hnext; trivial
      | _ => cases hnext
  | done =>
      rw [ServicePc.next_done] at hnext
      cases hnext

/-- Every goroutine is that of a service with a sound budget, and inside it. -/
def InBudget (s : State) : Prop :=
  ∀ g ∈ s.goroutines, g.service.Budgeted ∧ g.pc.InBudget g.service

theorem InBudget.step (hbudget : ∀ name svc, services.map.lookup name = some svc → svc.Budgeted)
    (hstart : Startup services s) (hs : InBudget s) {a : Action}
    (h : step services s a = some t) : InBudget t := by
  cases step_cases h with
  | run hrun =>
      cases hrun with
      | launch i k svc hrun hsvc =>
          intro g hg
          rcases List.mem_append.mp hg with hg | hg
          · exact hs g hg
          · obtain rfl := List.mem_singleton.mp hg
            have hgroup := hstart.getElem?_groups (i := i) (by rw [hrun]; rfl)
            have horder := hstart.order_of_ne_nil
              (List.ne_nil_of_mem (List.mem_of_getElem? hgroup))
            have hown := horder.own svc (List.mem_flatten.mpr
              ⟨s.group i, List.mem_of_getElem? hgroup, List.mem_of_getElem? hsvc⟩)
            exact ⟨hbudget _ _ hown, trivial⟩
      | _ => exact hs
  | @service n answer g pc hg hnext =>
      intro g' hg'
      rcases List.mem_or_eq_of_mem_set hg' with hg' | rfl
      · exact hs g' hg'
      · obtain ⟨hsvc, hpc⟩ := hs g (List.mem_of_getElem? hg)
        exact ⟨hsvc, hpc.next hsvc hnext⟩
  | stop hstop => cases hstop <;> exact hs
  | startRun _ | ready _ | cancelParent | callStop | stopper _ _ => exact hs

/-! ## The reports -/

/-- The failure that a turn reports: a service that may not fail, and its last error. -/
def reports (e : Edge State Action) : Option (Service × Option Err) :=
  match e.action with
  | .service n .go =>
      e.source.goroutines[n]?.bind fun g =>
        match g.pc with
        | .handleServiceError err => if g.service.allowedFailure then none else some (g.service, err)
        | _ => none
  | _ => none

/-- The turn in which `Run` takes a branch of its last `select`. -/
def Decides (e : Edge State Action) : Prop := e.source.run = .select ∧ e.target.run ≠ .select

instance (e : Edge State Action) : Decidable (Decides e) := inferInstanceAs (Decidable (_ ∧ _))

/-- What `Run` has decided to return. -/
def RunPc.result : RunPc → Option (Option Err)
  | .callStop result | .stopping result _ | .waitServices result | .closeErrCh result
  | .cancel result | .returned result => some result
  | _ => none

/-- The first of the reports. -/
def firstReport (es : List (Edge State Action)) : Option (Service × Option Err) :=
  (es.filterMap reports).head?

/-- How the result and the channel come from the turns that were taken. -/
structure Reported (fs : List (Edge State Action)) (s : State) : Prop where
  channel : s.run.result = none → s.errCh = (firstReport fs).map Prod.snd
  failed : ∀ p ∈ fs.filterMap reports, p.1.allowedFailure = false ∧ p.2.isSome = true
  undecided : s.run.result = none → ∀ e ∈ fs, ¬Decides e
  nilDone : s.run.result = some none → ∃ e ∈ fs, Decides e ∧ e.source.ctxDone = true
  decided : ∀ result, s.run.result = some result → ∀ (i : Nat) e, fs[i]? = some e → Decides e →
    e.source.ctxDone = false →
      ∃ p, firstReport (fs.take i) = some p ∧ result = wrap p.2 "service failed"

namespace Reported

variable {fs : List (Edge State Action)} {a : Action}

theorem init : Reported [] init where
  channel _ := rfl
  failed := by simp
  undecided := by simp
  nilDone := by simp [ServiceManager.init, RunPc.result]
  decided := by simp

/-- A decision among the turns is the last one or an earlier one. -/
theorem decides_cases {e e' : Edge State Action} {i : Nat} (h : (fs ++ [e])[i]? = some e') :
    (fs[i]? = some e' ∧ (fs ++ [e]).take i = fs.take i) ∨ (e' = e ∧ (fs ++ [e]).take i = fs) := by
  rcases Nat.lt_or_ge i fs.length with hlt | hge
  · rw [List.getElem?_append_left hlt] at h
    exact .inl ⟨h, List.take_append_of_le_length hlt.le⟩
  · have hi : i = fs.length := by
      have hlt := (List.getElem?_eq_some_iff.mp h).1
      rw [List.length_append, List.length_singleton] at hlt
      omega
    subst hi
    rw [List.getElem?_concat_length, Option.some.injEq] at h
    exact .inr ⟨h.symm, List.take_left⟩

/-- Until there is a result, a decision can only be the last turn. -/
theorem decides_last (hs : Reported fs s) (hnone : s.run.result = none) {e e' : Edge State Action}
    {i : Nat} (h : (fs ++ [e])[i]? = some e') (hdecide : Decides e') :
    e' = e ∧ (fs ++ [e]).take i = fs := by
  obtain ⟨he, -⟩ | hlast := decides_cases h
  · exact absurd hdecide (hs.undecided hnone e' (List.mem_of_getElem? he))
  · exact hlast

/-- A turn that decides nothing, with what it does to the channel. -/
theorem carry (hs : Reported fs s) (hresult : t.run.result = s.run.result)
    (hdecides : ¬Decides ⟨s, a, t⟩)
    (hchannel : s.run.result = none → t.errCh = (firstReport (fs ++ [⟨s, a, t⟩])).map Prod.snd)
    (hfailed : ∀ p ∈ (fs ++ [(⟨s, a, t⟩ : Edge State Action)]).filterMap reports,
      p.1.allowedFailure = false ∧ p.2.isSome = true) : Reported (fs ++ [⟨s, a, t⟩]) t where
  channel hnone := hchannel (hresult ▸ hnone)
  failed := hfailed
  undecided hnone e he := by
    rcases List.mem_append.mp he with he | he
    · exact hs.undecided (hresult ▸ hnone) e he
    · rwa [List.mem_singleton.mp he]
  nilDone hnil := by
    obtain ⟨e, he, hdone⟩ := hs.nilDone (hresult ▸ hnil)
    exact ⟨e, List.mem_append_left _ he, hdone⟩
  decided result hsome i e he hdecide hnot := by
    obtain ⟨he, htake⟩ | ⟨rfl, -⟩ := decides_cases he
    · rw [htake]
      exact hs.decided result (hresult ▸ hsome) i e he hdecide hnot
    · exact absurd hdecide hdecides

theorem frame (hs : Reported fs s) (hreports : reports ⟨s, a, t⟩ = none)
    (hresult : t.run.result = s.run.result) (herrCh : t.errCh = s.errCh)
    (hdecides : ¬Decides ⟨s, a, t⟩) : Reported (fs ++ [⟨s, a, t⟩]) t := by
  have hfilter := filterMap_append_unseen fs hreports
  refine hs.carry hresult hdecides (fun hnone => ?_) (hfilter ▸ hs.failed)
  rw [herrCh, firstReport, hfilter]
  exact hs.channel hnone

/-- `Run` comes to a result before it has started anything. -/
theorem settle (hs : Reported fs s) {err : Err} (hreports : reports ⟨s, a, t⟩ = none)
    (hnone : s.run.result = none) (hresult : t.run.result = some (some err))
    (hselect : s.run ≠ .select) : Reported (fs ++ [⟨s, a, t⟩]) t := by
  have hfilter := filterMap_append_unseen fs hreports
  refine ⟨by simp [hresult], hfilter ▸ hs.failed, by simp [hresult], by simp [hresult], ?_⟩
  intro result _ i e he hdecide _
  obtain ⟨rfl, -⟩ := hs.decides_last hnone he hdecide
  exact absurd hdecide.1 hselect

theorem runStep (hs : Reported fs s) (h : RunStep services s t) :
    Reported (fs ++ [⟨s, .run answer, t⟩]) t := by
  cases h with
  | factoryError err hrun | noServices hrun | unresolved err hrun =>
      exact hs.settle rfl (by rw [hrun]; rfl) rfl (by simp [hrun])
  | contextDone hrun hdone =>
      have hnone : s.run.result = none := by rw [hrun]; rfl
      refine ⟨by simp [RunPc.result], ?_, by simp [RunPc.result], fun _ => ?_, ?_⟩
      · rw [filterMap_append_unseen fs rfl]
        exact hs.failed
      · exact ⟨_, List.mem_append_right _ (List.mem_singleton.mpr rfl), ⟨hrun, by simp⟩, hdone⟩
      · intro result _ i e he hdecide hnot
        obtain ⟨rfl, -⟩ := hs.decides_last hnone he hdecide
        exact absurd (hdone.symm.trans hnot) (by simp)
  | received err hrun herr =>
      have hnone : s.run.result = none := by rw [hrun]; rfl
      have hchannel := hs.channel hnone
      rw [herr] at hchannel
      obtain ⟨p, hfirst, rfl⟩ := Option.map_eq_some_iff.mp hchannel.symm
      have hp := hs.failed p (List.mem_of_mem_head? hfirst)
      refine ⟨by simp [RunPc.result], ?_, by simp [RunPc.result], fun hnil => ?_, ?_⟩
      · rw [filterMap_append_unseen fs rfl]
        exact hs.failed
      · obtain ⟨err, herr⟩ := Option.isSome_iff_exists.mp hp.2
        simp [RunPc.result, wrap, herr] at hnil
      · intro result hresult i e he hdecide hnot
        obtain ⟨rfl, htake⟩ := hs.decides_last hnone he hdecide
        rw [htake]
        exact ⟨p, hfirst, (Option.some.inj hresult).symm⟩
  | _ => exact hs.frame rfl (by simp [*, RunPc.result]) rfl (by simp [Decides, *])

theorem serviceStep (hquiet : Quiet s) (hbudget : InBudget s) (hs : Reported fs s)
    (hg : s.goroutines[n]? = some g) (hnext : g.pc.next s.ctxDone g.service answer = some pc)
    (ht : t = { g.pc.effect g.service s with goroutines := s.goroutines.set n ⟨g.service, pc⟩ }) :
    Reported (fs ++ [⟨s, .service n answer, t⟩]) t := by
  have hrun : t.run = s.run := by simp [ht]
  have hdecides : ¬Decides ⟨s, .service n answer, t⟩ := fun h => h.2 (hrun.trans h.1)
  cases hreports : reports ⟨s, .service n answer, t⟩ with
  | none =>
      refine hs.frame hreports (by rw [hrun]) ?_ hdecides
      obtain ⟨svc, gpc⟩ := g
      cases gpc with
      | handleServiceError err =>
          cases answer with
          | go =>
              have hallowed : svc.allowedFailure = true := by
                simpa [reports, hg] using hreports
              simp [ht, ServicePc.effect, hallowed]
          | _ => cases hnext
      | _ => simp [ht, ServicePc.effect]
  | some p =>
      -- a report: it is taken if it is the first
      obtain ⟨err, hpc, hallowed, rfl, rfl⟩ : ∃ err, g.pc = .handleServiceError err ∧
          g.service.allowedFailure = false ∧ p = (g.service, err) ∧ answer = .go := by
        unfold reports at hreports
        split at hreports
        · next n' haction =>
            cases haction
            obtain ⟨g', hg', hp⟩ := Option.bind_eq_some_iff.mp hreports
            rw [hg, Option.some.injEq] at hg'
            subst hg'
            split at hp
            · next err herr =>
                simp only [Option.ite_none_left_eq_some, Option.some.injEq] at hp
                exact ⟨err, herr, by simpa using hp.1, hp.2.symm, rfl⟩
            · cases hp
        · cases hreports
      have hopen : s.closed = false := by
        by_contra hclosed
        have hdone := hquiet.done (hquiet.closed (by simpa using hclosed)) g (List.mem_of_getElem? hg)
        rw [hpc] at hdone
        cases hdone
      have herrCh : t.errCh = s.errCh.or (some err) := by
        rw [ht]
        simp only [hpc, ServicePc.effect, hallowed, State.report, hopen]
        cases herrCh : s.errCh <;> simp [herrCh]
      have hfilter : (fs ++ [(⟨s, .service n .go, t⟩ : Edge State Action)]).filterMap reports =
          fs.filterMap reports ++ [(g.service, err)] := by
        rw [List.filterMap_append, List.filterMap_cons_some hreports, List.filterMap_nil]
      refine hs.carry (by rw [hrun]) hdecides (fun hnone => ?_) (hfilter ▸ fun p hp => ?_)
      · rw [herrCh, hs.channel hnone, firstReport, firstReport, hfilter]
        cases fs.filterMap reports <;> rfl
      · rcases List.mem_append.mp hp with hp | hp
        · exact hs.failed p hp
        · obtain rfl := List.mem_singleton.mp hp
          have hsome := (hbudget g (List.mem_of_getElem? hg)).2
          rw [hpc] at hsome
          exact ⟨hallowed, hsome⟩

theorem step (hquiet : Quiet s) (hbudget : InBudget s) (hs : Reported fs s)
    (h : step services s a = some t) : Reported (fs ++ [⟨s, a, t⟩]) t := by
  cases step_cases h with
  | startRun hidle =>
      exact hs.frame rfl (by simp [hidle, RunPc.result]) rfl (by simp [Decides, hidle])
  | run hrun => exact hs.runStep hrun
  | service hg hnext => exact hs.serviceStep hquiet hbudget hg hnext rfl
  | stop hstop => cases hstop <;> exact hs.frame rfl rfl rfl fun hdecides => hdecides.2 hdecides.1
  | ready _ | cancelParent | callStop | stopper _ _ =>
      exact hs.frame rfl rfl rfl fun hdecides => hdecides.2 hdecides.1

theorem of_path (hbudget : ∀ name svc, services.map.lookup name = some svc → svc.Budgeted)
    {es : List (Edge State Action)}
    (h : Path (ServiceManager.step services) ServiceManager.init es s) : Reported es s :=
  (h.history (fun fs s => (Startup services s ∧ Quiet s ∧ InBudget s) ∧ Reported fs s)
    ⟨⟨.init, .init, by simp [InBudget, ServiceManager.init]⟩, init⟩
    fun _ _ _ _ ⟨⟨hstart, hquiet, hin⟩, hs⟩ hstep _ =>
      ⟨⟨hstart.step hstep, hquiet.step hstart hstep, hin.step hbudget hstart hstep⟩,
        hs.step hquiet hin hstep⟩).2

end Reported

/-- A goroutine with an error to hand over is never held up. -/
theorem reporting_enabled (hg : s.goroutines[n]? = some g)
    (hpc : (∃ err, g.pc = .handleServiceError err) ∨ g.pc = .trigger) :
    ∃ t, step services s (.service n .go) = some t := by
  rcases hpc with ⟨err, hpc⟩ | hpc <;>
    exact ⟨_, by simp only [step, serviceStep, hg, hpc, ServicePc.next]; rfl⟩

theorem errCh_of_allowed (h : step services e.source e.action = some e.target)
    (haction : e.action = .service n answer) (hg : e.source.goroutines[n]? = some g)
    (hallowed : g.service.allowedFailure = true) : e.target.errCh = e.source.errCh := by
  obtain ⟨u, a, v⟩ := e
  dsimp only at h haction hg ⊢
  subst haction
  cases step_cases h with
  | service hg' hnext =>
      rw [hg, Option.some.injEq] at hg'
      subst hg'
      obtain ⟨svc, gpc⟩ := g
      cases gpc <;> simp_all [ServicePc.effect]

/-- **Failures.** In every run of services with sound budgets: a goroutine that reports is not held up;
nothing is sent on the closed channel; an allowed failure does not touch the channel; if `Run` returns
nil, its context was done when it decided; and if the context was not done then, `Run` returns the error
of the first report, which is that of a service that may not fail. -/
theorem first_failure_returned (services : Services)
    (hbudget : ∀ name svc, services.map.lookup name = some svc → svc.Budgeted)
    (actions : List Action) :
    (∀ e ∈ runs services actions, ∀ (n : Nat) (g : Goroutine), e.target.goroutines[n]? = some g →
      (∃ err, g.pc = .handleServiceError err) ∨ g.pc = .trigger →
        ∃ t, step services e.target (.service n .go) = some t) ∧
    (∀ e ∈ runs services actions, e.target.crashed = false) ∧
    (∀ e ∈ runs services actions, ∀ (n : Nat) (answer : Answer) (g : Goroutine),
      e.action = .service n answer → e.source.goroutines[n]? = some g →
        g.service.allowedFailure = true → e.target.errCh = e.source.errCh) ∧
    (∀ (j : Nat) (e : Edge State Action) (result : Option Err),
      (runs services actions)[j]? = some e → e.target.run = .returned result →
        (result = none →
          ∃ e' ∈ (runs services actions).take (j + 1), Decides e' ∧ e'.source.ctxDone = true) ∧
        ∀ i ≤ j, ∀ e', (runs services actions)[i]? = some e' → Decides e' →
          e'.source.ctxDone = false →
            ∃ svc err, firstReport ((runs services actions).take i) = some (svc, some err) ∧
              svc.allowedFailure = false ∧ result = some (.wrap err "service failed")) := by
  obtain ⟨s, hpath⟩ := exists_path_runs services actions
  refine ⟨fun e _ n g hg hpc => reporting_enabled hg hpc, fun e he => ?_,
    fun e he n answer g => errCh_of_allowed (hpath.enabled he), fun j e result he hreturned => ?_⟩
  · obtain ⟨fs, hupto, -⟩ := hpath.upTo he
    exact (Quiet.of_path hupto).whole
  · have hupto := hpath.take he
    have hs := Reported.of_path hbudget hupto
    have hresult : e.target.run.result = some result := by rw [hreturned]; rfl
    refine ⟨fun hnil => hs.nilDone (hnil ▸ hresult), fun i hi e' he' hdecides hnot => ?_⟩
    have hlt : i < j + 1 := by omega
    have he'' : ((runs services actions).take (j + 1))[i]? = some e' := by
      rw [List.getElem?_take, if_pos hlt, he']
    obtain ⟨⟨svc, err⟩, hfirst, rfl⟩ := hs.decided result hresult i e' he'' hdecides hnot
    have htake : ((runs services actions).take (j + 1)).take i = (runs services actions).take i := by
      rw [List.take_take, Nat.min_eq_left (by omega)]
    have hmem := List.mem_of_mem_head? hfirst
    rw [htake] at hfirst hmem
    obtain ⟨hallowed, hsome⟩ := hs.failed (svc, err)
      ((List.take_sublist i _).filterMap reports |>.subset (htake ▸ hmem))
    obtain ⟨err, rfl⟩ := Option.isSome_iff_exists.mp hsome
    exact ⟨svc, err, hfirst, hallowed, rfl⟩

namespace Sample

theorem webOverDb_budgeted :
    ∀ name svc, webOverDb.map.lookup name = some svc → svc.Budgeted := by
  intro name svc hlookup
  have hmem := AList.mem_lookup_iff.mp hlookup
  simp only [webOverDb, List.mem_cons, List.not_mem_nil, or_false, Sigma.mk.injEq] at hmem
  rcases hmem with ⟨-, heq⟩ | ⟨-, heq⟩ <;> cases heq <;> exact ⟨by decide, by decide⟩

/-- "web" fails and reports it. -/
def webFails : List Action := .service 1 (.returned (some (.other "boom"))) :: service 1 5

/-- `Run` calls `Stop`, which stops both services, and returns. -/
def stopsBoth : List Action :=
  run 1 ++ stop 0 4 ++ stopper 0 ++ stop 0 2 ++ stopper 1 ++ stop 0 4 ++ exits 0 ++ run 4

end Sample

open Sample in
/-- "web" fails, `Run` receives its error and returns it. -/
theorem first_failure_returned_web :
    let es := runs webOverDb (bothLaunched ++ webFails ++ .run .received :: stopsBoth)
    ∃ (i j : Nat) (e' e : Edge State Action) (result : Option Err), es[i]? = some e' ∧ Decides e' ∧
      e'.source.ctxDone = false ∧ es[j]? = some e ∧ e.target.run = .returned result ∧
      ∃ svc err, firstReport (es.take i) = some (svc, some err) ∧ svc.allowedFailure = false ∧
        result = some (.wrap err "service failed") := by
  intro es
  have hexists : ∃ i < es.length, ∃ j < es.length, i ≤ j ∧
      (∃ e' ∈ es[i]?, Decides e' ∧ e'.source.ctxDone = false) ∧
      ∃ e ∈ es[j]?, e.target.run.hasReturned = true := by decide +kernel
  obtain ⟨i, -, j, -, hij, ⟨e', he', hdecides, hnot⟩, e, he, hreturned⟩ := hexists
  obtain ⟨result, hresult⟩ : ∃ result, e.target.run = .returned result := by
    cases hrun : e.target.run <;> simp_all [RunPc.hasReturned]
  have hlast := (first_failure_returned webOverDb webOverDb_budgeted
    (bothLaunched ++ webFails ++ .run .received :: stopsBoth)).2.2.2 j e result he hresult
  exact ⟨i, j, e', e, result, he', hdecides, hnot, he, hresult, hlast.2 i hij e' he' hdecides hnot⟩

/-- If the context is not done when the first failure has been reported, `Run` returns that failure. -/
def ReturnsFirst (es : List (Edge State Action)) : Prop :=
  ∀ e ∈ es.find? (fun e => (reports e).isSome), e.target.ctxDone = false → ∀ p ∈ reports e, ∀ e' ∈ es,
    e'.target.run.hasReturned = true → e'.target.run = .returned (wrap p.2 "service failed")

instance (es : List (Edge State Action)) : Decidable (ReturnsFirst es) :=
  inferInstanceAs (Decidable (∀ e ∈ es.find? _, _))

open Sample in
/-- "web" fails and reports it; then the context is cancelled, and `Run`, with both branches of its
`select` open, takes the other one and returns nil. -/
theorem not_returnsFirst :
    ¬ReturnsFirst (runs webOverDb (bothLaunched ++ webFails ++
      [.cancelParent, .run .cancelled] ++ stopsBoth)) := by
  decide +kernel

end Pr0xteus.ServiceManager
