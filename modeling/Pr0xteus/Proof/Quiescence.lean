import Mathlib.Data.Prod.Lex
import Pr0xteus.Proof.Spawning

/-!
# The controller comes to rest

Spawn mutexes are the only thing that a goroutine waits for, and who holds one never waits for
another, so while a goroutine is not finished some goroutine can go on. None goes on forever: a request
escalates at most once, a pass visits each pool once, and an orphan pass kills what one listing named.
So when nothing new is started, the goroutines finish in every order in which they can be scheduled,
whatever the daemon and the cells answer and however much time passes in between.
-/

namespace Pr0xteus

open Transition Threads

variable {m : Setup}

/-! ## What is left to do -/

section Weight

/-- The accesses that an attempt has still to make at most. -/
def AcquireStage.weight : AcquireStage → Nat
  | .tryHot => 21
  | .mutexFor => 20
  | .lock _ => 19
  | .recheck _ => 18
  | .pickClock _ => 17
  | .excludeConfs _ _ => 16
  | .pickConf _ _ _ => 15
  | .create _ _ => 14
  | .waitReady _ _ _ => 13
  | .readyClock _ _ _ _ _ | .abandon _ _ _ _ => 12
  | .useClock _ _ | .failClock _ _ _ => 11
  | .publish _ _ _ | .recordFailure _ _ _ _ => 10
  | .unlockOk _ _ | .unlockFail _ _ => 6

/-- The pools that a pass has still to visit. -/
def Pass.names : Pass → List String
  | .idle _ _ names | .health _ names => names

def Pc.weight : Pc → Nat
  | .done | .failed _ => 0
  | .acquire a stage => stage.weight + if a.escalated then 0 else 30
  | .assign _ stage =>
      match stage with
      | .leaseParts _ => 5
      | .issueClock _ _ _ => 4
      | .issue _ _ _ _ => 3
      | .setLastURL _ => 2
      | .release => 1
  | .gateway _ _ stage =>
      match stage with
      | .lookupClock _ => 60
      | .lookup _ _ => 59
      | .reserve _ _ => 4
      | .dial _ => 3
      | .connected _ | .hangUp _ => 2
  | .reaper stage =>
      match stage with
      | .idleClock names => 10 * names.length + 12
      | .idleList _ names | .healthList names => 10 * names.length + 11
      | .idlePool _ _ _ names | .healthPool _ _ names => 10 * names.length + 10
      | .idleStatus _ _ names _ _ _ | .healthProbe _ names _ _ _ | .healthAge _ names _ _ =>
          10 * names.length + 9
      | .healthConfirm _ names _ _ => 10 * names.length + 8
      | .failClock _ names _ _ => 10 * names.length + 7
      | .recordFailure _ names _ _ _ => 10 * names.length + 6
      | .killMark pass _ _ => 10 * pass.names.length + 4
      | .killInvoke pass _ _ => 10 * pass.names.length + 3
      | .killClear pass _ _ => 10 * pass.names.length + 2
  | .orphan stage =>
      match stage with
      | .collect _ _ names => names.length + 3
      | .list _ => 2
      | .clock _ _ => 1
      | .kill _ rest => rest.length + 1
  | .destroy _ stage =>
      match stage with
      | .list names => names.length + 4
      | .kill names => names.length + 3
      | .find _ names => names.length + 2
      | .clear _ => 1
  | .close stage =>
      match stage with
      | .pool _ names => 3 * names.length + 3
      | .kill _ _ names => 3 * names.length + 2
      | .clear _ _ names => 3 * names.length + 1
  | .markFailed _ _ stage =>
      match stage with
      | .mark => 3
      | .clock => 2
      | .record _ => 1

/-- An orphan pass that has not chosen yet what it kills: how many that will be is for the daemon to
say. -/
def Pc.unchosen : Pc → Nat
  | .orphan (.collect _ _ _) | .orphan (.list _) | .orphan (.clock _ _) => 1
  | _ => 0

/-- A goroutine has less to do than before. -/
def Pc.Below (pc' pc : Pc) : Prop :=
  pc'.unchosen < pc.unchosen ∨ pc'.unchosen = pc.unchosen ∧ pc'.weight < pc.weight

theorem Pc.wellFounded_below : WellFounded Pc.Below := by
  refine Subrelation.wf ?_ (InvImage.wf (fun pc : Pc => (pc.unchosen, pc.weight))
    (WellFounded.prod_lex Nat.lt_wfRel.wf Nat.lt_wfRel.wf))
  intro pc' pc h
  exact Prod.lex_def.mpr h

theorem weight_assign (acq : Acquisition) : (assign acq).unchosen = 0 ∧ (assign acq).weight ≤ 5 := by
  unfold assign
  split <;> exact ⟨rfl, by simp [Pc.weight]⟩

theorem weight_fail (a : Attempt) (err : CtxError) :
    (a.fail m err).unchosen = 0 ∧
      (a.fail m err).weight < 6 + if a.escalated then 0 else 30 := by
  unfold Attempt.fail
  split
  · exact ⟨rfl, by simp [Pc.weight]⟩
  · next hgoesOn =>
      rw [not_or] at hgoesOn
      exact ⟨rfl, by simp [Pc.weight, AcquireStage.weight, hgoesOn.1]⟩

theorem weight_next (pass : Pass) :
    pass.next.unchosen = 0 ∧ pass.next.weight ≤ 10 * pass.names.length := by
  obtain ⟨now, urls, names⟩ | ⟨urls, names⟩ := pass <;> cases names with
  | nil => exact ⟨rfl, Nat.zero_le _⟩
  | cons pool names =>
      refine ⟨rfl, ?_⟩
      simp only [Pass.next, Pc.weight, Pass.names, List.length_cons]
      omega

theorem weight_destroyNext (containerID : String) (names : List String) :
    (destroyNext containerID names).unchosen = 0 ∧
      (destroyNext containerID names).weight ≤ names.length + 1 := by
  cases names with
  | nil => exact ⟨rfl, Nat.zero_le _⟩
  | cons pool names => exact ⟨rfl, le_rfl⟩

theorem weight_closeNext (names : List String) :
    (closeNext names).unchosen = 0 ∧ (closeNext names).weight ≤ 3 * names.length := by
  cases names with
  | nil => exact ⟨rfl, Nat.zero_le _⟩
  | cons pool names => exact ⟨rfl, le_rfl⟩

theorem weight_orphanNext (rest : List String) :
    (orphanNext rest).unchosen = 0 ∧ (orphanNext rest).weight ≤ rest.length := by
  cases rest with
  | nil => exact ⟨rfl, le_rfl⟩
  | cons containerID rest => exact ⟨rfl, le_rfl⟩

theorem weight_collectNext (keep names : List String) :
    (collectNext keep names).unchosen = 1 ∧ (collectNext keep names).weight ≤ names.length + 2 := by
  cases names with
  | nil => exact ⟨rfl, le_rfl⟩
  | cons pool names => exact ⟨rfl, le_rfl⟩

end Weight

/-! ## Every goroutine finishes -/

section Below

variable {pc' pc : Pc}

theorem Pc.Below.of_weight (h' : pc'.unchosen = 0) (hlt : pc'.weight < pc.weight) : pc'.Below pc := by
  unfold Pc.Below
  omega

theorem below_acquire {a : Attempt} {stage : AcquireStage} (ret : (Pc.acquire a stage).call.Ret) :
    (resume m (.acquire a stage) ret).Below (.acquire a stage) := by
  cases stage with
  | tryHot =>
      cases ret with
      | ok t =>
          obtain ⟨hchosen, hweight⟩ := weight_assign ⟨t, a.state⟩
          refine .of_weight hchosen (hweight.trans_lt ?_)
          simp only [Pc.weight, AcquireStage.weight]
          omega
      | error err =>
          simp only [resume]
          split
          · exact .of_weight rfl (by simp [Pc.weight, AcquireStage.weight])
          · exact .of_weight rfl (by simp [Pc.weight, AcquireStage.weight])
  | unlockOk mu acq =>
      obtain ⟨hchosen, hweight⟩ := weight_assign acq
      refine .of_weight hchosen (hweight.trans_lt ?_)
      simp only [Pc.weight, AcquireStage.weight]
      omega
  | unlockFail mu err =>
      obtain ⟨hchosen, hweight⟩ := @weight_fail m a err
      exact .of_weight hchosen hweight
  | recheck mu | pickConf mu now exclude | create mu conf | waitReady mu conf containerID =>
      cases ret <;> exact .of_weight rfl (by simp [resume, Pc.weight, AcquireStage.weight])
  | pickClock mu =>
      simp only [resume]
      split <;> exact .of_weight rfl (by simp [Pc.weight, AcquireStage.weight])
  | _ => exact .of_weight rfl (by simp [resume, Pc.weight, AcquireStage.weight])

theorem below_assign {acq : Acquisition} {stage : AssignStage} (ret : (Pc.assign acq stage).call.Ret) :
    (resume m (.assign acq stage) ret).Below (.assign acq stage) := by
  cases stage with
  | leaseParts url => cases ret <;> exact .of_weight rfl (by simp [resume, Pc.weight])
  | _ => exact .of_weight rfl (by simp [resume, Pc.weight])

theorem below_gateway {u p : String} {stage : GatewayStage} (ret : (Pc.gateway u p stage).call.Ret) :
    (resume m (.gateway u p stage) ret).Below (.gateway u p stage) := by
  cases stage with
  | lookup use now =>
      cases ret with
      | none => exact .of_weight rfl (by simp [resume, Pc.weight])
      | some record =>
          cases use <;> exact .of_weight rfl (by simp [resume, Pc.weight, AcquireStage.weight])
  | reserve now record | dial acq => cases ret <;> exact .of_weight rfl (by simp [resume, Pc.weight])
  | _ => exact .of_weight rfl (by simp [resume, Pc.weight])

/-- The pass goes on to its next pool. -/
theorem below_next {pass : Pass} (h : 10 * pass.names.length < pc.weight) : pass.next.Below pc :=
  .of_weight (weight_next pass).1 ((weight_next pass).2.trans_lt h)

theorem below_reaper {stage : ReaperStage} (ret : (Pc.reaper stage).call.Ret) :
    (resume m (.reaper stage) ret).Below (.reaper stage) := by
  cases stage with
  | idleList now names | healthList names => exact below_next (by simp [Pc.weight, Pass.names])
  | idlePool now urls pool names =>
      cases ret with
      | none => exact below_next (by simp [Pc.weight, Pass.names])
      | some t =>
          simp only [resume]
          split_ifs
          · exact below_next (by simp [Pc.weight, Pass.names])
          · exact below_next (by simp [Pc.weight, Pass.names])
          · split <;> exact .of_weight rfl (by simp [Pc.weight, Pass.names])
  | idleStatus now urls names pool t url =>
      simp only [resume]
      split_ifs
      · exact below_next (by simp [Pc.weight, Pass.names])
      · exact .of_weight rfl (by simp [Pc.weight, Pass.names])
  | healthPool urls pool names =>
      cases ret with
      | none => exact below_next (by simp [Pc.weight, Pass.names])
      | some t =>
          simp only [resume]
          split_ifs
          · exact below_next (by simp [Pc.weight, Pass.names])
          · split <;> exact .of_weight rfl (by simp [Pc.weight])
  | healthProbe urls names pool t url =>
      cases ret <;> exact .of_weight rfl (by simp [resume, Pc.weight])
  | healthAge urls names pool t =>
      simp only [resume]
      split_ifs <;> exact .of_weight rfl (by simp [Pc.weight])
  | healthConfirm urls names pool t => exact below_next (by simp [Pc.weight, Pass.names])
  | killClear pass pool t => exact below_next (by simp [Pc.weight])
  | _ => exact .of_weight rfl (by simp [resume, Pc.weight, Pass.names])

theorem below_orphan {stage : OrphanStage} (ret : (Pc.orphan stage).call.Ret) :
    (resume m (.orphan stage) ret).Below (.orphan stage) := by
  cases stage with
  | collect keep pool names =>
      have hnext : ∀ keep', (collectNext keep' names).Below (.orphan (.collect keep pool names)) :=
        fun keep' => .inr ⟨(weight_collectNext keep' names).1,
          Nat.lt_succ_of_le (weight_collectNext keep' names).2⟩
      cases ret with
      | none => exact hnext _
      | some t =>
          simp only [resume]
          split_ifs
          · exact hnext _
          · exact hnext _
  | list keep =>
      cases ret with
      | none => exact .of_weight rfl (by simp [resume, Pc.weight])
      | some listed => exact .inr ⟨rfl, by simp [resume, Pc.weight]⟩
  | clock keep listed =>
      obtain ⟨hchosen, -⟩ :=
        weight_orphanNext ((listed.filter (reapsOrphan m.cfg keep true ret)).map Summary.id)
      exact .inl (hchosen.trans_lt Nat.one_pos)
  | kill containerID rest =>
      obtain ⟨hchosen, hweight⟩ := weight_orphanNext rest
      exact .of_weight hchosen (Nat.lt_succ_of_le hweight)

theorem below_destroy {containerID : String} {stage : DestroyStage}
    (ret : (Pc.destroy containerID stage).call.Ret) :
    (resume m (.destroy containerID stage) ret).Below (.destroy containerID stage) := by
  have hnext : ∀ {names : List String} {pc : Pc}, names.length + 1 < pc.weight →
      (destroyNext containerID names).Below pc := fun h =>
    .of_weight (weight_destroyNext _ _).1 ((weight_destroyNext _ _).2.trans_lt h)
  cases stage with
  | list names =>
      cases ret with
      | none => exact .of_weight rfl (by simp [resume, Pc.weight])
      | some listed =>
          simp only [resume]
          split_ifs <;> exact .of_weight rfl (by simp [Pc.weight])
  | kill names => exact hnext (by simp [Pc.weight])
  | find pool names =>
      cases ret with
      | none => exact hnext (by simp [Pc.weight])
      | some t =>
          simp only [resume]
          split_ifs
          · exact .of_weight rfl (by simp [Pc.weight])
          · exact hnext (by simp [Pc.weight])
  | clear pool => exact .of_weight rfl (by simp [resume, Pc.weight])

theorem below_close {stage : CloseStage} (ret : (Pc.close stage).call.Ret) :
    (resume m (.close stage) ret).Below (.close stage) := by
  have hnext : ∀ {names : List String} {pc : Pc}, 3 * names.length < pc.weight →
      (closeNext names).Below pc := fun h =>
    .of_weight (weight_closeNext _).1 ((weight_closeNext _).2.trans_lt h)
  cases stage with
  | pool pool names =>
      cases ret with
      | none => exact hnext (by simp [Pc.weight])
      | some t =>
          simp only [resume]
          split_ifs
          · exact hnext (by simp [Pc.weight])
          · exact .of_weight rfl (by simp [Pc.weight])
  | kill pool containerID names => exact .of_weight rfl (by simp [resume, Pc.weight])
  | clear pool containerID names => exact hnext (by simp [Pc.weight])

theorem below_resume {s s' : Shared} {answer : Answer} {ret : pc.call.Ret}
    (hexec : exec m s pc.call answer = some (s', ret)) : (resume m pc ret).Below pc := by
  cases pc with
  | done => cases hexec
  | failed err => cases hexec
  | acquire a stage => exact below_acquire ret
  | assign acq stage => exact below_assign ret
  | gateway u p stage => exact below_gateway ret
  | reaper stage => exact below_reaper ret
  | orphan stage => exact below_orphan ret
  | destroy containerID stage => exact below_destroy ret
  | close stage => exact below_close ret
  | markFailed pool confName stage =>
      cases stage <;> exact .of_weight rfl (by simp [resume, Pc.weight])

/-- The goroutines go on only finitely long. -/
theorem wellFounded_goroutines : WellFounded (Continues Pc.call (exec m) (resume m)) := by
  refine wellFounded_continues (Subrelation.wf ?_ Pc.wellFounded_below)
  rintro pc' pc ⟨s, answer, s', ret, hexec, rfl⟩
  exact below_resume hexec

end Below

/-! ## Somebody can go on -/

section Enabled

def Pc.finished : Pc → Bool
  | .done | .failed _ => true
  | _ => false

/-- The outside world has an answer to every access, and only a mutex makes one wait. -/
theorem exists_exec (s : Shared) {c : Call} (hhalt : c ≠ .halt)
    (hlock : ∀ mu, c = .lock mu → s.locked mu = false) :
    ∃ answer result, exec m s c answer = some result := by
  cases c with
  | halt => exact absurd rfl hhalt
  | lock mu => exact ⟨.ok, _, by rw [exec, hlock mu rfl]; rfl⟩
  | pickConf => exact ⟨.draw 0, _, rfl⟩
  | leaseParts | containerCreate | waitReady | listChildren | containerList | healthz | status | dial =>
      exact ⟨.fail "", _, rfl⟩
  | _ => exact ⟨.ok, _, rfl⟩

theorem call_of_locks {pc : Pc} {mu : Nat} (h : pc.locks = some mu) :
    pc.call ≠ .halt ∧ ∀ mu', pc.call ≠ .lock mu' := by
  cases pc with
  | acquire a stage => cases stage <;> simp_all [Pc.locks, Pc.call, AcquireStage.mutex]
  | _ => cases h

theorem finished_of_halt {pc : Pc} (h : pc.call = .halt) : pc.finished = true := by
  cases pc with
  | done | failed err => rfl
  | acquire a stage | assign acq stage | gateway u p stage | reaper stage | orphan stage
  | destroy id stage | close stage | markFailed pool confName stage => cases stage <;> cases h

theorem Guarded.exists_holder {s : State} (h : Guarded s) {mu : Nat} (hheld : s.shared.locked mu ≠ false) :
    ∃ pc ∈ s.threads, pc.locks = some mu := by
  have hexclusive := h.exclusive mu
  rw [Bool.eq_true_of_not_eq_false hheld] at hexclusive
  obtain ⟨pc, hpc, hlocks⟩ := hexclusive.exists_mem
  exact ⟨pc, hpc, beq_iff_eq.mp hlocks⟩

/-- Who is not finished waits for nobody, or for somebody who waits for nobody. -/
theorem exists_step {s : State} (h : Guarded s) {pc : Pc} (hpc : pc ∈ s.threads)
    (hunfinished : pc.finished = false) : ∃ i answer t, step m s (.step i answer) = some t := by
  have henabled : ∀ q ∈ s.threads, q.call ≠ .halt →
      (∀ mu, q.call = .lock mu → s.shared.locked mu = false) →
      ∃ i answer t, step m s (.step i answer) = some t := by
    intro q hq hhalt hlock
    obtain ⟨i, hi⟩ := List.getElem?_of_mem hq
    obtain ⟨answer, ⟨shared, ret⟩, hexec⟩ := @exists_exec m s.shared _ hhalt hlock
    exact ⟨i, answer, _, turn_eq_some_iff.mpr ⟨q, shared, ret, hi, hexec, rfl⟩⟩
  have hhalt : pc.call ≠ .halt := by
    intro hcall
    rw [finished_of_halt hcall] at hunfinished
    cases hunfinished
  by_cases hlock : ∀ mu, pc.call = .lock mu → s.shared.locked mu = false
  · exact henabled pc hpc hhalt hlock
  · -- the mutex that `pc` waits for is held, and its holder goes on
    push Not at hlock
    obtain ⟨mu, -, hheld⟩ := hlock
    obtain ⟨holder, hholder, hlocks⟩ := h.exists_holder hheld
    obtain ⟨hcall, hnoLock⟩ := call_of_locks hlocks
    exact henabled holder hholder hcall fun mu' hmu' => absurd hmu' (hnoLock mu')

theorem unlocked_of_finished {s : State} (h : Guarded s)
    (hfinished : ∀ pc ∈ s.threads, pc.finished = true) (mu : Nat) : s.shared.locked mu = false := by
  by_contra hheld
  obtain ⟨holder, hholder, hlocks⟩ := h.exists_holder hheld
  have hdone := hfinished holder hholder
  cases holder with
  | done | failed err => cases hlocks
  | _ => cases hdone

end Enabled

/-- **The controller comes to rest.** From every state of every run the goroutines can only go on
finitely long until another one is started, however they are scheduled, whatever they are answered and
whatever time passes; and where none of them can go on, all of them have finished and every spawn mutex
is free. -/
theorem goroutines_finish (m : Setup) (actions : List Action) :
    let s := final (init m) (run m actions)
    Acc (Continues Pc.call (exec m) (resume m)) s ∧
      ((∃ i answer t, step m s (.step i answer) = some t) ∨
        (∀ pc ∈ s.threads, pc.finished = true) ∧ ∀ mu, s.shared.locked mu = false) := by
  intro s
  have hguarded : Guarded s := by
    obtain ⟨t, ht⟩ := exists_path_run m actions
    have hfinal := guarded_of_path ht
    rwa [ht.eq_final] at hfinal
  refine ⟨wellFounded_goroutines.apply s, ?_⟩
  by_cases hfinished : ∀ pc ∈ s.threads, pc.finished = true
  · exact .inr ⟨hfinished, unlocked_of_finished hguarded hfinished⟩
  · push Not at hfinished
    obtain ⟨pc, hpc, hunfinished⟩ := hfinished
    exact .inl (exists_step hguarded hpc (by simpa using hunfinished))

end Pr0xteus
