import Pr0xteus.Ownership
import Pr0xteus.Proof.Background

/-!
# One step of the machine

`step_cases` takes an action apart. `Turn` says what the access of one goroutine can do to the slots,
the containers and its own acquisition, and `turn_of_exec` that it does nothing else.
-/

namespace Pr0xteus

open Encoding GoTime

variable {m : Setup} {s t : State} {a : Action} {pc : Pc} {e : Transition.Edge State Action}
  {pool : String} {i : Nat}

inductive StepCases (m : Setup) (s : State) : Action → State → Prop
  | tick (d : Nat) :
      StepCases m s (.tick d) ⟨{ s.shared with now := s.shared.now + d }, s.threads⟩
  | start (entry : Entry) (hvisits : entry.visitsPools m) :
      StepCases m s (.start entry) ⟨s.shared, s.threads ++ [entry.start]⟩
  | turn (i : Nat) (answer : Answer) (pc : Pc) (shared : Shared) (ret : pc.call.Ret)
      (hpc : s.threads[i]? = some pc)
      (hexec : exec m s.shared pc.call answer = some (shared, ret)) :
      StepCases m s (.step i answer) ⟨shared, s.threads.set i (resume m pc ret)⟩

theorem step_cases (hstep : step m s a = some t) : StepCases m s a t := by
  cases a with
  | tick d =>
      cases hstep
      exact .tick d
  | start entry =>
      simp only [step] at hstep
      split at hstep
      · cases hstep
        exact .start entry (by assumption)
      · cases hstep
  | step i answer =>
      obtain ⟨pc, shared, ret, hpc, hexec, rfl⟩ := Threads.turn_eq_some_iff.mp hstep
      exact .turn i answer pc shared ret hpc hexec

theorem isSome_pools_step (hstep : step m s a = some t) (q : String) :
    (t.shared.pools q).isSome = (s.shared.pools q).isSome := by
  cases step_cases hstep with
  | tick d => rfl
  | start entry hvisits => rfl
  | turn i answer pc shared ret hpc hexec => exact isSome_pools_exec hexec q

theorem turn_of_step (hstep : step m s a = some t) (hi : a.thread = some i)
    (hpc : s.threads[i]? = some pc) :
    ∃ answer ret, exec m s.shared pc.call answer = some (t.shared, ret) ∧
      t.threads = s.threads.set i (resume m pc ret) ∧
      t.threads[i]? = some (resume m pc ret) := by
  obtain ⟨answer, rfl⟩ : ∃ answer, a = .step i answer := by
    cases a with
    | step j answer => exact ⟨answer, by rw [Option.some.inj hi]⟩
    | _ => cases hi
  obtain ⟨pc', shared, ret, hpc', hexec, rfl⟩ := Threads.turn_eq_some_iff.mp hstep
  obtain rfl : pc = pc' := Option.some.inj (hpc.symm.trans hpc')
  obtain ⟨hlt, -⟩ := List.getElem?_eq_some_iff.mp hpc
  exact ⟨answer, ret, hexec, rfl, List.getElem?_set_self hlt⟩

/-- What one goroutine keeps whenever it moves, it keeps while the others do. -/
theorem follow_step {q : Pc} {P : Pc → Prop} (hstep : step m s a = some t)
    (hq : s.threads[i]? = some q) (hP : P q) (hresume : a.thread = some i → ∀ answer s' ret,
      exec m s.shared q.call answer = some (s', ret) → P (resume m q ret)) :
    ∃ q', t.threads[i]? = some q' ∧ P q' := by
  obtain ⟨hlt, -⟩ := List.getElem?_eq_some_iff.mp hq
  cases step_cases hstep with
  | tick d => exact ⟨q, hq, hP⟩
  | start entry hvisits => exact ⟨q, by rw [List.getElem?_append_left hlt]; exact hq, hP⟩
  | turn j answer pc shared ret hpc hexec =>
      by_cases hij : j = i
      · subst hij
        obtain rfl : q = pc := Option.some.inj (hq.symm.trans hpc)
        exact ⟨_, List.getElem?_set_self hlt, hresume rfl answer shared ret hexec⟩
      · exact ⟨q, by rw [List.getElem?_set_ne hij]; exact hq, hP⟩

/-- What is to hold of every goroutine after a step: of those that stay where they are because it
held before, of a new one, and of the one that moves. -/
theorem forall_threads_of_step (hstep : step m s a = some t) {P Q : Nat → Pc → Prop}
    (hbefore : ∀ i pc, s.threads[i]? = some pc → P i pc) (hkeep : ∀ i pc, P i pc → Q i pc)
    (hstart : ∀ i (entry : Entry), a = .start entry → entry.visitsPools m = true → Q i entry.start)
    (hmove : ∀ i answer pc ret, a = .step i answer → s.threads[i]? = some pc →
      exec m s.shared pc.call answer = some (t.shared, ret) → Q i (resume m pc ret)) :
    ∀ i pc, t.threads[i]? = some pc → Q i pc := by
  intro i pc hpc
  cases step_cases hstep with
  | tick d => exact hkeep i pc (hbefore i pc hpc)
  | start entry hvisits =>
      rw [List.getElem?_append] at hpc
      split at hpc
      · exact hkeep i pc (hbefore i pc hpc)
      · obtain rfl : pc = entry.start := by simpa using List.mem_of_getElem? hpc
        exact hstart i entry rfl hvisits
  | turn j answer pc' shared ret hpc' hexec =>
      by_cases hij : i = j
      · subst hij
        obtain ⟨hlt, -⟩ := List.getElem?_eq_some_iff.mp hpc'
        rw [List.getElem?_set_self hlt] at hpc
        cases hpc
        exact hmove i answer pc' ret rfl hpc' hexec
      · rw [List.getElem?_set_ne (Ne.symm hij)] at hpc
        exact hkeep i pc (hbefore i pc hpc)

theorem forall_mem_threads_of_step (hstep : step m s a = some t) {P Q : Pc → Prop}
    (hbefore : ∀ pc ∈ s.threads, P pc) (hkeep : ∀ pc, P pc → Q pc)
    (hstart : ∀ entry : Entry, a = .start entry → entry.visitsPools m = true → Q entry.start)
    (hmove : ∀ i answer pc ret, a = .step i answer → s.threads[i]? = some pc →
      exec m s.shared pc.call answer = some (t.shared, ret) → Q (resume m pc ret)) :
    ∀ pc ∈ t.threads, Q pc := by
  intro pc hpc
  obtain ⟨i, hi⟩ := List.mem_iff_getElem?.mp hpc
  exact forall_threads_of_step (P := fun _ => P) (Q := fun _ => Q) hstep
    (fun i pc hpc => hbefore pc (List.mem_of_getElem? hpc)) (fun _ => hkeep) (fun _ => hstart)
    hmove i pc hi

section Background

variable {pc : Pc}

theorem held_of_isBackground (h : pc.isBackground = true) : pc.held = none := by
  unfold Pc.isBackground at h
  split at h <;> first | rfl | cases h

theorem unpublished_of_isBackground (h : pc.isBackground = true) : pc.unpublished = none := by
  unfold Pc.isBackground at h
  split at h <;> first | rfl | cases h

theorem publishes_of_isBackground (h : pc.isBackground = true) : pc.publishes = none := by
  unfold Pc.isBackground at h
  split at h <;> first | rfl | cases h

end Background

section AcquireNext

variable (acq : Acquisition) (a : Attempt) (err : CtxError)

@[simp]
theorem held_assign : (assign acq).held = some acq := by
  unfold assign
  split <;> rfl

@[simp]
theorem unpublished_assign : (assign acq).unpublished = none := by
  unfold assign
  split <;> rfl

@[simp]
theorem held_fail : (a.fail m err).held = none := by
  unfold Attempt.fail
  split <;> rfl

@[simp]
theorem unpublished_fail : (a.fail m err).unpublished = none := by
  unfold Attempt.fail
  split <;> rfl

end AcquireNext

/-- What the access of one goroutine does to the slots, the containers, the acquisition it holds and
the container it readies. -/
inductive Turn (s : Shared) (pc : Pc) (s' : Shared) (pc' : Pc) : Prop
  | use (pool : String) (t : Tunnel) (hslot : s.slot pool = some t) (hhot : t.state = .hot)
      (hacquires : pc.acquires s = some t)
      (hslots : ∀ q, s'.slot q = if q = pool then some (t.use s.now) else s.slot q)
      (hheld : pc.held = none) (hheld' : pc'.held = some ⟨t.use s.now, pool⟩)
      (hreadies : pc.unpublished = none) (hreadies' : pc'.unpublished = none)
      (hdocker : s'.docker = s.docker)
  | publish (pool : String) (t : Tunnel) (now : Int) (hpublishes : pc.publishes = some pool)
      (hslots : ∀ q, s'.slot q =
        if q = pool ∧ (s.pools pool).isSome then some (t.firstUse pool now) else s.slot q)
      (hheld : pc.held = none) (hheld' : pc'.held = some ⟨t.firstUse pool now, pool⟩)
      (hreadies : pc.unpublished = some (pool, t.containerID)) (hreadies' : pc'.unpublished = none)
      (hdocker : s'.docker = s.docker)
  | release (acq : Acquisition) (hreleases : pc.releases = some acq)
      (hslots : ∀ q, s'.slot q =
        (s.slot q).map fun t => if q = acq.pool then t.released else t)
      (hheld : pc.held = some acq) (hheld' : pc'.held = none)
      (hreadies : pc.unpublished = none) (hreadies' : pc'.unpublished = none)
      (hdocker : s'.docker = s.docker)
  | clear (pool : String) (hcall : pc.call = .setTunnel pool none)
      (hslots : ∀ q, s'.slot q = if q = pool then none else s.slot q)
      (hheld : pc.held = none) (hheld' : pc'.held = none)
      (hreadies : pc.unpublished = none) (hreadies' : pc'.unpublished = none)
      (hdocker : s'.docker = s.docker)
  | create (pool containerID : String) (c : Container) (hfresh : s.docker containerID = none)
      (hlabel : c.pool = pool) (hcreated : c.created = s.now)
      (hslots : ∀ q, s'.slot q = s.slot q)
      (hheld : pc.held = none) (hheld' : pc'.held = none)
      (hreadies : pc.unpublished = none) (hreadies' : pc'.unpublished = some (pool, containerID))
      (hdocker : s'.docker = Function.update s.docker containerID (some c))
      (hname : containerID ≠ "")
  | quiet (f : String → Tunnel → Tunnel) (hkept : ∀ (q : String) (t : Tunnel), t.Kept (f q t))
      (hslots : ∀ q, s'.slot q = (s.slot q).map (f q))
      (hheld : pc'.held = pc.held)
      (hreadies : pc'.unpublished = pc.unpublished ∨ pc'.unpublished = none)
      (hdocker : s'.docker = s.docker)

theorem slot_init (pool : String) : (init m).shared.slot pool = none := by
  cases hspec : m.spec pool <;> simp [init, Shared.initial, Shared.slot, PoolState.new, hspec]

theorem actor_of_thread (hi : e.action.thread = some i) : actor e = e.source.threads[i]? := by
  unfold actor
  cases haction : e.action with
  | step j answer =>
      rw [haction] at hi
      cases hi
      rfl
  | _ =>
      rw [haction] at hi
      cases hi

theorem thread_of_actor (h : pc ∈ actor e) : ∃ i, e.action.thread = some i := by
  unfold actor at h
  split at h
  · next i answer haction => exact ⟨i, by rw [haction]; rfl⟩
  · cases h

theorem mem_threads_of_actor (h : pc ∈ actor e) : pc ∈ e.source.threads := by
  unfold actor at h
  split at h
  · exact List.mem_of_getElem? h
  · cases h

theorem turn_of_actor (hstep : step m e.source e.action = some e.target) (hpc : pc ∈ actor e) :
    ∃ (i : Nat) (answer : Answer) (ret : pc.call.Ret), e.source.threads[i]? = some pc ∧
      exec m e.source.shared pc.call answer = some (e.target.shared, ret) ∧
      e.target.threads[i]? = some (resume m pc ret) := by
  unfold actor at hpc
  split at hpc
  · next i _ haction =>
      obtain ⟨answer, ret, hexec, -, hresume⟩ := turn_of_step hstep (by rw [haction]; rfl) hpc
      exact ⟨i, answer, ret, hpc, hexec, hresume⟩
  · cases hpc

section TurnOfExec

variable {s s' : Shared} {answer : Answer} {pc pc' : Pc} {ret : pc.call.Ret}

theorem Turn.of_isQuiet (hexec : exec m s pc.call answer = some (s', ret))
    (hquiet : pc.call.isQuiet = true) (hheld : pc'.held = pc.held)
    (hreadies : pc'.unpublished = pc.unpublished ∨ pc'.unpublished = none) :
    Turn s pc s' pc' := by
  refine .quiet (fun q t => pc.call.revise s.now q t) (Call.kept_revise hquiet s.now)
    (slot_exec hexec ?_) hheld hreadies (docker_exec hexec ?_)
  · rintro pool t hcall
    simp [hcall, Call.isQuiet] at hquiet
  · rintro req hcall
    simp [hcall, Call.isQuiet] at hquiet

theorem Turn.of_same (hslots : ∀ q, s'.slot q = s.slot q) (hdocker : s'.docker = s.docker)
    (hheld : pc'.held = pc.held)
    (hreadies : pc'.unpublished = pc.unpublished ∨ pc'.unpublished = none) :
    Turn s pc s' pc' :=
  .quiet (fun _ t => t) (fun _ t => .refl t) (by simpa using hslots) hheld hreadies hdocker

/-- An acquisition, by a request or by a lease: it uses the tunnel in the slot if that is one it
accepts, and is refused otherwise. -/
theorem Turn.of_attempt {c : Call} {cret : c.Ret} (accepts : Tunnel → Prop) [DecidablePred accepts]
    (hexec : exec m s c answer = some (s', cret)) (hset : ∀ pool t, c ≠ .setTunnel pool t)
    (hcreate : ∀ req, c ≠ .containerCreate req)
    (hrevise : ∀ q t, c.revise s.now q t = if q = pool ∧ accepts t then t.use s.now else t)
    (hhot : ∀ t, accepts t → t.state = .hot)
    (hacquires : pc.acquires s = (s.slot pool).filter fun t => accepts t)
    (hresult : (∃ t, s.slot pool = some t ∧ accepts t ∧ pc'.held = some ⟨t.use s.now, pool⟩) ∨
      (∀ t, s.slot pool = some t → ¬accepts t) ∧ pc'.held = none) (hheld : pc.held = none)
    (hreadies : pc.unpublished = none) (hreadies' : pc'.unpublished = none) : Turn s pc s' pc' := by
  have hslots := slot_exec hexec hset
  have hdocker := docker_exec hexec hcreate
  obtain ⟨t, hslot, haccepts, hheld'⟩ | ⟨hrefuses, hheld'⟩ := hresult
  · refine .use pool t hslot (hhot t haccepts) ?_ (fun q => ?_) hheld hheld' hreadies hreadies'
      hdocker
    · simp [hacquires, hslot, haccepts]
    · rw [hslots]
      by_cases hq : q = pool
      · subst hq
        simp [hslot, hrevise, haccepts]
      · simp [hrevise, hq]
  · refine .of_same (fun q => ?_) hdocker (hheld'.trans hheld.symm) (.inr hreadies')
    rw [hslots]
    cases hslot : s.slot q with
    | none => rfl
    | some t =>
        by_cases hq : q = pool
        · subst hq
          simp [hrevise, hrefuses t hslot]
        · simp [hrevise, hq]

theorem Turn.of_acquire {excludeProxy : Option URL} {ret : Except CtxError Tunnel}
    (hexec : exec m s (.acquire pool excludeProxy) answer = some (s', ret))
    (hacquires : pc.acquires s = (s.slot pool).filter fun t =>
      t.state = .hot ∧ ¬t.isExcluded excludeProxy) (hheld : pc.held = none)
    (hreadies : pc.unpublished = none) (hreadies' : pc'.unpublished = none)
    (hok : ∀ t, ret = .ok t → pc'.held = some ⟨t, pool⟩)
    (herror : ∀ err, ret = .error err → pc'.held = none) : Turn s pc s' pc' := by
  refine .of_attempt (fun t => t.state = .hot ∧ ¬t.isExcluded excludeProxy) hexec
    (by simp) (by simp) (fun q t => rfl) (fun t h => h.1) hacquires ?_ hheld hreadies hreadies'
  obtain ⟨t, hslot, hhot, hexcluded, hret⟩ | ⟨err, hret, -, hnone⟩ := exec_acquire hexec
  · exact .inl ⟨t, hslot, ⟨hhot, by simp [hexcluded]⟩, hok _ hret⟩
  · exact .inr ⟨fun t hslot h => h.2 (hnone t hslot h.1), herror err hret⟩

theorem Turn.of_acquireContainer {pool containerID : String} {ret : Except CtxError Tunnel}
    (hexec : exec m s (.acquireContainer pool containerID) answer = some (s', ret))
    (hacquires : pc.acquires s = (s.slot pool).filter fun t =>
      t.state = .hot ∧ t.containerID = containerID)
    (hheld : pc.held = none) (hreadies : pc.unpublished = none) (hreadies' : pc'.unpublished = none)
    (hok : ∀ t, ret = .ok t → pc'.held = some ⟨t, pool⟩)
    (herror : ∀ err, ret = .error err → pc'.held = none) : Turn s pc s' pc' := by
  refine .of_attempt (fun t => t.state = .hot ∧ t.containerID = containerID) hexec
    (by simp) (by simp) (fun q t => rfl) (fun t h => h.1) hacquires ?_ hheld hreadies hreadies'
  obtain ⟨t, hslot, hhot, hid, hret⟩ | ⟨err, hret, hnone⟩ := exec_acquireContainer hexec
  · exact .inl ⟨t, hslot, ⟨hhot, hid⟩, hok _ hret⟩
  · exact .inr ⟨fun t hslot h => hnone t hslot h.1 h.2, herror err hret⟩

theorem Turn.of_release {acq : Acquisition} {ret : Unit}
    (hexec : exec m s (.release acq.pool) answer = some (s', ret))
    (hreleases : pc.releases = some acq) (hheld : pc.held = some acq) (hheld' : pc'.held = none)
    (hreadies : pc.unpublished = none) (hreadies' : pc'.unpublished = none) : Turn s pc s' pc' :=
  .release acq hreleases (slot_exec hexec (by simp)) hheld hheld' hreadies hreadies'
    (docker_exec hexec (by simp))

theorem Turn.of_clear {ret : Unit} (hexec : exec m s (.setTunnel pool none) answer = some (s', ret))
    (hcall : pc.call = .setTunnel pool none) (hheld : pc.held = none) (hheld' : pc'.held = none)
    (hreadies : pc.unpublished = none) (hreadies' : pc'.unpublished = none) : Turn s pc s' pc' := by
  exact .clear pool hcall (slot_exec_clear hexec rfl) hheld hheld' hreadies hreadies'
    (docker_exec hexec (by simp))

theorem Turn.of_publish {t : Tunnel} {now : Int} {ret : Unit}
    (hexec : exec m s (.setTunnel pool (some (t.firstUse pool now))) answer = some (s', ret))
    (hpublishes : pc.publishes = some pool) (hheld : pc.held = none)
    (hheld' : pc'.held = some ⟨t.firstUse pool now, pool⟩)
    (hreadies : pc.unpublished = some (pool, t.containerID)) (hreadies' : pc'.unpublished = none) :
    Turn s pc s' pc' :=
  .publish pool t now hpublishes (slot_exec_setTunnel hexec) hheld hheld' hreadies hreadies'
    (docker_exec hexec (by simp))

theorem Turn.of_create {req : SpawnRequest} {ret : Except String String}
    (hexec : exec m s (.containerCreate req) answer = some (s', ret)) (hheld : pc.held = none)
    (hheld' : pc'.held = none) (hreadies : pc.unpublished = none)
    (hok : ∀ id, ret = .ok id → pc'.unpublished = some (req.pool, id))
    (herror : ∀ reason, ret = .error reason → pc'.unpublished = none) : Turn s pc s' pc' := by
  obtain ⟨id, hname, hfresh, rfl, hpools, hdocker⟩ | ⟨reason, rfl, rfl⟩ := exec_containerCreate hexec
  · exact .create req.pool id _ hfresh rfl rfl (Shared.slot_congr hpools) hheld hheld' hreadies
      (hok id rfl) hdocker hname
  · exact .of_same (fun _ => rfl) rfl (hheld'.trans hheld.symm) (.inr (herror reason rfl))

/-- Every access of every goroutine is one of these. -/
theorem turn_of_exec (hexec : exec m s pc.call answer = some (s', ret)) :
    Turn s pc s' (resume m pc ret) := by
  cases pc with
  | done | failed => exact absurd hexec.symm (Option.some_ne_none _)
  | acquire a stage =>
      cases stage with
      | tryHot =>
          refine .of_acquire hexec rfl rfl rfl ?_ ?_ ?_
          · rcases ret with err | t
            · simp only [resume]
              split <;> rfl
            · simp [resume]
          · rintro t rfl
            simp [resume]
          · rintro err rfl
            simp only [resume]
            split <;> rfl
      | recheck mu =>
          refine .of_acquire hexec rfl rfl rfl ?_ ?_ ?_
          · rcases ret with err | t <;> rfl
          · rintro t rfl
            rfl
          · rintro err rfl
            rfl
      | create mu conf =>
          refine .of_create hexec rfl ?_ rfl ?_ ?_
          · rcases ret with reason | id <;> rfl
          · rintro id rfl
            rfl
          · rintro reason rfl
            rfl
      | publish mu t now => exact .of_publish hexec rfl rfl rfl rfl rfl
      | pickConf mu now exclude =>
          rcases ret with err | conf <;> exact .of_isQuiet hexec rfl rfl (.inl rfl)
      | waitReady mu conf containerID =>
          rcases ret with reason | addrs
          · exact .of_isQuiet hexec rfl rfl (.inr rfl)
          · exact .of_isQuiet hexec rfl rfl (.inl rfl)
      | pickClock mu =>
          refine .of_isQuiet hexec rfl ?_ ?_ <;> simp only [resume] <;> split <;>
            simp [Pc.held, Pc.unpublished]
      | unlockFail | unlockOk =>
          exact .of_isQuiet hexec rfl (by simp [resume]; rfl) (by simp [resume])
      | _ => exact .of_isQuiet hexec rfl rfl (.inl rfl)
  | assign acq stage =>
      cases stage with
      | leaseParts url =>
          rcases ret with _ | ⟨leaseID, secret⟩ <;> exact .of_isQuiet hexec rfl rfl (.inl rfl)
      | release => exact .of_release hexec rfl rfl rfl rfl rfl
      | _ => exact .of_isQuiet hexec rfl rfl (.inl rfl)
  | gateway u p stage =>
      cases stage with
      | lookupClock use => exact .of_isQuiet hexec rfl rfl (.inl rfl)
      | lookup use now =>
          rcases ret with _ | record
          · exact .of_isQuiet hexec rfl rfl (.inl rfl)
          · cases use <;> exact .of_isQuiet hexec rfl rfl (.inl rfl)
      | reserve now record =>
          refine .of_acquireContainer hexec rfl rfl rfl ?_ ?_ ?_
          · rcases ret with err | t <;> rfl
          · rintro t rfl
            rfl
          · rintro err rfl
            rfl
      | dial acq => cases ret <;> exact .of_isQuiet hexec rfl rfl (.inl rfl)
      | connected | hangUp => exact .of_release hexec rfl rfl rfl rfl rfl
  | reaper stage =>
      have hnext := isBackground_resume hexec rfl
      have hheld := held_of_isBackground hnext
      have hreadies := unpublished_of_isBackground hnext
      cases stage with
      | killClear pass pool t => exact .of_clear hexec rfl rfl hheld rfl hreadies
      | _ => exact .of_isQuiet hexec rfl hheld (.inr hreadies)
  | orphan stage =>
      have hnext := isBackground_resume hexec rfl
      cases stage <;>
        exact .of_isQuiet hexec rfl (held_of_isBackground hnext)
          (.inr (unpublished_of_isBackground hnext))
  | destroy containerID stage =>
      have hnext := isBackground_resume hexec rfl
      have hheld := held_of_isBackground hnext
      have hreadies := unpublished_of_isBackground hnext
      cases stage with
      | clear pool => exact .of_clear hexec rfl rfl hheld rfl hreadies
      | _ => exact .of_isQuiet hexec rfl hheld (.inr hreadies)
  | close stage =>
      have hnext := isBackground_resume hexec rfl
      have hheld := held_of_isBackground hnext
      have hreadies := unpublished_of_isBackground hnext
      cases stage with
      | clear pool containerID names => exact .of_clear hexec rfl rfl hheld rfl hreadies
      | _ => exact .of_isQuiet hexec rfl hheld (.inr hreadies)
  | markFailed pool confName stage =>
      cases stage <;> exact .of_isQuiet hexec rfl rfl (.inl rfl)

end TurnOfExec

end Pr0xteus
