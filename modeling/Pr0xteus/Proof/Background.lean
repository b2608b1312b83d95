import Pr0xteus.Machine
import Pr0xteus.Proof.Slots

/-!
# Serving and background goroutines

A goroutine serves a client or works in the background, and stays with that. `BackgroundNext` is the
one case analysis of the background goroutines: every point they can go to, with what they have seen
of the shared state when they go there. The properties of the reaper, of `DestroyCell` and of `Close`
are read off it.
-/

namespace Pr0xteus

open Encoding GoTime

variable {m : Setup} {s s' : Shared} {answer : Answer} {pc : Pc} {ret : pc.call.Ret}

inductive Task where
  | serve
  | reap
  | reapOrphans
  | destroyCell
  | close
  | markFailed
  deriving DecidableEq

/-- A goroutine that is through has no task. -/
def Pc.task : Pc → Option Task
  | .done | .failed _ => none
  | .acquire _ _ | .assign _ _ | .gateway _ _ _ => some .serve
  | .reaper _ => some .reap
  | .orphan _ => some .reapOrphans
  | .destroy _ _ => some .destroyCell
  | .close _ => some .close
  | .markFailed _ _ _ => some .markFailed

/-- The goroutines that never acquire anything. -/
def Pc.isBackground : Pc → Bool
  | .done | .failed _ | .reaper _ | .orphan _ | .destroy _ _ | .close _ | .markFailed _ _ _ => true
  | .acquire _ _ | .assign _ _ | .gateway _ _ _ => false

/-- The points in the middle of a round: a background goroutine has looked at a pool, or has chosen
a container, and is not through with it. -/
def Pc.isBusy : Pc → Bool
  | .reaper (.idleClock _) | .reaper (.idleList _ _) | .reaper (.idlePool _ _ _ _)
  | .reaper (.healthList _) | .reaper (.healthPool _ _ _) => false
  | .reaper _ | .destroy _ (.kill _) | .destroy _ (.clear _) | .close (.kill _ _ _)
  | .close (.clear _ _ _) => true
  | _ => false

def Pc.isBetween (pc : Pc) : Bool := pc.isBackground && !pc.isBusy

variable (names : List String)

@[simp]
theorem isBetween_next (pass : Pass) : pass.next.isBetween = true := by
  rcases pass with ⟨now, urls, _ | ⟨pool, names⟩⟩ | ⟨urls, _ | ⟨pool, names⟩⟩ <;> rfl

@[simp]
theorem isBetween_collectNext (keep : List String) : (collectNext keep names).isBetween = true := by
  cases names <;> rfl

@[simp]
theorem isBetween_orphanNext : (orphanNext names).isBetween = true := by
  cases names <;> rfl

@[simp]
theorem isBetween_destroyNext (containerID : String) :
    (destroyNext containerID names).isBetween = true := by
  cases names <;> rfl

@[simp]
theorem isBetween_closeNext : (closeNext names).isBetween = true := by
  cases names <;> rfl

theorem isBackground_of_isBetween (h : pc.isBetween = true) : pc.isBackground = true :=
  (Bool.and_eq_true_iff.mp h).1

theorem isBusy_of_isBetween (h : pc.isBetween = true) : pc.isBusy = false := by
  simpa using (Bool.and_eq_true_iff.mp h).2

theorem docker_of_listed {listed : List CellHandle}
    (hexec : exec m s .listChildren answer = some (s', some listed)) {containerID : String}
    (hmem : containsCell listed containerID = true) : (s.docker containerID).isSome := by
  obtain ⟨handle, hhandle, hid⟩ := List.any_eq_true.mp hmem
  cases answer with
  | handles listed' =>
      simp only [exec] at hexec
      split at hexec
      · next hall =>
          obtain ⟨-, rfl⟩ : s = s' ∧ listed' = listed := by simpa using hexec
          have hknown := List.all_eq_true.mp hall handle hhandle
          rwa [beq_iff_eq.mp hid] at hknown
      · exact absurd hexec.symm (Option.some_ne_none _)
  | fail reason => simp [exec] at hexec
  | _ => exact absurd hexec.symm (Option.some_ne_none _)

/-- Where a background goroutine can go in the middle of a round, and what it has seen when it goes
there. -/
inductive BackgroundNext (m : Setup) (s : Shared) (answer : Answer) : Pc → Pc → Prop
  | idleStatus (now : Int) (urls : String → Option URL) (pool : String) (names : List String)
      (t : Tunnel) (url : URL) (hslot : s.slot pool = some t)
      (hidle : ¬sub now t.lastUsedAt < m.cfg.idleTimeout) (hfree : t.inFlight ≤ 0) :
      BackgroundNext m s answer (.reaper (.idlePool now urls pool names))
        (.reaper (.idleStatus now urls names pool t url))
  | idleKill (now : Int) (urls : String → Option URL) (pool : String) (names : List String)
      (t : Tunnel) (hslot : s.slot pool = some t)
      (hidle : ¬sub now t.lastUsedAt < m.cfg.idleTimeout) (hfree : t.inFlight ≤ 0) :
      BackgroundNext m s answer (.reaper (.idlePool now urls pool names))
        (.reaper (.killMark (.idle now urls names) pool t))
  | statusKill (now : Int) (urls : String → Option URL) (pool : String) (names : List String)
      (t : Tunnel) (url : URL) :
      BackgroundNext m s answer (.reaper (.idleStatus now urls names pool t url))
        (.reaper (.killMark (.idle now urls names) pool t))
  | healthProbe (urls : String → Option URL) (pool : String) (names : List String) (t : Tunnel)
      (url : URL) (hslot : s.slot pool = some t) (hhot : t.state = .hot)
      (hurl : urls t.containerID = some url) :
      BackgroundNext m s answer (.reaper (.healthPool urls pool names))
        (.reaper (.healthProbe urls names pool t url))
  | healthAge (urls : String → Option URL) (pool : String) (names : List String) (t : Tunnel)
      (hslot : s.slot pool = some t) (hhot : t.state = .hot)
      (hurl : urls t.containerID = none) :
      BackgroundNext m s answer (.reaper (.healthPool urls pool names))
        (.reaper (.healthAge urls names pool t))
  | probeConfirm (urls : String → Option URL) (pool : String) (names : List String) (t : Tunnel)
      (url : URL) (hanswer : answer = .ok) :
      BackgroundNext m s answer (.reaper (.healthProbe urls names pool t url))
        (.reaper (.healthConfirm urls names pool t))
  | ageConfirm (urls : String → Option URL) (pool : String) (names : List String) (t : Tunnel)
      (hage : sub s.now t.healthyAt ≤ m.cfg.healthHandshakeMaxAge) :
      BackgroundNext m s answer (.reaper (.healthAge urls names pool t))
        (.reaper (.healthConfirm urls names pool t))
  | probeFail (urls : String → Option URL) (pool : String) (names : List String) (t : Tunnel)
      (url : URL) :
      BackgroundNext m s answer (.reaper (.healthProbe urls names pool t url))
        (.reaper (.failClock urls names pool t))
  | ageFail (urls : String → Option URL) (pool : String) (names : List String) (t : Tunnel)
      (hage : m.cfg.healthHandshakeMaxAge < sub s.now t.healthyAt) :
      BackgroundNext m s answer (.reaper (.healthAge urls names pool t))
        (.reaper (.failClock urls names pool t))
  | recordFailure (urls : String → Option URL) (pool : String) (names : List String) (t : Tunnel)
      (now : Int) :
      BackgroundNext m s answer (.reaper (.failClock urls names pool t))
        (.reaper (.recordFailure urls names pool t now))
  | healthKill (urls : String → Option URL) (pool : String) (names : List String) (t : Tunnel)
      (now : Int) :
      BackgroundNext m s answer (.reaper (.recordFailure urls names pool t now))
        (.reaper (.killMark (.health urls names) pool t))
  | killInvoke (pass : Pass) (pool : String) (t : Tunnel) :
      BackgroundNext m s answer (.reaper (.killMark pass pool t))
        (.reaper (.killInvoke pass pool t))
  | killClear (pass : Pass) (pool : String) (t : Tunnel) :
      BackgroundNext m s answer (.reaper (.killInvoke pass pool t))
        (.reaper (.killClear pass pool t))
  | destroyKill (containerID : String) (names : List String)
      (hlisted : (s.docker containerID).isSome) :
      BackgroundNext m s answer (.destroy containerID (.list names))
        (.destroy containerID (.kill names))
  | destroyClear (containerID pool : String) (names : List String) (t : Tunnel)
      (hslot : s.slot pool = some t) (hid : t.containerID = containerID) :
      BackgroundNext m s answer (.destroy containerID (.find pool names))
        (.destroy containerID (.clear pool))
  | closeKill (pool : String) (names : List String) (t : Tunnel) (hslot : s.slot pool = some t) :
      BackgroundNext m s answer (.close (.pool pool names))
        (.close (.kill pool t.containerID names))
  | closeClear (pool containerID : String) (names : List String) :
      BackgroundNext m s answer (.close (.kill pool containerID names))
        (.close (.clear pool containerID names))

theorem backgroundNext_of_exec (hpc : pc.isBackground = true)
    (hexec : exec m s pc.call answer = some (s', ret)) :
    (resume m pc ret).isBetween = true ∨ BackgroundNext m s answer pc (resume m pc ret) := by
  cases pc with
  | done | failed err => exact absurd hexec.symm (Option.some_ne_none _)
  | acquire a stage | assign acq stage | gateway u p stage => simp [Pc.isBackground] at hpc
  | reaper stage =>
      cases stage with
      | idleClock names => exact .inl rfl
      | idleList now names | healthList names => exact .inl (by simp [resume])
      | idlePool now urls pool names =>
          have hslot : s.slot pool = ret := congrArg Prod.snd (Option.some.inj hexec)
          rcases ret with _ | t
          · exact .inl (by simp [resume])
          · simp only [resume]
            split_ifs with hidle hfree
            · exact .inl (by simp)
            · exact .inl (by simp)
            · split
              · exact .inr (.idleKill now urls pool names t hslot hidle (by omega))
              · exact .inr (.idleStatus now urls pool names t _ hslot hidle (by omega))
      | idleStatus now urls names pool t url =>
          simp only [resume]
          split
          · exact .inl (by simp)
          · exact .inr (.statusKill now urls pool names t url)
      | healthPool urls pool names =>
          have hslot : s.slot pool = ret := congrArg Prod.snd (Option.some.inj hexec)
          rcases ret with _ | t
          · exact .inl (by simp [resume])
          · simp only [resume]
            split_ifs with hhot
            · exact .inl (by simp)
            · have hhot : t.state = .hot := not_not.mp hhot
              split
              · exact .inr (.healthProbe urls pool names t _ hslot hhot (by assumption))
              · exact .inr (.healthAge urls pool names t hslot hhot (by assumption))
      | healthProbe urls names pool t url =>
          cases ret with
          | false => exact .inr (.probeFail urls pool names t url)
          | true =>
              refine .inr (.probeConfirm urls pool names t url ?_)
              cases answer with
              | ok => rfl
              | fail reason => simp [Pc.call, exec] at hexec
              | _ => exact absurd hexec.symm (Option.some_ne_none _)
      | healthAge urls names pool t =>
          have hnow : s.now = ret := congrArg Prod.snd (Option.some.inj hexec)
          simp only [resume]
          split
          · next hage => exact .inr (.ageConfirm urls pool names t (hnow ▸ hage))
          · next hage => exact .inr (.ageFail urls pool names t (hnow ▸ Int64.not_le.mp hage))
      | healthConfirm urls names pool t => exact .inl (by simp [resume])
      | failClock urls names pool t => exact .inr (.recordFailure urls pool names t ret)
      | recordFailure urls names pool t now => exact .inr (.healthKill urls pool names t now)
      | killMark pass pool t => exact .inr (.killInvoke pass pool t)
      | killInvoke pass pool t => exact .inr (.killClear pass pool t)
      | killClear pass pool t => exact .inl (by simp [resume])
  | orphan stage =>
      cases stage with
      | collect keep pool names =>
          refine .inl ?_
          simp only [resume]
          split
          · simp
          · split <;> simp
      | list keep => rcases ret with _ | listed <;> exact .inl rfl
      | clock keep listed | kill containerID rest =>
          exact .inl (by simp [resume])
  | destroy containerID stage =>
      cases stage with
      | list names =>
          rcases ret with _ | listed
          · exact .inl rfl
          · simp only [resume]
            split
            · next hmem => exact .inr (.destroyKill containerID names (docker_of_listed hexec hmem))
            · exact .inl rfl
      | kill names => exact .inl (by simp [resume])
      | find pool names =>
          have hslot : s.slot pool = ret := congrArg Prod.snd (Option.some.inj hexec)
          rcases ret with _ | t
          · exact .inl (by simp [resume])
          · simp only [resume]
            split
            · next hid => exact .inr (.destroyClear containerID pool names t hslot hid)
            · exact .inl (by simp)
      | clear pool => exact .inl rfl
  | close stage =>
      cases stage with
      | pool pool names =>
          have hslot : s.slot pool = ret := congrArg Prod.snd (Option.some.inj hexec)
          rcases ret with _ | t
          · exact .inl (by simp [resume])
          · simp only [resume]
            split
            · exact .inl (by simp)
            · exact .inr (.closeKill pool names t hslot)
      | kill pool containerID names => exact .inr (.closeClear pool containerID names)
      | clear pool containerID names => exact .inl (by simp [resume])
  | markFailed pool confName stage =>
      cases stage <;> exact .inl rfl

theorem isBackground_resume (hexec : exec m s pc.call answer = some (s', ret))
    (hpc : pc.isBackground = true) : (resume m pc ret).isBackground = true := by
  obtain hbetween | hnext := backgroundNext_of_exec hpc hexec
  · exact isBackground_of_isBetween hbetween
  · generalize resume m pc ret = pc' at hnext
    cases hnext <;> rfl

section Task

variable (names : List String) (acq : Acquisition) (a : Attempt)

theorem task_next (pass : Pass) : pass.next.task = some .reap ∨ pass.next.task = none := by
  rcases pass with ⟨now, urls, _ | ⟨pool, names⟩⟩ | ⟨urls, _ | ⟨pool, names⟩⟩ <;>
    simp [Pass.next, Pc.task]

theorem task_collectNext (keep : List String) :
    (collectNext keep names).task = some .reapOrphans := by
  cases names <;> rfl

theorem task_orphanNext :
    (orphanNext names).task = some .reapOrphans ∨ (orphanNext names).task = none := by
  cases names <;> simp [orphanNext, Pc.task]

theorem task_destroyNext (containerID : String) :
    (destroyNext containerID names).task = some .destroyCell ∨
      (destroyNext containerID names).task = none := by
  cases names <;> simp [destroyNext, Pc.task]

theorem task_closeNext :
    (closeNext names).task = some .close ∨ (closeNext names).task = none := by
  cases names <;> simp [closeNext, Pc.task]

theorem task_assign : (assign acq).task = some .serve := by
  unfold assign
  split <;> rfl

theorem task_fail (err : CtxError) :
    (a.fail m err).task = some .serve ∨ (a.fail m err).task = none := by
  unfold Attempt.fail
  split <;> simp [Pc.task]

end Task

/-- A goroutine stays with its task until it is through. -/
theorem task_resume (ret : pc.call.Ret) :
    (resume m pc ret).task = pc.task ∨ (resume m pc ret).task = none := by
  cases pc with
  | done | failed err => exact .inl rfl
  | acquire a stage =>
      cases stage with
      | tryHot =>
          rcases ret with err | t
          · simp only [resume]
            split
            · exact .inr rfl
            · exact .inl rfl
          · exact .inl (task_assign _)
      | pickClock mu =>
          simp only [resume]
          split <;> exact .inl rfl
      | recheck mu | pickConf mu now exclude | create mu conf | waitReady mu conf containerID =>
          rcases ret with _ | _ <;> exact .inl rfl
      | unlockOk mu acq => exact .inl (task_assign acq)
      | unlockFail mu err => exact task_fail a err
      | _ => exact .inl rfl
  | assign acq stage =>
      cases stage with
      | leaseParts url => rcases ret with _ | ⟨leaseID, secret⟩ <;> exact .inl rfl
      | release => exact .inr rfl
      | _ => exact .inl rfl
  | gateway u p stage =>
      cases stage with
      | lookup use now =>
          rcases ret with _ | record
          · exact .inr rfl
          · cases use with
            | validate => exact .inr rfl
            | _ => exact .inl rfl
      | reserve now record =>
          rcases ret with _ | _
          · exact .inr rfl
          · exact .inl rfl
      | dial acq => cases ret <;> exact .inl rfl
      | connected acq | hangUp acq => exact .inr rfl
      | lookupClock use => exact .inl rfl
  | reaper stage =>
      cases stage with
      | idleList now names | healthList names | healthConfirm urls names pool t
      | killClear pass pool t => exact task_next _
      | idlePool now urls pool names =>
          rcases ret with _ | t
          · exact task_next _
          · simp only [resume]
            split
            · exact task_next _
            · split
              · exact task_next _
              · split <;> exact .inl rfl
      | idleStatus now urls names pool t url =>
          simp only [resume]
          split
          · exact task_next _
          · exact .inl rfl
      | healthPool urls pool names =>
          rcases ret with _ | t
          · exact task_next _
          · simp only [resume]
            split
            · exact task_next _
            · split <;> exact .inl rfl
      | healthProbe urls names pool t url => cases ret <;> exact .inl rfl
      | healthAge urls names pool t =>
          simp only [resume]
          split <;> exact .inl rfl
      | _ => exact .inl rfl
  | orphan stage =>
      cases stage with
      | collect keep pool names =>
          left
          simp only [resume]
          split
          · exact task_collectNext names keep
          · split <;> exact task_collectNext names _
      | list keep =>
          rcases ret with _ | listed
          · exact .inr rfl
          · exact .inl rfl
      | clock keep listed => exact task_orphanNext _
      | kill containerID rest => exact task_orphanNext rest
  | destroy containerID stage =>
      cases stage with
      | list names =>
          rcases ret with _ | listed
          · exact .inr rfl
          · simp only [resume]
            split
            · exact .inl rfl
            · exact .inr rfl
      | kill names => exact task_destroyNext names containerID
      | find pool names =>
          simp only [resume]
          split
          · exact task_destroyNext names containerID
          · split
            · exact .inl rfl
            · exact task_destroyNext names containerID
      | clear pool => exact .inr rfl
  | close stage =>
      cases stage with
      | pool pool names =>
          rcases ret with _ | t
          · exact task_closeNext names
          · simp only [resume]
            split
            · exact task_closeNext names
            · exact .inl rfl
      | kill pool containerID names => exact .inl rfl
      | clear pool containerID names => exact task_closeNext names
  | markFailed pool confName stage =>
      cases stage with
      | mark | clock => exact .inl rfl
      | record now => exact .inr rfl

theorem isBackground_of_task_ne (h : pc.task ≠ some .serve) : pc.isBackground = true := by
  cases pc with
  | acquire | assign | gateway => exact absurd rfl h
  | _ => rfl

theorem task_of_isBusy (h : pc.isBusy = true) : pc.task ≠ some .serve ∧ pc.task ≠ none := by
  cases pc with
  | reaper stage | destroy containerID stage | close stage => simp [Pc.task]
  | _ => cases h

@[simp]
theorem isBusy_start (entry : Entry) : entry.start.isBusy = false := by
  cases entry with
  | reapOrphans names | close names => cases names <;> rfl
  | _ => rfl

theorem backgroundNext_of_isBusy (hexec : exec m s pc.call answer = some (s', ret))
    (hbusy : (resume m pc ret).isBusy = true) :
    pc.isBackground = true ∧ BackgroundNext m s answer pc (resume m pc ret) := by
  obtain ⟨hserve, hthrough⟩ := task_of_isBusy hbusy
  obtain htask | htask := task_resume (m := m) ret
  · have hbackground := isBackground_of_task_ne (htask ▸ hserve)
    refine ⟨hbackground, (backgroundNext_of_exec hbackground hexec).resolve_left fun hbetween => ?_⟩
    rw [isBusy_of_isBetween hbetween] at hbusy
    cases hbusy
  · exact absurd htask hthrough

end Pr0xteus
