import Pr0xteus.Proof.Background

/-!
# The stages of an acquisition

`AcquireNext` is the case analysis of `acquireFromState` and `spawnFromState`: every stage they can
go to, with what they have seen when they go there. A goroutine that is in these functions past the
first look at the slot came there by one of these steps.
-/

namespace Pr0xteus

open Encoding GoTime

variable {m : Setup}

/-- Everywhere but in an `acquireFromState` past its first look at the slot. -/
def Pc.isOutside : Pc → Bool
  | .acquire _ .tryHot => true
  | .acquire _ _ => false
  | _ => true

inductive AcquireNext (m : Setup) (s s' : Shared) (a : Attempt) : AcquireStage → Pc → Prop
  | refused (hpool : (s.pools a.state).isSome) :
      AcquireNext m s s' a .tryHot (.acquire a .mutexFor)
  | mutexFor (mu : Nat) (hmu : s.poolMutexFor a.state = (s', mu)) :
      AcquireNext m s s' a .mutexFor (.acquire a (.lock mu))
  | lock (mu : Nat) (hfree : s.locked mu = false)
      (hlocked : s'.locked = Function.update s.locked mu true) :
      AcquireNext m s s' a (.lock mu) (.acquire a (.recheck mu))
  | used (mu : Nat) (acq : Acquisition) :
      AcquireNext m s s' a (.recheck mu) (.acquire a (.unlockOk mu acq))
  | cold (mu : Nat)
      (hcold : ∀ t, s.slot a.state = some t → t.state = .hot → t.isExcluded a.excludeProxy = true) :
      AcquireNext m s s' a (.recheck mu) (.acquire a (.pickClock mu))
  | exclude (mu : Nat) (now : Int) :
      AcquireNext m s s' a (.pickClock mu) (.acquire a (.excludeConfs mu now))
  | pick (mu : Nat) (now : Int) :
      AcquireNext m s s' a (.pickClock mu) (.acquire a (.pickConf mu now []))
  | pickExcluded (mu : Nat) (now : Int) (exclude : List String) :
      AcquireNext m s s' a (.excludeConfs mu now) (.acquire a (.pickConf mu now exclude))
  | picked (mu : Nat) (now : Int) (exclude : List String) (conf : String) :
      AcquireNext m s s' a (.pickConf mu now exclude) (.acquire a (.create mu conf))
  | exhausted (mu : Nat) (now : Int) (exclude : List String) (err : CtxError) :
      AcquireNext m s s' a (.pickConf mu now exclude) (.acquire a (.unlockFail mu err))
  | created (mu : Nat) (conf containerID : String) :
      AcquireNext m s s' a (.create mu conf) (.acquire a (.waitReady mu conf containerID))
  | uncreated (mu : Nat) (conf reason : String) :
      AcquireNext m s s' a (.create mu conf) (.acquire a (.failClock mu conf reason))
  | ready (mu : Nat) (conf containerID addr gatewayAddr : String) :
      AcquireNext m s s' a (.waitReady mu conf containerID)
        (.acquire a (.readyClock mu conf containerID addr gatewayAddr))
  | unready (mu : Nat) (conf containerID reason : String) :
      AcquireNext m s s' a (.waitReady mu conf containerID)
        (.acquire a (.abandon mu conf containerID reason))
  | spawned (mu : Nat) (conf containerID addr gatewayAddr : String) :
      AcquireNext m s s' a (.readyClock mu conf containerID addr gatewayAddr)
        (.acquire a (.useClock mu
          (readyTunnel (a.request conf) containerID addr gatewayAddr s.now)))
  | abandoned (mu : Nat) (conf containerID reason : String) :
      AcquireNext m s s' a (.abandon mu conf containerID reason)
        (.acquire a (.failClock mu conf reason))
  | stamped (mu : Nat) (t : Tunnel) (now : Int) :
      AcquireNext m s s' a (.useClock mu t) (.acquire a (.publish mu t now))
  | published (mu : Nat) (t : Tunnel) (now : Int) :
      AcquireNext m s s' a (.publish mu t now)
        (.acquire a (.unlockOk mu ⟨t.firstUse a.state now, a.state⟩))
  | failed (mu : Nat) (conf reason : String) (now : Int) :
      AcquireNext m s s' a (.failClock mu conf reason)
        (.acquire a (.recordFailure mu conf reason now))
  | recorded (mu : Nat) (conf reason : String) (now : Int) (err : CtxError) :
      AcquireNext m s s' a (.recordFailure mu conf reason now) (.acquire a (.unlockFail mu err))

section Outside

variable {s s' : Shared} {answer : Answer}

@[simp]
theorem isOutside_assign (acq : Acquisition) : (assign acq).isOutside = true := by
  unfold assign
  split <;> rfl

@[simp]
theorem isOutside_fail (a : Attempt) (err : CtxError) : (a.fail m err).isOutside = true := by
  unfold Attempt.fail
  split <;> rfl

@[simp]
theorem isOutside_start (entry : Entry) : entry.start.isOutside = true := by
  cases entry with
  | reapOrphans names | close names => cases names <;> rfl
  | _ => rfl

theorem acquireNext_of_exec {a : Attempt} {stage : AcquireStage}
    {ret : (Pc.acquire a stage).call.Ret}
    (hexec : exec m s (Pc.acquire a stage).call answer = some (s', ret)) :
    (resume m (.acquire a stage) ret).isOutside = true ∨
      AcquireNext m s s' a stage (resume m (.acquire a stage) ret) := by
  cases stage with
  | tryHot =>
      obtain ⟨t, -, -, -, rfl⟩ | ⟨err, rfl, hunknown, -⟩ := exec_acquire hexec
      · exact .inl (by simp [resume])
      · simp only [resume]
        split
        · exact .inl rfl
        · next hknown =>
            exact .inr (.refused (Bool.not_eq_false _ ▸ fun h => hknown (hunknown.mpr h)))
  | mutexFor => exact .inr (.mutexFor ret (Option.some.inj hexec))
  | lock mu =>
      simp only [Pc.call, exec] at hexec
      split at hexec
      · exact absurd hexec.symm (Option.some_ne_none _)
      · next hfree =>
          cases hexec
          exact .inr (.lock mu (by simpa using hfree) rfl)
  | recheck mu =>
      obtain ⟨t, -, -, -, rfl⟩ | ⟨err, rfl, -, hcold⟩ := exec_acquire hexec
      · exact .inr (.used mu _)
      · exact .inr (.cold mu hcold)
  | pickClock mu =>
      simp only [resume]
      split
      · exact .inr (.exclude mu ret)
      · exact .inr (.pick mu ret)
  | excludeConfs mu now => exact .inr (.pickExcluded mu now _)
  | pickConf mu now exclude =>
      rcases ret with err | conf
      · exact .inr (.exhausted mu now exclude err)
      · exact .inr (.picked mu now exclude conf)
  | create mu conf =>
      rcases ret with reason | containerID
      · exact .inr (.uncreated mu conf reason)
      · exact .inr (.created mu conf containerID)
  | waitReady mu conf containerID =>
      rcases ret with reason | ⟨addr, gatewayAddr⟩
      · exact .inr (.unready mu conf containerID reason)
      · exact .inr (.ready mu conf containerID addr gatewayAddr)
  | readyClock mu conf containerID addr gatewayAddr =>
      obtain rfl : s.now = ret := congrArg Prod.snd (Option.some.inj hexec)
      exact .inr (.spawned mu conf containerID addr gatewayAddr)
  | abandon mu conf containerID reason => exact .inr (.abandoned mu conf containerID reason)
  | useClock mu t => exact .inr (.stamped mu t ret)
  | publish mu t now => exact .inr (.published mu t now)
  | failClock mu conf reason => exact .inr (.failed mu conf reason ret)
  | recordFailure mu conf reason now => exact .inr (.recorded mu conf reason now _)
  | unlockOk mu acq => exact .inl (by simp [resume])
  | unlockFail mu err => exact .inl (by simp [resume])

/-- Who is inside was inside before, or has just been refused at the first look. -/
theorem acquireNext_of_inside {pc : Pc} {ret : pc.call.Ret}
    (hexec : exec m s pc.call answer = some (s', ret))
    (hinside : (resume m pc ret).isOutside = false) :
    ∃ a stage, pc = .acquire a stage ∧ AcquireNext m s s' a stage (resume m pc ret) := by
  cases pc with
  | acquire a stage =>
      refine ⟨a, stage, rfl, (acquireNext_of_exec hexec).resolve_left ?_⟩
      rw [hinside]
      exact Bool.false_ne_true
  | assign acq stage =>
      cases stage with
      | leaseParts url => rcases ret with _ | ⟨leaseID, secret⟩ <;> cases hinside
      | _ => cases hinside
  | gateway u p stage =>
      cases stage with
      | lookup use now =>
          rcases ret with _ | record
          · cases hinside
          · cases use <;> cases hinside
      | reserve now record => rcases ret with _ | _ <;> cases hinside
      | dial acq => cases ret <;> cases hinside
      | _ => cases hinside
  | _ =>
      have hbackground := isBackground_resume hexec rfl
      generalize resume m _ ret = pc' at hinside hbackground
      cases pc' <;> first | cases hinside | cases hbackground

end Outside

end Pr0xteus
