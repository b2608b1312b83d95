import Pr0xteus.Proof.Acquire
import Pr0xteus.Proof.WellFormed

/-!
# One call of acquireFromPool

A call works on the pool it is made for and, once it has given up on that, on the pool's fallback;
from there it goes nowhere else, whatever the fallback's own fallback is. It touches the slots at most
once, with its last access before the return, so a call that fails has left all of them as they were.
What the other goroutines do in the meantime is theirs: the call is judged by its own accesses, and
by the slots before and after it where it runs alone.
-/

namespace Pr0xteus

open Transition

variable {m : Setup}

section Statement

def Pc.givesUpOn (poolName : String) : Pc → Bool
  | .acquire a (.unlockFail _ _) => !a.escalated && a.state == poolName
  | _ => false

/-- Goroutine `i` returns an error from its `acquireFromState` of the pool it asked for. -/
def GivesUp (i : Nat) (poolName : String) (e : Edge State Action) : Prop :=
  e.action.thread = some i ∧ (e.source.threads[i]?).any (Pc.givesUpOn poolName) = true

/-- The attempt is on the pool of the call, or on that pool's fallback: then the call allows it, and
the attempt on the pool has failed. -/
def OnHop (m : Setup) (i : Nat) (poolName : String) (fallbackOK : Bool)
    (es : List (Edge State Action)) (a : Attempt) : Prop :=
  a.escalated = false ∧ a.state = poolName ∨
    a.escalated = true ∧ a.state = m.fallbackPool poolName ∧ fallbackOK = true ∧
      ∃ e ∈ es, GivesUp i poolName e

/-- No access of goroutine `i` changes a slot. -/
def Untouched (i : Nat) (es : List (Edge State Action)) : Prop :=
  ∀ e ∈ es, e.action.thread = some i → ∀ q, e.target.shared.slot q = e.source.shared.slot q

/-- From one state to another, one slot has changed: its tunnel has one request more in flight and is
the one acquired, or is a tunnel with one request whose container did not exist at `boot`. -/
structure OneReserved (boot s s' : Shared) (acq : Acquisition) : Prop where
  slot : s'.slot acq.pool = some acq.tunnel
  others : ∀ q, q ≠ acq.pool → s'.slot q = s.slot q
  counter : (∃ u now, s.slot acq.pool = some u ∧ acq.tunnel = u.use now) ∨
    acq.tunnel.inFlight = 1 ∧ boot.docker acq.tunnel.containerID = none

/-- One access of goroutine `i` reserves the acquisition, and no other one changes a slot. -/
def Takes (i : Nat) (s : State) (es : List (Edge State Action)) (acq : Acquisition) : Prop :=
  ∃ front e back, es = front ++ e :: back ∧ Untouched i front ∧ Untouched i back ∧
    e.action.thread = some i ∧ OneReserved s.shared e.source.shared e.target.shared acq

/-- No other goroutine makes an access. -/
def Alone (i : Nat) (es : List (Edge State Action)) : Prop :=
  ∀ e ∈ es, ∀ j, e.action.thread = some j → j = i

end Statement

/-! ## One access of the call -/

section Access

variable {s s' : Shared} {answer : Answer} {a : Attempt} {stage : AcquireStage}
  {ret : (Pc.acquire a stage).call.Ret}

/-- Where an access of an attempt leads. -/
inductive AttemptNext (m : Setup) (a : Attempt) (stage : AcquireStage) : Pc → Prop
  | goes (stage' : AcquireStage)
      (hheld : ∀ acq, (Pc.acquire a stage').held = some acq →
        acq.pool = a.state ∨ (Pc.acquire a stage).held = some acq) :
      AttemptNext m a stage (.acquire a stage')
  | returns (acq : Acquisition)
      (hpool : acq.pool = a.state ∨ (Pc.acquire a stage).held = some acq) :
      AttemptNext m a stage (assign acq)
  | fails (err : CtxError) : AttemptNext m a stage (.failed err)
  | escalates (mu : Nat) (err : CtxError) (hstage : stage = .unlockFail mu err)
      (hfirst : a.escalated = false) (hallowed : a.fallbackOK = true) :
      AttemptNext m a stage
        (.acquire { a with escalated := true, state := m.fallbackPool a.poolName } .tryHot)

theorem attemptNext_of_resume : AttemptNext m a stage (resume m (.acquire a stage) ret) := by
  have hnext : ∀ stage' : AcquireStage, (Pc.acquire a stage').held = none →
      AttemptNext m a stage (.acquire a stage') :=
    fun stage' hnone => .goes stage' (by simp [hnone])
  cases stage with
  | tryHot =>
      rcases ret with err | t
      · simp only [resume]
        split
        · exact .fails _
        · exact hnext .mutexFor rfl
      · exact .returns _ (.inl rfl)
  | recheck mu =>
      rcases ret with err | t
      · exact hnext _ rfl
      · refine .goes _ fun acq hacq => .inl ?_
        cases hacq
        rfl
  | pickClock mu =>
      simp only [resume]
      split
      · exact hnext _ rfl
      · exact hnext _ rfl
  | pickConf mu now exclude => rcases ret with err | conf <;> exact hnext _ rfl
  | create mu conf => rcases ret with reason | containerID <;> exact hnext _ rfl
  | waitReady mu conf containerID => rcases ret with reason | addrs <;> exact hnext _ rfl
  | publish mu t now =>
      refine .goes _ fun acq hacq => .inl ?_
      cases hacq
      rfl
  | unlockOk mu acq => exact .returns acq (.inr rfl)
  | unlockFail mu err =>
      simp only [resume, Attempt.fail]
      split
      · exact .fails err
      · next hescalates =>
          simp only [not_or, Bool.not_eq_true, Bool.not_eq_false'] at hescalates
          exact .escalates mu err rfl hescalates.1 hescalates.2.1
  | _ => exact hnext _ rfl

/-- An access that acquires nothing changes no slot. -/
theorem slot_of_held_eq (hexec : exec m s (Pc.acquire a stage).call answer = some (s', ret))
    (hheld : (resume m (.acquire a stage) ret).held = (Pc.acquire a stage).held) (q : String) :
    s'.slot q = s.slot q := by
  have hrefused : ∀ (excludeProxy : Option Encoding.URL) (ret : Except CtxError Tunnel),
      exec m s (.acquire a.state excludeProxy) answer = some (s', ret) →
      (∀ t, ret ≠ .ok t) → s'.slot q = s.slot q := by
    intro excludeProxy ret hexec hret
    obtain ⟨t, -, -, -, hok⟩ | ⟨err, -, -, hcold⟩ := exec_acquire hexec
    · exact absurd hok (hret _)
    · rw [slot_exec hexec (by simp)]
      cases hslot : s.slot q with
      | none => rfl
      | some t =>
          by_cases hq : q = a.state
          · subst hq
            simp only [Call.revise, Option.map_some, Option.some.injEq, true_and, ite_eq_right_iff]
            exact fun haccepted => absurd (hcold t hslot haccepted.1) haccepted.2
          · simp [Call.revise, hq]
  cases stage with
  | tryHot =>
      refine hrefused a.excludeProxy ret hexec ?_
      rintro t rfl
      rw [resume, held_assign] at hheld
      cases hheld
  | recheck mu =>
      refine hrefused a.excludeProxy ret hexec ?_
      rintro t rfl
      cases hheld
  | publish mu t now => cases hheld
  | _ =>
      rw [slot_exec hexec (by simp [Pc.call])]
      simp [Pc.call, Call.revise]

/-- What an access of an attempt does to the slots: nothing, or it acquires what it returns. -/
theorem reserves_of_exec {boot : Shared}
    (hexec : exec m s (Pc.acquire a stage).call answer = some (s', ret))
    (hknown : (Pc.acquire a stage).isOutside = false → (s.pools a.state).isSome = true)
    (hfresh : ∀ pool id, (Pc.acquire a stage).unpublished = some (pool, id) →
      boot.docker id = none) :
    (resume m (.acquire a stage) ret).held = (Pc.acquire a stage).held ∨
      (Pc.acquire a stage).held = none ∧
      ∃ acq, (resume m (.acquire a stage) ret).held = some acq ∧ OneReserved boot s s' acq := by
  cases turn_of_exec hexec with
  | use pool t hslot hhot hacquires hslots hheld hheld' =>
      refine .inr ⟨hheld, _, hheld', by rw [hslots, if_pos rfl], fun q hq => ?_, ?_⟩
      · rw [hslots, if_neg hq]
      · exact .inl ⟨t, s.now, hslot, rfl⟩
  | publish pool t now hpublishes hslots hheld hheld' hreadies =>
      have hpool : (s.pools pool).isSome = true := by
        cases stage with
        | publish mu t' now' =>
            cases hpublishes
            exact hknown rfl
        | _ => cases hpublishes
      refine .inr ⟨hheld, _, hheld', by rw [hslots, if_pos ⟨rfl, hpool⟩], fun q hq => ?_, ?_⟩
      · rw [hslots, if_neg fun h => hq h.1]
      · exact .inr ⟨rfl, hfresh pool t.containerID hreadies⟩
  | release acq hreleases => cases stage <;> cases hreleases
  | clear pool hcall => cases stage <;> cases hcall
  | create pool id c hfresh hlabel hcreated hslots hheld hheld' =>
      exact .inl (hheld'.trans hheld.symm)
  | quiet f hkept hslots hheld => exact .inl hheld

end Access

/-! ## The call -/

section Call

variable {i : Nat} {poolName : String} {excludeProxy : Option Encoding.URL} {fallbackOK : Bool}
  {s t : State} {w w' : Shared} {es fs : List (Edge State Action)} {e : Edge State Action}
  {a : Attempt} {pc : Pc}

theorem Untouched.append (h : Untouched i fs)
    (he : e.action.thread = some i → ∀ q, e.target.shared.slot q = e.source.shared.slot q) :
    Untouched i (fs ++ [e]) := by
  intro f hf
  rcases List.mem_append.mp hf with hf | hf
  · exact h f hf
  · rw [List.mem_singleton.mp hf]
    exact he

theorem Takes.append {acq : Acquisition} (h : Takes i s fs acq)
    (he : e.action.thread = some i → ∀ q, e.target.shared.slot q = e.source.shared.slot q) :
    Takes i s (fs ++ [e]) acq := by
  obtain ⟨front, f, back, rfl, hfront, hback, hf⟩ := h
  exact ⟨front, f, back ++ [e], by simp, hfront, hback.append he, hf⟩

theorem OnHop.mono (h : OnHop m i poolName fallbackOK fs a) (hsub : fs ⊆ es) :
    OnHop m i poolName fallbackOK es a := by
  rcases h with hfirst | ⟨hsecond, hstate, hallowed, f, hf, hgives⟩
  · exact .inl hfirst
  · exact .inr ⟨hsecond, hstate, hallowed, f, hsub hf, hgives⟩

/-- What is known of a call wherever it is, or where it has ended: `a` is its last attempt. -/
structure Progress (m : Setup) (i : Nat) (poolName : String) (fallbackOK : Bool) (s : State)
    (fs : List (Edge State Action)) (w : Shared) (a : Attempt) (pc : Pc) : Prop where
  attempt : ∀ a' stage, pc = .acquire a' stage → a' = a
  asked : a.poolName = poolName
  allowed : a.fallbackOK = fallbackOK
  hop : OnHop m i poolName fallbackOK fs a
  known : pc.isOutside = false → (w.pools a.state).isSome = true
  fresh : ∀ pool id, pc.unpublished = some (pool, id) → s.shared.docker id = none
  free : pc.held = none → Untouched i fs
  holds : ∀ acq, pc.held = some acq → acq.pool = a.state ∧ Takes i s fs acq

/-- The others, and the clock, leave the call where it is. -/
theorem Progress.wait (h : Progress m i poolName fallbackOK s fs w a pc)
    (hother : e.action.thread ≠ some i)
    (hpools : ∀ q, (w'.pools q).isSome = (w.pools q).isSome) :
    Progress m i poolName fallbackOK s (fs ++ [e]) w' a pc where
  attempt := h.attempt
  asked := h.asked
  allowed := h.allowed
  hop := h.hop.mono (List.subset_append_left _ _)
  known := fun houtside => (hpools _).trans (h.known houtside)
  fresh := h.fresh
  free := fun hnone => (h.free hnone).append fun hown => absurd hown hother
  holds := fun acq hacq =>
    ⟨(h.holds acq hacq).1, (h.holds acq hacq).2.append fun hown => absurd hown hother⟩

section Move

variable {stage : AcquireStage} {answer : Answer} {ret : (Pc.acquire a stage).call.Ret}

theorem Progress.known_of_exec (h : Progress m i poolName fallbackOK s fs w a (.acquire a stage))
    (hexec : exec m w (Pc.acquire a stage).call answer = some (w', ret))
    (hinside : (resume m (.acquire a stage) ret).isOutside = false) :
    (w'.pools a.state).isSome = true := by
  rw [isSome_pools_exec hexec]
  cases stage with
  | tryHot =>
      have hnext := (acquireNext_of_exec hexec).resolve_left (by rw [hinside]; decide)
      generalize resume m _ ret = pc at hnext
      cases hnext with
      | refused hpool => exact hpool
  | _ => exact h.known rfl

/-- The slots after an access of the call. -/
theorem Progress.slots (h : Progress m i poolName fallbackOK s fs w a (.acquire a stage))
    (hexec : exec m w (Pc.acquire a stage).call answer = some (w', ret))
    (hown : e.action.thread = some i) (hsource : e.source.shared = w)
    (htarget : e.target.shared = w') :
    ((resume m (.acquire a stage) ret).held = none → Untouched i (fs ++ [e])) ∧
      ∀ acq, (resume m (.acquire a stage) ret).held = some acq → Takes i s (fs ++ [e]) acq := by
  subst hsource htarget
  rcases reserves_of_exec hexec h.known h.fresh with hsame | ⟨hnone, acq, hacq, hreserves⟩
  · have hslots := slot_of_held_eq hexec hsame
    rw [hsame]
    exact ⟨fun hnone => (h.free hnone).append fun _ => hslots,
      fun acq hacq => (h.holds acq hacq).2.append fun _ => hslots⟩
  · rw [hacq]
    refine ⟨nofun, fun acq' hacq' => ?_⟩
    cases hacq'
    exact ⟨fs, e, [], rfl, h.free hnone, fun f hf => absurd hf List.not_mem_nil, hown, hreserves⟩

theorem Progress.move (h : Progress m i poolName fallbackOK s fs w a (.acquire a stage))
    (hexec : exec m w (Pc.acquire a stage).call answer = some (w', ret))
    (hdocker : ∀ id, w.docker id = none → s.shared.docker id = none)
    (hown : e.action.thread = some i) (hthread : e.source.threads[i]? = some (.acquire a stage))
    (hsource : e.source.shared = w) (htarget : e.target.shared = w') :
    ∃ a', Progress m i poolName fallbackOK s (fs ++ [e]) w' a'
      (resume m (.acquire a stage) ret) := by
  obtain ⟨hfree, htakes⟩ := h.slots hexec hown hsource htarget
  have hknown := h.known_of_exec hexec
  have hfresh : ∀ pool id, (resume m (.acquire a stage) ret).unpublished = some (pool, id) →
      s.shared.docker id = none := by
    intro pool id hreadies
    rcases (turn_of_exec hexec).readies_cases hreadies with hold | ⟨hnew, -, -⟩
    · exact h.fresh pool id hold
    · exact hdocker id hnew
  have hhop : OnHop m i poolName fallbackOK (fs ++ [e]) a :=
    h.hop.mono (List.subset_append_left _ _)
  have hpool : ∀ acq, acq.pool = a.state ∨ (Pc.acquire a stage).held = some acq →
      acq.pool = a.state := fun acq hacq => hacq.elim id fun hheld => (h.holds acq hheld).1
  have hnext : AttemptNext m a stage (resume m (.acquire a stage) ret) := attemptNext_of_resume
  generalize resume m (.acquire a stage) ret = pc' at hfree htakes hknown hfresh hnext ⊢
  cases hnext with
  | goes stage' hheld =>
      refine ⟨a, ?_, h.asked, h.allowed, hhop, hknown, hfresh, hfree, fun acq hacq => ?_⟩
      · rintro a' stage'' ⟨⟩
        rfl
      · exact ⟨hpool acq (hheld acq hacq), htakes acq hacq⟩
  | returns acq hacq =>
      refine ⟨a, ?_, h.asked, h.allowed, hhop, hknown, hfresh, hfree, fun acq' hacq' => ?_⟩
      · intro a' stage' hassign
        unfold assign at hassign
        split at hassign <;> cases hassign
      · refine ⟨?_, htakes acq' hacq'⟩
        rw [held_assign] at hacq'
        cases hacq'
        exact hpool acq hacq
  | fails err =>
      refine ⟨a, ?_, h.asked, h.allowed, hhop, hknown, hfresh, hfree, ?_⟩
      · rintro a' stage' ⟨⟩
      · rintro acq ⟨⟩
  | escalates mu err hstage hfirst hallowed =>
      have hstate : a.state = poolName := by
        rcases h.hop with ⟨-, hstate⟩ | ⟨hsecond, -⟩
        · exact hstate
        · rw [hfirst] at hsecond
          cases hsecond
      have hgives : GivesUp i poolName e := by
        refine ⟨hown, ?_⟩
        rw [hthread, hstage]
        simp [Pc.givesUpOn, hfirst, hstate]
      let second : Attempt := { a with escalated := true, state := m.fallbackPool a.poolName }
      have hsecond : OnHop m i poolName fallbackOK (fs ++ [e]) second :=
        .inr ⟨rfl, by rw [← h.asked], by rw [← h.allowed, hallowed], e, by simp, hgives⟩
      refine ⟨second, ?_, h.asked, h.allowed, hsecond, ?_, hfresh, hfree, ?_⟩
      · rintro a' stage' ⟨⟩
        rfl
      · rintro ⟨⟩
      · rintro acq ⟨⟩

end Move

theorem slot_of_alone (hpath : Path (step m) s es t) (halone : Alone i es)
    (huntouched : Untouched i es) (q : String) : t.shared.slot q = s.shared.slot q := by
  refine hpath.invariant (fun u => u.shared.slot q = s.shared.slot q) rfl fun e he hu hstep => ?_
  rw [← hu]
  cases hthread : e.action.thread with
  | some j =>
      obtain rfl := halone e he j hthread
      exact huntouched e he hthread q
  | none =>
      obtain ⟨u, action, v⟩ := e
      dsimp only at hstep hthread ⊢
      cases step_cases hstep with
      | tick d => rfl
      | start entry hvisits => rfl
      | turn j answer pc shared ret hpc hexec => cases hthread

theorem Takes.reserves {acq : Acquisition} (h : Takes i s es acq) (hpath : Path (step m) s es t)
    (halone : Alone i es) : OneReserved s.shared s.shared t.shared acq := by
  obtain ⟨front, e, back, rfl, hfront, hback, -, hreserves⟩ := h
  obtain ⟨hbefore, -, hafter⟩ := hpath.split
  have hsource := slot_of_alone hbefore (fun f hf => halone f (by simp [hf])) hfront
  have htarget := slot_of_alone hafter (fun f hf => halone f (by simp [hf])) hback
  refine ⟨(htarget _).trans hreserves.slot, fun q hq => ?_, ?_⟩
  · rw [htarget, hreserves.others q hq, hsource]
  · rcases hreserves.counter with ⟨u, now, hslot, hused⟩ | hnew
    · exact .inl ⟨u, now, (hsource _).symm.trans hslot, hused⟩
    · exact .inr hnew

end Call

namespace Schedule

/-- Two pools, each the fallback of the other. -/
def twoPools : Setup :=
  { setup with specs := [⟨"de", ["a.conf"], "nl"⟩, ⟨"nl", ["b.conf"], "de"⟩] }

def called : State := ⟨Shared.initial twoPools, [Entry.start (.proxy "de" none true)]⟩

/-- The spawn for the pool fails, the one for its fallback succeeds. -/
def served : List (Edge State Action) :=
  edges (step twoPools) called (go 0 5 ++ steps 0 [.draw 0, .fail "no image"] ++ go 0 3 ++
    ready 0 0 "c1" ++ go 0 2)

def assigns (pool : String) : Pc → Bool
  | .assign acq _ => acq.pool == pool
  | _ => false

end Schedule

end Pr0xteus
