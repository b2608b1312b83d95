import Pr0xteus.Api
import Pr0xteus.Proof.TunnelTurn

/-!
# One release for each acquisition

Who acquires a cell releases it once: `handleProxy` before it returns, `dialLease` at once where it
fails, and the connection it returns at the first of its `Close` calls, however many there are and
whatever they return. A handler of a CONNECT request closes its connection on every path.
-/

namespace Pr0xteus

variable {acq : Acquisition} {h : Handler}

section Assigning

def ApiEvent.acquiredOf : ApiEvent → Option Acquisition
  | .acquire _ (.ok acq) => some acq
  | _ => none

def ApiEvent.releasedOf : ApiEvent → Option Acquisition
  | .release acq => some acq
  | _ => none

/-- What `handleProxy` can have done. A cell without a lease is released before the answer, and one
with a lease after it. -/
inductive Assigned (mgr : ManagerAnswers) : List ApiEvent → Prop
  | refused (answer : ClientLib.HttpAnswer) : Assigned mgr [.refuse answer]
  | unavailable (call : AcquireCall) (err : Option Sentinel) (answer : ClientLib.HttpAnswer) :
      Assigned mgr [.acquire call (.error err), .refuse answer]
  | unleased (call : AcquireCall) (acq : Acquisition) (err : IssueLeaseError)
      (answer : ClientLib.HttpAnswer) (hissue : mgr.issueLease acq = .error err) :
      Assigned mgr [.acquire call (.ok acq), .release acq, .refuse answer]
  | leased (call : AcquireCall) (acq : Acquisition) (lease : ProxyLease)
      (hissue : mgr.issueLease acq = .ok lease) :
      Assigned mgr [.acquire call (.ok acq), .assign acq.pool lease, .release acq]

theorem assigned_handleProxy (mgr : ManagerAnswers) (r : HttpRequest) :
    Assigned mgr (APIServer.handleProxy mgr r) := by
  unfold APIServer.handleProxy
  split
  · exact .refused _
  · split
    · exact .refused _
    · next excludeProxy _ =>
        dsimp only
        generalize APIServer.acquire _ _ excludeProxy _ = call
        cases mgr.acquire call with
        | error err => exact .unavailable call err _
        | ok acq =>
            cases hissue : mgr.issueLease acq with
            | error err =>
                simp only [hissue]
                exact .unleased call acq err _ hissue
            | ok lease =>
                simp only [hissue]
                exact .leased call acq lease hissue

theorem Assigned.balanced {mgr : ManagerAnswers} {events : List ApiEvent}
    (h : Assigned mgr events) :
    events.filterMap ApiEvent.acquiredOf = events.filterMap ApiEvent.releasedOf := by
  cases h <;> rfl

end Assigning

section Dialing

/-- What `dialLease` can have done: it has no cell; it has released the cell right after the step that
failed; or it returns a connection that holds the cell. -/
inductive Dialed (w : DialWorld) : List ConnEvent → Except String Acquisition → Prop
  | noCell (err : CtxError) (message : String) (hacquire : w.acquireForLease = .error err) :
      Dialed w [] (.error message)
  | failed (acq : Acquisition) (message : String) (hacquire : w.acquireForLease = .ok acq) :
      Dialed w [.acquired acq, .failed message, .released acq] (.error message)
  | connected (acq : Acquisition) (hacquire : w.acquireForLease = .ok acq) :
      Dialed w [.acquired acq] (.ok acq)

theorem dialed_dialLease (w : DialWorld) : Dialed w (dialLease w).1 (dialLease w).2 := by
  unfold dialLease
  split
  · next err hacquire => exact .noCell err _ hacquire
  · next acq hacquire =>
      dsimp only
      split
      · exact .failed acq _ hacquire
      · split
        · exact .failed acq _ hacquire
        · split
          · exact .failed acq _ hacquire
          · exact .connected acq hacquire

/-- In the machine of the controller the goroutine goes on to release the cell exactly where
`dialLease` has done so. -/
theorem resume_of_dialLease {m : Setup} {username password : String} {w : DialWorld}
    (hacquire : w.acquireForLease = .ok acq) :
    resume m (.gateway username password (.dial acq)) (dialLease w).2.isOk =
      .gateway username password
        (if releases (dialLease w).1 = [acq] then .hangUp acq else .connected acq) := by
  have hdialed := dialed_dialLease w
  generalize dialLease w = dialed at hdialed
  obtain ⟨events, result⟩ := dialed
  cases hdialed with
  | noCell err message herror =>
      rw [hacquire] at herror
      cases herror
  | failed acq' message hacquire' =>
      cases hacquire.symm.trans hacquire'
      rw [if_pos (show releases _ = [acq] from rfl)]
      rfl
  | connected acq' hacquire' =>
      cases hacquire.symm.trans hacquire'
      have hheld : releases [.acquired acq] ≠ [acq] := by
        show [] ≠ [acq]
        exact (List.cons_ne_nil _ _).symm
      rw [if_neg hheld]
      rfl

end Dialing

section Closing

namespace ReleaseConn

variable {acq : Acquisition} {s t : State}

theorem releases_closed (log : List ConnEvent) (err : Option String) :
    releases (log ++ [.closed err]) = releases log := by
  simp [releases, ConnEvent.releasedOf]

theorem releases_released (log : List ConnEvent) (acq : Acquisition) :
    releases (log ++ [.released acq]) = releases log ++ [acq] := by
  simp [releases, ConnEvent.releasedOf]

def Stage.phase : Stage → Once.Phase
  | .closing | .entering _ => .before
  | .releasing _ => .inside
  | .leaving _ => .leaving
  | .returned _ => .past

/-- The calls of `Close` on a connection, and the releases they have made. -/
structure Settled (acq : Acquisition) (s : State) : Prop where
  holds : s.shared.acq = acq
  ran : Once.Ran Stage.phase s.threads s.shared.once (releases s.shared.log).length
  only : ∀ a ∈ releases s.shared.log, a = acq

theorem settled_opened (acq : Acquisition) : Settled acq (opened acq) where
  holds := rfl
  ran := Once.Ran.init Stage.phase
  only _ ha := nomatch ha

theorem Settled.step {action : Action} (h : Settled acq s) (hstep : step s action = some t) :
    Settled acq t := by
  cases action with
  | call =>
      cases hstep
      exact ⟨h.holds, h.ran.start rfl, h.only⟩
  | step i closeErr =>
      simp only [ReleaseConn.step] at hstep
      split at hstep
      · cases hstep
      · next stage hstage =>
          obtain ⟨next, hadvance, rfl⟩ := Option.map_eq_some_iff.mp hstep
          cases stage with
          | closing =>
              cases hadvance
              refine ⟨h.holds, ?_, ?_⟩
              · rw [releases_closed]
                exact h.ran.stay hstage rfl
              · rw [releases_closed]
                exact h.only
          | entering err =>
              simp only [advance] at hadvance
              have hran := h.ran
              split at hadvance
              · next honce =>
                  cases hadvance
                  rw [honce] at hran
                  exact ⟨h.holds, hran.enter hstage rfl rfl, h.only⟩
              · cases hadvance
              · next honce =>
                  cases hadvance
                  refine ⟨h.holds, ?_, h.only⟩
                  rw [honce] at hran ⊢
                  exact hran.pass hstage rfl rfl
          | releasing err =>
              cases hadvance
              refine ⟨h.holds, ?_, ?_⟩
              · rw [releases_released, List.length_append]
                exact h.ran.run hstage rfl rfl
              · rw [releases_released]
                intro a ha
                obtain ha | ha := List.mem_append.mp ha
                · exact h.only a ha
                · rw [List.mem_singleton.mp ha, h.holds]
          | leaving err =>
              cases hadvance
              exact ⟨h.holds, h.ran.leave hstage rfl rfl, h.only⟩
          | returned err => cases hadvance

def after (acq : Acquisition) (actions : List Action) : State :=
  Transition.final (opened acq) (Transition.edges step (opened acq) actions)

theorem settled_after (acq : Acquisition) (actions : List Action) :
    Settled acq (after acq actions) := by
  apply Transition.invariant_final (Settled acq) (settled_opened acq)
  intro e _ hsource henabled
  exact hsource.step henabled

theorem Settled.releases_le (h : Settled acq s) :
    releases s.shared.log = [] ∨ releases s.shared.log = [acq] := by
  have hle := h.ran.le_one
  match hlog : releases s.shared.log with
  | [] => exact .inl rfl
  | [a] => exact .inr (by rw [h.only a (by simp [hlog])])
  | a :: b :: rest => simp [hlog] at hle

theorem Settled.releases_of_returned {i : Nat} {err : Option String} (h : Settled acq s)
    (hreturned : s.threads[i]? = some (.returned err)) : releases s.shared.log = [acq] := by
  have hone := h.ran.eq_one_of_past hreturned rfl
  obtain hnone | hreleased := h.releases_le
  · rw [hnone] at hone
    cases hone
  · exact hreleased

theorem Settled.releases_of_uncalled (h : Settled acq s) (huncalled : s.threads = []) :
    releases s.shared.log = [] := by
  have hran := h.ran
  rw [huncalled] at hran
  exact List.eq_nil_of_length_eq_zero hran.eq_zero_of_nil

/-- The calls do not wait for each other for ever: while one has not returned, one can go on. -/
theorem Settled.enabled {i : Nat} {stage : Stage} (h : Settled acq s)
    (hstage : s.threads[i]? = some stage) (hpending : ∀ err, stage ≠ .returned err) :
    ∃ k, (ReleaseConn.step s (.step k none)).isSome = true := by
  have hcan : ∀ {k : Nat} {stage : Stage}, s.threads[k]? = some stage →
      (advance s.shared none stage).isSome = true →
        (ReleaseConn.step s (.step k none)).isSome = true := by
    intro k stage hk hadvance
    simp only [ReleaseConn.step, hk, Option.isSome_map]
    exact hadvance
  cases stage with
  | closing | releasing | leaving => exact ⟨i, hcan hstage rfl⟩
  | returned err => exact absurd rfl (hpending err)
  | entering err =>
      cases honce : s.shared.once with
      | fresh | done => exact ⟨i, hcan hstage (by rw [advance, honce]; rfl)⟩
      | running =>
          -- the call that runs the function is not held up by anything
          obtain ⟨runner, hmem, hphase⟩ := h.ran.exists_runner honce
          obtain ⟨k, hk⟩ := List.getElem?_of_mem hmem
          refine ⟨k, hcan hk ?_⟩
          cases runner with
          | releasing err => rfl
          | leaving err => rfl
          | closing | entering | returned => obtain hphase | hphase := hphase <;> cases hphase

/-- A call that nothing comes between does what `close` says. -/
theorem close_alone (s : State) (hidle : s.shared.once ≠ .running) (err : Option String) :
    ∃ actions,
      (Transition.final s (Transition.edges step s actions)).shared =
        { s.shared with
          once := .done
          log := s.shared.log ++ close (s.shared.once = .done) s.shared.acq err } := by
  let turn : Action := .step s.threads.length err
  obtain ⟨⟨acq, once, log⟩, threads⟩ := s
  cases once with
  | running => exact absurd rfl hidle
  | fresh =>
      refine ⟨[.call, turn, turn, turn, turn], ?_⟩
      simp [turn, Transition.edges, Transition.final, step, advance, close]
  | done =>
      refine ⟨[.call, turn, turn], ?_⟩
      simp [turn, Transition.edges, Transition.final, step, advance, close]

end ReleaseConn

end Closing

section Tunnels

namespace ConnectTunnel

/-- What a handler that has returned can have done. The cell is released with the first closing of
the upstream connection, or by `dialLease`. -/
inductive Served : List ConnEvent → Prop
  | badRequest : Served [.answered 400]
  | noCell : Served [.answered 502]
  | dialFailed (acq : Acquisition) (message : String) :
      Served [.acquired acq, .failed message, .released acq, .answered 502]
  | refused (acq : Acquisition) (err : Option String) :
      Served [.acquired acq, .closed err, .released acq, .answered 500]
  | closed (acq : Acquisition) (err : Option String) :
      Served [.acquired acq, .closed err, .released acq]
  | closedAgain (acq : Acquisition) (err again : Option String) :
      Served [.acquired acq, .closed err, .released acq, .closed again]

def Handler.Open (h : Handler) (acq : Acquisition) : Prop :=
  h.log = [.acquired acq] ∧ h.released = false

def Handler.Closed (h : Handler) (acq : Acquisition) : Prop :=
  (∃ err, h.log = [.acquired acq, .closed err, .released acq]) ∧ h.released = true

/-- What a handler has done when it is at its stage. -/
def Handler.Accounted (h : Handler) : Prop :=
  match h.stage with
  | .start _ | .dial => h.log = [] ∧ h.released = false
  | .dialFailed =>
      h.log = [] ∨ ∃ acq message, h.log = [.acquired acq, .failed message, .released acq]
  | .assertHijacker acq | .refuse acq | .hijack acq | .abandon acq | .track acq | .write acq
  | .relay acq _ _ | .relayCloseClient acq | .relayCloseUpstream acq => h.Open acq
  | .refused => ∃ acq, h.Closed acq
  | .relayWait acq => h.Closed acq
  | .untrack acq | .closeClient acq | .closeUpstream acq => h.Open acq ∨ h.Closed acq
  | .done => Served h.log

theorem Handler.Open.close (hopen : h.Open acq) (err : Option String) :
    (h.closeUpstream acq err).Closed acq := by
  obtain ⟨hlog, hreleased⟩ := hopen
  refine ⟨⟨err, ?_⟩, rfl⟩
  rw [closeUpstream, hlog, hreleased]
  rfl

theorem Handler.Closed.served (hclosed : h.Closed acq) : Served h.log := by
  obtain ⟨⟨err, hlog⟩, -⟩ := hclosed
  rw [hlog]
  exact .closed acq err

/-- Closing the upstream connection once more changes nothing but the record of it. -/
theorem Handler.Closed.served_close (hclosed : h.Closed acq) (again : Option String) :
    Served (h.closeUpstream acq again).log := by
  obtain ⟨⟨err, hlog⟩, hreleased⟩ := hclosed
  rw [closeUpstream, hlog, hreleased]
  exact .closedAgain acq err again

theorem Handler.Accounted.move {h h' : Handler} (hacc : h.Accounted)
    (hmove : h.Move h.stage h') : h'.Accounted := by
  obtain ⟨stage, clientClosed, released, log⟩ := h
  cases hmove with
  | badRequest =>
      obtain ⟨rfl, -⟩ := hacc
      exact .badRequest
  | start hhost => exact hacc
  | dialFailed w hdial =>
      obtain ⟨rfl, -⟩ := hacc
      have hdialed := dialed_dialLease w
      rw [hdial] at hdialed
      show [] ++ (dialLease w).1 = [] ∨ _
      rw [List.nil_append]
      generalize (dialLease w).1 = events at hdialed ⊢
      cases hdialed with
      | noCell => exact .inl rfl
      | failed acq => exact .inr ⟨acq, _, rfl⟩
  | dialed w hdial =>
      obtain ⟨rfl, hreleased⟩ := hacc
      have hdialed := dialed_dialLease w
      rw [hdial] at hdialed
      refine ⟨?_, hreleased⟩
      show [] ++ (dialLease w).1 = _
      rw [List.nil_append]
      generalize (dialLease w).1 = events at hdialed ⊢
      cases hdialed with
      | connected => rfl
  | badGateway =>
      obtain rfl | ⟨acq, message, rfl⟩ := hacc
      · exact .noCell
      · exact .dialFailed acq message
  | internalError =>
      obtain ⟨acq, ⟨err, rfl⟩, -⟩ := hacc
      exact .refused acq err
  | hijacker | noHijacker | hijacked | hijackFailed | track | written | upPassed | downPassed
  | relayEnded | relayCloseClient | untrack | closeClient => exact hacc
  | writeFailed => exact .inl hacc
  | relayDrained => exact .inr hacc
  | refuse err => exact ⟨_, Handler.Open.close hacc err⟩
  | relayCloseUpstream err => exact Handler.Open.close hacc err
  | abandon err => exact (Handler.Open.close hacc err).served
  | closeUpstream err =>
      obtain hopen | hclosed := hacc
      · exact (Handler.Open.close hopen err).served
      · exact hclosed.served_close err

theorem accounted_turn {s t : State} {action : Action} (hacc : ∀ h ∈ s.handlers, h.Accounted)
    (hturn : Turn s action t) : ∀ h ∈ t.handlers, h.Accounted :=
  hturn.forall_handlers hacc (fun _ => ⟨rfl, rfl⟩)
    (fun _ hh hadvance => hh.move (Handler.move_of_advance hadvance)) fun _ hh => hh

theorem accounted_after (actions : List Action) : ∀ h ∈ (after actions).handlers, h.Accounted := by
  apply Transition.invariant_final fun s : State => ∀ h ∈ s.handlers, h.Accounted
  · intro h hmem
    cases hmem
  · intro e _ hsource henabled
    exact accounted_turn hsource (turn_of_step henabled)

/-- At most one cell is acquired, and it is held or has been released once. -/
def HeldOrReleased (log : List ConnEvent) : Prop :=
  (acquisitions log).length ≤ 1 ∧ (releases log = [] ∨ releases log = acquisitions log)

theorem Handler.Open.heldOrReleased (hopen : h.Open acq) : HeldOrReleased h.log := by
  rw [hopen.1]
  exact ⟨Nat.le_refl 1, .inl rfl⟩

theorem Served.balanced {log : List ConnEvent} (h : Served log) :
    acquisitions log = releases log ∧ HeldOrReleased log := by
  cases h with
  | badRequest | noCell => exact ⟨rfl, Nat.zero_le 1, .inl rfl⟩
  | dialFailed | refused | closed | closedAgain => exact ⟨rfl, Nat.le_refl 1, .inr rfl⟩

theorem Handler.Accounted.heldOrReleased (hacc : h.Accounted) : HeldOrReleased h.log := by
  obtain ⟨stage, clientClosed, released, log⟩ := h
  cases stage with
  | start | dial =>
      obtain ⟨rfl, -⟩ := hacc
      exact ⟨Nat.zero_le 1, .inl rfl⟩
  | dialFailed =>
      obtain rfl | ⟨acq, message, rfl⟩ := hacc
      · exact ⟨Nat.zero_le 1, .inl rfl⟩
      · exact ⟨Nat.le_refl 1, .inr rfl⟩
  | assertHijacker | refuse | hijack | abandon | track | write | relay | relayCloseClient
  | relayCloseUpstream => exact Handler.Open.heldOrReleased hacc
  | refused =>
      obtain ⟨acq, hclosed⟩ := hacc
      exact hclosed.served.balanced.2
  | relayWait => exact (Handler.Closed.served hacc).balanced.2
  | untrack | closeClient | closeUpstream =>
      obtain hopen | hclosed := hacc
      · exact hopen.heldOrReleased
      · exact hclosed.served.balanced.2
  | done => exact (Served.balanced hacc).2

end ConnectTunnel

end Tunnels

/-- **Each acquisition is released once.** By `handleProxy` before it returns, right after an issue that
failed or right after the response; by `dialLease` right after the step that failed; by the
connection that `dialLease` returns at the first `Close`, however many there are, how they interleave
and what they return, and none of them waits for ever; and by every handler of a CONNECT request, whose cell is released by the time
it returns. -/
theorem released_exactly_once :
    (∀ mgr r, Assigned mgr (APIServer.handleProxy mgr r) ∧
      (APIServer.handleProxy mgr r).filterMap ApiEvent.acquiredOf =
        (APIServer.handleProxy mgr r).filterMap ApiEvent.releasedOf) ∧
    (∀ w, Dialed w (dialLease w).1 (dialLease w).2) ∧
    (∀ acq actions, let s := ReleaseConn.after acq actions
      (releases s.shared.log = [] ∨ releases s.shared.log = [acq]) ∧
      (s.threads = [] → releases s.shared.log = []) ∧
      (∀ (i : Nat) err, s.threads[i]? = some (.returned err) → releases s.shared.log = [acq]) ∧
      ∀ (i : Nat) stage, s.threads[i]? = some stage → (∀ err, stage ≠ .returned err) →
        ∃ k, (ReleaseConn.step s (.step k none)).isSome = true) ∧
    (∀ actions, ∀ h ∈ (ConnectTunnel.after actions).handlers,
      ConnectTunnel.HeldOrReleased h.log ∧
      (h.stage = .done → ConnectTunnel.Served h.log ∧ acquisitions h.log = releases h.log)) := by
  refine ⟨fun mgr r => ?_, dialed_dialLease, fun acq actions => ?_, fun actions h hmem => ?_⟩
  · have hassigned := assigned_handleProxy mgr r
    exact ⟨hassigned, hassigned.balanced⟩
  · have hsettled := ReleaseConn.settled_after acq actions
    exact ⟨hsettled.releases_le, hsettled.releases_of_uncalled,
      fun i err hreturned => hsettled.releases_of_returned hreturned,
      fun i stage hstage hpending => hsettled.enabled hstage hpending⟩
  · have hacc := ConnectTunnel.accounted_after actions h hmem
    refine ⟨hacc.heldOrReleased, fun hdone => ?_⟩
    rw [ConnectTunnel.Handler.Accounted, hdone] at hacc
    exact ⟨hacc, (ConnectTunnel.Served.balanced hacc).1⟩

theorem released_exactly_once_twoCloses :
    let acq : Acquisition :=
      ⟨⟨"cell", "a.conf", none, "cell:9050", .hot, "de", 0, 0, 0, "", 0, 1⟩, "de"⟩
    -- the second call overtakes the first, whose connection could not be closed
    let closes := ReleaseConn.after acq [.call, .call, .step 0 (some "reset"), .step 1 none,
      .step 1 none, .step 1 none, .step 1 none, .step 0 none]
    -- the response writer cannot be hijacked
    let tunnels := ConnectTunnel.after [.connect "example:443", .handler 0 .ok,
      .handler 0 (.dialed ⟨.ok acq, none, true, none⟩), .handler 0 (.hijacker false),
      .handler 0 (.closed (some "reset")), .handler 0 .ok]
    closes.threads = [.returned (some "close cell proxy connection"), .returned none] ∧
      releases closes.shared.log = [acq] ∧
      ∃ h ∈ tunnels.handlers, acquisitions h.log = [acq] ∧ releases h.log = [acq] := by
  intro acq closes tunnels
  obtain ⟨-, -, hcloses, htunnels⟩ := released_exactly_once
  have hthreads : closes.threads =
      [.returned (some "close cell proxy connection"), .returned none] := by
    decide +kernel
  obtain ⟨h, hmem, hdone, hacquired⟩ : ∃ h ∈ tunnels.handlers,
      h.stage = .done ∧ acquisitions h.log = [acq] :=
    ⟨_, List.mem_singleton.mpr rfl, by decide +kernel, by decide +kernel⟩
  obtain ⟨-, hserved⟩ := htunnels _ h hmem
  refine ⟨hthreads, (hcloses acq _).2.2.1 1 none ?_, h, hmem, hacquired, ?_⟩
  · exact congrArg (fun threads : List ReleaseConn.Stage => threads[1]?) hthreads
  · rw [← (hserved hdone).2]
    exact hacquired

end Pr0xteus
