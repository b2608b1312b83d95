import Pr0xteus.ConnectTunnel

/-!
# The steps of the HTTP gateway

What a step of a CONNECT handler can do at each of its stages, what a step of a `Close` can do, and so
what a step of the gateway can do. The proofs about tunnels go by these cases.
-/

namespace Pr0xteus.ConnectTunnel

variable {s t : State}

/-- What one step of a handler can do, at the stage it is at. -/
inductive Handler.Move (h : Handler) : Stage → Handler → Prop
  | badRequest : Move h (.start "") ((h.answer 400).goTo .done)
  | start {host : String} (hhost : host ≠ "") : Move h (.start host) (h.goTo .dial)
  | dialFailed (w : DialWorld) {message : String} (hdial : (dialLease w).2 = .error message) :
      Move h .dial ({ h with log := h.log ++ (dialLease w).1 }.goTo .dialFailed)
  | dialed (w : DialWorld) {acq : Acquisition} (hdial : (dialLease w).2 = .ok acq) :
      Move h .dial ({ h with log := h.log ++ (dialLease w).1 }.goTo (.assertHijacker acq))
  | badGateway : Move h .dialFailed ((h.answer 502).goTo .done)
  | hijacker {acq : Acquisition} : Move h (.assertHijacker acq) (h.goTo (.hijack acq))
  | noHijacker {acq : Acquisition} : Move h (.assertHijacker acq) (h.goTo (.refuse acq))
  | refuse {acq : Acquisition} (err : Option String) :
      Move h (.refuse acq) ((h.closeUpstream acq err).goTo .refused)
  | internalError : Move h .refused ((h.answer 500).goTo .done)
  | hijacked {acq : Acquisition} : Move h (.hijack acq) (h.goTo (.track acq))
  | hijackFailed {acq : Acquisition} : Move h (.hijack acq) (h.goTo (.abandon acq))
  | abandon {acq : Acquisition} (err : Option String) :
      Move h (.abandon acq) ((h.closeUpstream acq err).goTo .done)
  | track {acq : Acquisition} : Move h (.track acq) (h.goTo (.write acq))
  | written {acq : Acquisition} (up : CopyStage) : Move h (.write acq) (h.goTo (.relay acq up .reading))
  | writeFailed {acq : Acquisition} : Move h (.write acq) (h.goTo (.untrack acq))
  | upPassed {acq : Acquisition} {up down : CopyStage} (hopen : ¬(up = .reading ∧ h.clientClosed)) :
      Move h (.relay acq up down) (h.goTo (.relay acq up.next down))
  | downPassed {acq : Acquisition} {up down : CopyStage}
      (hopen : ¬(down = .writing ∧ h.clientClosed)) :
      Move h (.relay acq up down) (h.goTo (.relay acq up down.next))
  | relayEnded {acq : Acquisition} {up down : CopyStage} :
      Move h (.relay acq up down) (h.goTo (.relayCloseClient acq))
  | relayCloseClient {acq : Acquisition} :
      Move h (.relayCloseClient acq) (h.closeClient.goTo (.relayCloseUpstream acq))
  | relayCloseUpstream {acq : Acquisition} (err : Option String) :
      Move h (.relayCloseUpstream acq) ((h.closeUpstream acq err).goTo (.relayWait acq))
  | relayDrained {acq : Acquisition} : Move h (.relayWait acq) (h.goTo (.untrack acq))
  | untrack {acq : Acquisition} : Move h (.untrack acq) (h.goTo (.closeClient acq))
  | closeClient {acq : Acquisition} :
      Move h (.closeClient acq) (h.closeClient.goTo (.closeUpstream acq))
  | closeUpstream {acq : Acquisition} (err : Option String) :
      Move h (.closeUpstream acq) ((h.closeUpstream acq err).goTo .done)

theorem Handler.move_of_advance {h h' : Handler} {stage : Stage} {answer : Answer}
    (hstep : h.advance stage answer = some h') : h.Move stage h' := by
  unfold Handler.advance at hstep
  split at hstep
  · next host =>
      cases hstep
      by_cases hhost : host = ""
      · rw [if_pos hhost, hhost]
        exact .badRequest
      · rw [if_neg hhost]
        exact .start hhost
  · next w =>
      dsimp only at hstep
      split at hstep
      · next message hdial =>
          cases hstep
          exact .dialFailed w hdial
      · next acq hdial =>
          cases hstep
          exact .dialed w hdial
  · cases hstep
    exact .badGateway
  · next acq supported =>
      cases hstep
      cases supported
      · exact .noHijacker
      · exact .hijacker
  · next acq err =>
      cases hstep
      exact .refuse err
  · cases hstep
    exact .internalError
  · next acq err =>
      cases hstep
      cases err
      · exact .hijacked
      · exact .hijackFailed
  · next acq err =>
      cases hstep
      exact .abandon err
  · cases hstep
    exact .track
  · next acq err buffered =>
      cases hstep
      cases err
      · exact .written _
      · exact .writeFailed
  · split at hstep
    · cases hstep
    · next hopen =>
        cases hstep
        exact .upPassed hopen
  · split at hstep
    · cases hstep
    · next hopen =>
        cases hstep
        exact .downPassed hopen
  · cases hstep
    exact .relayEnded
  · split at hstep
    · cases hstep
      exact .relayEnded
    · cases hstep
  · cases hstep
    exact .relayCloseClient
  · next acq err =>
      cases hstep
      exact .relayCloseUpstream err
  · cases hstep
    exact .relayDrained
  · cases hstep
    exact .untrack
  · cases hstep
    exact .closeClient
  · next acq err =>
      cases hstep
      exact .closeUpstream err
  · cases hstep

/-- What one step of a `Close` can do to the gateway, and where it goes. -/
inductive Closer.Move (s : State) : Closer → State → Closer → Prop
  | snapshot {connections : List Nat} (hperm : connections.Perm s.hijacked) :
      Move s .snapshot { s with server := false } (.closing connections s.server [])
  | closeOne (i : Nat) {connections : List Nat} {server : Bool} {closeErr : List String}
      (closeErr' : List String) :
      Move s (.closing (i :: connections) server closeErr) (s.closeClient i)
        (.closing connections server closeErr')
  | closedAll {closeErr : List String} :
      Move s (.closing [] true closeErr) s (.shutdown closeErr)
  | noServer {closeErr : List String} :
      Move s (.closing [] false closeErr) s (.returned closeErr)
  | shutdown {closeErr : List String} :
      Move s (.shutdown closeErr) { s with accepting := false } (.draining closeErr)
  | drained {closeErr : List String} (err : List String) :
      Move s (.draining closeErr) s (.returned err)

theorem Closer.move_of_advance {c c' : Closer} {answer : CloserAnswer}
    (hstep : c.advance s answer = some (t, c')) : c.Move s t c' := by
  unfold Closer.advance at hstep
  split at hstep
  · next connections =>
      split at hstep
      · next hperm =>
          cases hstep
          exact .snapshot (List.isPerm_iff.mp hperm)
      · cases hstep
  · cases hstep
    exact .closeOne _ _
  · cases hstep
    exact .closedAll
  · cases hstep
    exact .noServer
  · cases hstep
    exact .shutdown
  · split at hstep
    · cases hstep
      exact .drained _
    · cases hstep
  · cases hstep
    exact .drained _
  · cases hstep

/-- A `Close` leaves `hijacked` alone, and of the handlers at most closes a client connection. -/
theorem Closer.Move.frame {c c' : Closer} (h : c.Move s t c') :
    t.hijacked = s.hijacked ∧ (t.handlers = s.handlers ∨
      ∃ i, t.handlers = s.handlers.modify i Handler.closeClient) := by
  cases h with
  | closeOne i => exact ⟨rfl, .inr ⟨i, rfl⟩⟩
  | snapshot | closedAll | noServer | shutdown | drained => exact ⟨rfl, .inl rfl⟩

inductive Turn (s : State) : Action → State → Prop
  | connect (host : String) :
      Turn s (.connect host) { s with handlers := s.handlers ++ [⟨.start host, false, false, []⟩] }
  | handler {i : Nat} {answer : Answer} {h h' : Handler} (hget : s.handlers[i]? = some h)
      (hadvance : h.advance h.stage answer = some h') :
      Turn s (.handler i answer) { s.touch i h.stage with handlers := s.handlers.set i h' }
  | close : Turn s .close { s with closers := s.closers ++ [.snapshot] }
  | closer {j : Nat} {answer : CloserAnswer} {c c' : Closer} {t : State}
      (hget : s.closers[j]? = some c) (hmove : c.Move s t c') :
      Turn s (.closer j answer) { t with closers := s.closers.set j c' }

theorem closer_of_step {j : Nat} {answer : CloserAnswer}
    (hstep : step s (.closer j answer) = some t) :
    ∃ c u c', s.closers[j]? = some c ∧ c.advance s answer = some (u, c') ∧
      t = { u with closers := s.closers.set j c' } := by
  simp only [step] at hstep
  split at hstep
  · cases hstep
  · next c hget =>
      obtain ⟨⟨u, c'⟩, hadvance, rfl⟩ := Option.map_eq_some_iff.mp hstep
      exact ⟨c, u, c', hget, hadvance, rfl⟩

theorem turn_of_step {action : Action} (hstep : step s action = some t) : Turn s action t := by
  cases action with
  | connect host =>
      simp only [step] at hstep
      split at hstep
      · cases hstep
        exact .connect host
      · cases hstep
  | handler i answer =>
      simp only [step] at hstep
      split at hstep
      · cases hstep
      · next h hget =>
          obtain ⟨h', hadvance, rfl⟩ := Option.map_eq_some_iff.mp hstep
          exact .handler hget hadvance
  | close =>
      cases hstep
      exact .close
  | closer j answer =>
      obtain ⟨c, u, c', hget, hadvance, rfl⟩ := closer_of_step hstep
      exact .closer hget (Closer.move_of_advance hadvance)

def Action.isOf (i : Nat) : Action → Bool
  | .handler k _ => k = i
  | _ => false

/-- What a step of the gateway makes of a handler: it is the handler's own, or it closes its client
connection at most. -/
inductive Handler.Turned (h : Handler) (i : Nat) (action : Action) : Handler → Prop
  | own {answer : Answer} {h' : Handler} (haction : action = .handler i answer)
      (hadvance : h.advance h.stage answer = some h') : Turned h i action h'
  | kept (hother : action.isOf i = false) : Turned h i action h
  | closed (hother : action.isOf i = false) : Turned h i action h.closeClient

section Turned

variable {s t : State} {action : Action} {i : Nat} {h h' : Handler}

theorem Turn.exists_turned (hturn : Turn s action t) (hget : s.handlers[i]? = some h) :
    ∃ h', t.handlers[i]? = some h' ∧ h.Turned i action h' := by
  have hlt := (List.getElem?_eq_some_iff.mp hget).1
  cases hturn with
  | connect host => exact ⟨h, (List.getElem?_append_left hlt).trans hget, .kept rfl⟩
  | @handler k answer g g' hg hadvance =>
      by_cases hk : k = i
      · subst hk
        cases hget.symm.trans hg
        exact ⟨g', List.getElem?_set_self hlt, .own rfl hadvance⟩
      · exact ⟨h, (List.getElem?_set_ne hk).trans hget, .kept (decide_eq_false hk)⟩
  | close => exact ⟨h, hget, .kept rfl⟩
  | closer hc hmove =>
      obtain ⟨-, hsame | ⟨k, hmodified⟩⟩ := hmove.frame
      · exact ⟨h, by rw [hsame, hget], .kept rfl⟩
      · rw [hmodified, List.getElem?_modify, hget]
        refine ⟨_, rfl, ?_⟩
        split
        · exact .closed rfl
        · exact .kept rfl

theorem Turn.turned_or_new (hturn : Turn s action t) (hget : t.handlers[i]? = some h') :
    (∃ h, s.handlers[i]? = some h ∧ h.Turned i action h') ∨
      ∃ host, h' = ⟨.start host, false, false, []⟩ := by
  cases hbefore : s.handlers[i]? with
  | some h =>
      obtain ⟨g, hafter, hturned⟩ := hturn.exists_turned hbefore
      cases hget.symm.trans hafter
      exact .inl ⟨h, rfl, hturned⟩
  | none =>
      cases hturn with
      | connect host =>
          rw [List.getElem?_append_right (List.getElem?_eq_none_iff.mp hbefore)] at hget
          exact .inr ⟨host, List.mem_singleton.mp (List.mem_of_getElem? hget)⟩
      | handler => simp [List.getElem?_eq_none_iff.mp hbefore] at hget
      | close => cases hget.symm.trans hbefore
      | closer hc hmove =>
          obtain ⟨-, hsame | ⟨k, hmodified⟩⟩ := hmove.frame
          · simp [hsame, hbefore] at hget
          · simp [hmodified, List.getElem?_modify, hbefore] at hget

/-- The rule for what holds of every handler. -/
theorem Turn.forall_handlers {P : Handler → Prop} (hturn : Turn s action t)
    (hall : ∀ h ∈ s.handlers, P h) (hnew : ∀ host, P ⟨.start host, false, false, []⟩)
    (hown : ∀ {i answer h h'}, action = .handler i answer → P h →
      h.advance h.stage answer = some h' → P h')
    (hclosed : ∀ h, P h → P h.closeClient) : ∀ h ∈ t.handlers, P h := by
  intro h' hmem
  obtain ⟨i, hget⟩ := List.getElem?_of_mem hmem
  obtain ⟨h, hbefore, hturned⟩ | ⟨host, rfl⟩ := hturn.turned_or_new hget
  · have hh := hall h (List.mem_of_getElem? hbefore)
    cases hturned with
    | own haction hadvance => exact hown haction hh hadvance
    | kept => exact hh
    | closed => exact hclosed h hh
  · exact hnew host

end Turned

/-- Where any interleaving of requests and of calls of `Close` has come to. -/
def after (actions : List Action) : State :=
  Transition.final .start (Transition.edges step .start actions)

end Pr0xteus.ConnectTunnel
