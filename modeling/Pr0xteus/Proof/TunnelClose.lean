import Pr0xteus.Proof.ReleaseOnce

/-!
# Closing the HTTP gateway

`Close` closes the client connections that are in `hijacked` when it looks, and `Shutdown` does not
wait for those that have left the server. So a handler that has not tracked its connection by then goes
on relaying when `Close` has returned. Where there is none, every tunnel has its client connection
closed, and its handler comes to an end unless both of its copies wait for the cell.
-/

namespace Pr0xteus.ConnectTunnel

open Transition

variable {s t : State} {action : Action} {i : Nat} {stage : Stage} {h : Handler}

section Tracking

/-- Between tracking and untracking. -/
def Stage.tracked : Stage → Bool
  | .write _ | .relay _ _ _ | .relayCloseClient _ | .relayCloseUpstream _ | .relayWait _
  | .untrack _ => true
  | _ => false

/-- `hijacked` has the connections of the handlers that are between tracking and untracking. -/
def Tracking (s : State) : Prop :=
  ∀ i, i ∈ s.hijacked ↔ ∃ h, s.handlers[i]? = some h ∧ h.stage.tracked = true

/-- Whether the connection is in `hijacked` after the step that a handler makes at this stage. -/
def Stage.tracksNext : Stage → Bool
  | .track _ => true
  | .untrack _ => false
  | stage => stage.tracked

/-- A client connection stays closed, and a step enters or leaves `hijacked` by its stage. -/
theorem Handler.Move.frame {h h' : Handler} (hmove : h.Move h.stage h') :
    (h.clientClosed = true → h'.clientClosed = true) ∧ h'.stage.tracked = h.stage.tracksNext := by
  obtain ⟨stage, clientClosed, released, log⟩ := h
  cases hmove with
  | relayCloseClient => exact ⟨fun _ => rfl, rfl⟩
  | closeClient => exact ⟨fun _ => rfl, rfl⟩
  | _ => exact ⟨id, rfl⟩

theorem mem_hijacked_touch_self (h : i ∈ s.hijacked ↔ stage.tracked = true) :
    i ∈ (s.touch i stage).hijacked ↔ stage.tracksNext = true := by
  cases stage with
  | track => simp [State.touch, State.trackHijacked, Stage.tracksNext]
  | untrack => simp [State.touch, State.untrackHijacked, Stage.tracksNext]
  | _ => exact h

theorem mem_hijacked_touch_ne {i k : Nat} (stage : Stage) (hne : k ≠ i) :
    k ∈ (s.touch i stage).hijacked ↔ k ∈ s.hijacked := by
  cases stage with
  | track => simp [State.touch, State.trackHijacked, hne]
  | untrack => simp [State.touch, State.untrackHijacked, hne]
  | _ => exact Iff.rfl

theorem Tracking.turn (htracking : Tracking s) (hturn : Turn s action t) : Tracking t := by
  intro k
  cases hturn with
  | connect host =>
      rw [htracking k]
      apply exists_congr
      intro h
      apply and_congr_left
      intro htracked
      rw [List.getElem?_append]
      split
      · exact Iff.rfl
      · next hlt =>
          rw [List.getElem?_eq_none (Nat.le_of_not_lt hlt)]
          constructor
          · intro hnone
            cases hnone
          · intro hnew
            rw [List.mem_singleton.mp (List.mem_of_getElem? hnew)] at htracked
            cases htracked
  | @handler i answer h h' hget hadvance =>
      by_cases hk : k = i
      · subst hk
        have hself : k ∈ s.hijacked ↔ h.stage.tracked = true := by
          rw [htracking k, hget]
          simp
        rw [mem_hijacked_touch_self hself, ← (Handler.move_of_advance hadvance).frame.2,
          List.getElem?_set_self (List.getElem?_eq_some_iff.mp hget).1]
        simp
      · rw [mem_hijacked_touch_ne _ hk, htracking k, List.getElem?_set_ne (Ne.symm hk)]
  | close => exact htracking k
  | closer hget hmove =>
      obtain ⟨hhijacked, hsame | ⟨i, hclosed⟩⟩ := hmove.frame
      · rw [hhijacked, hsame]
        exact htracking k
      · rw [hhijacked, hclosed, htracking k, List.getElem?_modify]
        cases s.handlers[k]? with
        | none => rfl
        | some h =>
            by_cases hi : i = k
            · simp [hi, Handler.closeClient]
            · simp [hi]

end Tracking

section Snapshot

/-- The connection is hijacked, and not tracked yet. -/
def Stage.untracked : Stage → Bool
  | .track _ => true
  | _ => false

/-- `Hijack` gives a handler its connection. -/
def Action.hijacks : Action → Bool
  | .handler _ (.hijacked none) => true
  | _ => false

/-- Every connection that is hijacked has been tracked. -/
def Joined (s : State) : Prop := ∀ h ∈ s.handlers, h.stage.untracked = false

theorem Handler.hijacked_of_untracked {h h' : Handler} {answer : Answer}
    (hadvance : h.advance stage answer = some h') (huntracked : h'.stage.untracked = true) :
    answer = .hijacked none := by
  have hmove := Handler.move_of_advance hadvance
  cases hmove with
  | hijacked =>
      cases answer with
      | hijacked err =>
          cases err with
          | none => rfl
          | some reason => cases hadvance
      | _ => cases hadvance
  | _ => cases huntracked

theorem Joined.turn (hjoined : Joined s) (hturn : Turn s action t)
    (hquiet : action.hijacks = false) : Joined t := by
  refine hturn.forall_handlers hjoined (fun _ => rfl) ?_ fun _ hh => hh
  intro i answer h h' haction _ hadvance
  by_contra huntracked
  rw [haction, Handler.hijacked_of_untracked hadvance (Bool.eq_true_of_not_eq_false huntracked)]
    at hquiet
  cases hquiet

/-- The connections a `Close` has yet to close, once it has looked. -/
def Closer.pending : Closer → Option (List Nat)
  | .snapshot => none
  | .closing connections _ _ => some connections
  | .shutdown _ | .draining _ | .returned _ => some []

def ClientClosed (s : State) (i : Nat) : Prop :=
  ∀ h, s.handlers[i]? = some h → h.clientClosed = true

/-- The `Close` has closed every tracked connection, or is going to. -/
def Covered (j : Nat) (s : State) : Prop :=
  ∃ c connections, s.closers[j]? = some c ∧ c.pending = some connections ∧
    ∀ i ∈ s.hijacked, i ∈ connections ∨ ClientClosed s i

theorem covered_of_snapshot {j : Nat} {connections : List Nat}
    (hstep : step s (.closer j (.order connections)) = some t) : Covered j t := by
  obtain ⟨c, u, c', hget, hadvance, rfl⟩ := closer_of_step hstep
  cases c with
  | snapshot =>
      simp only [Closer.advance] at hadvance
      split at hadvance
      · next hperm =>
          cases hadvance
          refine ⟨_, connections, List.getElem?_set_self (List.getElem?_eq_some_iff.mp hget).1,
            rfl, fun i hi => .inl ?_⟩
          exact (List.isPerm_iff.mp hperm).mem_iff.mpr hi
      · cases hadvance
  | closing connections server closeErr =>
      cases connections <;> cases server <;> cases hadvance
  | shutdown | draining | returned => cases hadvance

theorem hijacked_touch_subset (h : stage.untracked = false) :
    (s.touch i stage).hijacked ⊆ s.hijacked := by
  cases stage with
  | track => cases h
  | untrack => exact List.filter_subset_self _
  | _ => exact List.Subset.refl _

theorem ClientClosed.turn (hclosed : ClientClosed s i) (hget : s.handlers[i]? = some h)
    (hturn : Turn s action t) : ClientClosed t i := by
  intro h' hget'
  obtain ⟨g, hg, hturned⟩ := hturn.exists_turned hget
  cases hget'.symm.trans hg
  cases hturned with
  | own _ hadvance => exact (Handler.move_of_advance hadvance).frame.1 (hclosed h hget)
  | kept => exact hclosed h hget
  | closed => rfl

/-- A step of the `Close` closes the first of the connections it has left, or has none left. -/
theorem Closer.Move.pending {c c' : Closer} {connections : List Nat} (hmove : c.Move s t c')
    (hpending : c.pending = some connections) :
    ∃ connections', c'.pending = some connections' ∧
      ∀ i ∈ connections, i ∈ connections' ∨ ClientClosed t i := by
  cases hmove with
  | snapshot => cases hpending
  | closeOne i =>
      cases hpending
      refine ⟨_, rfl, fun k hk => ?_⟩
      obtain rfl | hk := List.mem_cons.mp hk
      · refine .inr fun h hh => ?_
        rw [State.closeClient, List.getElem?_modify_eq] at hh
        obtain ⟨g, -, rfl⟩ := Option.map_eq_some_iff.mp hh
        rfl
      · exact .inl hk
  | closedAll | noServer | shutdown | drained =>
      cases hpending
      exact ⟨_, rfl, fun _ hk => nomatch hk⟩

theorem Covered.turn {j : Nat} (hcovered : Covered j s) (htracking : Tracking s)
    (hturn : Turn s action t) (hjoined : Joined s) : Covered j t := by
  have hstays : ∀ i ∈ s.hijacked, ClientClosed s i → ClientClosed t i := by
    intro i hi hclosed
    obtain ⟨h, hget, -⟩ := (htracking i).mp hi
    exact hclosed.turn hget hturn
  obtain ⟨c, connections, hc, hpending, hcover⟩ := hcovered
  cases hturn with
  | connect host =>
      exact ⟨c, connections, hc, hpending, fun i hi => (hcover i hi).imp_right (hstays i hi)⟩
  | @handler i answer h h' hget hadvance =>
      have hstage := hjoined h (List.mem_of_getElem? hget)
      refine ⟨c, connections, ?_, hpending, fun k hk => ?_⟩
      · rw [← hc]
        cases h.stage <;> rfl
      · have hk := hijacked_touch_subset hstage hk
        exact (hcover k hk).imp_right (hstays k hk)
  | close =>
      refine ⟨c, connections, ?_, hpending, hcover⟩
      rw [List.getElem?_append_left (List.getElem?_eq_some_iff.mp hc).1]
      exact hc
  | @closer k answer d d' u hget hmove =>
      have hhijacked : u.hijacked = s.hijacked := hmove.frame.1
      rw [← hhijacked] at hcover hstays
      by_cases hkj : k = j
      · subst hkj
        cases hc.symm.trans hget
        obtain ⟨connections', hpending', hleft⟩ := hmove.pending hpending
        refine ⟨d', connections', List.getElem?_set_self (List.getElem?_eq_some_iff.mp hget).1,
          hpending', fun i hi => ?_⟩
        obtain hmem | hclosed := hcover i hi
        · exact hleft i hmem
        · exact .inr (hstays i hi hclosed)
      · exact ⟨c, connections, (List.getElem?_set_ne hkj).trans hc, hpending,
          fun i hi => (hcover i hi).imp_right (hstays i hi)⟩

end Snapshot

section Ending

/-- The connection is hijacked, and the handler has not returned. -/
def Stage.hijacked : Stage → Bool
  | .track _ | .closeClient _ | .closeUpstream _ => true
  | stage => stage.tracked

/-- The handler has tracked its connection: it has yet to relay, or to close and release, or is done. -/
def Stage.ending : Stage → Bool
  | .closeClient _ | .closeUpstream _ | .done => true
  | stage => stage.tracked

theorem Stage.ending_of_hijacked (h : stage.hijacked = true) (huntracked : stage.untracked = false) :
    stage.ending = true := by
  cases stage with
  | track => cases huntracked
  | _ => first | rfl | cases h

/-- How many steps are left of a handler whose client connection is closed, at most. -/
def Stage.left : Stage → Nat
  | .write _ => 10
  | .relay _ up down => 7 + (if up = .writing then 1 else 0) + if down = .reading then 1 else 0
  | .relayCloseClient _ => 6
  | .relayCloseUpstream _ => 5
  | .relayWait _ => 4
  | .untrack _ => 3
  | .closeClient _ => 2
  | .closeUpstream _ => 1
  | _ => 0

/-- Neither copy of the relay is at the client: one writes to the cell, and the other reads from it. -/
def Stage.awaitsCell : Stage → Bool
  | .relay _ .writing .reading => true
  | _ => false

/-- What a call returns that waits for no peer: the accesses to `hijacked`, the closing of a connection,
and whatever is done with a closed client. -/
def Answer.unaided : Answer → Bool
  | .ok | .closed _ | .written (some _) _ => true
  | _ => false

/-- A tunnel that is tracked has its client connection closed, or it is past that. -/
structure Handler.Ending (acq : Acquisition) (h : Handler) : Prop where
  past : h.stage.ending = true
  closed : h.stage.tracked = true → h.clientClosed = true
  acquired : acquisitions h.log = [acq]

theorem Stage.left_le (stage : Stage) : stage.left ≤ 10 := by
  cases stage with
  | relay acq up down => cases up <;> cases down <;> simp [Stage.left]
  | _ => simp [Stage.left]

variable {h h' : Handler} {acq : Acquisition}

theorem acquisitions_closeUpstream (h : Handler) (acq : Acquisition) (err : Option String) :
    acquisitions (h.closeUpstream acq err).log = acquisitions h.log := by
  cases hreleased : h.released <;>
    simp [acquisitions, Handler.closeUpstream, ReleaseConn.close, ConnEvent.acquiredOf, hreleased]

theorem Handler.Ending.move (hending : h.Ending acq) (hmove : h.Move h.stage h') :
    h'.Ending acq ∧ h'.stage.left < h.stage.left := by
  obtain ⟨hpast, hclosed, hacquired⟩ := hending
  obtain ⟨stage, clientClosed, released, log⟩ := h
  cases hmove with
  | written up =>
      refine ⟨⟨rfl, hclosed, hacquired⟩, ?_⟩
      cases up <;> simp [Handler.goTo, Stage.left]
  | @upPassed acq' up down hopen =>
      refine ⟨⟨rfl, hclosed, hacquired⟩, ?_⟩
      cases up with
      | reading => exact absurd ⟨rfl, hclosed rfl⟩ hopen
      | writing => cases down <;> simp [Handler.goTo, Stage.left, CopyStage.next]
  | @downPassed acq' up down hopen =>
      refine ⟨⟨rfl, hclosed, hacquired⟩, ?_⟩
      cases down with
      | writing => exact absurd ⟨rfl, hclosed rfl⟩ hopen
      | reading => cases up <;> simp [Handler.goTo, Stage.left, CopyStage.next]
  | writeFailed | relayDrained => exact ⟨⟨rfl, hclosed, hacquired⟩, by simp [Handler.goTo, Stage.left]⟩
  | @relayEnded acq' up down =>
      refine ⟨⟨rfl, hclosed, hacquired⟩, ?_⟩
      cases up <;> cases down <;> simp [Handler.goTo, Stage.left]
  | relayCloseClient => exact ⟨⟨rfl, fun _ => rfl, hacquired⟩, by simp [Handler.goTo, Stage.left]⟩
  | untrack =>
      refine ⟨⟨rfl, fun htracked => ?_, hacquired⟩, by simp [Handler.goTo, Stage.left]⟩
      cases htracked
  | closeClient => exact ⟨⟨rfl, fun _ => rfl, hacquired⟩, by simp [Handler.goTo, Stage.left]⟩
  | relayCloseUpstream err =>
      exact ⟨⟨rfl, hclosed, (acquisitions_closeUpstream _ _ _).trans hacquired⟩,
        by simp [Handler.goTo, Stage.left]⟩
  | closeUpstream err =>
      refine ⟨⟨rfl, fun htracked => ?_, (acquisitions_closeUpstream _ _ _).trans hacquired⟩,
        by simp [Handler.goTo, Stage.left]⟩
      cases htracked
  | _ => cases hpast

/-- Whoever moves, the tunnel goes on ending, and each step of its handler is one of those it has
left. -/
theorem Handler.Ending.turn (hending : h.Ending acq) (hget : s.handlers[i]? = some h)
    (hturn : Turn s action t) :
    ∃ h', t.handlers[i]? = some h' ∧ h'.Ending acq ∧
      (if action.isOf i then 1 else 0) + h'.stage.left ≤ h.stage.left := by
  obtain ⟨h', hget', hturned⟩ := hturn.exists_turned hget
  refine ⟨h', hget', ?_⟩
  cases hturned with
  | own haction hadvance =>
      obtain ⟨hnext, hleft⟩ := hending.move (Handler.move_of_advance hadvance)
      refine ⟨hnext, ?_⟩
      simp only [haction, Action.isOf, decide_true, if_true]
      omega
  | kept hother => exact ⟨hending, by simp [hother]⟩
  | closed hother =>
      exact ⟨⟨hending.past, fun _ => rfl, hending.acquired⟩, by simp [hother, Handler.closeClient]⟩

/-- A tunnel that is ending and does not wait for the cell can go on without anybody's help. -/
theorem Handler.Ending.goes_on (hending : h.Ending acq) (hdone : h.stage ≠ .done)
    (hcell : h.stage.awaitsCell = false) :
    ∃ answer : Answer, answer.unaided = true ∧ (h.advance h.stage answer).isSome = true := by
  obtain ⟨hpast, hclosed, -⟩ := hending
  obtain ⟨stage, clientClosed, released, log⟩ := h
  cases stage with
  | write => exact ⟨.written (some "closed") false, rfl, rfl⟩
  | relay acq' up down =>
      cases hclosed rfl
      cases up <;> cases down <;> first | exact ⟨.ok, rfl, rfl⟩ | cases hcell
  | relayWait | untrack => exact ⟨.ok, rfl, rfl⟩
  | relayCloseClient | relayCloseUpstream | closeClient | closeUpstream =>
      exact ⟨.closed none, rfl, rfl⟩
  | done => exact absurd rfl hdone
  | _ => cases hpast

end Ending

structure Sound (s : State) : Prop where
  tracking : Tracking s
  accounted : ∀ h ∈ s.handlers, h.Accounted

theorem sound_start : Sound State.start where
  tracking i := by
    constructor
    · intro hi
      cases hi
    · rintro ⟨h, hget, -⟩
      cases hget
  accounted h hmem := nomatch hmem

theorem Sound.turn (h : Sound s) (hturn : Turn s action t) : Sound t :=
  ⟨h.tracking.turn hturn, accounted_turn h.accounted hturn⟩

theorem sound_after (actions : List Action) : Sound (after actions) := by
  apply invariant_final Sound sound_start
  intro e _ hsource henabled
  exact hsource.turn (turn_of_step henabled)

theorem Handler.Accounted.exists_acquired (hacc : h.Accounted) (hhijacked : h.stage.hijacked = true) :
    ∃ acq, acquisitions h.log = [acq] := by
  obtain ⟨stage, clientClosed, released, log⟩ := h
  cases stage with
  | track acq | write acq | relay acq | relayCloseClient acq | relayCloseUpstream acq =>
      obtain ⟨rfl, -⟩ := hacc
      exact ⟨acq, rfl⟩
  | relayWait acq =>
      obtain ⟨⟨err, rfl⟩, -⟩ := hacc
      exact ⟨acq, rfl⟩
  | untrack acq | closeClient acq | closeUpstream acq =>
      obtain ⟨rfl, -⟩ | ⟨⟨err, rfl⟩, -⟩ := hacc <;> exact ⟨acq, rfl⟩
  | _ => cases hhijacked

/-- Whatever happens in the gateway from now on, the handler has at most ten steps left, and can go on
by itself until it is done and the cell released, unless both copies of its relay wait for the cell. -/
def WindsUp (s : State) (i : Nat) (acq : Acquisition) : Prop :=
  ∀ rest : List Action,
    let run := edges step s rest
    ∃ h, (final s run).handlers[i]? = some h ∧ run.countP (fun e => e.action.isOf i) ≤ 10 ∧
      (h.stage = .done ∧ releases h.log = [acq] ∨ h.stage.awaitsCell = true ∨
        ∃ answer : Answer, answer.unaided = true ∧
          (step (final s run) (.handler i answer)).isSome = true)

theorem Sound.windsUp {acq : Acquisition} (hsound : Sound s) (hget : s.handlers[i]? = some h)
    (hending : h.Ending acq) : WindsUp s i acq := by
  intro rest run
  obtain ⟨u, hpath⟩ : ∃ u, Path step s run u := exists_path_edges s rest
  have hboth := hpath.history (fun es u => Sound u ∧ ∃ h', u.handlers[i]? = some h' ∧ h'.Ending acq ∧
    es.countP (fun e => e.action.isOf i) + h'.stage.left ≤ h.stage.left)
    ⟨hsound, h, hget, hending, Nat.le_of_eq (Nat.zero_add _)⟩ ?_
  · rw [← hpath.eq_final]
    obtain ⟨hlater, h', hget', hending', hleft⟩ := hboth
    have hbound : h.stage.left ≤ 10 := h.stage.left_le
    refine ⟨h', hget', by omega, ?_⟩
    by_cases hdone : h'.stage = .done
    · have hacc := hlater.accounted h' (List.mem_of_getElem? hget')
      rw [Handler.Accounted, hdone] at hacc
      exact .inl ⟨hdone, (Served.balanced hacc).1.symm.trans hending'.acquired⟩
    · refine .inr ?_
      cases hcell : h'.stage.awaitsCell with
      | true => exact .inl rfl
      | false =>
          obtain ⟨answer, hunaided, hadvance⟩ := hending'.goes_on hdone hcell
          refine .inr ⟨answer, hunaided, ?_⟩
          simp only [step, hget', Option.isSome_map]
          exact hadvance
  · rintro es v a v' ⟨hv, g, hg, hgending, hleft⟩ hstep -
    have hturn := turn_of_step hstep
    obtain ⟨g', hg', hending', hless⟩ := hgending.turn hg hturn
    refine ⟨hv.turn hturn, g', hg', hending', ?_⟩
    rw [List.countP_append, List.countP_singleton]
    dsimp only
    omega

/-- **A gateway that is closed.** No handler stands between `Hijack` and `trackHijacked` when a `Close`
looks, and none hijacks its connection from then on. Once that `Close` has returned, every tunnel that
is tracked has its client connection closed, and every handler with a hijacked connection winds up. -/
theorem close_ends_tunnels (front back : List Action) (j : Nat) (connections : List Nat)
    (err : List String) (s : State)
    (hsnapshot : step (after front) (.closer j (.order connections)) = some s)
    (hjoined : (after front).handlers.all (fun h => !h.stage.untracked) = true)
    (hquiet : (edges step s back).all (fun e => !e.action.hijacks) = true)
    (hreturned : (final s (edges step s back)).closers[j]? = some (.returned err)) :
    let t := final s (edges step s back)
    ∀ (i : Nat) (h : Handler), t.handlers[i]? = some h → h.stage.hijacked = true →
      h.stage.untracked = false ∧ (h.stage.tracked = true → h.clientClosed = true) ∧
        ∃ acq, acquisitions h.log = [acq] ∧ WindsUp t i acq := by
  intro t i h hget hhijacked
  have hfront : Joined (after front) := by simpa [Joined] using hjoined
  have hback : Sound t ∧ Joined t ∧ Covered j t := by
    apply invariant_final fun s => Sound s ∧ Joined s ∧ Covered j s
    · exact ⟨(sound_after front).turn (turn_of_step hsnapshot), hfront.turn (turn_of_step hsnapshot) rfl,
        covered_of_snapshot hsnapshot⟩
    · rintro e he ⟨hsound, hjoined, hcovered⟩ henabled
      have hkept : e.action.hijacks = false := by simpa using List.all_eq_true.mp hquiet e he
      have hturn := turn_of_step henabled
      exact ⟨hsound.turn hturn, hjoined.turn hturn hkept,
        hcovered.turn hsound.tracking hturn hjoined⟩
  obtain ⟨hsound, hjoined, c, pending, hc, hpending, hcover⟩ := hback
  cases hreturned.symm.trans hc
  cases hpending
  have huntracked := hjoined h (List.mem_of_getElem? hget)
  have hclosed : h.stage.tracked = true → h.clientClosed = true := by
    intro htracked
    obtain hmem | hclosed := hcover i ((hsound.tracking i).mpr ⟨h, hget, htracked⟩)
    · cases hmem
    · exact hclosed h hget
  obtain ⟨acq, hacquired⟩ :=
    (hsound.accounted h (List.mem_of_getElem? hget)).exists_acquired hhijacked
  exact ⟨huntracked, hclosed, acq, hacquired,
    hsound.windsUp hget ⟨Stage.ending_of_hijacked hhijacked huntracked, hclosed, hacquired⟩⟩

def sampleCell : Acquisition :=
  ⟨⟨"cell", "a.conf", none, "cell:9050", .hot, "de", 0, 0, 0, "", 0, 1⟩, "de"⟩

/-- A request whose handler has its upstream connection and asks for the client's. -/
def dialing : List Action :=
  [.connect "example:443", .handler 0 .ok, .handler 0 (.dialed ⟨.ok sampleCell, none, true, none⟩),
    .handler 0 (.hijacker true)]

theorem close_ends_tunnels_relaying :
    let front := dialing ++
      [.handler 0 (.hijacked none), .handler 0 .ok, .handler 0 (.written none false), .close]
    let back : List Action := [.closer 0 (.closed none), .closer 0 .ok, .closer 0 .ok, .closer 0 .ok]
    ∃ s, step (after front) (.closer 0 (.order [0])) = some s ∧
      let t := final s (edges step s back)
      t.closers = [.returned []] ∧
        ∃ h, t.handlers[0]? = some h ∧ h.stage = .relay sampleCell .reading .reading ∧
          h.clientClosed = true ∧ ∃ acq, acquisitions h.log = [acq] ∧ WindsUp t 0 acq := by
  intro front back
  refine ⟨_, rfl, by decide +kernel, _, rfl, by decide +kernel, ?_⟩
  obtain ⟨-, hclosed, hends⟩ := close_ends_tunnels front back 0 [0] [] _ rfl (by decide +kernel)
    (by decide +kernel) (by decide +kernel) 0 _ rfl (by decide +kernel)
  exact ⟨hclosed (by decide +kernel), hends⟩

/-- A handler that hijacks its connection after the snapshot is not waited for, and relays through its
cell when `Close` has returned without an error. -/
theorem relay_survives_close :
    let t := after (dialing ++
      [.close, .closer 0 (.order []), .handler 0 (.hijacked none), .closer 0 .ok, .closer 0 .ok,
        .closer 0 .ok, .handler 0 .ok, .handler 0 (.written none false)])
    t.closers = [.returned []] ∧
      ∃ h, t.handlers[0]? = some h ∧ h.stage = .relay sampleCell .reading .reading ∧
        h.clientClosed = false ∧ acquisitions h.log = [sampleCell] ∧ releases h.log = [] ∧
        (step t (.handler 0 .ok)).isNone = true := by
  intro t
  exact ⟨by decide +kernel, _, rfl, by decide +kernel, by decide +kernel, by decide +kernel,
    by decide +kernel, by decide +kernel⟩

end Pr0xteus.ConnectTunnel
