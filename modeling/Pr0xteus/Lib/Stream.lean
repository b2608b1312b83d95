import Pr0xteus.Lib.Transition

/-!
# Programs on byte streams

A program at one end of a connection reads a number of bytes, writes, notes what it does elsewhere, or
is over with a result. The bytes that arrive wait until a read asks for them, however they were cut on
their way. An `End` is a program with the bytes that wait for it and with what it has noted; a
`Session` is two of them, each receiving what the other writes.

Three things are said of a program. `Ensures` is about one end whose peer may send anything and whose
reads and writes may fail at any point: what holds after every note, given the bytes that were read
before it. `settle` runs a program as far as the bytes that have arrived allow. The turns of the two
ends of a session commute, so a session that comes to its end under one schedule comes to the same
end under all of them.
-/

namespace Transition

variable {σ α : Type} {step : σ → α → Option σ}

/-- Different actions that are both enabled can be taken in either order. -/
def Commutes (step : σ → α → Option σ) : Prop :=
  ∀ {s t u a b}, a ≠ b → step s a = some t → step s b = some u →
    ∃ v, step t b = some v ∧ step u a = some v

/-- Nothing is enabled. -/
def Stuck (step : σ → α → Option σ) (s : σ) : Prop := ∀ a, step s a = none

theorem Path.after_step [DecidableEq α] (hcomm : Commutes step) {s t u : σ} {a : α}
    {es : List (Edge σ α)} (h : Path step s es t) (hstuck : Stuck step t) (hstep : step s a = some u) :
    ∃ fs, Path step u fs t ∧ fs.length + 1 = es.length := by
  induction h generalizing a u with
  | nil s =>
      rw [hstuck a] at hstep
      cases hstep
  | @cons s s' t b es hb htail ih =>
      by_cases hab : a = b
      · subst hab
        obtain rfl : s' = u := Option.some.inj (hb.symm.trans hstep)
        exact ⟨es, htail, rfl⟩
      · obtain ⟨v, hv, hv'⟩ := hcomm hab hstep hb
        obtain ⟨fs, hfs, hlen⟩ := ih hstuck hv'
        exact ⟨⟨u, b, v⟩ :: fs, .cons hv hfs, by rw [List.length_cons, hlen, List.length_cons]⟩

/-- Where one run gets stuck, every other run can be carried on to, with as many steps in all. -/
theorem Path.continues [DecidableEq α] (hcomm : Commutes step) {s t u : σ}
    {es fs : List (Edge σ α)} (h : Path step s es t) (hstuck : Stuck step t)
    (hother : Path step s fs u) : ∃ gs, Path step u gs t ∧ fs.length + gs.length = es.length := by
  induction hother generalizing es with
  | nil s => exact ⟨es, h, Nat.zero_add _⟩
  | cons hstep htail ih =>
      obtain ⟨es', hes', hlen⟩ := h.after_step hcomm hstuck hstep
      obtain ⟨gs, hgs, hsum⟩ := ih hes'
      exact ⟨gs, hgs, by rw [List.length_cons]; omega⟩

theorem Path.eq_of_stuck [DecidableEq α] (hcomm : Commutes step) {s t u : σ}
    {es fs : List (Edge σ α)} (h : Path step s es t) (hstuck : Stuck step t)
    (hother : Path step s fs u) (hstuck' : Stuck step u) : u = t := by
  obtain ⟨gs, hgs, -⟩ := h.continues hcomm hstuck hother
  cases hgs with
  | nil => rfl
  | cons hstep _ =>
      rw [hstuck' _] at hstep
      cases hstep

end Transition

namespace Stream

open Transition

/-- The text of an error. -/
abbrev Message := List UInt8

inductive Proc (ε α : Type) where
  | ret (a : α)
  | read (n : Nat) (k : Except Message (List UInt8) → Proc ε α)
  | write (bytes : List UInt8) (k : Except Message Unit → Proc ε α)
  | emit (event : ε) (k : Proc ε α)

variable {ε ε' α β : Type}

namespace Proc

def bind : Proc ε α → (α → Proc ε β) → Proc ε β
  | .ret a, f => f a
  | .read n k, f => .read n fun r => (k r).bind f
  | .write bytes k, f => .write bytes fun r => (k r).bind f
  | .emit event k, f => .emit event (k.bind f)

instance : Monad (Proc ε) where
  pure := .ret
  bind := .bind

end Proc

/-- A program that returns an error or a value. -/
abbrev Prog (ε α : Type) := ExceptT Message (Proc ε) α

/-- `io.ReadFull`. -/
def readFull (n : Nat) : Prog ε (List UInt8) := ExceptT.mk (.read n .ret)

def send (bytes : List UInt8) : Prog ε Unit := ExceptT.mk (.write bytes .ret)

def note (event : ε) : Prog ε Unit := ExceptT.mk (.emit event (.ret (.ok ())))

def require (p : Prop) [Decidable p] (message : Message) : Prog ε Unit :=
  if p then pure () else throw message

/-- An error of `x` is returned in a wrapping. -/
def wrapping (wrap : Message → Message) (x : Prog ε α) : Prog ε α :=
  ExceptT.mk (x.run.bind fun r => .ret (r.mapError wrap))

/-! ## Ends -/

structure End (ε α : Type) where
  proc : Proc ε α
  input : List UInt8
  events : List ε

namespace End

/-- The next step of a program, and what it writes. -/
def go (e : End ε α) : Option (End ε α × List UInt8) :=
  match e.proc with
  | .ret _ => none
  | .read n k =>
      if n ≤ e.input.length then
        some ({ e with proc := k (.ok (e.input.take n)), input := e.input.drop n }, [])
      else none
  | .write bytes k => some ({ e with proc := k (.ok ()) }, bytes)
  | .emit event k => some ({ e with proc := k, events := e.events ++ [event] }, [])

/-- The read or write that a program is at fails. -/
def fail (e : End ε α) (message : Message) : Option (End ε α) :=
  match e.proc with
  | .read _ k => some { e with proc := k (.error message) }
  | .write _ k => some { e with proc := k (.error message) }
  | .ret _ | .emit _ _ => none

def receive (e : End ε α) (bytes : List UInt8) : End ε α := { e with input := e.input ++ bytes }

/-- What arrives behind the bytes that are there changes nothing of the step. -/
theorem go_receive {e e' : End ε α} {out : List UInt8} (h : e.go = some (e', out))
    (bytes : List UInt8) : (e.receive bytes).go = some (e'.receive bytes, out) := by
  obtain ⟨proc, input, events⟩ := e
  cases proc with
  | ret a => cases h
  | read n k =>
      simp only [go] at h
      split at h
      · next hlen =>
          cases h
          have hlen' : n ≤ (input ++ bytes).length := by
            rw [List.length_append]
            exact Nat.le_add_right_of_le hlen
          have htake : (input ++ bytes).take n = input.take n := List.take_append_of_le_length hlen
          have hdrop : (input ++ bytes).drop n = input.drop n ++ bytes :=
            List.drop_append_of_le_length hlen
          simp only [go, receive, if_pos hlen', htake, hdrop]
      · cases h
  | write bytes' k =>
      cases h
      rfl
  | emit event k =>
      cases h
      rfl

end End

/-! ## One end, and anything at the other -/

inductive Move where
  | arrive (bytes : List UInt8)
  | go
  | fail (message : Message)

def Move.arrives : Move → List UInt8
  | .arrive bytes => bytes
  | .go | .fail _ => []

namespace End

def step (e : End ε α) : Move → Option (End ε α)
  | .arrive bytes => some (e.receive bytes)
  | .go => e.go.map Prod.fst
  | .fail message => e.fail message

end End

section Ensures

/-- After every note of a program `R` holds of the bytes that it has read and of what it has noted, and
`Q` holds of these and of its result. -/
def Proc.Ensures (R : List UInt8 → List ε → Prop) (Q : List UInt8 → List ε → α → Prop) :
    List UInt8 → List ε → Proc ε α → Prop
  | seen, events, .ret a => Q seen events a
  | seen, events, .read n k =>
      (∀ bytes, bytes.length = n → Ensures R Q (seen ++ bytes) events (k (.ok bytes))) ∧
        ∀ message, Ensures R Q seen events (k (.error message))
  | seen, events, .write _ k => ∀ r, Ensures R Q seen events (k r)
  | seen, events, .emit event k =>
      R seen (events ++ [event]) ∧ Ensures R Q seen (events ++ [event]) k

variable {R : List UInt8 → List ε → Prop} {seen : List UInt8} {events : List ε}

namespace Proc

theorem ensures_bind {Q : List UInt8 → List ε → β → Prop} {p : Proc ε α} {f : α → Proc ε β}
    (h : Ensures R (fun seen events a => Ensures R Q seen events (f a)) seen events p) :
    Ensures R Q seen events (p.bind f) := by
  induction p generalizing seen events with
  | ret a => exact h
  | read n k ih =>
      exact ⟨fun bytes hlen => ih _ (h.1 bytes hlen), fun message => ih _ (h.2 message)⟩
  | write bytes k ih => exact fun r => ih r (h r)
  | emit event k ih => exact ⟨h.1, ih h.2⟩

theorem Ensures.mono {Q Q' : List UInt8 → List ε → α → Prop} {p : Proc ε α}
    (h : Ensures R Q seen events p) (hQ : ∀ seen events a, Q seen events a → Q' seen events a) :
    Ensures R Q' seen events p := by
  induction p generalizing seen events with
  | ret a => exact hQ _ _ a h
  | read n k ih =>
      exact ⟨fun bytes hlen => ih _ (h.1 bytes hlen), fun message => ih _ (h.2 message)⟩
  | write bytes k ih => exact fun r => ih r (h r)
  | emit event k ih => exact ⟨h.1, ih h.2⟩

end Proc

/-- The same for a program that can fail: `Q` is about its value and `F` about its error. -/
def Prog.Ensures (R : List UInt8 → List ε → Prop) (Q : List UInt8 → List ε → α → Prop)
    (F : List UInt8 → List ε → Message → Prop) (seen : List UInt8) (events : List ε)
    (x : Prog ε α) : Prop :=
  Proc.Ensures R (fun seen events r => match r with
    | .ok a => Q seen events a
    | .error message => F seen events message) seen events x.run

namespace Prog

variable {Q : List UInt8 → List ε → α → Prop} {F : List UInt8 → List ε → Message → Prop}

theorem ensures_pure {a : α} (h : Q seen events a) :
    Ensures R Q F seen events (pure a : Prog ε α) := h

theorem ensures_throw {message : Message} (h : F seen events message) :
    Ensures R Q F seen events (throw message : Prog ε α) := h

theorem ensures_bind {Q : List UInt8 → List ε → β → Prop} {x : Prog ε α} {f : α → Prog ε β}
    (h : Ensures R (fun seen events a => Ensures R Q F seen events (f a)) F seen events x) :
    Ensures R Q F seen events (x >>= f) := by
  apply Proc.ensures_bind
  apply Proc.Ensures.mono h
  intro seen events r hr
  cases r with
  | ok a => exact hr
  | error message => exact hr

theorem ensures_readFull {n : Nat} {Q : List UInt8 → List ε → List UInt8 → Prop}
    (hok : ∀ bytes, bytes.length = n → Q (seen ++ bytes) events bytes)
    (herr : ∀ message, F seen events message) : Ensures R Q F seen events (readFull n) :=
  ⟨hok, herr⟩

theorem ensures_send {bytes : List UInt8} {Q : List UInt8 → List ε → Unit → Prop}
    (hok : Q seen events ()) (herr : ∀ message, F seen events message) :
    Ensures R Q F seen events (send bytes) := by
  intro r
  cases r with
  | ok _ => exact hok
  | error message => exact herr message

theorem ensures_note {event : ε} {Q : List UInt8 → List ε → Unit → Prop}
    (hevent : R seen (events ++ [event])) (hok : Q seen (events ++ [event]) ()) :
    Ensures R Q F seen events (note event) :=
  ⟨hevent, hok⟩

theorem ensures_require {p : Prop} [Decidable p] {message : Message}
    {Q : List UInt8 → List ε → Unit → Prop} (hok : p → Q seen events ())
    (herr : ¬p → F seen events message) : Ensures R Q F seen events (require p message) := by
  unfold require
  split
  · next hp => exact ensures_pure (hok hp)
  · next hp => exact ensures_throw (herr hp)

theorem ensures_wrapping {wrap : Message → Message} {x : Prog ε α}
    (h : Ensures R Q (fun seen events message => F seen events (wrap message)) seen events x) :
    Ensures R Q F seen events (wrapping wrap x) := by
  apply Proc.ensures_bind
  apply Proc.Ensures.mono h
  intro seen events r hr
  cases r with
  | ok a => exact hr
  | error message => exact hr

end Prog

/-- What holds of an end on the way: of the bytes that have arrived it has read the first ones, `R`
held after its last note, and the rest of its program goes on from there. -/
structure End.Fine (R : List UInt8 → List ε → Prop) (Q : List UInt8 → List ε → α → Prop)
    (arrived seen : List UInt8) (e : End ε α) : Prop where
  arrived_eq : arrived = seen ++ e.input
  noted : e.events = [] ∨ ∃ first, first <+: seen ∧ R first e.events
  rest : e.proc.Ensures R Q seen e.events

theorem End.fine_start {Q : List UInt8 → List ε → α → Prop} {p : Proc ε α}
    (h : p.Ensures R Q [] []) : End.Fine R Q [] [] ⟨p, [], []⟩ :=
  ⟨rfl, .inl rfl, h⟩

theorem End.Fine.step {Q : List UInt8 → List ε → α → Prop} {arrived : List UInt8} {e e' : End ε α}
    {move : Move} (h : e.Fine R Q arrived seen) (hstep : e.step move = some e') :
    ∃ more, e'.Fine R Q (arrived ++ move.arrives) (seen ++ more) := by
  obtain ⟨rfl, hnoted, hproc⟩ := h
  obtain ⟨proc, input, events⟩ := e
  cases move with
  | arrive bytes =>
      cases hstep
      refine ⟨[], ?_⟩
      rw [List.append_nil]
      exact ⟨List.append_assoc _ _ _, hnoted, hproc⟩
  | fail message =>
      refine ⟨[], ?_⟩
      rw [Move.arrives, List.append_nil, List.append_nil]
      cases proc with
      | ret a => cases hstep
      | read n k =>
          cases hstep
          exact ⟨rfl, hnoted, hproc.2 message⟩
      | write bytes k =>
          cases hstep
          exact ⟨rfl, hnoted, hproc _⟩
      | emit event k => cases hstep
  | go =>
      rw [Move.arrives, List.append_nil]
      cases proc with
      | ret a => cases hstep
      | read n k =>
          simp only [End.step, End.go] at hstep
          split at hstep
          · next hlen =>
              cases hstep
              refine ⟨input.take n, ?_, ?_, hproc.1 _ (List.length_take_of_le hlen)⟩
              · rw [List.append_assoc, List.take_append_drop]
              · refine hnoted.imp_right ?_
                rintro ⟨first, hfirst, hR⟩
                exact ⟨first, hfirst.trans (List.prefix_append _ _), hR⟩
          · cases hstep
      | write bytes k =>
          cases hstep
          refine ⟨[], ?_⟩
          rw [List.append_nil]
          exact ⟨rfl, hnoted, hproc _⟩
      | emit event k =>
          cases hstep
          refine ⟨[], ?_⟩
          rw [List.append_nil]
          exact ⟨rfl, .inr ⟨seen, List.prefix_refl seen, hproc.1⟩, hproc.2⟩

end Ensures

/-! ## As far as the input goes -/

/-- A program runs until it is over or waits for more than has arrived: where it is then, and what it
has written. -/
def Proc.settle : Proc ε α → List UInt8 → List ε → End ε α × List UInt8
  | .ret a, input, events => (⟨.ret a, input, events⟩, [])
  | .read n k, input, events =>
      if n ≤ input.length then (k (.ok (input.take n))).settle (input.drop n) events
      else (⟨.read n k, input, events⟩, [])
  | .write bytes k, input, events =>
      let settled := (k (.ok ())).settle input events
      (settled.1, bytes ++ settled.2)
  | .emit event k, input, events => k.settle input (events ++ [event])

def End.settle (e : End ε α) : End ε α × List UInt8 := e.proc.settle e.input e.events

/-- What arrives later is taken up where the program waits. -/
theorem Proc.settle_append (p : Proc ε α) (input more : List UInt8) (events : List ε) :
    p.settle (input ++ more) events =
      (((p.settle input events).1.receive more).settle.1,
        (p.settle input events).2 ++ ((p.settle input events).1.receive more).settle.2) := by
  induction p generalizing input events with
  | ret a => rfl
  | read n k ih =>
      by_cases hlen : n ≤ input.length
      · have hlen' : n ≤ (input ++ more).length := by
          rw [List.length_append]
          exact Nat.le_add_right_of_le hlen
        simp only [Proc.settle, if_pos hlen, if_pos hlen', List.take_append_of_le_length hlen,
          List.drop_append_of_le_length hlen]
        exact ih _ _ _
      · simp only [Proc.settle, if_neg hlen, List.nil_append]
        rfl
  | write bytes k ih => simp only [Proc.settle, ih, List.append_assoc]
  | emit event k ih => exact ih _ _

/-- A program that has settled can do nothing. -/
theorem Proc.go_settle (p : Proc ε α) (input : List UInt8) (events : List ε) :
    (p.settle input events).1.go = none := by
  induction p generalizing input events with
  | ret a => rfl
  | read n k ih =>
      by_cases hlen : n ≤ input.length
      · simp only [Proc.settle, if_pos hlen, ih]
      · simp only [Proc.settle, if_neg hlen, End.go]
  | write bytes k ih => exact ih _ _ _
  | emit event k ih => exact ih _ _

namespace End

/-- Any number of steps of a program, with all that they write. -/
inductive Goes : End ε α → End ε α → List UInt8 → Prop
  | refl (e : End ε α) : Goes e e []
  | step {e f g : End ε α} {out out' : List UInt8} :
      e.go = some (f, out) → Goes f g out' → Goes e g (out ++ out')

theorem goes_settle (e : End ε α) : Goes e e.settle.1 e.settle.2 := by
  obtain ⟨p, input, events⟩ := e
  change Goes ⟨p, input, events⟩ (p.settle input events).1 (p.settle input events).2
  induction p generalizing input events with
  | ret a => exact .refl _
  | read n k ih =>
      rw [Proc.settle]
      split
      · next hlen =>
          have hgo : (End.mk (.read n k) input events).go =
              some (⟨k (.ok (input.take n)), input.drop n, events⟩, []) := if_pos hlen
          exact .step hgo (ih _ _ _)
      · exact .refl _
  | write bytes k ih => exact .step rfl (ih _ _ _)
  | emit event k ih =>
      have hgo : (End.mk (.emit event k) input events).go =
          some (⟨k, input, events ++ [event]⟩, []) := rfl
      exact .step hgo (ih _ _)

end End

/-- What a program comes to, when something has been written before. -/
def afterWriting (written : List UInt8) (settled : End ε α × List UInt8) : End ε α × List UInt8 :=
  (settled.1, written ++ settled.2)

@[simp] theorem afterWriting_nil (settled : End ε α × List UInt8) :
    afterWriting [] settled = settled := rfl

@[simp] theorem afterWriting_afterWriting (written written' : List UInt8)
    (settled : End ε α × List UInt8) :
    afterWriting written (afterWriting written' settled) = afterWriting (written ++ written') settled := by
  simp [afterWriting]

/-- A sequence, whose first program is over with what has arrived. -/
theorem Proc.settle_bind {p : Proc ε α} {f : α → Proc ε β} {input rest out : List UInt8}
    {events events' : List ε} {a : α}
    (h : p.settle input events = (⟨.ret a, rest, events'⟩, out)) :
    (p.bind f).settle input events = afterWriting out ((f a).settle rest events') := by
  induction p generalizing input events out with
  | ret b =>
      cases h
      rfl
  | read n k ih =>
      simp only [Proc.settle] at h
      split at h
      · next hlen => simp only [Proc.bind, Proc.settle, if_pos hlen, ih _ h]
      · cases h
  | write bytes k ih =>
      obtain ⟨hend, rfl⟩ := Prod.mk.inj h
      simp only [Proc.bind, Proc.settle, ih _ (Prod.ext hend rfl)]
      simp [afterWriting]
  | emit event k ih => exact ih h

/-- A sequence, whose first program waits. -/
theorem Proc.settle_bind_of_read {p : Proc ε α} {f : α → Proc ε β} {input rest out : List UInt8}
    {events events' : List ε} {n : Nat} {k : Except Message (List UInt8) → Proc ε α}
    (h : p.settle input events = (⟨.read n k, rest, events'⟩, out)) :
    (p.bind f).settle input events = (⟨.read n fun r => (k r).bind f, rest, events'⟩, out) := by
  induction p generalizing input events out with
  | ret b => cases h
  | read m k' ih =>
      simp only [Proc.settle] at h
      split at h
      · next hlen => simp only [Proc.bind, Proc.settle, if_pos hlen, ih _ h]
      · next hlen =>
          cases h
          simp only [Proc.bind, Proc.settle, if_neg hlen]
  | write bytes k' ih =>
      obtain ⟨hend, rfl⟩ := Prod.mk.inj h
      simp only [Proc.bind, Proc.settle, ih _ (Prod.ext hend rfl)]
  | emit event k' ih => exact ih h

namespace Prog

/-! The same for programs that can fail. -/

def settle (x : Prog ε α) (input : List UInt8) (events : List ε) :
    End ε (Except Message α) × List UInt8 := x.run.settle input events

/-- A program is over: its result, what it has left of the input, what it has noted and written. -/
def ended (r : Except Message α) (rest : List UInt8) (events : List ε) (out : List UInt8) :
    End ε (Except Message α) × List UInt8 := (⟨.ret r, rest, events⟩, out)

variable {x : Prog ε α} {f : α → Prog ε β} {input rest bytes out : List UInt8} {events events' : List ε}
  {a : α} {message : Message}

@[simp] theorem afterWriting_ended {r : Except Message α} {written : List UInt8} :
    afterWriting written (ended r rest events out) = ended r rest events (written ++ out) := rfl

theorem settle_pure : (pure a : Prog ε α).settle input events = ended (.ok a) input events [] := rfl

theorem settle_throw :
    (throw message : Prog ε α).settle input events = ended (.error message) input events [] := rfl

theorem settle_readFull {n : Nat} (h : bytes.length = n) :
    (readFull n : Prog ε _).settle (bytes ++ rest) events = ended (.ok bytes) rest events [] := by
  subst h
  have hlen : bytes.length ≤ (bytes ++ rest).length := by simp
  simp [settle, readFull, ExceptT.run_mk, Proc.settle, ended]

theorem settle_send : (send bytes : Prog ε _).settle input events = ended (.ok ()) input events bytes := by
  simp [settle, send, ExceptT.run_mk, Proc.settle, ended]

theorem settle_note {event : ε} :
    (note event).settle input events = ended (.ok ()) input (events ++ [event]) [] := rfl

theorem settle_require {p : Prop} [Decidable p] (h : p) :
    (require p message : Prog ε _).settle input events = ended (.ok ()) input events [] := by
  rw [require, if_pos h]
  rfl

theorem settle_require_not {p : Prop} [Decidable p] (h : ¬p) :
    (require p message : Prog ε _).settle input events = ended (.error message) input events [] := by
  rw [require, if_neg h]
  rfl

theorem settle_bind (h : x.settle input events = ended (.ok a) rest events' out) :
    (x >>= f).settle input events = afterWriting out ((f a).settle rest events') :=
  Proc.settle_bind h

theorem settle_bind_readFull {n : Nat} {f : List UInt8 → Prog ε β} (h : bytes.length = n) :
    (readFull n >>= f).settle (bytes ++ rest) events = (f bytes).settle rest events :=
  settle_bind (settle_readFull h)

theorem settle_bind_send {f : Unit → Prog ε β} :
    (send bytes >>= f).settle input events = afterWriting bytes ((f ()).settle input events) :=
  settle_bind settle_send

theorem settle_bind_note {event : ε} {f : Unit → Prog ε β} :
    (note event >>= f).settle input events = (f ()).settle input (events ++ [event]) :=
  settle_bind settle_note

theorem settle_bind_require {p : Prop} [Decidable p] {f : Unit → Prog ε β} (h : p) :
    (require p message >>= f).settle input events = (f ()).settle input events :=
  settle_bind (settle_require h)

theorem settle_bind_error (h : x.settle input events = ended (.error message) rest events' out) :
    (x >>= f).settle input events = ended (.error message) rest events' out := by
  have hbind : (x >>= f).settle input events = afterWriting out
      ((.ret (.error message) : Proc ε (Except Message β)).settle rest events') := Proc.settle_bind h
  simp [hbind, ended, afterWriting, Proc.settle]

theorem settle_wrapping {r : Except Message α} {wrap : Message → Message}
    (h : x.settle input events = ended r rest events' out) :
    (wrapping wrap x).settle input events = ended (r.mapError wrap) rest events' out := by
  have hbind : (wrapping wrap x).settle input events = afterWriting out
      ((.ret (r.mapError wrap) : Proc ε (Except Message α)).settle rest events') :=
    Proc.settle_bind h
  simp [hbind, ended, afterWriting, Proc.settle]

/-- A program waits for input, having written `out`. -/
def Waits (out : List UInt8) (settled : End ε α × List UInt8) : Prop :=
  ∃ n k rest events, settled = (⟨.read n k, rest, events⟩, out)

theorem waits_readFull {n : Nat} (h : input.length < n) :
    Waits [] ((readFull n : Prog ε _).settle input events) :=
  ⟨n, .ret, input, events, if_neg (Nat.not_le.mpr h)⟩

theorem Waits.bind (h : Waits out (x.settle input events)) (f : α → Prog ε β) :
    Waits out ((x >>= f).settle input events) := by
  obtain ⟨n, k, rest, events', hx⟩ := h
  exact ⟨n, _, rest, events', Proc.settle_bind_of_read hx⟩

theorem Waits.wrapping (h : Waits out (x.settle input events)) (wrap : Message → Message) :
    Waits out ((wrapping wrap x).settle input events) := by
  obtain ⟨n, k, rest, events', hx⟩ := h
  exact ⟨n, _, rest, events', Proc.settle_bind_of_read hx⟩

theorem Waits.afterWriting {settled : End ε α × List UInt8} (h : Waits out settled)
    (written : List UInt8) : Waits (written ++ out) (afterWriting written settled) := by
  obtain ⟨n, k, rest, events', rfl⟩ := h
  exact ⟨n, k, rest, events', rfl⟩

theorem Waits.written {settled : End ε α × List UInt8} (h : Waits out settled) : settled.2 = out := by
  obtain ⟨n, k, rest, events', rfl⟩ := h
  rfl

/-- A message is sent, and its answer is not there. -/
theorem waits_send_readFull {n : Nat} {f : List UInt8 → Prog ε β} (h : input.length < n) :
    Waits bytes ((send bytes >>= fun _ => readFull n >>= f).settle input events) := by
  have hwaits := ((waits_readFull h : Waits [] ((readFull n : Prog ε _).settle input events)).bind
    f).afterWriting bytes
  rwa [List.append_nil, ← settle_bind_send (f := fun _ => readFull n >>= f)] at hwaits

end Prog

/-! ## Two ends -/

structure Session (ε α ε' β : Type) where
  client : End ε α
  server : End ε' β

inductive Side where
  | client
  | server
  deriving DecidableEq

namespace Session

def step (s : Session ε α ε' β) : Side → Option (Session ε α ε' β)
  | .client => s.client.go.map fun next => ⟨next.1, s.server.receive next.2⟩
  | .server => s.server.go.map fun next => ⟨s.client.receive next.2, next.1⟩

theorem commute_sides {s t u : Session ε α ε' β} (ht : s.step .client = some t)
    (hu : s.step .server = some u) : ∃ v, t.step .server = some v ∧ u.step .client = some v := by
  obtain ⟨⟨c, up⟩, hc, rfl⟩ := Option.map_eq_some_iff.mp ht
  obtain ⟨⟨d, down⟩, hd, rfl⟩ := Option.map_eq_some_iff.mp hu
  refine ⟨⟨c.receive down, d.receive up⟩, ?_, ?_⟩
  · simp only [step, End.go_receive hd, Option.map_some]
  · simp only [step, End.go_receive hc, Option.map_some]

theorem commutes : Commutes (@step ε α ε' β) := by
  intro s t u a b hab ht hu
  cases a <;> cases b
  · exact absurd rfl hab
  · exact commute_sides ht hu
  · obtain ⟨v, hv, hv'⟩ := commute_sides hu ht
    exact ⟨v, hv', hv⟩
  · exact absurd rfl hab

/-- Some schedule leads from one state of a session to another. -/
def Reaches (s t : Session ε α ε' β) : Prop := ∃ es, Path step s es t

theorem Reaches.refl (s : Session ε α ε' β) : Reaches s s := ⟨[], .nil s⟩

theorem Reaches.trans {s t u : Session ε α ε' β} (h : Reaches s t) (h' : Reaches t u) :
    Reaches s u := by
  obtain ⟨es, hes⟩ := h
  obtain ⟨fs, hfs⟩ := h'
  exact ⟨es ++ fs, path_append_iff.mpr ⟨t, hes, hfs⟩⟩

theorem Reaches.step {s t : Session ε α ε' β} {side : Side} (h : s.step side = some t) :
    Reaches s t := ⟨_, .cons h (.nil t)⟩

theorem reaches_client {c c' : End ε α} {out : List UInt8} (h : End.Goes c c' out) (d : End ε' β) :
    Reaches ⟨c, d⟩ ⟨c', d.receive out⟩ := by
  induction h generalizing d with
  | refl c => simpa [End.receive] using Reaches.refl _
  | @step c e c' out out' hgo _ ih =>
      have hstep : Session.step ⟨c, d⟩ .client = some ⟨e, d.receive out⟩ := by
        simp only [step, hgo, Option.map_some]
      have hrest := ih (d.receive out)
      simp only [End.receive, List.append_assoc] at hrest hstep ⊢
      exact (Reaches.step hstep).trans hrest

theorem reaches_server {d d' : End ε' β} {out : List UInt8} (h : End.Goes d d' out) (c : End ε α) :
    Reaches ⟨c, d⟩ ⟨c.receive out, d'⟩ := by
  induction h generalizing c with
  | refl d => simpa [End.receive] using Reaches.refl _
  | @step d e d' out out' hgo _ ih =>
      have hstep : Session.step ⟨c, d⟩ .server = some ⟨c.receive out, e⟩ := by
        simp only [step, hgo, Option.map_some]
      have hrest := ih (c.receive out)
      simp only [End.receive, List.append_assoc] at hrest hstep ⊢
      exact (Reaches.step hstep).trans hrest

section Rounds

/-! In one schedule the ends take turns: the client goes as far as it can with what it has been sent,
then the server with all that the client has written, and so on. -/

variable (c : Proc ε α) (d : Proc ε' β)

def start : Session ε α ε' β := ⟨⟨c, [], []⟩, ⟨d, [], []⟩⟩

def replies (down : List UInt8) : List UInt8 := (d.settle (c.settle down []).2 []).2

/-- The client has gone as far as it can with `down`, and the server with what the client wrote. -/
def settled (down : List UInt8) : Session ε α ε' β :=
  ⟨(c.settle down []).1, (d.settle (c.settle down []).2 []).1⟩

/-- All that the server has written after some rounds. -/
inductive Rounds : List UInt8 → Prop
  | nil : Rounds []
  | next {down : List UInt8} : Rounds down → Rounds (replies c d down)

theorem reaches_round {down more : List UInt8} (hmore : down ++ more = replies c d down) :
    ∃ more', replies c d down ++ more' = replies c d (replies c d down) ∧
      Reaches ⟨(settled c d down).client.receive more, (settled c d down).server⟩
        ⟨(settled c d (replies c d down)).client.receive more',
          (settled c d (replies c d down)).server⟩ := by
  generalize hclient : (settled c d down).client.receive more = client
  generalize hserver : (settled c d down).server.receive client.settle.2 = server
  -- what each end comes to with all that it has been sent is what it comes to from here
  have hup : c.settle (replies c d down) [] =
      (client.settle.1, (c.settle down []).2 ++ client.settle.2) := by
    rw [← hmore, Proc.settle_append, ← hclient]
    rfl
  have hdown : d.settle (c.settle (replies c d down) []).2 [] =
      (server.settle.1, (d.settle (c.settle down []).2 []).2 ++ server.settle.2) := by
    rw [hup, Proc.settle_append, ← hserver]
    rfl
  refine ⟨server.settle.2, (congrArg Prod.snd hdown).symm, ?_⟩
  have hsettled : settled c d (replies c d down) = ⟨client.settle.1, server.settle.1⟩ := by
    rw [settled, hdown, hup]
  rw [hsettled]
  have hfirst := reaches_client client.goes_settle (settled c d down).server
  rw [hserver] at hfirst
  exact hfirst.trans (reaches_server server.goes_settle client.settle.1)

variable {c d} in
theorem Rounds.reaches {down : List UInt8} (h : Rounds c d down) :
    ∃ more, down ++ more = replies c d down ∧
      Reaches (start c d) ⟨(settled c d down).client.receive more, (settled c d down).server⟩ := by
  induction h with
  | nil =>
      refine ⟨replies c d [], List.nil_append _, ?_⟩
      have hfirst := reaches_client (End.goes_settle ⟨c, [], []⟩) (⟨d, [], []⟩ : End ε' β)
      exact hfirst.trans (reaches_server (End.goes_settle _) _)
  | next _ ih =>
      obtain ⟨more, hmore, hreaches⟩ := ih
      obtain ⟨more', hmore', hround⟩ := reaches_round c d hmore
      exact ⟨more', hmore', hreaches.trans hround⟩

theorem stuck_settled (down : List UInt8) : Stuck step (settled c d down) := by
  intro side
  cases side with
  | client | server => simp only [step, settled, Proc.go_settle, Option.map_none]

variable {c d} {down up out : List UInt8}

theorem Rounds.next_of (h : Rounds c d down) (hclient : (c.settle down []).2 = up)
    (hserver : (d.settle up []).2 = out) : Rounds c d out := by
  have hnext := h.next
  rwa [replies, hclient, hserver] at hnext

/-- A session whose rounds come to an end. -/
structure Ends (c : Proc ε α) (d : Proc ε' β) (s : Session ε α ε' β) : Prop where
  intro ::
  rounds : ∃ down, Rounds c d down ∧ replies c d down = down ∧ settled c d down = s

theorem Rounds.ends {client : End ε α} {server : End ε' β} (h : Rounds c d down)
    (hclient : c.settle down [] = (client, up)) (hserver : d.settle up [] = (server, down)) :
    Ends c d ⟨client, server⟩ := by
  refine ⟨down, h, ?_, ?_⟩
  · rw [replies, hclient, hserver]
  · rw [settled, hclient, hserver]

/-- It comes to the same end under every schedule: there is a bound on the steps of all of them, a run
that has not got there can go on to it, and one that cannot go on is there. -/
theorem Ends.every_schedule {s : Session ε α ε' β} (h : Ends c d s) : ∃ n, ∀ turns : List Side,
    (edges step (start c d) turns).length ≤ n ∧
      (∃ more, Path step (final (start c d) (edges step (start c d) turns)) more s) ∧
      (Stuck step (final (start c d) (edges step (start c d) turns)) →
        final (start c d) (edges step (start c d) turns) = s) := by
  obtain ⟨down, hrounds, hfix, rfl⟩ := h
  obtain ⟨more, hmore, hreaches⟩ := hrounds.reaches
  rw [hfix] at hmore
  obtain rfl : more = [] := List.append_right_eq_self.mp hmore
  obtain ⟨es, hes⟩ : Reaches (start c d) (settled c d down) := by
    simpa [End.receive] using hreaches
  refine ⟨es.length, fun turns => ?_⟩
  obtain ⟨u, hu⟩ : ∃ u, Path step (start c d) (edges step (start c d) turns) u :=
    exists_path_edges _ turns
  rw [← hu.eq_final]
  obtain ⟨rest, hrest, hlen⟩ := hes.continues commutes (stuck_settled c d down) hu
  exact ⟨by omega, ⟨rest, hrest⟩, hes.eq_of_stuck commutes (stuck_settled c d down) hu⟩

end Rounds

end Session

end Stream
