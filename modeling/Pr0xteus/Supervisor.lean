import Pr0xteus.Lib.Threads
import Pr0xteus.Lib.Transition
import Pr0xteus.ServiceManager

/-!
# The service manager as a machine

`Run`, the goroutine of each service, the calls of `Stop` and the goroutines that stop a service take
turns. A turn is one access to what they share: the context, `stopOnce`, `startGroupsMu`, `errCh`, the
failure signal, the channels of the services. Which branch a `select` takes, what a service's own
methods return and when a timer fires comes from outside.

`Run` holds `startGroupsMu` while it starts the groups and `Stop` holds it for reading while it stops
them. `Run` calls `Stop` itself when it returns, like any other caller.
-/

namespace Pr0xteus.ServiceManager

open GoTime Transition

/-- `sync.Once` -/
inductive Once where
  | fresh
  | running
  | finished
  deriving DecidableEq

/-- `sync.RWMutex`, with at most one reader. -/
inductive RWMutex where
  | free
  | locked
  | rlocked
  deriving DecidableEq

namespace Service

def maxRetries (svc : Service) : Int64 := (svc.retryable.map Retry.maxRetries).getD 0

def retryDelay (svc : Service) : Duration := (svc.retryable.map Retry.retryDelay).getD 0

/-- The passes of `for attempt := range maxRetries + 1`. -/
def attempts (svc : Service) : Nat := (svc.maxRetries + 1).toInt.toNat

end Service

/-- Where the goroutine of a service is: `runService` and what runs around it. -/
inductive ServicePc where
  | created
  | attempt (n : Nat) (lastErr : Option Err)
  | running (n : Nat)
  | failed (n : Nat) (err : Err)
  | waitRetryDelay (n : Nat) (err : Err)
  | handleServiceError (err : Option Err)
  | trigger
  | exiting
  | exited
  | done
  deriving DecidableEq

structure Goroutine where
  service : Service
  pc : ServicePc
  deriving DecidableEq

/-- Where `Run` is. In the groups, `i` is the number of the group and `k` a place in it; from
`callStop` on `result` is what it is about to return. -/
inductive RunPc where
  | idle
  | instantiateAll
  | storeCancel
  | resolveOrder
  | lockGroups
  | startGroup (i : Nat)
  | launch (i k : Nat)
  | awaitLaunched (i : Nat)
  | waitGroupReady (i k : Nat)
  | record (i : Nat)
  | unlockGroups
  | select
  | callStop (result : Option Err)
  | stopping (result : Option Err) (j : Nat)
  | waitServices (result : Option Err)
  | closeErrCh (result : Option Err)
  | cancel (result : Option Err)
  | returned (result : Option Err)
  deriving DecidableEq

/-- Where a call of `Stop` is; the groups below `n` are still to be stopped. -/
inductive StopPc where
  | cancel
  | once
  | rlock
  | stopGroup (n : Nat)
  | waitGroup (n : Nat)
  | runlock
  | finish
  | returned
  deriving DecidableEq

/-- The service's own `Stop`, in the goroutine that `stopServiceWithTimeout` starts for it. -/
inductive StopCall where
  | created
  | invoked
  | returned
  deriving DecidableEq

/-- `stopServiceWithTimeout` for a service of a group; `ended` when it has returned, with the service's
`Stop` or with the timer. -/
structure Stopper where
  group : Nat
  service : Service
  call : StopCall := .created
  ended : Bool := false
  deriving DecidableEq

structure State where
  /-- the context that `Run` was given is done -/
  parentDone : Bool := false
  /-- `s.cancel` is set -/
  cancelStored : Bool := false
  cancelled : Bool := false
  stopOnce : Once := .fresh
  startGroupsMu : RWMutex := .free
  startGroups : List Group := []
  /-- what `resolveOrder` returned to `Run` -/
  groups : List Group := []
  errCh : Option (Option Err) := none
  closed : Bool := false
  failure : Bool := false
  /-- a send on the closed channel has panicked -/
  crashed : Bool := false
  /-- the services whose `Ready` channel is closed -/
  ready : List String := []
  run : RunPc := .idle
  goroutines : List Goroutine := []
  stops : List StopPc := []
  stoppers : List Stopper := []
  deriving DecidableEq

inductive Answer where
  | go
  | factoryError (err : Err)
  | ranged (ranged ranged' : List String)
  | ready
  | exited
  | failure
  | cancelled
  | received
  | returned (err : Option Err)
  | panicked (value : String)

inductive StopperEvent where
  | invoke
  | returns
  | done
  | timeout
  deriving DecidableEq

inductive Action where
  | startRun
  | run (answer : Answer)
  | service (n : Nat) (answer : Answer)
  | ready (name : String)
  | cancelParent
  | callStop
  | stop (j : Nat)
  | stopper (k : Nat) (event : StopperEvent)

namespace State

def ctxDone (s : State) : Bool := s.parentDone || s.cancelled

def group (s : State) (i : Nat) : Group := s.groups[i]?.getD []

/-- The goroutine of the service at place `k` of the group that is being started. -/
def starting (s : State) (k : Nat) : Option Goroutine :=
  s.goroutines[s.startGroups.flatten.length + k]?

/-- `case errCh <- err:` with a `default:`. -/
def report (s : State) (err : Option Err) : State :=
  if s.closed then { s with crashed := true }
  else if s.errCh.isNone then { s with errCh := some err }
  else s

end State

/-- `runService`, `waitRetryDelay` and `handleServiceError`: where the goroutine goes. -/
def ServicePc.next (ctxDone : Bool) (svc : Service) : ServicePc → Answer → Option ServicePc
  | .created, .go => some (.attempt 0 none)
  | .attempt n lastErr, .go =>
      some (if n < svc.attempts then .running n else .handleServiceError lastErr)
  | .running _, .returned none => some .exiting
  | .running n, .returned (some err) => some (.failed n err)
  | .running n, .panicked value => some (.failed n (.wrap (.sentinel .servicePanic) value))
  | .failed n err, .go =>
      some (if ctxDone then .exiting
        else if svc.maxRetries.toInt ≤ n then .handleServiceError (some err)
        else .waitRetryDelay n err)
  | .waitRetryDelay n err, .go => some (.attempt (n + 1) (some err))
  | .waitRetryDelay _ _, .cancelled =>
      if ctxDone ∧ 0 < svc.retryDelay then some .exiting else none
  | .handleServiceError _, .go => some (if svc.allowedFailure then .exiting else .trigger)
  | .trigger, .go => some .exiting
  | .exiting, .go => some .exited
  | .exited, .go => some .done
  | _, _ => none

/-- What the goroutine does to the rest. -/
def ServicePc.effect (svc : Service) : ServicePc → State → State
  | .handleServiceError err, s => if svc.allowedFailure then s else s.report err
  | .trigger, s => { s with failure := true }
  | _, s => s

def serviceStep (s : State) (n : Nat) (answer : Answer) : Option State :=
  match s.goroutines[n]? with
  | none => none
  | some g =>
      (g.pc.next s.ctxDone g.service answer).map fun pc =>
        { g.pc.effect g.service s with goroutines := s.goroutines.set n ⟨g.service, pc⟩ }

/-- The `select` of `waitGroupReady`, for the service at place `k` of group `i`. -/
def waitStep (s : State) (i k : Nat) (svc : Service) : Answer → Option RunPc
  | .ready => if svc.name ∈ s.ready then some (.waitGroupReady i (k + 1)) else none
  | .exited =>
      if (s.starting k).any (·.pc matches .exited | .done) then some (.waitGroupReady i (k + 1))
      else none
  | .failure => if s.failure then some (.record i) else none
  | .cancelled => if s.ctxDone then some (.record i) else none
  | _ => none

/-- `Run`, `runServiceGroups` and `waitGroupReady`. -/
def runStep (services : Services) (s : State) (answer : Answer) : Option State :=
  match s.run, answer with
  | .instantiateAll, .go => some { s with run := .storeCancel }
  | .instantiateAll, .factoryError err =>
      some { s with run := .returned (wrap (some err) "failed to instantiate services") }
  | .storeCancel, .go => some { s with cancelStored := true, run := .resolveOrder }
  | .resolveOrder, .ranged ranged ranged' =>
      if services.names = [] then
        some { s with run := .callStop (some (.sentinel .noEnabledServices)) }
      else if ranged.isPerm services.names ∧ ranged'.isPerm services.names then
        match ServiceManager.resolveOrder services ranged ranged' with
        | some (.ok groups) => some { s with groups := groups, run := .lockGroups }
        | some (.error err) =>
            some { s with run := .callStop (wrap (some err) "failed to resolve service order") }
        | none => none
      else none
  | .lockGroups, .go =>
      if s.startGroupsMu = .free then
        some { s with startGroupsMu := .locked, run := .startGroup 0 }
      else none
  | .startGroup i, .go =>
      some { s with run := if i < s.groups.length ∧ ¬s.failure then .launch i 0 else .unlockGroups }
  | .launch i k, .go =>
      match (s.group i)[k]? with
      | some svc =>
          some { s with goroutines := s.goroutines ++ [⟨svc, .created⟩], run := .launch i (k + 1) }
      | none => some { s with run := .awaitLaunched i }
  | .awaitLaunched i, .go =>
      if (s.goroutines.drop s.startGroups.flatten.length).all (·.pc ≠ .created) then
        some { s with run := .waitGroupReady i 0 }
      else none
  | .waitGroupReady i k, answer =>
      match (s.group i)[k]? with
      | none => some { s with run := .record i }
      | some svc =>
          if svc.readyNotifier then (waitStep s i k svc answer).map fun pc => { s with run := pc }
          else some { s with run := .waitGroupReady i (k + 1) }
  | .record i, .go =>
      some { s with startGroups := s.startGroups ++ [s.group i], run := .startGroup (i + 1) }
  | .unlockGroups, .go => some { s with startGroupsMu := .free, run := .select }
  | .select, .cancelled => if s.ctxDone then some { s with run := .callStop none } else none
  | .select, .received =>
      s.errCh.map fun err => { s with errCh := none, run := .callStop (wrap err "service failed") }
  | .callStop result, .go =>
      some { s with stops := s.stops ++ [.cancel], run := .stopping result s.stops.length }
  | .stopping result j, .go =>
      if s.stops[j]? = some .returned then some { s with run := .waitServices result } else none
  | .waitServices result, .go =>
      if s.goroutines.all (·.pc = .done) then some { s with run := .closeErrCh result } else none
  | .closeErrCh result, .go => some { s with closed := true, run := .cancel result }
  | .cancel result, .go => some { s with cancelled := true, run := .returned result }
  | _, _ => none

/-- `Stop` and `stopGroup`. -/
def stopStep (s : State) (j : Nat) : Option State :=
  match s.stops[j]? with
  | some .cancel =>
      some { s with cancelled := s.cancelled || s.cancelStored, stops := s.stops.set j .once }
  | some .once =>
      match s.stopOnce with
      | .fresh => some { s with stopOnce := .running, stops := s.stops.set j .rlock }
      | .running => none
      | .finished => some { s with stops := s.stops.set j .returned }
  | some .rlock =>
      if s.startGroupsMu = .locked then none
      else some { s with
        startGroupsMu := .rlocked
        stops := s.stops.set j (.stopGroup s.startGroups.length) }
  | some (.stopGroup 0) => some { s with stops := s.stops.set j .runlock }
  | some (.stopGroup (n + 1)) =>
      some { s with
        stoppers := s.stoppers ++
          (s.startGroups[n]?.getD []).map fun svc => { group := n, service := svc }
        stops := s.stops.set j (.waitGroup n) }
  | some (.waitGroup n) =>
      if s.stoppers.all fun st => st.group ≠ n ∨ st.ended then
        some { s with stops := s.stops.set j (.stopGroup n) }
      else none
  | some .runlock => some { s with startGroupsMu := .free, stops := s.stops.set j .finish }
  | some .finish => some { s with stopOnce := .finished, stops := s.stops.set j .returned }
  | some .returned | none => none

/-- `stopServiceWithTimeout`: the service's `Stop` is invoked and returns, and whoever waits for it
goes on with it or with the timer. -/
def Stopper.next (st : Stopper) : StopperEvent → Option Stopper
  | .invoke => if st.call = .created then some { st with call := .invoked } else none
  | .returns => if st.call = .invoked then some { st with call := .returned } else none
  | .done => if st.call = .returned ∧ ¬st.ended then some { st with ended := true } else none
  | .timeout => if ¬st.ended then some { st with ended := true } else none

def stopperStep (s : State) (k : Nat) (event : StopperEvent) : Option State :=
  match s.stoppers[k]? with
  | none => none
  | some st => (st.next event).map fun st' => { s with stoppers := s.stoppers.set k st' }

def step (services : Services) (s : State) : Action → Option State
  | .startRun => if s.run = .idle then some { s with run := .instantiateAll } else none
  | .run answer => runStep services s answer
  | .service n answer => serviceStep s n answer
  | .ready name => some { s with ready := name :: s.ready }
  | .cancelParent => some { s with parentDone := true }
  | .callStop => some { s with stops := s.stops ++ [.cancel] }
  | .stop j => stopStep s j
  | .stopper k event => stopperStep s k event

def init : State := {}

abbrev runs (services : Services) (actions : List Action) : List (Edge State Action) :=
  edges (step services) init actions

theorem exists_path_runs (services : Services) (actions : List Action) :
    ∃ s, Path (step services) init (runs services actions) s :=
  exists_path_edges init actions

end Pr0xteus.ServiceManager
