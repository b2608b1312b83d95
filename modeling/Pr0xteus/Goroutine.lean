import Pr0xteus.Lib.Threads
import Pr0xteus.Lib.Transition
import Pr0xteus.Shared

/-!
# The goroutines of the controller

Where each goroutine is, as a stage of the function it runs and the local variables that are live
there. `call` is the access it makes next and `resume` where it goes with what the access returned.
The ranges over the pool map visit the pools in any order, so an operation that ranges over it is
started with the order it happens to take.
-/

namespace Pr0xteus

open Encoding GoTime

/-- One `acquireFromState` of a request: on the pool it asked for, or on that pool's fallback. -/
structure Attempt where
  poolName : String
  excludeProxy : Option URL
  fallbackOK : Bool
  escalated : Bool
  /-- The pool whose state this attempt works on. -/
  state : String
  deriving DecidableEq, Repr

/-- `acquireFromState` and `spawnFromState`; `mu` is the spawn mutex of the pool. -/
inductive AcquireStage where
  | tryHot
  | mutexFor
  | lock (mu : Nat)
  | recheck (mu : Nat)
  | pickClock (mu : Nat)
  | excludeConfs (mu : Nat) (now : Int)
  | pickConf (mu : Nat) (now : Int) (exclude : List String)
  | create (mu : Nat) (conf : String)
  | waitReady (mu : Nat) (conf containerID : String)
  | readyClock (mu : Nat) (conf containerID addr gatewayAddr : String)
  /-- `bestEffortKill` of a container that never became ready. -/
  | abandon (mu : Nat) (conf containerID reason : String)
  | useClock (mu : Nat) (tunnel : Tunnel)
  | publish (mu : Nat) (tunnel : Tunnel) (now : Int)
  | failClock (mu : Nat) (conf reason : String)
  | recordFailure (mu : Nat) (conf reason : String) (now : Int)
  | unlockOk (mu : Nat) (acq : Acquisition)
  | unlockFail (mu : Nat) (err : CtxError)

/-- The rest of `handleProxy`, once a cell is acquired. -/
inductive AssignStage where
  | leaseParts (url : URL)
  | issueClock (url : URL) (leaseID secret : String)
  | issue (url : URL) (leaseID secret : String) (now : Int)
  | setLastURL (lease : ProxyLease)
  | release

inductive LeaseUse where
  | validate
  | connect
  | exclude (poolName : String) (fallbackOK : Bool)

/-- The users of a lease's credentials: `validLease`, `dialLease` and `ResolveExcludedProxy`. -/
inductive GatewayStage where
  | lookupClock (use : LeaseUse)
  | lookup (use : LeaseUse) (now : Int)
  | reserve (now : Int) (record : ProxyLeaseRecord)
  | dial (acq : Acquisition)
  | connected (acq : Acquisition)
  | hangUp (acq : Acquisition)

/-- The pass of the reaper a `killTunnel` returns to, with the pools it still has to visit. -/
inductive Pass where
  | idle (now : Int) (urls : String → Option URL) (names : List String)
  | health (urls : String → Option URL) (names : List String)

inductive ReaperStage where
  | idleClock (names : List String)
  | idleList (now : Int) (names : List String)
  | idlePool (now : Int) (urls : String → Option URL) (pool : String) (names : List String)
  | idleStatus (now : Int) (urls : String → Option URL) (names : List String) (pool : String)
      (t : Tunnel) (url : URL)
  | healthList (names : List String)
  | healthPool (urls : String → Option URL) (pool : String) (names : List String)
  | healthProbe (urls : String → Option URL) (names : List String) (pool : String) (t : Tunnel)
      (url : URL)
  | healthAge (urls : String → Option URL) (names : List String) (pool : String) (t : Tunnel)
  | healthConfirm (urls : String → Option URL) (names : List String) (pool : String) (t : Tunnel)
  | failClock (urls : String → Option URL) (names : List String) (pool : String) (t : Tunnel)
  | recordFailure (urls : String → Option URL) (names : List String) (pool : String) (t : Tunnel)
      (now : Int)
  | killMark (pass : Pass) (pool : String) (t : Tunnel)
  | killInvoke (pass : Pass) (pool : String) (t : Tunnel)
  | killClear (pass : Pass) (pool : String) (t : Tunnel)

/-- `reapOrphans` and the `ReapOrphans` it calls. -/
inductive OrphanStage where
  | collect (keep : List String) (pool : String) (names : List String)
  | list (keep : List String)
  | clock (keep : List String) (listed : List Summary)
  | kill (containerID : String) (rest : List String)

inductive DestroyStage where
  | list (names : List String)
  | kill (names : List String)
  | find (pool : String) (names : List String)
  | clear (pool : String)

inductive CloseStage where
  | pool (pool : String) (names : List String)
  | kill (pool containerID : String) (names : List String)
  | clear (pool containerID : String) (names : List String)

inductive MarkFailedStage where
  | mark
  | clock
  | record (now : Int)

inductive Pc where
  | done
  | failed (err : CtxError)
  | acquire (attempt : Attempt) (stage : AcquireStage)
  | assign (acq : Acquisition) (stage : AssignStage)
  | gateway (username password : String) (stage : GatewayStage)
  | reaper (stage : ReaperStage)
  | orphan (stage : OrphanStage)
  | destroy (containerID : String) (stage : DestroyStage)
  | close (stage : CloseStage)
  | markFailed (pool confName : String) (stage : MarkFailedStage)

namespace Attempt

def request (a : Attempt) (conf : String) : SpawnRequest := ⟨a.state, conf⟩

/-- `acquireFromPool` when its `acquireFromState` failed: one hop to the fallback, where there is
one and another pool might help. -/
def fail (m : Setup) (a : Attempt) (err : CtxError) : Pc :=
  if a.escalated ∨ !a.fallbackOK ∨ m.fallbackPool a.poolName = "" ∨ err.err = .invalidCountry then
    .failed err
  else .acquire { a with escalated := true, state := m.fallbackPool a.poolName } .tryHot

def unknown (a : Attempt) : CtxError :=
  if a.escalated then
    ⟨.unknownPool, "fallback " ++ quote a.state ++ " (from " ++ quote a.poolName ++ ")"⟩
  else ⟨.unknownPool, quote a.poolName⟩

def spawnFailure (a : Attempt) (conf reason : String) : CtxError :=
  ⟨.poolUnavailable, "spawn pool " ++ quote a.state ++ " conf " ++ quote conf ++ ": " ++ reason⟩

end Attempt

/-- What `handleProxy` does with an acquisition: a lease, if every field it records is set. -/
def assign (acq : Acquisition) : Pc :=
  match leasable (some acq.tunnel) acq.pool with
  | .error _ => .assign acq .release
  | .ok (_, url) => .assign acq (.leaseParts url)

def Pass.next : Pass → Pc
  | .idle _ _ [] => .done
  | .idle now urls (pool :: names) => .reaper (.idlePool now urls pool names)
  | .health _ [] => .done
  | .health urls (pool :: names) => .reaper (.healthPool urls pool names)

/-- The next pool whose tunnel an orphan pass keeps. -/
def collectNext (keep : List String) : List String → Pc
  | [] => .orphan (.list keep)
  | pool :: names => .orphan (.collect keep pool names)

def orphanNext : List String → Pc
  | [] => .done
  | containerID :: rest => .orphan (.kill containerID rest)

/-- The next pool `stateForContainer` looks at. -/
def destroyNext (containerID : String) : List String → Pc
  | [] => .done
  | pool :: names => .destroy containerID (.find pool names)

def closeNext : List String → Pc
  | [] => .done
  | pool :: names => .close (.pool pool names)

end Pr0xteus
