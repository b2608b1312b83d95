import Mathlib.Logic.Function.Basic
import Pr0xteus.Lease
import Pr0xteus.Pool
import Pr0xteus.Spawner

/-!
# What the goroutines share

The controller's goroutines meet in the pools, the lease registry, the spawn mutexes, the clock and
the docker daemon. `Call` lists every access they make to these, each of them atomic: a pool or the
registry under its own mutex, one reading of the clock, one request to the daemon or to a cell.
`exec` is what an access does, given what the outside world answers where it is the one to decide.
-/

namespace Pr0xteus

open Encoding GoTime

/-- A container the daemon created, with the labels of the request it was created for. -/
structure Container where
  created : Int
  pool : String
  confName : String
  deriving DecidableEq, Repr

/-- The parts of the manager that never change once it is built. -/
structure Setup where
  cfg : Config
  specs : List PoolSpec
  /-- The containers of earlier processes; none has the empty identifier. -/
  docker : String → Option Container
  docker_empty : docker "" = none
  boot : Int

namespace Setup

def poolNames (m : Setup) : List String := m.specs.map PoolSpec.name

def spec (m : Setup) (name : String) : Option PoolSpec :=
  m.specs.find? fun spec => spec.name == name

def fallbackPool (m : Setup) (name : String) : String :=
  ((m.spec name).map PoolSpec.fallbackPool).getD ""

end Setup

structure Shared where
  now : Int
  pools : String → Option PoolState
  leases : LeaseRegistry
  /-- The lazily filled map of spawn mutexes; a mutex is its number. -/
  spawnMu : AList fun _ : String => Nat
  locked : Nat → Bool
  /-- Every container the daemon ever created; it never gives one identifier twice, nor the empty
  one. -/
  docker : String → Option Container

namespace Shared

/-- `NewManager`: cold pools, no lease, no mutex yet. -/
def initial (m : Setup) : Shared :=
  { now := m.boot
    pools := fun name => (m.spec name).map PoolState.new
    leases := newLeaseRegistry m.cfg
    spawnMu := ∅
    locked := fun _ => false
    docker := m.docker }

def slot (s : Shared) (pool : String) : Option Tunnel := (s.pools pool).bind PoolState.tunnel

/-- Run a method of one pool. A pool that does not exist is left alone. -/
def onPool {α : Type} (s : Shared) (pool : String) (missing : α) (f : PoolState → α × PoolState) :
    Shared × α :=
  match s.pools pool with
  | none => (s, missing)
  | some p => ({ s with pools := Function.update s.pools pool (some (f p).2) }, (f p).1)

def modifyPool (s : Shared) (pool : String) (f : PoolState → PoolState) : Shared × Unit :=
  s.onPool pool () fun p => ((), f p)

/-- `Manager.Release`. -/
def release (s : Shared) (acq : Acquisition) : Shared :=
  (s.modifyPool acq.pool PoolState.release).1

end Shared

/-- One access to the shared state or to the outside world. -/
inductive Call where
  | halt
  | clock
  | snapshot (pool : String)
  | acquire (pool : String) (excludeProxy : Option URL)
  | acquireContainer (pool containerID : String)
  | release (pool : String)
  | setTunnel (pool : String) (tunnel : Option Tunnel)
  | pickConf (pool : String) (now : Int) (exclude : List String)
  | markFailed (pool conf : String) (now : Int)
  | setLastURL (pool containerID value : String) (expiresAt : Int)
  | markReaping (pool containerID : String)
  | confirmHealthy (pool containerID : String)
  | markUnhealthy (pool confName : String)
  | poolMutexFor (pool : String)
  | lock (mu : Nat)
  | unlock (mu : Nat)
  | leaseParts
  | issueLease (now : Int) (leaseID secret : String) (acq : Acquisition) (url : URL)
  | lookupLease (now : Int) (leaseID secret : String)
  | containerCreate (req : SpawnRequest)
  | waitReady (containerID : String)
  | kill (containerID : String)
  | listChildren
  | containerList
  | healthz (controlURL : URL)
  | status (controlURL : URL)
  | dial (addr : String)

/-- What an access returns. A failed docker request is the text of its error or nothing. -/
abbrev Call.Ret : Call → Type
  | .halt | .release _ | .setTunnel _ _ | .markFailed _ _ _ | .setLastURL _ _ _ _
  | .markReaping _ _ | .confirmHealthy _ _ | .markUnhealthy _ _ | .lock _ | .unlock _
  | .kill _ => Unit
  | .clock => Int
  | .snapshot _ => Option Tunnel
  | .acquire _ _ | .acquireContainer _ _ => Except CtxError Tunnel
  | .pickConf _ _ _ => Except CtxError String
  | .poolMutexFor _ => Nat
  | .leaseParts => Option (String × String)
  | .issueLease _ _ _ _ _ => ProxyLease
  | .lookupLease _ _ _ => Option ProxyLeaseRecord
  | .containerCreate _ => Except String String
  | .waitReady _ => Except String (String × String)
  | .listChildren => Option (List CellHandle)
  | .containerList => Option (List Summary)
  | .healthz _ | .dial _ => Bool
  | .status _ => Option Int

/-- What the outside world decides: random draws, what docker and the cells reply, and whether a
request to them fails. -/
inductive Answer where
  | ok
  | fail (reason : String)
  | draw (n : Nat)
  | parts (leaseID secret : LeaseBytes)
  | container (id : String)
  | ready (addr gatewayAddr : String)
  | handles (listed : List CellHandle)
  | summaries (listed : List Summary)
  | active (connections : Int)

/-- A listed container is one the daemon created, with its creation time cut to seconds. -/
def Shared.reports (s : Shared) (c : Summary) : Bool :=
  match s.docker c.id with
  | none => false
  | some container => c.created == unixSeconds container.created

def Shared.poolMutexFor (s : Shared) (pool : String) : Shared × Nat :=
  match s.spawnMu.lookup pool with
  | some mu => (s, mu)
  | none =>
      let mu := s.spawnMu.entries.length
      ({ s with spawnMu := s.spawnMu.insert pool mu }, mu)

def unknownPool (pool : String) : CtxError := ⟨.unknownPool, quote pool⟩

/-- One access, where the answer is one the outside world can give. -/
def exec (m : Setup) (s : Shared) : (c : Call) → Answer → Option (Shared × c.Ret)
  | .halt, _ => none
  | .clock, _ => some (s, s.now)
  | .snapshot pool, _ => some (s, s.slot pool)
  | .acquire pool excludeProxy, _ =>
      some (s.onPool pool (.error (unknownPool pool)) fun p => p.acquire excludeProxy s.now)
  | .acquireContainer pool containerID, _ =>
      some (s.onPool pool (.error ⟨.poolUnavailable, "proxy lease pool unavailable"⟩) fun p =>
        p.acquireContainer containerID s.now)
  | .release pool, _ => some (s.modifyPool pool PoolState.release)
  | .setTunnel pool t, _ => some (s.modifyPool pool fun p => p.setTunnel t)
  | .pickConf pool now exclude, .draw n =>
      some (s.onPool pool (.error (unknownPool pool)) fun p =>
        p.pickConf now exclude m.cfg.failureCacheTTL n)
  | .pickConf _ _ _, _ => none
  | .markFailed pool conf now, _ => some (s.modifyPool pool fun p => p.markFailed conf now)
  | .setLastURL pool containerID value expiresAt, _ =>
      some (s.modifyPool pool fun p => p.setLastURL containerID value expiresAt)
  | .markReaping pool containerID, _ =>
      some (s.modifyPool pool fun p => p.markReaping containerID)
  | .confirmHealthy pool containerID, _ =>
      some (s.modifyPool pool fun p => p.confirmHealthy containerID s.now)
  | .markUnhealthy pool confName, _ =>
      some (s.modifyPool pool fun p => p.markUnhealthy confName)
  | .poolMutexFor pool, _ => some (s.poolMutexFor pool)
  | .lock mu, _ =>
      if s.locked mu then none
      else some ({ s with locked := Function.update s.locked mu true }, ())
  | .unlock mu, _ => some ({ s with locked := Function.update s.locked mu false }, ())
  | .leaseParts, .parts leaseID secret =>
      some (s, some (newLeasePart leaseID, newLeasePart secret))
  | .leaseParts, .fail _ => some (s, none)
  | .leaseParts, _ => none
  | .issueLease now leaseID secret acq url, _ =>
      let result := s.leases.issueLocked now leaseID secret acq url
      some ({ s with leases := result.2 }, result.1)
  | .lookupLease now leaseID secret, _ =>
      let result := s.leases.lookup now leaseID secret
      some ({ s with leases := result.2 }, result.1)
  | .containerCreate req, .container id =>
      if id = "" ∨ (s.docker id).isSome then none
      else
        let container : Container := ⟨s.now, req.pool, req.confName⟩
        some ({ s with docker := Function.update s.docker id (some container) }, .ok id)
  | .containerCreate _, .fail reason => some (s, .error reason)
  | .containerCreate _, _ => none
  | .waitReady _, .ready addr gatewayAddr =>
      if addr = "" ∨ gatewayAddr = "" then none else some (s, .ok (addr, gatewayAddr))
  | .waitReady _, .fail reason => some (s, .error reason)
  | .waitReady _, _ => none
  | .kill _, _ => some (s, ())
  | .listChildren, .handles listed =>
      if listed.all fun handle => (s.docker handle.containerID).isSome then some (s, some listed)
      else none
  | .listChildren, .fail _ => some (s, none)
  | .listChildren, _ => none
  | .containerList, .summaries listed =>
      if listed.all s.reports then some (s, some listed) else none
  | .containerList, .fail _ => some (s, none)
  | .containerList, _ => none
  | .healthz _, .ok => some (s, true)
  | .healthz _, .fail _ => some (s, false)
  | .healthz _, _ => none
  | .status _, .active connections => some (s, some connections)
  | .status _, .fail _ => some (s, none)
  | .status _, _ => none
  | .dial _, .ok => some (s, true)
  | .dial _, .fail _ => some (s, false)
  | .dial _, _ => none

end Pr0xteus
