import Pr0xteus.Types

/-!
# The state of one pool

Every method of `PoolState` holds the pool's mutex from its first read to its last write, so each is
one function from the state before to the state after. The critical sections that the reaper and the
manager open on a pool's mutex by hand are here too, under the name of what they do.
-/

namespace Pr0xteus

open Encoding GoTime

/-- A tunnel a caller asked to avoid: its proxy URL is set and is the excluded one. -/
def Tunnel.isExcluded (t : Tunnel) (excludeProxy : Option URL) : Bool :=
  match excludeProxy, t.proxyURL with
  | some excluded, some proxyURL => sameURL proxyURL excluded
  | _, _ => false

def Tunnel.use (t : Tunnel) (now : Int) : Tunnel :=
  { t with inFlight := t.inFlight + 1, lastUsedAt := now }

/-- The fields `spawnFromState` sets on the spawner's tunnel before it publishes it. -/
def Tunnel.firstUse (t : Tunnel) (pool : String) (now : Int) : Tunnel :=
  { t with
    pool := pool
    state := .hot
    gatewayAddr :=
      if t.gatewayAddr = "" then (t.proxyURL.map URL.host).getD "" else t.gatewayAddr
    inFlight := 1
    lastUsedAt := now }

structure PoolState where
  spec : PoolSpec
  tunnel : Option Tunnel
  failed : AList fun _ : String => Int

namespace PoolState

def new (spec : PoolSpec) : PoolState := ⟨spec, none, ∅⟩

def snapshot (p : PoolState) : Option Tunnel := p.tunnel

def setTunnel (p : PoolState) (t : Option Tunnel) : PoolState := { p with tunnel := t }

def markFailed (p : PoolState) (conf : String) (now : Int) : PoolState :=
  { p with failed := p.failed.insert conf now }

def cleanFailedLocked (p : PoolState) (now : Int) (ttl : Duration) : PoolState :=
  { p with failed := FinMap.keep (fun failedAt => !decide (ttl < sub now failedAt)) p.failed }

def candidates (p : PoolState) (exclude : List String) : List String :=
  p.spec.configs.filter fun conf => !(p.failed.lookup conf).isSome && !exclude.contains conf

/-- `pickConf`; `draw` is the random number, reduced to the range of the candidates. -/
def pickConf (p : PoolState) (now : Int) (exclude : List String) (ttl : Duration) (draw : Nat) :
    Except CtxError String × PoolState :=
  let p := p.cleanFailedLocked now ttl
  match p.candidates exclude with
  | [] =>
      (.error ⟨.poolExhausted, "pool " ++ quote p.spec.name ++ ": no candidate (failed=" ++
        toString p.failed.entries.length ++ ", excluded=" ++ toString exclude.length ++ ")"⟩, p)
  | conf :: rest => (.ok ((conf :: rest).getD (draw % (rest.length + 1)) conf), p)

def recentlyFailedCount (p : PoolState) (now : Int) (ttl : Duration) : Nat × PoolState :=
  let p := p.cleanFailedLocked now ttl
  (p.failed.entries.length, p)

def acquire (p : PoolState) (excludeProxy : Option URL) (now : Int) :
    Except CtxError Tunnel × PoolState :=
  match p.tunnel with
  | none =>
      (.error ⟨.poolUnavailable, "pool " ++ quote p.spec.name ++ " has no hot tunnel"⟩, p)
  | some t =>
      if t.state ≠ .hot then
        (.error ⟨.poolUnavailable,
          "pool " ++ quote p.spec.name ++ " tunnel is " ++ t.state.text⟩, p)
      else if t.isExcluded excludeProxy then
        (.error ⟨.poolExhausted,
          "pool " ++ quote p.spec.name ++ " only has the excluded proxy"⟩, p)
      else (.ok (t.use now), p.setTunnel (some (t.use now)))

/-- `release` takes the counter of whatever tunnel is in the slot, and never below zero. -/
def release (p : PoolState) : PoolState :=
  match p.tunnel with
  | none => p
  | some t => if t.inFlight ≤ 0 then p else p.setTunnel (some { t with inFlight := t.inFlight - 1 })

def acquireContainer (p : PoolState) (containerID : String) (now : Int) :
    Except CtxError Tunnel × PoolState :=
  let unavailable : CtxError :=
    ⟨.poolUnavailable, "pool " ++ quote p.spec.name ++ " leased tunnel is unavailable"⟩
  match p.tunnel with
  | none => (.error unavailable, p)
  | some t =>
      if t.state ≠ .hot ∨ t.containerID ≠ containerID then (.error unavailable, p)
      else (.ok (t.use now), p.setTunnel (some (t.use now)))

def updateContainer (p : PoolState) (containerID : String) (f : Tunnel → Tunnel) : PoolState :=
  match p.tunnel with
  | none => p
  | some t => if t.containerID = containerID then p.setTunnel (some (f t)) else p

def setLastURL (p : PoolState) (containerID value : String) (expiresAt : Int) : PoolState :=
  p.updateContainer containerID fun t => { t with lastURL := value, lastURLExpiresAt := expiresAt }

/-- The critical section of `killTunnel`. -/
def markReaping (p : PoolState) (containerID : String) : PoolState :=
  p.updateContainer containerID fun t => { t with state := .reaping }

/-- The critical section of `checkHealth`. -/
def confirmHealthy (p : PoolState) (containerID : String) (now : Int) : PoolState :=
  p.updateContainer containerID fun t => { t with healthyAt := now }

/-- The critical section of `Manager.MarkFailed`, which goes by configuration. -/
def markUnhealthy (p : PoolState) (confName : String) : PoolState :=
  match p.tunnel with
  | none => p
  | some t =>
      if t.confName = confName then p.setTunnel (some { t with state := .unhealthy }) else p

end PoolState

/-- A call of one of the above, with the time that the caller has read. -/
inductive PoolOp where
  | setTunnel (t : Option Tunnel)
  | markFailed (conf : String) (now : Int)
  | pickConf (now : Int) (exclude : List String) (draw : Nat)
  | recentlyFailedCount (now : Int)
  | acquire (excludeProxy : Option URL) (now : Int)
  | release
  | acquireContainer (containerID : String) (now : Int)
  | setLastURL (containerID value : String) (expiresAt : Int)
  | markReaping (containerID : String)
  | confirmHealthy (containerID : String) (now : Int)
  | markUnhealthy (confName : String)

/-- What a call leaves behind; `ttl` is the `FailureCacheTTL` of the configuration. -/
def PoolOp.apply (ttl : Duration) (p : PoolState) : PoolOp → PoolState
  | .setTunnel t => p.setTunnel t
  | .markFailed conf now => p.markFailed conf now
  | .pickConf now exclude draw => (p.pickConf now exclude ttl draw).2
  | .recentlyFailedCount now => (p.recentlyFailedCount now ttl).2
  | .acquire excludeProxy now => (p.acquire excludeProxy now).2
  | .release => p.release
  | .acquireContainer containerID now => (p.acquireContainer containerID now).2
  | .setLastURL containerID value expiresAt => p.setLastURL containerID value expiresAt
  | .markReaping containerID => p.markReaping containerID
  | .confirmHealthy containerID now => p.confirmHealthy containerID now
  | .markUnhealthy confName => p.markUnhealthy confName

/-- The pool after these calls, in the order in which they held its mutex. -/
def PoolState.after (ttl : Duration) (spec : PoolSpec) (ops : List PoolOp) : PoolState :=
  ops.foldl (PoolOp.apply ttl) (.new spec)

/-- `excludeConfsFor`, on the snapshot it takes when there is a proxy to exclude. -/
def excludeConfsFor (excludeProxy : Option URL) (snapshot : Option Tunnel) : List String :=
  match snapshot with
  | none => []
  | some t => if t.isExcluded excludeProxy then [t.confName] else []

end Pr0xteus
