import Pr0xteus.Machine

/-!
# What a goroutine holds

The properties of the machine speak about acquisitions that are not released yet, containers that
are created and not yet in a slot, and tunnels a goroutine has decided to kill. Each is read off the
point a goroutine is at.
-/

namespace Pr0xteus

/-- The spawn mutex an acquisition has in hand, whether it waits for it or holds it. -/
def AcquireStage.mutex : AcquireStage → Option Nat
  | .tryHot | .mutexFor => none
  | .lock mu | .recheck mu | .pickClock mu | .excludeConfs mu _ | .pickConf mu _ _ | .create mu _
  | .waitReady mu _ _ | .readyClock mu _ _ _ _ | .abandon mu _ _ _ | .useClock mu _
  | .publish mu _ _ | .failClock mu _ _ | .recordFailure mu _ _ _ | .unlockOk mu _
  | .unlockFail mu _ => some mu

namespace Pc

/-! Acquisitions. `held` is what a goroutine has still to release, and `releases` the same for one that
does so next. `asks` is the pool of a goroutine at an `acquire` or `acquireContainer`, and `acquires`
the tunnel that it gets: the one in the slot, if the goroutine accepts it. -/

def held : Pc → Option Acquisition
  | .acquire _ (.unlockOk _ acq) => some acq
  | .assign acq _ => some acq
  | .gateway _ _ (.dial acq) => some acq
  | .gateway _ _ (.connected acq) => some acq
  | .gateway _ _ (.hangUp acq) => some acq
  | _ => none

def holds (containerID : String) (pc : Pc) : Bool :=
  match pc.held with
  | none => false
  | some acq => acq.tunnel.containerID == containerID

def releases : Pc → Option Acquisition
  | .assign acq .release => some acq
  | .gateway _ _ (.connected acq) => some acq
  | .gateway _ _ (.hangUp acq) => some acq
  | _ => none

def asks : Pc → Option String
  | .acquire a .tryHot => some a.state
  | .acquire a (.recheck _) => some a.state
  | .gateway _ _ (.reserve _ record) => some record.pool
  | _ => none

def acquires (s : Shared) : Pc → Option Tunnel
  | .acquire a .tryHot =>
      (s.slot a.state).filter fun t => t.state = .hot ∧ ¬t.isExcluded a.excludeProxy
  | .acquire a (.recheck _) =>
      (s.slot a.state).filter fun t => t.state = .hot ∧ ¬t.isExcluded a.excludeProxy
  | .gateway _ _ (.reserve _ record) =>
      (s.slot record.pool).filter fun t => t.state = .hot ∧ t.containerID = record.containerID
  | _ => none

/-- The credentials, the clock reading and the record of a connection about to reserve its cell. -/
def reserves : Pc → Option (String × String × Int × ProxyLeaseRecord)
  | .gateway username password (.reserve now record) => some (username, password, now, record)
  | _ => none

def dials : Pc → Option (String × String × Acquisition)
  | .gateway username password (.dial acq) => some (username, password, acq)
  | _ => none

/-- The pool of a request and the lease whose proxy it excludes, where `ResolveExcludedProxy` is about
to find that lease. -/
def resolves (s : Shared) : Pc → Option (String × ProxyLeaseRecord)
  | .gateway username password (.lookup (.exclude poolName _) now) =>
      (s.leases.lookup now username password).1.map fun record => (poolName, record)
  | _ => none

/-- The pool whose slot `excludeConfsFor` is about to look at. -/
def excludes : Pc → Option String
  | .acquire a (.excludeConfs _ _) => some a.state
  | _ => none

/-! Spawns. The critical section of a pool goes from the lock of its spawn mutex to the unlock. Within
it `respawns` is the part from the failed second look at the slot to the return of `Spawn`, and
`spawning` the part in `Spawn`; at a point of `spawns` it returns a tunnel, which is then `readied` and
is the next thing the goroutine `publishes`. -/

def locks : Pc → Option Nat
  | .acquire _ (.lock _) => none
  | .acquire _ stage => stage.mutex
  | _ => none

def respawns : Pc → Option Attempt
  | .acquire a (.pickClock _) | .acquire a (.excludeConfs _ _) | .acquire a (.pickConf _ _ _)
  | .acquire a (.create _ _) | .acquire a (.waitReady _ _ _) | .acquire a (.readyClock _ _ _ _ _) =>
      some a
  | _ => none

def spawning : Pc → Option String
  | .acquire a (.create _ _) | .acquire a (.waitReady _ _ _) | .acquire a (.readyClock _ _ _ _ _)
  | .acquire a (.abandon _ _ _ _) => some a.state
  | _ => none

def spawns : Pc → Option Attempt
  | .acquire a (.readyClock _ _ _ _ _) => some a
  | _ => none

def spawned : Pc → Option String
  | .acquire a (.useClock _ _) | .acquire a (.publish _ _ _) => some a.state
  | _ => none

def readied : Pc → Option Tunnel
  | .acquire _ (.useClock _ t) => some t
  | .acquire _ (.publish _ t _) => some t
  | _ => none

def publishes : Pc → Option String
  | .acquire a (.publish _ _ _) => some a.state
  | _ => none

def publication : Pc → Option String
  | .acquire _ (.publish _ t _) => some t.containerID
  | _ => none

/-- The pool and the container of a spawn, from the container's creation to its publication. -/
def unpublished : Pc → Option (String × String)
  | .acquire a (.waitReady _ _ containerID) => some (a.state, containerID)
  | .acquire a (.readyClock _ _ containerID _ _) => some (a.state, containerID)
  | .acquire a (.useClock _ t) => some (a.state, t.containerID)
  | .acquire a (.publish _ t _) => some (a.state, t.containerID)
  | _ => none

def readies (containerID : String) (pc : Pc) : Bool :=
  match pc.unpublished with
  | none => false
  | some spawn => spawn.2 == containerID

/-- The container of the tunnel that `Spawn` is about to return. -/
def returns : Pc → Option String
  | .acquire _ (.readyClock _ _ containerID _ _) => some containerID
  | _ => none

/-- A request that has neither its cell nor its error yet. -/
def acquiring : Pc → Bool
  | .acquire _ _ => true
  | .gateway _ _ (.lookupClock (.exclude _ _)) => true
  | .gateway _ _ (.lookup (.exclude _ _) _) => true
  | _ => false

/-- The same, and a container that is being given up. -/
def inProgress : Pc → Option String
  | .acquire _ (.waitReady _ _ containerID) => some containerID
  | .acquire _ (.readyClock _ _ containerID _ _) => some containerID
  | .acquire _ (.abandon _ _ containerID _) => some containerID
  | .acquire _ (.useClock _ t) => some t.containerID
  | .acquire _ (.publish _ t _) => some t.containerID
  | _ => none

/-! Kills. A pass of the reaper sees a tunnel, marks it, kills the container and clears the slot; `Close`
does the same without the mark, and `DestroyCell` kills before it looks for the slot. -/

/-- The pool and the container that a pass of the reaper, or `Close`, has seen in the slot and is
working on, up to the kill. -/
def seen : Pc → Option (String × String)
  | .reaper (.idleStatus _ _ _ pool t _) => some (pool, t.containerID)
  | .reaper (.healthProbe _ _ pool t _) => some (pool, t.containerID)
  | .reaper (.healthAge _ _ pool t) => some (pool, t.containerID)
  | .reaper (.failClock _ _ pool t) => some (pool, t.containerID)
  | .reaper (.recordFailure _ _ pool t _) => some (pool, t.containerID)
  | .reaper (.killMark _ pool t) => some (pool, t.containerID)
  | .reaper (.killInvoke _ pool t) => some (pool, t.containerID)
  | .close (.kill pool containerID _) => some (pool, containerID)
  | _ => none

/-- The clock of an idle pass, with the pool and the snapshot it has found reapable and not marked
yet. -/
def idleSeen : Pc → Option (Int × String × Tunnel)
  | .reaper (.idleStatus now _ _ pool t _) => some (now, pool, t)
  | .reaper (.killMark (.idle now _ _) pool t) => some (now, pool, t)
  | _ => none

def marks : Pc → Option (String × Tunnel)
  | .reaper (.killMark _ pool t) => some (pool, t)
  | _ => none

def reaps : Pc → Option (String × String)
  | .reaper (.killInvoke _ pool t) => some (pool, t.containerID)
  | _ => none

def idleKills : Pc → Option (Int × String × Tunnel)
  | .reaper (.killInvoke (.idle now _ _) pool t) => some (now, pool, t)
  | _ => none

def destroys : Pc → Option String
  | .destroy containerID (.kill _) => some containerID
  | _ => none

def orphanKills : Pc → Option String
  | .orphan (.kill containerID _) => some containerID
  | _ => none

def kills : Pc → Option String
  | .reaper (.killInvoke _ _ t) => some t.containerID
  | .orphan (.kill containerID _) => some containerID
  | .destroy containerID (.kill _) => some containerID
  | .close (.kill _ containerID _) => some containerID
  | _ => none

/-- The container that `DestroyCell` or `Close` has killed without having cleared a slot yet. -/
def removes : Pc → Option String
  | .destroy containerID (.find _ _) => some containerID
  | .destroy containerID (.clear _) => some containerID
  | .close (.clear _ containerID _) => some containerID
  | _ => none

/-- The pool and the container of a goroutine that is bound to clear that pool's slot for killing that
container: `killTunnel` once it has marked the tunnel, `Close` once it has taken its snapshot,
`DestroyCell` once `stateForContainer` has found the pool. -/
def clearing : Pc → Option (String × String)
  | .reaper (.killInvoke _ pool t) => some (pool, t.containerID)
  | .reaper (.killClear _ pool t) => some (pool, t.containerID)
  | .destroy containerID (.clear pool) => some (pool, containerID)
  | .close (.kill pool containerID _) => some (pool, containerID)
  | .close (.clear pool containerID _) => some (pool, containerID)
  | _ => none

def clears : Pc → Option (String × String)
  | .reaper (.killClear _ pool t) => some (pool, t.containerID)
  | .destroy containerID (.clear pool) => some (pool, containerID)
  | .close (.clear pool containerID _) => some (pool, containerID)
  | _ => none

/-- The pools whose slot a `Close` has not looked at yet. -/
def unvisited : Pc → List String
  | .close (.pool pool names) => pool :: names
  | .close (.kill _ _ names) => names
  | .close (.clear _ _ names) => names
  | _ => []

/-- The pool whose slot the goroutine is about to set, to a tunnel or to nothing. -/
def overwrites (pc : Pc) : Option String :=
  match pc.call with
  | .setTunnel pool _ => some pool
  | _ => none

/-! Health ticks and orphan passes. -/

/-- The pool and the snapshot a health tick is examining, up to the confirmation or the clear. -/
def examines : Pc → Option (String × Tunnel)
  | .reaper (.healthProbe _ _ pool t _) => some (pool, t)
  | .reaper (.healthAge _ _ pool t) => some (pool, t)
  | .reaper (.healthConfirm _ _ pool t) => some (pool, t)
  | .reaper (.failClock _ _ pool t) => some (pool, t)
  | .reaper (.recordFailure _ _ pool t _) => some (pool, t)
  | .reaper (.killMark (.health _ _) pool t) => some (pool, t)
  | .reaper (.killInvoke (.health _ _) pool t) => some (pool, t)
  | .reaper (.killClear (.health _ _) pool t) => some (pool, t)
  | _ => none

def probes : Pc → Option (String × Tunnel)
  | .reaper (.healthProbe _ _ pool t _) => some (pool, t)
  | _ => none

def ages : Pc → Option Tunnel
  | .reaper (.healthAge _ _ _ t) => some t
  | _ => none

def confirms : Pc → Option (String × Tunnel)
  | .reaper (.healthConfirm _ _ pool t) => some (pool, t)
  | _ => none

/-- An orphan pass that has not listed the containers yet. -/
def collects : Pc → Bool
  | .orphan (.collect _ _ _) => true
  | .orphan (.list _) => true
  | _ => false

def chooses : Pc → Bool
  | .orphan (.clock _ _) => true
  | _ => false

end Pc

def Action.thread : Action → Option Nat
  | .step i _ => some i
  | _ => none

def Action.startsAcquisition : Action → Bool
  | .start (.proxy _ _ _) | .start (.lease _ _ (.exclude _ _)) => true
  | _ => false

def Action.closes : Action → Bool
  | .start (.close _) => true
  | _ => false

/-- The goroutine that makes the access of an edge, as it is before. -/
def actor (e : Transition.Edge State Action) : Option Pc :=
  match e.action with
  | .step i _ => e.source.threads[i]?
  | _ => none

/-! Pieces of schedules, for runs on a small deployment. -/

namespace Schedule

/-- Accesses of one goroutine, with the answers they get. -/
def steps (i : Nat) (answers : List Answer) : List Action := answers.map (Action.step i)

def go (i n : Nat) : List Action := steps i (List.replicate n .ok)

/-- A spawn, from the choice of a configuration up to the point before the publication. -/
def spawn (i draw : Nat) (containerID : String) : List Action :=
  steps i [.draw draw, .container containerID,
    .ready (containerID ++ ":1080") (containerID ++ ":9050")] ++ go i 2

/-- A request without an excluded proxy that finds nothing to use, up to the same point. -/
def ready (i draw : Nat) (containerID : String) : List Action := go i 5 ++ spawn i draw containerID

def proxyURL (containerID : String) : Encoding.URL :=
  ⟨proxySchemeSOCKS5, none, containerID ++ ":1080"⟩

/-- The credential that one byte, drawn over and over, makes. -/
def leasePart (byte : UInt8) : String := newLeasePart (.replicate _ byte)

/-- The rest of a request that acquired a cell: a lease with such credentials, and the release. -/
def lease (i : Nat) (leaseID secret : UInt8) : List Action :=
  .step i (.parts (.replicate _ leaseID) (.replicate _ secret)) :: go i 4

/-- One pool of two configurations. -/
def setup : Setup :=
  { cfg :=
      { socksPublicAddr := ""
        httpProxyPublicAddr := ""
        proxyLeaseTTL := 0
        idleTimeout := 600 * GoTime.second
        spawnTimeout := 60 * GoTime.second
        healthHandshakeMaxAge := 180 * GoTime.second
        failureCacheTTL := 300 * GoTime.second }
    specs := [⟨"de", ["a.conf", "b.conf"], ""⟩]
    docker := fun _ => none
    docker_empty := rfl
    boot := 0 }

end Schedule

end Pr0xteus
