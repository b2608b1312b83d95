import Pr0xteus.Types

/-!
# Cells as docker reports them

The parts of the spawner the pools depend on: the tunnel a ready cell becomes, the control addresses
of the listed children, and which listed containers an orphan pass removes.
-/

namespace Pr0xteus

open Encoding GoTime

structure SpawnRequest where
  pool : String
  confName : String
  deriving DecidableEq, Repr

/-- The zero `time.Time`, midnight of January 1 of year 1. -/
def zeroTime : Int := -62135596800 * second.toInt

/-- The tunnel `waitReady` returns for a cell that answered on `addr`. -/
def readyTunnel (req : SpawnRequest) (containerID addr gatewayAddr : String) (now : Int) :
    Tunnel :=
  { containerID := containerID
    confName := req.confName
    proxyURL := some ⟨proxySchemeSOCKS5, none, addr⟩
    gatewayAddr := gatewayAddr
    state := .hot
    pool := req.pool
    spawnedAt := now
    healthyAt := now
    lastUsedAt := now
    lastURL := ""
    lastURLExpiresAt := zeroTime
    inFlight := 0 }

structure CellHandle where
  containerID : String
  controlURL : Option URL
  deriving DecidableEq, Repr

/-- `childControlURLs`: the control URL of each listed child that has one, and none at all when the
listing failed. A container listed twice keeps the later URL. -/
def childControlURLs (listed : Option (List CellHandle)) (containerID : String) : Option URL :=
  (listed.getD []).foldl
    (fun found handle =>
      if handle.containerID = containerID ∧ handle.controlURL.isSome then handle.controlURL
      else found)
    none

def containsCell (handles : List CellHandle) (containerID : String) : Bool :=
  handles.any fun handle => handle.containerID == containerID

/-- A container in docker's list; the creation time is in whole seconds. -/
structure Summary where
  id : String
  created : Int
  state : String
  deriving DecidableEq, Repr

def reapStateCreated : String := "created"

def shouldReapState (state : String) : Bool :=
  state == "running" || state == "exited" || state == "dead" || state == "paused" ||
    state == "restarting"

def orphanInFlightGrace : Duration := 30 * second

/-- The age below which a ticker pass leaves a container alone. -/
def minAge (cfg : Config) : Duration := cfg.spawnTimeout + orphanInFlightGrace

/-- Whether the loop of `ReapOrphans` reaches `reapOne` for a listed container. -/
def reapsOrphan (cfg : Config) (keepIDs : List String) (protectInFlight : Bool) (now : Int)
    (c : Summary) : Bool :=
  !keepIDs.contains c.id &&
    !(protectInFlight && decide (sub now (unix c.created) < minAge cfg)) &&
    (c.state == reapStateCreated || shouldReapState c.state)

end Pr0xteus
