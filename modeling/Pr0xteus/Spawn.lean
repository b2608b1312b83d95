import Pr0xteus.CellNetwork

/-!
# Spawning a cell

`CellSpawner.Spawn` and what it calls, with every docker request that it makes: the context of the
request, the container it is about, and what came of it. The answers of docker, of the image pull, of
the cell and of its log are a parameter, so a request under a cancelled context may fail at any point.
The follower of the startup log is a goroutine of its own; `Spawn` joins it before it returns.
-/

namespace Pr0xteus

open Encoding Text GoTime

/-! ## Contexts -/

/-- A context, by how it was made from the caller's. -/
inductive Ctx where
  | caller
  | withoutCancel (parent : Ctx)
  | withCancel (parent : Ctx)
  | withTimeout (parent : Ctx) (timeout : Duration)

/-- The context ends when the caller cancels its own. -/
def Ctx.followsCaller : Ctx → Bool
  | .caller => true
  | .withoutCancel _ => false
  | .withCancel parent => parent.followsCaller
  | .withTimeout parent _ => parent.followsCaller

def bestEffortKillTimeout : Duration := 5 * second

def detachedCleanupContext (ctx : Ctx) : Ctx := .withTimeout (.withoutCancel ctx) bestEffortKillTimeout

/-! ## The requests and their answers -/

/-- A request to docker. `kill` is the call of `Kill`, which stops and removes the container. -/
inductive DockerCall where
  | imagePull (ctx : Ctx) (image : String)
  | containerCreate (ctx : Ctx) (name : String) (result : Except String String)
  | containerStart (ctx : Ctx) (containerID : String)
  | containerLogs (ctx : Ctx) (containerID : String)
  | containerInspect (ctx : Ctx) (containerID : String)
  | kill (ctx : Ctx) (containerID : String)
  | containerStop (ctx : Ctx) (containerID : String)
  | containerRemove (ctx : Ctx) (containerID : String)

/-- What one tick of the readiness poll finds. -/
structure Look where
  socks : Inspection
  probe : Inspection
  gateway : Inspection
  probes : CellProbes

/-- One round of the poll: the end of the context, or a tick. -/
inductive PollRound where
  | done
  | tick (look : Look)

inductive StreamError where
  | canceled
  | other (reason : String)
  deriving DecidableEq, Repr

/-- How the follower of the log ends. -/
inductive LogCapture where
  | unopened (reason : String)
  | copied (output : String) (copyErr closeErr : Option StreamError)

structure SpawnWorld where
  now : Int
  pullImage : Except String Unit
  containerCreate : Except String String
  containerStart : Except String Unit
  round : Nat → PollRound
  readyAt : Int
  logs : LogCapture
  containerStop : Except String Unit
  containerRemove : Except String Unit

/-- `ErrSpawnFailed`, `ErrSpawnTimeout`, or neither, and what a failed startup adds. -/
inductive SpawnError where
  | failed (message : String)
  | timeout (message : String)
  | parseProxyURL
  | wrap (cause : SpawnError) (message : String)
  deriving DecidableEq, Repr

/-! ## Names and images -/

def isAlphaNum (c : UInt8) : Bool := isASCIIAlpha c || Net.isDigit c

def sanitizeByte (c : UInt8) : Char :=
  if isAlphaNum c || c == '-'.toUInt8 || c == '_'.toUInt8 then Char.ofNat c.toNat else '_'

def sanitize (s : String) : String := .ofList ((utf8 s).map sanitizeByte)

def buildContainerName (pool conf : String) (now : Int) : String :=
  "pr0xteus-tunnel-" ++ sanitize pool ++ "-" ++ sanitize conf ++ "-" ++ toString now

def cellImageRepo : String := "psyb0t/pr0xteus"

def defaultCellTag : String := "dev"

def cellImageForVersion (version : String) : String :=
  let version := trimSpace version
  cellImageRepo ++ ":cell-" ++ if version = "" then defaultCellTag else version

/-! ## Kill -/

/-- `strings.Contains`. -/
def containsText (s part : String) : Bool := part.toList <:+: s.toList

def isNotFound (reason : String) : Bool :=
  containsText reason "No such container" || containsText reason "is not running"

def isRemovalInProgress (reason : String) : Bool := containsText reason "is already in progress"

namespace SpawnWorld

variable (w : SpawnWorld)

/-- `Kill`: the removal is tried unless the stop failed for a container that is there. -/
def kill (ctx : Ctx) (containerID : String) : List DockerCall × Except String Unit :=
  let stop := [.kill ctx containerID, .containerStop ctx containerID]
  let remove := stop ++ [.containerRemove ctx containerID]
  let removed : Except String Unit :=
    match w.containerRemove with
    | .ok _ => .ok ()
    | .error reason =>
        if isNotFound reason || isRemovalInProgress reason then .ok ()
        else .error ("remove container " ++ containerID ++ ": " ++ reason)
  match w.containerStop with
  | .ok _ => (remove, removed)
  | .error reason =>
      if isNotFound reason then (remove, removed)
      else (stop, .error ("stop container " ++ containerID ++ ": " ++ reason))

def bestEffortKill (ctx : Ctx) (containerID : String) : List DockerCall :=
  (w.kill (detachedCleanupContext ctx) containerID).1

end SpawnWorld

/-! ## The startup log -/

/-- `cellLogCapture.stop`: what the log holds, and the error of the capture. The end that `stop` itself
brings about is not one. -/
def LogCapture.stop : LogCapture → String × Option String
  | .unopened reason => ("", some ("open cell startup log stream: " ++ reason))
  | .copied output (some (.other reason)) _ =>
      (trimSpace output, some ("copy cell startup logs: " ++ reason))
  | .copied output _ (some (.other reason)) =>
      (trimSpace output, some ("close cell startup log stream: " ++ reason))
  | .copied output _ _ => (trimSpace output, none)

/-- The error of a failed startup, with the log or with why there is none. -/
def LogCapture.explain (logs : LogCapture) (containerID : String) (err : SpawnError) : SpawnError :=
  match logs.stop with
  | (_, some reason) =>
      .wrap err ("capture startup logs for container " ++ containerID ++ ": " ++ reason)
  | (startupLogs, none) =>
      if startupLogs ≠ "" then
        .wrap err ("container " ++ containerID ++ " startup logs: " ++ quote startupLogs)
      else err

/-! ## Spawn -/

structure SpawnRun where
  /-- The requests of `Spawn` itself, in order. -/
  calls : List DockerCall
  /-- Those of the follower of the log. -/
  follower : List DockerCall
  result : Except SpawnError Tunnel

namespace CellConfig

variable (cfg : CellConfig) (w : SpawnWorld)

/-- `createAndStart` once the image is there: the requests, and the identifier and the name of the
started container. -/
def createContainer (ctx : Ctx) (containerName : String) :
    List DockerCall × Except SpawnError (String × String) :=
  let create := [.containerCreate ctx containerName w.containerCreate]
  match w.containerCreate with
  | .error reason => (create, .error (.failed ("container create: " ++ reason)))
  | .ok containerID =>
      let start := create ++ [.containerStart ctx containerID]
      match w.containerStart with
      | .error reason =>
          (start ++ w.bestEffortKill ctx containerID,
            .error (.failed ("container start " ++ containerID ++ ": " ++ reason)))
      | .ok _ => (start, .ok (containerID, containerName))

def createAndStart (ctx : Ctx) (req : SpawnRequest) :
    List DockerCall × Except SpawnError (String × String) :=
  let containerName := buildContainerName req.pool req.confName w.now
  if cfg.cellImage = cellImageForVersion defaultCellTag then createContainer w ctx containerName
  else
    let pull := [.imagePull ctx cfg.cellImage]
    match w.pullImage with
    | .error reason =>
        (pull, .error (.failed ("pull cell image " ++ cfg.cellImage ++ ": " ++ reason)))
    | .ok _ =>
        let created := createContainer w ctx containerName
        (pull ++ created.1, created.2)

/-- `readyGateway`: the address of a ready cell and that of its gateway. Each of the three functions
inspects the container if its network setting says so. -/
def readyGateway (ctx : Ctx) (containerID containerName : String) (look : Look) :
    List DockerCall × Option (String × String) :=
  let inspect := DockerCall.containerInspect ctx containerID
  let onHost := if cfg.cellNetwork ≠ "" then [] else [inspect]
  let onControl := if cfg.cellControlNetwork = "" then [] else [inspect]
  match cfg.resolveSocksAddr containerName look.socks with
  | .error _ => (onHost, none)
  | .ok addr =>
      if addr = "" then (onHost, none)
      else
        match cfg.probeCellReady look.probes look.probe addr with
        | .error _ | .ok false => (onHost ++ onControl, none)
        | .ok true =>
            match cfg.resolveGatewayAddr look.gateway addr with
            | .error _ => (onHost ++ onControl ++ onControl, none)
            | .ok gatewayAddr =>
                if gatewayAddr = "" then (onHost ++ onControl ++ onControl, none)
                else (onHost ++ onControl ++ onControl, some (addr, gatewayAddr))

/-- `waitReady` from one round of the poll on, for at most `fuel` rounds. -/
def waitReady (ctx : Ctx) (containerID containerName : String) (req : SpawnRequest) :
    (fuel : Nat) → (round : Nat) → Option (List DockerCall × Except SpawnError Tunnel)
  | 0, _ => none
  | fuel + 1, round =>
      match w.round round with
      | .done =>
          some ([], .error (.timeout ("container " ++ containerID ++ " never reported running")))
      | .tick look =>
          match cfg.readyGateway ctx containerID containerName look with
          | (calls, none) =>
              (waitReady ctx containerID containerName req fuel (round + 1)).map fun later =>
                (calls ++ later.1, later.2)
          | (calls, some (addr, gatewayAddr)) =>
              match parse (utf8 (proxySchemeSOCKS5 ++ "://" ++ addr)) with
              | none => some (calls, .error .parseProxyURL)
              | some _ => some (calls, .ok (readyTunnel req containerID addr gatewayAddr w.readyAt))

/-- `Spawn`, for at most `fuel` rounds of the poll. -/
def spawn (ctx : Ctx) (req : SpawnRequest) (fuel : Nat) : Option SpawnRun :=
  match cfg.createAndStart w ctx req with
  | (calls, .error err) => some ⟨calls, [], .error err⟩
  | (calls, .ok (containerID, containerName)) =>
      let follower := [.containerLogs (.withCancel (.withoutCancel ctx)) containerID]
      match cfg.waitReady w ctx containerID containerName req fuel 0 with
      | none => none
      | some (polled, .ok tunnel) => some ⟨calls ++ polled, follower, .ok tunnel⟩
      | some (polled, .error err) =>
          some ⟨calls ++ polled ++ w.bestEffortKill ctx containerID, follower,
            .error (w.logs.explain containerID err)⟩

end CellConfig

end Pr0xteus
