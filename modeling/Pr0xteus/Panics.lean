import Pr0xteus.Environment
import Pr0xteus.Spawn

/-!
# The calls that panic

`time.NewTicker` panics on an interval that is not positive, and `mustParsePort` on a number that is not
a port. These are the guarded calls. The goroutines of `Service.Run` that make them are the three loops
of the reaper and, for each request that gets a new cell, `Spawn`. A panic of a loop ends the process.
`Spawn` runs in a handler of the API, whose middleware recovers.
-/

namespace Pr0xteus

open Encoding GoTime Net

/-! ## Tickers and ports -/

/-- `time.NewTicker`; the error is the message of the panic. -/
def newTicker (d : Duration) : Except String Unit :=
  if d ≤ 0 then .error "non-positive interval for NewTicker" else .ok ()

/-- `network.Port`. -/
structure Port where
  num : UInt16
  proto : List UInt8
  deriving DecidableEq, Repr

def parsePortNumber (rawPort : List UInt8) : Except String UInt16 :=
  if rawPort = [] then .error "value is empty"
  else
    match parseUint 16 rawPort with
    | .error .invalidSyntax => .error "invalid syntax"
    | .error .outOfRange => .error "value out of range"
    | .ok port => .ok (.ofNat port)

/-- `normalizePortProto`, of a protocol in ASCII. -/
def normalizePortProto (proto : List UInt8) : List UInt8 :=
  if proto = [] then utf8 "tcp" else proto.map lowerByte

def parsePort (s : List UInt8) : Except String Port :=
  if s = [] then .error "invalid port: value is empty"
  else
    let (port, proto) := Bytes.cut '/'.toUInt8 s
    match parsePortNumber port with
    | .error reason => .error ("invalid port '" ++ (Bytes.text? port).getD "" ++ "': " ++ reason)
    | .ok portNum => .ok ⟨portNum, normalizePortProto (proto.getD [])⟩

/-- `mustParsePort`; the error is the message of the panic. -/
def mustParsePort (port : Int) : Except String Port := parsePort (utf8 (toString port ++ "/tcp"))

namespace Panics

inductive GuardedCall where
  | newTicker (d : Duration)
  | mustParsePort (port : Int)
  deriving DecidableEq, Repr

/-- The message of the panic, if the call panics. -/
def GuardedCall.panic? : GuardedCall → Option String
  | .newTicker d =>
      match Pr0xteus.newTicker d with
      | .error message => some message
      | .ok _ => none
  | .mustParsePort port =>
      match Pr0xteus.mustParsePort port with
      | .error message => some message
      | .ok _ => none

/-! ## The guarded calls of a spawn -/

def waitReadyTickInterval : Duration := second / 2

section Spawn

variable (cfg : CellConfig) (w : SpawnWorld)

/-- Those of `buildContainerConfig` and then of `buildHostConfig`. -/
def createCalls : List GuardedCall :=
  [.mustParsePort cfg.cellSocksPort, .mustParsePort cfg.cellControlPort] ++
    if cfg.cellNetwork ≠ "" then [] else [.mustParsePort cfg.cellSocksPort]

/-- Those of `resolveSocksAddr`. -/
def resolveCalls (info : Inspection) : List GuardedCall :=
  if cfg.cellNetwork ≠ "" then []
  else
    match info with
    | .error _ | .ok none => []
    | .ok (some _) => [.mustParsePort cfg.cellSocksPort]

/-- Those of the rounds of `waitReady`. -/
def roundCalls (ctx : Ctx) (containerID containerName : String) :
    (fuel : Nat) → (round : Nat) → List GuardedCall
  | 0, _ => []
  | fuel + 1, round =>
      match w.round round with
      | .done => []
      | .tick look =>
          resolveCalls cfg look.socks ++
            match (cfg.readyGateway ctx containerID containerName look).2 with
            | none => roundCalls ctx containerID containerName fuel (round + 1)
            | some _ => []

/-- Those of `createAndStart`, which makes none if the image cannot be pulled. -/
def createAndStartCalls : List GuardedCall :=
  if cfg.cellImage = cellImageForVersion defaultCellTag then createCalls cfg
  else
    match w.pullImage with
    | .error _ => []
    | .ok _ => createCalls cfg

/-- Those of `Spawn`, for at most `fuel` rounds of the poll. -/
def spawnCalls (ctx : Ctx) (req : SpawnRequest) (fuel : Nat) : List GuardedCall :=
  createAndStartCalls cfg w ++
    match (cfg.createAndStart w ctx req).2 with
    | .error _ => []
    | .ok (containerID, containerName) =>
        .newTicker waitReadyTickInterval :: roundCalls cfg w ctx containerID containerName fuel 0

end Spawn

/-! ## The process -/

inductive Goroutine where
  | idleLoop
  | healthLoop
  | orphanLoop
  | spawn
  deriving DecidableEq, Repr

/-- A panic is recovered where a handler of the API made the call. -/
def Goroutine.recovers : Goroutine → Bool
  | .spawn => true
  | .idleLoop | .healthLoop | .orphanLoop => false

def tickEvery : Duration := 60 * second

def orphanReapInterval : Duration := 60 * second

/-- The loops that `Reaper.Start` launches, with the guarded call that each of them begins with. Their
rounds make none. -/
def loops (cfg : EnvConfig) : List (Goroutine × List GuardedCall) :=
  [(.idleLoop, [.newTicker tickEvery]), (.healthLoop, [.newTicker cfg.healthCheckInterval]),
    (.orphanLoop, [.newTicker orphanReapInterval])]

structure State where
  started : Bool
  /-- The goroutines, each with the guarded calls that it has before it. -/
  goroutines : List (Goroutine × List GuardedCall)
  /-- The guarded calls that were made. -/
  made : List (Goroutine × GuardedCall)
  /-- The message that the process ended with. -/
  crashed : Option String

def init : State := ⟨false, [], [], none⟩

/-- `Run` starts the reaper and after that the API, a request gets to `Spawn`, or a goroutine makes its
next guarded call. -/
inductive Action where
  | start
  | spawn (w : SpawnWorld) (ctx : Ctx) (req : SpawnRequest) (fuel : Nat)
  | call (i : Nat)

/-- A goroutine makes its next guarded call. -/
def makeCall (s : State) (i : Nat) : Option State :=
  match s.goroutines[i]? with
  | none | some (_, []) => none
  | some (g, call :: rest) =>
      let made := s.made ++ [(g, call)]
      match call.panic? with
      | none => some { s with made, goroutines := s.goroutines.set i (g, rest) }
      | some message =>
          if g.recovers then some { s with made, goroutines := s.goroutines.set i (g, []) }
          else some { s with made, crashed := some message }

def step (cfg : EnvConfig) (s : State) (a : Action) : Option State :=
  if s.crashed.isSome then none
  else
    match a with
    | .start =>
        if s.started then none
        else some { s with started := true, goroutines := s.goroutines ++ loops cfg }
    | .spawn w ctx req fuel =>
        if !s.started then none
        else
          let calls := spawnCalls cfg.toCellConfig w ctx req fuel
          some { s with goroutines := s.goroutines ++ [(.spawn, calls)] }
    | .call i => makeCall s i

/-- The runs of the process, by the actions taken. -/
def runs (cfg : EnvConfig) (actions : List Action) : List (Transition.Edge State Action) :=
  Transition.edges (step cfg) init actions

/-- Where the process is after these actions. -/
def after (cfg : EnvConfig) (actions : List Action) : State :=
  Transition.final init (runs cfg actions)

end Panics

end Pr0xteus
