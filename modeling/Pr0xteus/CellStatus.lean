import Pr0xteus.CellProxy
import Pr0xteus.Lib.JsonFields
import Pr0xteus.Loading

/-!
# The status of a cell

`GET /status` of a cell's control server, and `cellControlClient`, with which the controller asks for it.
The uptime has a floating-point type that is a parameter, with how its numbers are written and read. What
a request ends with is its status and what arrives of the body, or none where it fails.
-/

namespace Pr0xteus

open Encoding Json

namespace CellProxy

structure Status (F : Type) where
  cellID : String
  parentID : String
  startedAt : String
  uptimeSeconds : F
  traffic : Stats

section Written

def DestStat.members (stat : DestStat) : List (String × Doc) :=
  [("destination", .string (utf8 stat.destination)), ("requests", .int64 stat.requests),
    ("bytesUp", .int64 stat.bytesUp), ("bytesDown", .int64 stat.bytesDown),
    ("active", .int64 stat.active)]

def Stats.members (stats : Stats) : List (String × Doc) :=
  [("requests", .int64 stats.requests), ("bytesUp", .int64 stats.bytesUp),
    ("bytesDown", .int64 stats.bytesDown), ("active", .int64 stats.active),
    ("dialFailures", .int64 stats.dialFailures),
    ("destinations", .array ((stats.destinations.map DestStat.members).map .object))]

def Status.members {F : Type} (float : FloatText F) (status : Status F) : List (String × Doc) :=
  [("cellId", .string (utf8 status.cellID))] ++ omitEmpty "parentId" (utf8 status.parentID) ++
    [("startedAt", .string (utf8 status.startedAt)),
      ("uptimeSeconds", .number (float.format status.uptimeSeconds)),
      ("traffic", .object status.traffic.members)]

/-- The answer of `controlMux` to `GET /status`. -/
def Status.serve {F : Type} (float : FloatText F) (status : Status F) : Nat × List UInt8 :=
  (200, encode .compact (.object (status.members float)))

end Written

section Read

def DestStat.decode (members : Members) : Option DestStat := do
  some
    { destination := .ofList (← stringField "destination" members)
      requests := ← int64Field "requests" members
      bytesUp := ← int64Field "bytesUp" members
      bytesDown := ← int64Field "bytesDown" members
      active := ← int64Field "active" members }

def Stats.decode (members : Members) : Option Stats := do
  some
    { requests := ← int64Field "requests" members
      bytesUp := ← int64Field "bytesUp" members
      bytesDown := ← int64Field "bytesDown" members
      active := ← int64Field "active" members
      dialFailures := ← int64Field "dialFailures" members
      destinations := ← (← structsField "destinations" members).mapM DestStat.decode }

def Status.decode {F : Type} (float : FloatText F) (body : List UInt8) : Option (Status F) := do
  let members ← firstMembers body
  some
    { cellID := .ofList (← stringField "cellId" members)
      parentID := .ofList (← stringField "parentId" members)
      startedAt := .ofList (← stringField "startedAt" members)
      uptimeSeconds := ← floatField float "uptimeSeconds" members
      traffic := ← Stats.decode (← structField "traffic" members) }

end Read

end CellProxy

namespace CellControl

def cellStatusPath : String := "/status"

/-- What requests to the cells end with, by control URL and path. -/
abbrev Net := URL → String → Option (Nat × List UInt8)

variable {F : Type}

/-- `Status`; an error is its message, which ends where the source would add the text of another. -/
def status (float : FloatText F) (net : Net) (base : Option URL) :
    Except String (CellProxy.Status F) :=
  match base with
  | none => .error "cell has no control url"
  | some base =>
      match net base cellStatusPath with
      | none => .error "do cell control request"
      | some (code, body) =>
          if code ≠ 200 then .error ("cell status returned http " ++ toString code)
          else
            match CellProxy.Status.decode float body with
            | none => .error "decode cell status"
            | some status => .ok status

end CellControl

/-- `hasLiveConnections`. -/
def hasLiveConnections {F : Type} (float : FloatText F) (net : CellControl.Net)
    (controlURL : Option URL) : Bool :=
  controlURL.isSome &&
    match CellControl.status float net controlURL with
    | .error _ => false
    | .ok status => 0 < status.traffic.active

/-! ## The operator's view of the cells -/

section Views

variable {F : Type}

/-- A child that docker lists, with its labels. -/
structure ListedCell extends CellHandle where
  pool : String
  confName : String
  state : String
  createdAt : Int

structure CellView (F : Type) where
  containerID : String
  parentID : String
  pool : String
  confName : String
  state : String
  exitCountry : String
  createdAt : Int
  uptimeSeconds : F
  traffic : Option CellProxy.Stats
  statusError : String

def exitCountryFromConf (t : Text.CaseTable) (conf : String) : String :=
  let country := conf.toList.takeWhile (· ≠ '-')
  if '-' ∈ conf.toList ∧ country ≠ [] then t.toUpper (.ofList country) else ""

def Manager.exitCountryFor (t : Text.CaseTable) (specs : PoolSpecs) (pool conf : String) : String :=
  match (specs.lookup pool).bind fun spec => spec.exitCountries.lookup conf with
  | none | some "" => exitCountryFromConf t conf
  | some country => country

def Manager.cellView (float : FloatText F) (net : CellControl.Net) (t : Text.CaseTable) (specs : PoolSpecs)
    (handle : ListedCell) : CellView F :=
  let view : CellView F :=
    { containerID := handle.containerID
      parentID := ""
      pool := handle.pool
      confName := handle.confName
      state := handle.state
      exitCountry := exitCountryFor t specs handle.pool handle.confName
      createdAt := handle.createdAt
      uptimeSeconds := float.zero
      traffic := none
      statusError := "" }
  if handle.controlURL.isNone then view
  else
    match CellControl.status float net handle.controlURL with
    | .error message => { view with statusError := message }
    | .ok status =>
        { view with
          parentID := status.parentID
          uptimeSeconds := status.uptimeSeconds
          traffic := some status.traffic }

/-- `Cells`, of a listing that succeeded. -/
def Manager.cells (float : FloatText F) (net : CellControl.Net) (t : Text.CaseTable) (specs : PoolSpecs)
    (sort : CellProxy.SortSlice (CellView F)) (handles : List ListedCell) : List (CellView F) :=
  sort.sort (fun a b => a.containerID < b.containerID) (handles.map (cellView float net t specs))

end Views

end Pr0xteus
