import Pr0xteus.Lib.FinMap
import Pr0xteus.Lib.Transition

/-!
# The traffic of a cell

`cellproxy`: the recorder of a cell's traffic, and the connections that report to it. Every method of
`Recorder` holds its mutex throughout, so a history of calls is a list of operations. The `DestStat`
that a method changes through its pointer is stored back under its key.
-/

namespace Pr0xteus.CellProxy

open Transition

structure DestStat where
  destination : String
  requests : Int64 := 0
  bytesUp : Int64 := 0
  bytesDown : Int64 := 0
  active : Int64 := 0

def maxTrackedDestinations : Nat := 2048

def overflowDestination : String := "(other)"

/-- `Recorder`, without the length of its ranking, which only a snapshot reads; `RankedRecorder` has
both. -/
structure Recorder where
  dests : AList fun _ : String => DestStat := ∅
  requests : Int64 := 0
  bytesUp : Int64 := 0
  bytesDown : Int64 := 0
  active : Int64 := 0
  dialFailures : Int64 := 0

namespace Recorder

def new : Recorder := {}

/-- `bucket`: the key of the bucket for `dest` and what it holds. -/
def bucket (r : Recorder) (dest : String) : String × DestStat :=
  match r.dests.lookup dest with
  | some stat => (dest, stat)
  | none =>
      if maxTrackedDestinations ≤ r.dests.entries.length then
        match r.dests.lookup overflowDestination with
        | some stat => (overflowDestination, stat)
        | none => (overflowDestination, { destination := overflowDestination })
      else (dest, { destination := dest })

/-- `Open`: the key that it returns, and the recorder after it. -/
def openConn (r : Recorder) (dest : String) : String × Recorder :=
  let (key, stat) := r.bucket dest
  let opened := { stat with requests := stat.requests + 1, active := stat.active + 1 }
  (stat.destination,
    { r with
      dests := r.dests.insert key opened
      requests := r.requests + 1
      active := r.active + 1 })

/-- A change of the bucket under a key, if there is one. -/
def onBucket (r : Recorder) (key : String) (f : DestStat → DestStat) :
    AList fun _ : String => DestStat :=
  match r.dests.lookup key with
  | none => r.dests
  | some stat => r.dests.insert key (f stat)

def close (r : Recorder) (key : String) : Recorder :=
  { r with
    dests := r.onBucket key fun stat =>
      if 0 < stat.active then { stat with active := stat.active - 1 } else stat
    active := if 0 < r.active then r.active - 1 else r.active }

def up (r : Recorder) (key : String) (n : Int64) : Recorder :=
  { r with
    dests := r.onBucket key fun stat => { stat with bytesUp := stat.bytesUp + n }
    bytesUp := r.bytesUp + n }

def down (r : Recorder) (key : String) (n : Int64) : Recorder :=
  { r with
    dests := r.onBucket key fun stat => { stat with bytesDown := stat.bytesDown + n }
    bytesDown := r.bytesDown + n }

def dialFailed (r : Recorder) : Recorder := { r with dialFailures := r.dialFailures + 1 }

end Recorder

inductive RecorderOp where
  | openConn (dest : String)
  | close (key : String)
  | up (key : String) (n : Int64)
  | down (key : String) (n : Int64)
  | dialFailed

def Recorder.step (r : Recorder) : RecorderOp → Option Recorder
  | .openConn dest => some (r.openConn dest).2
  | .close key => some (r.close key)
  | .up key n => some (r.up key n)
  | .down key n => some (r.down key n)
  | .dialFailed => some r.dialFailed

abbrev RecorderEdge := Edge Recorder RecorderOp

/-- A history of calls on a new recorder. -/
abbrev Recorder.run (ops : List RecorderOp) : List RecorderEdge := edges Recorder.step .new ops

/-! ## Snapshots -/

/-- `sort.Slice`: the elements in some order that agrees with the comparator, where the comparator is
one of a strict weak order. -/
structure SortSlice (α : Type) where
  sort : (less : α → α → Bool) → List α → List α
  perm : ∀ less l, (sort less l).Perm l
  sorted : ∀ less l, (∀ a b, less a b = true → less b a = false) →
    (∀ a b c, less a b = false → less b c = false → less a c = false) →
      (sort less l).Pairwise fun a b => less b a = false

structure Stats where
  requests : Int64
  bytesUp : Int64
  bytesDown : Int64
  active : Int64
  dialFailures : Int64
  destinations : List DestStat

/-- A recorder with the length of its ranking. -/
structure RankedRecorder where
  recorder : Recorder
  topN : Int64

def newRecorder (topN : Int64) : RankedRecorder where
  recorder := .new
  topN := if topN ≤ 0 then .ofNat maxTrackedDestinations else topN

namespace RankedRecorder

/-- A recorder after a history of calls, none of which changes `topN`. -/
def after (topN : Int64) (ops : List RecorderOp) : RankedRecorder :=
  { newRecorder topN with recorder := final .new (Recorder.run ops) }

/-- The buckets, in one order. -/
def buckets (r : RankedRecorder) : List DestStat := r.recorder.dests.entries.map Sigma.snd

def less (a b : DestStat) : Bool := a.bytesUp + a.bytesDown > b.bytesUp + b.bytesDown

/-- `Snapshot`, given the order in which the map is gone through. -/
def snapshot (r : RankedRecorder) (sort : SortSlice DestStat) (ranged : List DestStat) : Stats :=
  let list := sort.sort less ranged
  { requests := r.recorder.requests
    bytesUp := r.recorder.bytesUp
    bytesDown := r.recorder.bytesDown
    active := r.recorder.active
    dialFailures := r.recorder.dialFailures
    destinations := if r.topN.toInt < list.length then list.take r.topN.toInt.toNat else list }

end RankedRecorder

/-! ## Connections -/

/-- A `countingConn`: the key that `Open` returned for it, and whether its `sync.Once` has run. -/
structure CountingConn where
  key : String
  closed : Bool

/-- What happens to the connections of a server, which are numbered in the order of their dials: a dial
with its outcome, a read or write of `n` bytes, a `Close`. -/
inductive ConnOp where
  | dial (addr : String) (connected : Bool)
  | read (conn : Nat) (n : Int64)
  | write (conn : Nat) (n : Int64)
  | close (conn : Nat)

namespace ConnOp

def call (conns : List CountingConn) : ConnOp → Option RecorderOp
  | .dial addr true => some (.openConn addr)
  | .dial _ false => some .dialFailed
  | .read i n => conns[i]?.bind fun c => if 0 < n then some (.down c.key n) else none
  | .write i n => conns[i]?.bind fun c => if 0 < n then some (.up c.key n) else none
  | .close i => conns[i]?.bind fun c => if c.closed then none else some (.close c.key)

def next (r : Recorder) (conns : List CountingConn) : ConnOp → List CountingConn
  | .dial addr true => conns ++ [⟨(r.openConn addr).1, false⟩]
  | .close i =>
      match conns[i]? with
      | none => conns
      | some c => conns.set i { c with closed := true }
  | .dial _ false | .read _ _ | .write _ _ => conns

end ConnOp

/-- The calls on a recorder that come of what happens to the connections. -/
def recorderCalls (r : Recorder) (conns : List CountingConn) : List ConnOp → List RecorderOp
  | [] => []
  | op :: ops =>
      match op.call conns with
      | none => recorderCalls r (op.next r conns) ops
      | some call => call :: recorderCalls ((r.step call).getD r) (op.next r conns) ops

/-- The connections after what happens to them. -/
def connections (r : Recorder) (conns : List CountingConn) : List ConnOp → List CountingConn
  | [] => conns
  | op :: ops =>
      match op.call conns with
      | none => connections r (op.next r conns) ops
      | some call => connections ((r.step call).getD r) (op.next r conns) ops

end Pr0xteus.CellProxy
