import Pr0xteus.CellStatus
import Pr0xteus.Proof.Snapshot

/-!
# Live connections, seen from the controller

A cell writes its status as JSON and the controller reads it back, whatever the counters and the
destinations are. So the reaper, which asks before it kills an idle cell, sees live connections exactly
when a connection of the cell is open.
-/

namespace Pr0xteus

open Encoding Transition

namespace CellProxy

open Json

section RoundTrip

theorem decode_destStat (stat : DestStat) : DestStat.decode (memberValues stat.members) = some stat := by
  simp (disch := decide) only [DestStat.decode, DestStat.members, stringField, int64Field, memberValues,
    List.foldlM_cons, List.foldlM_nil, setField_member, Doc.value, Doc.int64, String.reduceEq, if_true,
    if_false, Option.bind_eq_bind, Option.pure_def, Option.bind_some, atoi_ofInt, Utf8.chars_string,
    String.ofList_toList]

theorem mapM_decode_destStat (stats : List DestStat) :
    ((stats.map DestStat.members).map memberValues).mapM DestStat.decode = some stats := by
  induction stats with
  | nil => rfl
  | cons stat stats ih =>
      simp only [List.map_cons, List.mapM_cons, decode_destStat, ih, Option.bind_eq_bind,
        Option.bind_some, Option.pure_def]

theorem decode_stats (stats : Stats) : Stats.decode (memberValues stats.members) = some stats := by
  have hdestinations : structsField "destinations" (memberValues stats.members) =
      some ((stats.destinations.map DestStat.members).map memberValues) :=
    structsField_last (memberValues (stats.members.take 5))
      (show ∀ other ∈ ["requests".toList, "bytesUp".toList, "bytesDown".toList, "active".toList,
        "dialFailures".toList], nameMatches "destinations" other = false by decide) (by decide) _
  simp only [Stats.decode, hdestinations, mapM_decode_destStat, Option.bind_eq_bind, Option.bind_some]
  simp (disch := decide) only [Stats.members, int64Field, memberValues, List.foldlM_cons,
    List.foldlM_nil, setField_member, Doc.value, Doc.int64, String.reduceEq, if_true, if_false,
    Option.bind_eq_bind, Option.pure_def, Option.bind_some, atoi_ofInt]

variable {F : Type} (float : FloatText F)

theorem nesting_stats (stats : Stats) : nestingMembers stats.members ≤ 2 := by
  have hitems : nestingItems ((stats.destinations.map DestStat.members).map .object) ≤ 1 := by
    induction stats.destinations with
    | nil => exact Nat.zero_le _
    | cons stat stats ih =>
        rw [List.map_cons, List.map_cons, nestingItems]
        exact Nat.max_le.mpr ⟨Nat.le_refl _, ih⟩
  simp only [Stats.members, nestingMembers, Doc.nesting, Doc.int64]
  omega

theorem nesting_status (status : Status F) :
    (Doc.object (status.members float)).nesting ≤ maxNestingDepth := by
  have hstats := nesting_stats status.traffic
  simp only [Status.members, Doc.nesting, nestingMembers_append, nestingMembers,
    nestingMembers_omitEmpty, maxNestingDepth]
  omega

/-- The controller decodes the status that a cell writes as it was. -/
theorem decode_status (status : Status F) :
    Status.decode float (encode .compact (.object (status.members float))) = some status := by
  rw [Status.decode, firstMembers_encode .compact (nesting_status float status)]
  have htraffic : structField "traffic" (memberValues (status.members float)) =
      some (memberValues status.traffic.members) := by
    simp (disch := decide) only [Status.members, structField, memberValues_append,
      List.foldlM_append, memberValues, List.foldlM_cons, List.foldlM_nil, setField_member,
      foldlM_omitEmpty, Doc.value, String.reduceEq, if_true, if_false, false_and, Option.bind_eq_bind,
      Option.pure_def, Option.bind_some, List.nil_append]
  simp only [htraffic, decode_stats, Option.bind_eq_bind, Option.bind_some]
  simp (disch := decide) only [Status.members, stringField, floatField, memberValues_append,
    List.foldlM_append, memberValues, List.foldlM_cons, List.foldlM_nil, setField_member,
    foldlM_omitEmpty, Doc.value, String.reduceEq, if_true, if_false, false_and, true_and,
    Option.bind_eq_bind, Option.pure_def, Option.bind_some, some_chars, float.parse_format]
  simp only [Utf8.chars_string, String.ofList_toList]

end RoundTrip

section Live

variable {r : Recorder} {conns : List CountingConn}

/-- The number of live connections that a recorder has is that of the open ones. -/
def Live (r : Recorder) (conns : List CountingConn) : Prop :=
  r.active.toInt = conns.countP fun c => !c.closed

theorem Live.quiet (h : Live r conns) {op : ConnOp} (hcall : op.call conns = none) :
    Live r (op.next r conns) := by
  cases op with
  | dial addr connected => cases connected <;> cases hcall
  | read i n => exact h
  | write i n => exact h
  | close i =>
      cases hc : conns[i]? with
      | none =>
          simp only [ConnOp.next, hc]
          exact h
      | some c =>
          have hclosed : c.closed = true := by
            simpa [ConnOp.call, hc] using hcall
          simp only [ConnOp.next, hc, Live]
          rw [Threads.countP_set_eq hc (by simp [hclosed])]
          exact h

theorem Live.call (h : Live r conns) {op : ConnOp} {call : RecorderOp} {r' : Recorder}
    (hcall : op.call conns = some call) (hstep : r.step call = some r')
    (hroom : conns.length + 1 < 2 ^ 63) : Live r' (op.next r conns) := by
  have hopen := List.countP_le_length (p := fun c : CountingConn => !c.closed) (l := conns)
  unfold Live at h
  cases op with
  | dial addr connected =>
      cases connected with
      | false =>
          cases hcall
          cases hstep
          exact h
      | true =>
          cases hcall
          cases hstep
          change (r.active + 1).toInt = _
          rw [toInt_add_one (by omega), h]
          simp [ConnOp.next]
  | read i n | write i n =>
      obtain ⟨c, hc, hn⟩ := Option.bind_eq_some_iff.mp hcall
      split at hn <;> cases hn
      cases hstep
      exact h
  | close i =>
      obtain ⟨c, hc, hopen⟩ := Option.bind_eq_some_iff.mp hcall
      split at hopen
      · cases hopen
      · next hclosed =>
          cases hopen
          cases hstep
          have hfalse : c.closed = false := by
            simpa using hclosed
          have hset := Threads.countP_set_add (fun c : CountingConn => !c.closed)
            { c with closed := true } hc
          simp only [hfalse, Bool.not_false, Bool.not_true, if_true, Bool.false_eq_true, if_false] at hset
          have hcount : 0 < conns.countP fun c => !c.closed :=
            Threads.countP_pos hc (by simp [hfalse])
          have hpos : 0 < r.active := by
            rw [Int64.lt_iff_toInt_lt, h, Int64.toInt_zero]
            omega
          simp only [Live, Recorder.close, if_pos hpos, ConnOp.next, hc]
          rw [toInt_sub_one (Int64.lt_iff_toInt_lt.mp hpos), h]
          omega

/-- An operation opens one connection at most. -/
theorem length_next_le (op : ConnOp) (r : Recorder) (conns : List CountingConn) :
    (op.next r conns).length ≤ conns.length + 1 := by
  cases op with
  | dial addr connected => cases connected <;> simp [ConnOp.next]
  | read i n | write i n => exact Nat.le_succ _
  | close i =>
      simp only [ConnOp.next]
      split <;> simp

/-- After every history the recorder counts the connections that are open. -/
theorem Live.after {ops : List ConnOp} (h : Live r conns) (hroom : conns.length + ops.length < 2 ^ 63) :
    Live (final r (edges Recorder.step r (recorderCalls r conns ops))) (connections r conns ops) := by
  induction ops generalizing r conns with
  | nil => exact h
  | cons op ops ih =>
      have hnext := length_next_le op r conns
      rw [List.length_cons] at hroom
      rw [recorderCalls, connections]
      cases hcall : op.call conns with
      | none => exact ih (h.quiet hcall) (by omega)
      | some call =>
          obtain ⟨r', hstep⟩ : ∃ r', r.step call = some r' := by
            cases call <;> exact ⟨_, rfl⟩
          dsimp only
          rw [edges, hstep, Option.getD_some]
          rw [final_cons]
          exact ih (h.call hcall hstep (by omega)) (by omega)

end Live

end CellProxy

open CellProxy Json

/-- The controller reads the status that a cell wrote. -/
theorem status_serve {F : Type} (float : FloatText F) {net : CellControl.Net} {url : URL}
    {status : Status F} (hnet : net url CellControl.cellStatusPath = some (status.serve float)) :
    CellControl.status float net (some url) = .ok status := by
  simp only [CellControl.status, hnet, Status.serve, decode_status]
  rfl

/-- The idle reaper sees live connections exactly where one of the cell's connections is open, whatever
has happened to them. -/
theorem hasLiveConnections_iff_open {F : Type} (float : FloatText F) (ops : List ConnOp)
    (hops : ops.length < 2 ^ 63) (topN : Int64) (sort : SortSlice DestStat) (ranged : List DestStat)
    (cellID parentID startedAt : String) (uptimeSeconds : F) (url : URL) :
    let recorder := RankedRecorder.after topN (recorderCalls .new [] ops)
    let status : Status F :=
      ⟨cellID, parentID, startedAt, uptimeSeconds, recorder.snapshot sort ranged⟩
    hasLiveConnections float (fun _ _ => some (status.serve float)) (some url) = true ↔
      ∃ c ∈ connections .new [] ops, c.closed = false := by
  intro recorder status
  have hlive : Live recorder.recorder (connections .new [] ops) :=
    Live.after rfl (by simpa using hops)
  have hactive : status.traffic.active = recorder.recorder.active := rfl
  rw [hasLiveConnections, status_serve float rfl]
  simp only [Option.isSome_some, Bool.true_and, decide_eq_true_eq, hactive]
  rw [Int64.lt_iff_toInt_lt, hlive, Int64.toInt_zero, Int.natCast_pos, List.countP_pos_iff]
  simp

/-- Uptimes in whole seconds. -/
def countedSeconds : FloatText Int64 where
  zero := 0
  format n := .ofInt n.toInt
  parse text := (Net.atoi (utf8 (.ofList text))).map Int64.ofInt
  parse_format := atoi_ofInt

theorem hasLiveConnections_iff_open_twoConnections :
    let recorder := RankedRecorder.after 10 (recorderCalls .new [] twoConnections)
    let status : Status Int64 := ⟨"cell", "", "", 0, recorder.snapshot stableSort []⟩
    hasLiveConnections countedSeconds (fun _ _ => some (status.serve countedSeconds))
      (some ⟨"http", none, "cell:9050"⟩) = true :=
  (hasLiveConnections_iff_open countedSeconds twoConnections (by decide) 10 stableSort [] "cell" "" "" 0
    ⟨"http", none, "cell:9050"⟩).mpr ⟨⟨"b.example:80", false⟩, .tail _ (.head _), rfl⟩

/-- What the operator's view of a cell should show, where the cells have these statuses. -/
def expectedView {F : Type} (float : FloatText F) (fleet : URL → Option (Status F)) (t : Text.CaseTable)
    (specs : PoolSpecs) (handle : ListedCell) : CellView F :=
  let status := handle.controlURL.bind fleet
  { containerID := handle.containerID
    parentID := (status.map Status.parentID).getD ""
    pool := handle.pool
    confName := handle.confName
    state := handle.state
    exitCountry := Manager.exitCountryFor t specs handle.pool handle.confName
    createdAt := handle.createdAt
    uptimeSeconds := (status.map Status.uptimeSeconds).getD float.zero
    traffic := status.map Status.traffic
    statusError := if handle.controlURL.isSome ∧ status.isNone then "do cell control request" else "" }

/-- The operator's listing has one view for each child that docker lists, in the order of their
identifiers, and each shows what its own cell has recorded. -/
theorem cells_show_fleet {F : Type} (float : FloatText F) (fleet : URL → Option (Status F))
    (t : Text.CaseTable) (specs : PoolSpecs) (sort : SortSlice (CellView F)) (handles : List ListedCell) :
    let net : CellControl.Net := fun url _ => (fleet url).map (Status.serve float)
    let views := Manager.cells float net t specs sort handles
    views.Perm (handles.map (expectedView float fleet t specs)) ∧
      views.Pairwise fun a b => ¬b.containerID < a.containerID := by
  intro net views
  have hview : ∀ handle, Manager.cellView float net t specs handle = expectedView float fleet t specs handle := by
    intro handle
    cases hurl : handle.controlURL with
    | none => simp [Manager.cellView, expectedView, hurl]
    | some url =>
        cases hstatus : fleet url with
        | none => simp [Manager.cellView, expectedView, hurl, CellControl.status, net, hstatus]
        | some status =>
            have hserved : CellControl.status float net (some url) = .ok status :=
              status_serve float (by simp [net, hstatus])
            simp [Manager.cellView, expectedView, hurl, hserved, hstatus]
  constructor
  · rw [← funext hview]
    exact sort.perm _ _
  · refine (sort.sorted _ _ (fun a b hab => ?_) fun a b c hab hbc => ?_).imp fun h => by simpa using h
    · simp only [decide_eq_true_eq, decide_eq_false_iff_not] at hab ⊢
      exact String.lt_asymm hab
    · simp only [decide_eq_false_iff_not] at hab hbc ⊢
      exact String.le_trans hbc hab

end Pr0xteus
