import Mathlib.Algebra.Order.BigOperators.Group.List
import Mathlib.Algebra.Order.Ring.Int
import Pr0xteus.CellProxy
import Pr0xteus.Lib.Threads

/-!
# The recorder's accounts

Every counter of a recorder is kept twice, as a total and by destination. The totals are the sums over
the buckets, and the live connections are the opens that were not closed, as long as a bucket is closed
no more often than it was opened. The number of buckets is bounded because a new one is only made while
there is room, the overflow bucket apart.
-/

namespace Pr0xteus.CellProxy

open Transition

variable {r r' : Recorder} {e : RecorderEdge} {es : List RecorderEdge} {a : Int64}

/-! ## What a history says -/

def openedKey (e : RecorderEdge) : Option String :=
  match e.action with
  | .openConn dest => some (e.source.openConn dest).1
  | _ => none

def closedKey (e : RecorderEdge) : Option String :=
  match e.action with
  | .close key => some key
  | _ => none

/-- The key that is passed to `Up`, `Down` or `Close`. -/
def usedKey (e : RecorderEdge) : Option String :=
  match e.action with
  | .close key | .up key _ | .down key _ => some key
  | _ => none

def opened (es : List RecorderEdge) : List String := es.filterMap openedKey

def closed (es : List RecorderEdge) : List String := es.filterMap closedKey

/-- A call as a `countingConn` makes it: its key comes from an `Open`, and is closed at most as often
as it was returned. -/
structure Disciplined (front : List RecorderEdge) (e : RecorderEdge) : Prop where
  uses : ∀ key ∈ usedKey e, key ∈ opened front
  closes : ∀ key ∈ closedKey e, (closed front).count key < (opened front).count key

def Fits (n : Int) : Prop := -2 ^ 63 ≤ n ∧ n < 2 ^ 63

/-- No counter leaves the range of `int64`. -/
def InRange (r : Recorder) : RecorderOp → Prop
  | .openConn _ => r.requests.toInt + 1 < 2 ^ 63
  | .up key n => Fits (r.bytesUp.toInt + n.toInt) ∧
      ∀ stat ∈ r.dests.lookup key, Fits (stat.bytesUp.toInt + n.toInt)
  | .down key n => Fits (r.bytesDown.toInt + n.toInt) ∧
      ∀ stat ∈ r.dests.lookup key, Fits (stat.bytesDown.toInt + n.toInt)
  | .close _ | .dialFailed => True

instance (n : Int) : Decidable (Fits n) := inferInstanceAs (Decidable (-2 ^ 63 ≤ n ∧ n < 2 ^ 63))

instance (r : Recorder) (op : RecorderOp) : Decidable (InRange r op) :=
  match op with
  | .openConn _ => inferInstanceAs (Decidable (r.requests.toInt + 1 < 2 ^ 63))
  | .up key n => inferInstanceAs (Decidable (Fits (r.bytesUp.toInt + n.toInt) ∧
      ∀ stat ∈ r.dests.lookup key, Fits (stat.bytesUp.toInt + n.toInt)))
  | .down key n => inferInstanceAs (Decidable (Fits (r.bytesDown.toInt + n.toInt) ∧
      ∀ stat ∈ r.dests.lookup key, Fits (stat.bytesDown.toInt + n.toInt)))
  | .close _ | .dialFailed => inferInstanceAs (Decidable True)

def WellUsed (es : List RecorderEdge) : Prop :=
  ∀ j e, es[j]? = some e → Disciplined (es.take j) e ∧ InRange e.source e.action

/-- The counters that are kept as a total and by destination. -/
inductive Counter where
  | requests
  | bytesUp
  | bytesDown
  | active

def Counter.total : Counter → Recorder → Int64
  | .requests => Recorder.requests
  | .bytesUp => Recorder.bytesUp
  | .bytesDown => Recorder.bytesDown
  | .active => Recorder.active

def Counter.part : Counter → DestStat → Int64
  | .requests => DestStat.requests
  | .bytesUp => DestStat.bytesUp
  | .bytesDown => DestStat.bytesDown
  | .active => DestStat.active

def Balanced (r : Recorder) : Prop :=
  ∀ c : Counter, (c.total r).toInt = FinMap.sum (fun stat => (c.part stat).toInt) r.dests

/-- The accounts of a recorder after a history. -/
structure Accounted (es : List RecorderEdge) (r : Recorder) : Prop where
  totals : Balanced r
  active : r.active.toInt = (opened es).length - (closed es).length
  active_nonneg : 0 ≤ r.active.toInt
  bucket_active : ∀ key, ∀ stat ∈ r.dests.lookup key,
    stat.active.toInt = (opened es).count key - (closed es).count key ∧ 0 ≤ stat.active.toInt
  tracked : (r.dests.keys.filter (· ≠ overflowDestination)).length ≤ maxTrackedDestinations
  size : r.dests.keys.length ≤ maxTrackedDestinations + 1

/-! ## Arithmetic -/

theorem toInt_add_of_fits {a b : Int64} (h : Fits (a.toInt + b.toInt)) :
    (a + b).toInt = a.toInt + b.toInt := by
  rw [Int64.toInt_add]
  exact Int.bmod_eq_of_le_mul_two (by have := h.1; omega) (by have := h.2; omega)

theorem toInt_add_one (h : a.toInt + 1 < 2 ^ 63) : (a + 1).toInt = a.toInt + 1 :=
  toInt_add_of_fits ⟨by have := a.le_toInt; simp only [Int64.toInt_one]; omega, h⟩

theorem toInt_sub_one (h : 0 < a.toInt) : (a - 1).toInt = a.toInt - 1 := by
  rw [Int64.toInt_sub, Int64.toInt_one]
  exact Int.bmod_eq_of_le_mul_two (by omega) (by have := a.toInt_lt; omega)

/-! ## The invariant -/

structure BucketOf (es : List RecorderEdge) (key : String) (stat : DestStat) : Prop where
  destination : stat.destination = key
  requests : stat.requests.toInt = (opened es).count key
  active : stat.active.toInt = (opened es).count key - (closed es).count key

/-- There is room for another bucket, or the last one made was the overflow bucket. -/
def HasRoom (r : Recorder) : Prop :=
  r.dests.entries.length ≤ maxTrackedDestinations ∨
    r.dests.entries.length = maxTrackedDestinations + 1 ∧
      (r.dests.lookup overflowDestination).isSome

structure Recorded (es : List RecorderEdge) (r : Recorder) : Prop where
  bucket : ∀ key, ∀ stat ∈ r.dests.lookup key, BucketOf es key stat
  tracked : ∀ key ∈ opened es, (r.dests.lookup key).isSome
  closes_le : ∀ key, (closed es).count key ≤ (opened es).count key
  requests : r.requests.toInt = (opened es).length
  active : r.active.toInt = (opened es).length - (closed es).length
  balanced : Balanced r
  room : HasRoom r

def freshStat (key : String) : DestStat := { destination := key }

section Buckets

variable {es : List RecorderEdge} {r : Recorder} {key : String}

/-- The bucket under a key, whether it is there or not. -/
def Recorder.statOf (r : Recorder) (key : String) : DestStat :=
  (r.dests.lookup key).getD (freshStat key)

theorem Recorded.bucketOf_statOf (h : Recorded es r) (key : String) :
    BucketOf es key (r.statOf key) := by
  unfold Recorder.statOf
  cases hlookup : r.dests.lookup key with
  | some stat => exact h.bucket key stat hlookup
  | none =>
      have hopened : (opened es).count key = 0 := by
        rw [List.count_eq_zero]
        intro hmem
        have hsome := h.tracked key hmem
        rw [hlookup] at hsome
        cases hsome
      have hclosed := h.closes_le key
      refine ⟨rfl, ?_, ?_⟩
      · rw [hopened]
        rfl
      · rw [hopened, show (closed es).count key = 0 by omega]
        rfl

theorem part_freshStat (c : Counter) (key : String) : (c.part (freshStat key)).toInt = 0 := by
  cases c <;> rfl

/-- Storing a bucket moves each sum by what the bucket's counter moved. -/
theorem sum_insert_statOf (r : Recorder) (key : String) (stat : DestStat) (c : Counter) :
    FinMap.sum (fun stat => (c.part stat).toInt) (r.dests.insert key stat) =
      FinMap.sum (fun stat => (c.part stat).toInt) r.dests +
        ((c.part stat).toInt - (c.part (r.statOf key)).toInt) := by
  have hsum := FinMap.sum_insert (fun stat => (c.part stat).toInt) r.dests key stat
  have hold : ((r.dests.lookup key).map fun stat => (c.part stat).toInt).getD 0 =
      (c.part (r.statOf key)).toInt := by
    unfold Recorder.statOf
    cases r.dests.lookup key with
    | none => exact (part_freshStat c key).symm
    | some stat => rfl
  rw [hold] at hsum
  omega

/-- Where `Open` finds its bucket, or makes one. -/
theorem exists_bucket (r : Recorder) (dest : String) :
    ∃ key, r.bucket dest = (key, r.statOf key) ∧
      ((r.dests.lookup key).isSome ∨ r.dests.entries.length < maxTrackedDestinations ∨
        key = overflowDestination) := by
  unfold Recorder.bucket Recorder.statOf
  cases hdest : r.dests.lookup dest with
  | some stat => exact ⟨dest, by rw [hdest]; rfl, .inl (by rw [hdest]; rfl)⟩
  | none =>
      by_cases hfull : maxTrackedDestinations ≤ r.dests.entries.length
      · refine ⟨overflowDestination, ?_, .inr (.inr rfl)⟩
        cases r.dests.lookup overflowDestination <;> simp [hfull, freshStat]
      · exact ⟨dest, by simp [hfull, hdest, freshStat], .inr (.inl (Nat.lt_of_not_le hfull))⟩

/-- The recorder after an `Open` with the bucket under this key. -/
def Recorder.openedAt (r : Recorder) (key : String) : Recorder :=
  let stat := r.statOf key
  { r with
    dests := r.dests.insert key
      { stat with requests := stat.requests + 1, active := stat.active + 1 }
    requests := r.requests + 1
    active := r.active + 1 }

theorem Recorded.openConn_eq (h : Recorded es r) {dest : String}
    (hbucket : r.bucket dest = (key, r.statOf key)) : r.openConn dest = (key, r.openedAt key) := by
  unfold Recorder.openConn Recorder.openedAt
  rw [hbucket]
  exact Prod.ext (h.bucketOf_statOf key).destination rfl

end Buckets

section Steps

variable {es : List RecorderEdge} {r : Recorder}

theorem opened_append (es : List RecorderEdge) (e : RecorderEdge) :
    opened (es ++ [e]) = opened es ++ (openedKey e).toList := by
  cases hkey : openedKey e <;> simp [opened, hkey]

theorem closed_append (es : List RecorderEdge) (e : RecorderEdge) :
    closed (es ++ [e]) = closed es ++ (closedKey e).toList := by
  cases hkey : closedKey e <;> simp [closed, hkey]

/-- The bucket count stays within bounds under an insertion that had room, or that replaces. -/
theorem HasRoom.insert {dests : AList fun _ : String => DestStat} {key : String} {stat : DestStat}
    (h : HasRoom r) (hkey : (r.dests.lookup key).isSome ∨
      r.dests.entries.length < maxTrackedDestinations ∨ key = overflowDestination)
    (hdests : dests = r.dests.insert key stat) : HasRoom { r with dests } := by
  have hlength := FinMap.length_insert r.dests key stat
  have hother : (r.dests.lookup overflowDestination).isSome →
      ((r.dests.insert key stat).lookup overflowDestination).isSome := by
    intro hsome
    by_cases heq : overflowDestination = key
    · subst heq
      simp
    · rwa [AList.lookup_insert_ne heq]
  subst hdests
  unfold HasRoom at h ⊢
  dsimp only
  cases hlookup : r.dests.lookup key with
  | some old =>
      simp only [hlookup, Option.isSome_some, if_true] at hlength
      rw [show (r.dests.insert key stat).entries.length = r.dests.entries.length by omega]
      exact h.imp id (And.imp id hother)
  | none =>
      simp only [hlookup, Option.isSome_none, Bool.false_eq_true, if_false, false_or] at hlength hkey
      rcases hkey with hroom | rfl
      · exact .inl (by omega)
      · -- the overflow bucket is the one that may be made without room
        rcases h with hroom | ⟨-, hsome⟩
        · rcases Nat.lt_or_eq_of_le hroom with hlt | heq
          · exact .inl (by omega)
          · exact .inr ⟨by omega, by simp⟩
        · rw [hlookup] at hsome
          cases hsome

/-- A call that stores one bucket: what is left to check is that bucket, and the totals. -/
theorem Recorded.store (h : Recorded es r) {key : String} {stat : DestStat}
    (hdests : r'.dests = r.dests.insert key stat)
    (hroom : (r.dests.lookup key).isSome ∨ r.dests.entries.length < maxTrackedDestinations ∨
      key = overflowDestination) (hopened : openedKey e = none ∨ openedKey e = some key)
    (hclosed : closedKey e = none ∨ closedKey e = some key)
    (hbucket : BucketOf (es ++ [e]) key stat)
    (hcloses : (closed (es ++ [e])).count key ≤ (opened (es ++ [e])).count key)
    (hrequests : r'.requests.toInt = (opened (es ++ [e])).length)
    (hactive : r'.active.toInt = (opened (es ++ [e])).length - (closed (es ++ [e])).length)
    (hmoves : ∀ c : Counter, (c.total r').toInt - (c.total r).toInt =
      (c.part stat).toInt - (c.part (r.statOf key)).toInt) : Recorded (es ++ [e]) r' := by
  have hcount : ∀ key', key' ≠ key →
      (opened (es ++ [e])).count key' = (opened es).count key' ∧
        (closed (es ++ [e])).count key' = (closed es).count key' := by
    intro key' hne
    rw [opened_append, closed_append, List.count_append, List.count_append]
    constructor
    · rcases hopened with hnone | hsome
      · simp [hnone]
      · simp [hsome, Ne.symm hne]
    · rcases hclosed with hnone | hsome
      · simp [hnone]
      · simp [hsome, Ne.symm hne]
  refine ⟨fun key' stat' hstat' => ?_, fun key' hkey' => ?_, fun key' => ?_, hrequests, hactive,
    fun c => ?_, ?_⟩
  · rw [Option.mem_def, hdests] at hstat'
    by_cases heq : key' = key
    · subst heq
      rw [AList.lookup_insert] at hstat'
      cases hstat'
      exact hbucket
    · rw [AList.lookup_insert_ne heq] at hstat'
      have hbefore := h.bucket key' stat' hstat'
      obtain ⟨hsame, hsame'⟩ := hcount key' heq
      exact ⟨hbefore.destination, by rw [hsame, hbefore.requests],
        by rw [hsame, hsame', hbefore.active]⟩
  · rw [hdests]
    by_cases heq : key' = key
    · subst heq
      simp
    · rw [AList.lookup_insert_ne heq]
      apply h.tracked
      rw [← List.count_pos_iff] at hkey' ⊢
      rwa [(hcount key' heq).1] at hkey'
  · by_cases heq : key' = key
    · subst heq
      exact hcloses
    · rw [(hcount key' heq).1, (hcount key' heq).2]
      exact h.closes_le key'
  · have hbefore := h.balanced c
    have hmove := hmoves c
    rw [hdests, sum_insert_statOf]
    omega
  · exact h.room.insert hroom hdests

/-- An `Open`: one more request and one more live connection, in the total and in one bucket. -/
theorem Recorded.openConn (h : Recorded es r) (dest : String)
    (hrange : r.requests.toInt + 1 < 2 ^ 63) :
    Recorded (es ++ [⟨r, .openConn dest, (r.openConn dest).2⟩]) (r.openConn dest).2 := by
  obtain ⟨key, hfound, hroom⟩ := exists_bucket r dest
  have hopen := h.openConn_eq hfound
  have hkey : openedKey ⟨r, .openConn dest, (r.openConn dest).2⟩ = some key := by
    simp [openedKey, hopen]
  have hopened : opened (es ++ [⟨r, .openConn dest, (r.openConn dest).2⟩]) = opened es ++ [key] := by
    rw [opened_append, hkey]
    rfl
  have hclosed : closed (es ++ [⟨r, .openConn dest, (r.openConn dest).2⟩]) = closed es :=
    filterMap_append_unseen es rfl
  -- no bucket has more requests than there were in all
  have hbucket := h.bucketOf_statOf key
  have hcount : (opened es).count key ≤ (opened es).length := List.count_le_length
  have hle := h.closes_le key
  have hrequests := h.requests
  have hactive := h.active
  have hstatRequests := hbucket.requests
  have hstatActive := hbucket.active
  have haddRequests := toInt_add_one (a := r.requests) hrange
  have haddActive := toInt_add_one (a := r.active) (by omega)
  have haddStatRequests := toInt_add_one (a := (r.statOf key).requests) (by omega)
  have haddStatActive := toInt_add_one (a := (r.statOf key).active) (by omega)
  have hcountKey : (opened es ++ [key]).count key = (opened es).count key + 1 := by
    simp
  have hlength : (opened es ++ [key]).length = (opened es).length + 1 := by
    simp
  have hdests : (r.openConn dest).2.dests = r.dests.insert key { r.statOf key with
      requests := (r.statOf key).requests + 1
      active := (r.statOf key).active + 1 } := by
    rw [hopen]
    rfl
  apply h.store hdests
  · exact hroom
  · exact .inr hkey
  · exact .inl rfl
  · refine ⟨hbucket.destination, ?_, ?_⟩
    · rw [hopened, hcountKey]
      dsimp only
      omega
    · rw [hopened, hclosed, hcountKey]
      dsimp only
      omega
  · rw [hopened, hclosed]
    omega
  · rw [hopened, hopen, hlength]
    simp only [Recorder.openedAt]
    omega
  · rw [hopened, hclosed, hopen, hlength]
    simp only [Recorder.openedAt]
    omega
  · intro c
    rw [hopen]
    cases c <;> simp only [Counter.total, Counter.part, Recorder.openedAt] <;> omega

section Used

variable {key : String} {stat : DestStat}

theorem onBucket_eq (hlookup : r.dests.lookup key = some stat) (f : DestStat → DestStat) :
    r.onBucket key f = r.dests.insert key (f stat) := by
  rw [Recorder.onBucket, hlookup]

theorem statOf_eq (hlookup : r.dests.lookup key = some stat) : r.statOf key = stat := by
  rw [Recorder.statOf, hlookup]
  rfl

theorem Recorded.bucket_active_nonneg (h : Recorded es r)
    (hlookup : r.dests.lookup key = some stat) : 0 ≤ stat.active.toInt := by
  have hactive := (h.bucket key stat hlookup).active
  have hle := h.closes_le key
  omega

theorem Recorded.actives_nonneg (h : Recorded es r) :
    ∀ n ∈ r.dests.entries.map fun entry => entry.2.active.toInt, 0 ≤ n := by
  intro n hn
  obtain ⟨⟨key, stat⟩, hentry, rfl⟩ := List.mem_map.mp hn
  exact h.bucket_active_nonneg (AList.mem_lookup_iff.mpr hentry)

theorem Recorded.active_le (h : Recorded es r) (hlookup : r.dests.lookup key = some stat) :
    stat.active.toInt ≤ r.active.toInt := by
  calc stat.active.toInt
    _ ≤ (r.dests.entries.map fun entry => entry.2.active.toInt).sum := by
        apply List.single_le_sum h.actives_nonneg
        exact List.mem_map.mpr ⟨⟨key, stat⟩, AList.mem_lookup_iff.mp hlookup, rfl⟩
    _ = r.active.toInt := (h.balanced .active).symm

theorem Recorded.close (h : Recorded es r) (hlookup : r.dests.lookup key = some stat)
    (hcloses : (closed es).count key < (opened es).count key) :
    Recorded (es ++ [⟨r, .close key, r.close key⟩]) (r.close key) := by
  have hopened : opened (es ++ [⟨r, .close key, r.close key⟩]) = opened es :=
    filterMap_append_unseen es rfl
  have hclosed : closed (es ++ [⟨r, .close key, r.close key⟩]) = closed es ++ [key] :=
    closed_append es _
  have hbucket := h.bucket key stat hlookup
  have hstatActive := hbucket.active
  have hactive := h.active
  have hle := h.active_le hlookup
  have hstatPos : 0 < stat.active := by
    rw [Int64.lt_iff_toInt_lt, Int64.toInt_zero]
    omega
  have hpos : 0 < r.active := by
    rw [Int64.lt_iff_toInt_lt, Int64.toInt_zero]
    omega
  have hsub := toInt_sub_one (a := r.active) (by omega)
  have hstatSub := toInt_sub_one (a := stat.active) (by omega)
  have hcountKey : (closed es ++ [key]).count key = (closed es).count key + 1 := by
    simp
  have hlength : (closed es ++ [key]).length = (closed es).length + 1 := by
    simp
  have hdests : (r.close key).dests =
      r.dests.insert key { stat with active := stat.active - 1 } := by
    simp only [Recorder.close, onBucket_eq hlookup, if_pos hstatPos]
  apply h.store hdests
  · exact .inl (by rw [hlookup]; rfl)
  · exact .inl rfl
  · exact .inr rfl
  · refine ⟨hbucket.destination, ?_, ?_⟩
    · rw [hopened]
      exact hbucket.requests
    · rw [hopened, hclosed, hcountKey]
      dsimp only
      omega
  · rw [hopened, hclosed, hcountKey]
    omega
  · rw [hopened]
    exact h.requests
  · rw [hopened, hclosed, hlength]
    simp only [Recorder.close, if_pos hpos]
    omega
  · intro c
    rw [statOf_eq hlookup]
    cases c <;> simp only [Counter.total, Counter.part, Recorder.close, if_pos hpos] <;> omega

/-- A call that moves neither opens nor closes, and leaves them alone in the bucket that it changes. -/
theorem Recorded.move (h : Recorded es r) (hlookup : r.dests.lookup key = some stat)
    {stat' : DestStat} (hdests : r'.dests = r.dests.insert key stat')
    (hopenedKey : openedKey e = none) (hclosedKey : closedKey e = none)
    (hdestination : stat'.destination = stat.destination)
    (hstatRequests : stat'.requests = stat.requests) (hstatActive : stat'.active = stat.active)
    (hrequests : r'.requests = r.requests) (hactive : r'.active = r.active)
    (hmoves : ∀ c : Counter, (c.total r').toInt - (c.total r).toInt =
      (c.part stat').toInt - (c.part stat).toInt) : Recorded (es ++ [e]) r' := by
  have hopened : opened (es ++ [e]) = opened es := filterMap_append_unseen es hopenedKey
  have hclosed : closed (es ++ [e]) = closed es := filterMap_append_unseen es hclosedKey
  have hbucket := h.bucket key stat hlookup
  apply h.store hdests
  · exact .inl (by rw [hlookup]; rfl)
  · exact .inl hopenedKey
  · exact .inl hclosedKey
  · refine ⟨hdestination.trans hbucket.destination, ?_, ?_⟩
    · rw [hopened, hstatRequests]
      exact hbucket.requests
    · rw [hopened, hclosed, hstatActive]
      exact hbucket.active
  · rw [hopened, hclosed]
    exact h.closes_le key
  · rw [hopened, hrequests]
    exact h.requests
  · rw [hopened, hclosed, hactive]
    exact h.active
  · intro c
    rw [statOf_eq hlookup]
    exact hmoves c

theorem Recorded.up (h : Recorded es r) (hlookup : r.dests.lookup key = some stat) {n : Int64}
    (hrange : InRange r (.up key n)) : Recorded (es ++ [⟨r, .up key n, r.up key n⟩]) (r.up key n) := by
  have hadd := toInt_add_of_fits hrange.1
  have hstatAdd := toInt_add_of_fits (hrange.2 stat hlookup)
  have hdests : (r.up key n).dests =
      r.dests.insert key { stat with bytesUp := stat.bytesUp + n } := onBucket_eq hlookup _
  apply h.move hlookup hdests rfl rfl rfl rfl rfl rfl rfl
  intro c
  cases c <;> simp only [Counter.total, Counter.part, Recorder.up] <;> omega

theorem Recorded.down (h : Recorded es r) (hlookup : r.dests.lookup key = some stat) {n : Int64}
    (hrange : InRange r (.down key n)) :
    Recorded (es ++ [⟨r, .down key n, r.down key n⟩]) (r.down key n) := by
  have hadd := toInt_add_of_fits hrange.1
  have hstatAdd := toInt_add_of_fits (hrange.2 stat hlookup)
  have hdests : (r.down key n).dests =
      r.dests.insert key { stat with bytesDown := stat.bytesDown + n } := onBucket_eq hlookup _
  apply h.move hlookup hdests rfl rfl rfl rfl rfl rfl rfl
  intro c
  cases c <;> simp only [Counter.total, Counter.part, Recorder.down] <;> omega

end Used

theorem Recorded.dialFailed (h : Recorded es r) :
    Recorded (es ++ [⟨r, .dialFailed, r.dialFailed⟩]) r.dialFailed := by
  have hopened : opened (es ++ [⟨r, .dialFailed, r.dialFailed⟩]) = opened es :=
    filterMap_append_unseen es rfl
  have hclosed : closed (es ++ [⟨r, .dialFailed, r.dialFailed⟩]) = closed es :=
    filterMap_append_unseen es rfl
  refine ⟨fun key stat hstat => ?_, ?_, ?_, ?_, ?_, fun c => ?_, h.room⟩
  · have hbefore := h.bucket key stat hstat
    exact ⟨hbefore.destination, by rw [hopened]; exact hbefore.requests,
      by rw [hopened, hclosed]; exact hbefore.active⟩
  · rw [hopened]
    exact h.tracked
  · rw [hopened, hclosed]
    exact h.closes_le
  · rw [hopened]
    exact h.requests
  · rw [hopened, hclosed]
    exact h.active
  · have hbefore := h.balanced c
    cases c <;> exact hbefore

theorem Recorded.step (h : Recorded es r) {op : RecorderOp} (hstep : r.step op = some r')
    (hdisciplined : Disciplined es ⟨r, op, r'⟩) (hrange : InRange r op) :
    Recorded (es ++ [⟨r, op, r'⟩]) r' := by
  have hused : ∀ key ∈ usedKey ⟨r, op, r'⟩, ∃ stat, r.dests.lookup key = some stat := fun key hkey =>
    Option.isSome_iff_exists.mp (h.tracked key (hdisciplined.uses key hkey))
  cases op with
  | openConn dest =>
      cases hstep
      exact h.openConn dest hrange
  | close key =>
      cases hstep
      obtain ⟨stat, hlookup⟩ := hused key rfl
      exact h.close hlookup (hdisciplined.closes key rfl)
  | up key n =>
      cases hstep
      obtain ⟨stat, hlookup⟩ := hused key rfl
      exact h.up hlookup hrange
  | down key n =>
      cases hstep
      obtain ⟨stat, hlookup⟩ := hused key rfl
      exact h.down hlookup hrange
  | dialFailed =>
      cases hstep
      exact h.dialFailed

end Steps

theorem recorded_new : Recorded [] .new := by
  refine ⟨?_, ?_, fun _ => le_rfl, rfl, rfl, ?_, .inl (Nat.zero_le _)⟩
  · intro key stat hstat
    simp [Recorder.new] at hstat
  · intro key hkey
    cases hkey
  · intro c
    cases c <;> rfl

theorem recorded_of_path (hpath : Path Recorder.step .new es r) (huse : WellUsed es) :
    Recorded es r := by
  apply hpath.history_along Recorded recorded_new
  rintro front r op r' hrecorded hstep ⟨back, rfl⟩
  obtain ⟨hdisciplined, hrange⟩ := huse front.length ⟨r, op, r'⟩ (by simp)
  rw [List.append_assoc, List.take_left] at hdisciplined
  exact hrecorded.step hstep hdisciplined hrange

theorem WellUsed.take (h : WellUsed es) (k : Nat) : WellUsed (es.take k) := by
  intro j e hj
  rw [List.getElem?_take] at hj
  split at hj
  · next hlt =>
      rw [List.take_take, Nat.min_eq_left (Nat.le_of_lt hlt)]
      exact h j e hj
  · cases hj

/-- An `Open` of a destination that has a bucket returns that bucket. -/
theorem Recorded.openedKey_of_tracked {dest : String} (h : Recorded es e.source)
    (hdest : dest ∈ opened es) (haction : e.action = .openConn dest) : openedKey e = some dest := by
  obtain ⟨stat, hlookup⟩ := Option.isSome_iff_exists.mp (h.tracked dest hdest)
  have hbucket : e.source.bucket dest = (dest, e.source.statOf dest) := by
    rw [Recorder.bucket, hlookup, statOf_eq hlookup]
  rw [openedKey, haction]
  dsimp only
  rw [h.openConn_eq hbucket]

theorem HasRoom.size_le (h : HasRoom r) : r.dests.keys.length ≤ maxTrackedDestinations + 1 := by
  have hlength : r.dests.keys.length = r.dests.entries.length := List.length_map _
  rcases h with hle | ⟨heq, -⟩ <;> omega

theorem HasRoom.tracked_le (h : HasRoom r) :
    (r.dests.keys.filter (· ≠ overflowDestination)).length ≤ maxTrackedDestinations := by
  have hlength : r.dests.keys.length = r.dests.entries.length := List.length_map _
  rcases h with hle | ⟨heq, hother⟩
  · have hfilter := List.length_filter_le (· ≠ overflowDestination) r.dests.keys
    omega
  · -- one of the buckets beyond the limit is the overflow bucket
    have hmem : overflowDestination ∈ r.dests.keys := AList.lookup_isSome.mp hother
    have hfilter : (r.dests.keys.filter (· ≠ overflowDestination)).length < r.dests.keys.length :=
      List.length_filter_lt_length_iff_exists.mpr ⟨overflowDestination, hmem, by simp⟩
    omega

theorem Recorded.accounted (h : Recorded es r) :
    Accounted es r where
  totals := h.balanced
  active := h.active
  active_nonneg := by
    have hsum : r.active.toInt = (r.dests.entries.map fun entry => entry.2.active.toInt).sum :=
      h.balanced .active
    rw [hsum]
    exact List.sum_nonneg h.actives_nonneg
  bucket_active := fun key stat hstat =>
    ⟨(h.bucket key stat hstat).active, h.bucket_active_nonneg hstat⟩
  tracked := h.room.tracked_le
  size := h.room.size_le

/-! ## Connections keep the discipline -/

/-- A history and the connections it is one of: each connection was opened under its key, and the
closed ones were closed once each. -/
structure ConnsOf (es : List RecorderEdge) (conns : List CountingConn) : Prop where
  opened : conns.map CountingConn.key = opened es
  closed : ∀ key, (closed es).count key = conns.countP fun c => c.closed && c.key == key

namespace ConnsOf

variable {es : List RecorderEdge} {conns : List CountingConn} {r : Recorder} {i : Nat}
  {c : CountingConn}

theorem count_opened (h : ConnsOf es conns) (key : String) :
    (CellProxy.opened es).count key = conns.countP fun c => c.key == key := by
  rw [← h.opened, List.count_eq_countP, List.countP_map]
  rfl

theorem key_mem (h : ConnsOf es conns) (hc : conns[i]? = some c) : c.key ∈ CellProxy.opened es := by
  rw [← h.opened]
  exact List.mem_map_of_mem (List.mem_of_getElem? hc)

/-- Closing a connection that is open counts one close more, and still no more than opens. -/
theorem countP_closed_set (hc : conns[i]? = some c) (hopen : c.closed = false) (key : String) :
    (conns.set i { c with closed := true }).countP (fun c => c.closed && c.key == key) =
      conns.countP (fun c => c.closed && c.key == key) + if c.key == key then 1 else 0 := by
  have hadd := Threads.countP_set_add (fun c : CountingConn => c.closed && c.key == key)
    { c with closed := true } hc
  simpa [hopen] using hadd

theorem closed_lt_opened (h : ConnsOf es conns) (hc : conns[i]? = some c) (hopen : c.closed = false) :
    (CellProxy.closed es).count c.key < (CellProxy.opened es).count c.key := by
  have hset := countP_closed_set hc hopen c.key
  have hsame : (conns.set i { c with closed := true }).countP (fun c' => c'.key == c.key) =
      conns.countP fun c' => c'.key == c.key := Threads.countP_set_eq hc rfl
  have hle : (conns.set i { c with closed := true }).countP
      (fun c' => c'.closed && c'.key == c.key) ≤
      (conns.set i { c with closed := true }).countP fun c' => c'.key == c.key :=
    List.countP_mono_left fun c' _ hboth => (Bool.and_eq_true_iff.mp hboth).2
  rw [h.closed, h.count_opened]
  simp only [beq_self_eq_true, if_true] at hset
  omega

theorem keys_set (hc : conns[i]? = some c) (closed : Bool) :
    (conns.set i { c with closed }).map CountingConn.key = conns.map CountingConn.key := by
  obtain ⟨hlt, rfl⟩ := List.getElem?_eq_some_iff.mp hc
  rw [List.map_set]
  apply List.ext_getElem?
  intro j
  by_cases hij : i = j
  · subst hij
    simp [hlt]
  · rw [List.getElem?_set_ne hij]

theorem quiet (h : ConnsOf es conns) {op : ConnOp} (hcall : op.call conns = none) :
    ConnsOf es (op.next r conns) := by
  cases op with
  | dial addr connected => cases connected <;> cases hcall
  | read i n => exact h
  | write i n => exact h
  | close i =>
      cases hc : conns[i]? with
      | none =>
          simp only [ConnOp.next, hc]
          exact h
      | some c =>
          have hclosed : c.closed = true := by
            simpa [ConnOp.call, hc] using hcall
          simp only [ConnOp.next, hc]
          refine ⟨(keys_set hc true).trans h.opened, fun key => ?_⟩
          rw [h.closed]
          exact (Threads.countP_set_eq hc (by simp [hclosed])).symm

/-- A call that neither opens nor closes says nothing about the connections. -/
theorem extend (h : ConnsOf es conns) (hopened : openedKey e = none) (hclosed : closedKey e = none) :
    ConnsOf (es ++ [e]) conns := by
  refine ⟨?_, fun key => ?_⟩
  · rw [CellProxy.opened, filterMap_append_unseen es hopened]
    exact h.opened
  · rw [CellProxy.closed, filterMap_append_unseen es hclosed]
    exact h.closed key

/-- An operation that makes a call makes it as it should, and the connections follow. -/
theorem call (h : ConnsOf es conns) {op : ConnOp} {call : RecorderOp}
    (hcall : op.call conns = some call) (r' : Recorder) :
    Disciplined es ⟨r, call, r'⟩ ∧ ConnsOf (es ++ [⟨r, call, r'⟩]) (op.next r conns) := by
  cases op with
  | dial addr connected =>
      cases connected with
      | true =>
          cases hcall
          refine ⟨⟨nofun, nofun⟩, ?_, fun key => ?_⟩
          · rw [opened_append, ← h.opened]
            simp [ConnOp.next, openedKey]
          · rw [closed_append, List.count_append, h.closed]
            simp [ConnOp.next, closedKey]
      | false =>
          cases hcall
          exact ⟨⟨nofun, nofun⟩, h.extend rfl rfl⟩
  | read i n | write i n =>
      obtain ⟨c, hc, hn⟩ := Option.bind_eq_some_iff.mp hcall
      split at hn <;> cases hn
      refine ⟨⟨fun key hkey => ?_, nofun⟩, h.extend rfl rfl⟩
      cases hkey
      exact h.key_mem hc
  | close i =>
      obtain ⟨c, hc, hopen⟩ := Option.bind_eq_some_iff.mp hcall
      split at hopen
      · cases hopen
      · next hclosed =>
          cases hopen
          have hfalse : c.closed = false := by
            simpa using hclosed
          refine ⟨⟨fun key hkey => ?_, fun key hkey => ?_⟩, ?_, fun key => ?_⟩
          · cases hkey
            exact h.key_mem hc
          · cases hkey
            exact h.closed_lt_opened hc hfalse
          · rw [opened_append, ← h.opened]
            simp only [ConnOp.next, hc, keys_set hc true]
            exact (List.append_nil _).symm
          · rw [closed_append, List.count_append, h.closed]
            simp only [ConnOp.next, hc, countP_closed_set hc hfalse]
            simp [closedKey, List.count_singleton]

end ConnsOf

/-- Whatever happens to the connections of a server, their calls keep to the discipline. -/
theorem disciplined_recorderCalls (ops : List ConnOp) (front : List RecorderEdge)
    {conns : List CountingConn} (h : ConnsOf front conns) :
    ∀ j e, (edges Recorder.step r (recorderCalls r conns ops))[j]? = some e →
      Disciplined (front ++ (edges Recorder.step r (recorderCalls r conns ops)).take j) e := by
  induction ops generalizing front r conns with
  | nil =>
      intro j e he
      cases he
  | cons op ops ih =>
      rw [recorderCalls]
      cases hcall : op.call conns with
      | none => exact ih front (h.quiet hcall)
      | some call =>
          obtain ⟨r', hstep⟩ : ∃ r', r.step call = some r' := by
            cases call <;> exact ⟨_, rfl⟩
          obtain ⟨hdisciplined, hnext⟩ := h.call (r := r) hcall r'
          dsimp only
          rw [edges, hstep, Option.getD_some]
          intro j e he
          cases j with
          | zero =>
              cases he
              simpa using hdisciplined
          | succ j =>
              have hlater := ih _ hnext j e he
              rwa [List.append_assoc] at hlater

/-- **The accounts of a recorder.** After every history in which the keys come from `Open`, are closed
at most as often as they were returned, and no counter leaves its range: the totals are the sums over
the buckets, the live connections are the opens less the closes, altogether and by bucket, and never
negative, and the number of buckets is bounded. A destination that an `Open` gave its own bucket gets it
from every later one. -/
theorem recorder_accounts (ops : List RecorderOp) (huse : WellUsed (Recorder.run ops)) :
    Accounted (Recorder.run ops) (final .new (Recorder.run ops)) ∧
      ∀ (j k : Nat) (e f : RecorderEdge) (dest : String), j < k →
        (Recorder.run ops)[j]? = some e → (Recorder.run ops)[k]? = some f →
        openedKey e = some dest → f.action = .openConn dest → openedKey f = some dest := by
  obtain ⟨r, hpath⟩ : ∃ r, Path Recorder.step .new (Recorder.run ops) r :=
    exists_path_edges Recorder.new ops
  constructor
  · rw [← hpath.eq_final]
    exact (recorded_of_path hpath huse).accounted
  · intro j k e f dest hjk he hf hdest haction
    have hbefore := recorded_of_path (hpath.cut hf).1 (huse.take k)
    refine hbefore.openedKey_of_tracked ?_ haction
    exact List.mem_filterMap.mpr ⟨e, List.mem_of_getElem? (List.getElem?_take_of_lt hjk ▸ he), hdest⟩

/-- Two connections, one of which is closed twice. -/
def twoConnections : List ConnOp :=
  [.dial "a.example:443" true, .write 0 100, .dial "b.example:80" false, .read 0 900,
    .dial "b.example:80" true, .close 0, .read 0 0, .close 0]

theorem recorder_accounts_twoConnections :
    let es := Recorder.run (recorderCalls .new [] twoConnections)
    WellUsed es ∧ Accounted es (final .new es) := by
  intro es
  have hrange : (es.all fun e => InRange e.source e.action) = true := by decide +kernel
  have huse : WellUsed es := fun j e he =>
    ⟨disciplined_recorderCalls twoConnections [] ⟨rfl, fun _ => rfl⟩ j e he,
      by simpa using List.all_eq_true.mp hrange e (List.mem_of_getElem? he)⟩
  exact ⟨huse, (recorder_accounts _ huse).1⟩

end Pr0xteus.CellProxy
