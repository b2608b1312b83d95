import Pr0xteus.Proof.Traffic

/-!
# The ranking of a snapshot

A snapshot copies the buckets in the order of the map, sorts them by their volume and keeps the first
of them. Each bucket carries the destination that it is stored under, so the ranking names every
destination once, and what it leaves out comes after what it lists.
-/

namespace Pr0xteus.CellProxy

open Transition

/-! ## The keys of the buckets -/

section Keyed

variable {r : Recorder} {key : String} {stat : DestStat}

/-- Every bucket has the destination that it is stored under. -/
def Keyed (r : Recorder) : Prop :=
  ∀ key stat, r.dests.lookup key = some stat → stat.destination = key

theorem keyed_insert {r' : Recorder} (h : Keyed r) (hdests : r'.dests = r.dests.insert key stat)
    (hstat : stat.destination = key) : Keyed r' := by
  intro key' stat' hlookup
  rw [hdests] at hlookup
  by_cases hkey : key' = key
  · subst hkey
    rw [AList.lookup_insert] at hlookup
    cases hlookup
    exact hstat
  · rw [AList.lookup_insert_ne hkey] at hlookup
    exact h key' stat' hlookup

theorem destination_bucket (h : Keyed r) (dest : String) :
    (r.bucket dest).2.destination = (r.bucket dest).1 := by
  unfold Recorder.bucket
  split
  · next stat hlookup => exact h dest stat hlookup
  · split
    · split
      · next stat hlookup => exact h _ stat hlookup
      · rfl
    · rfl

theorem keyed_onBucket {r' : Recorder} (h : Keyed r) {f : DestStat → DestStat}
    (hdests : r'.dests = r.onBucket key f)
    (hf : ∀ stat, (f stat).destination = stat.destination) : Keyed r' := by
  unfold Recorder.onBucket at hdests
  split at hdests
  · intro key' stat' hlookup
    rw [hdests] at hlookup
    exact h key' stat' hlookup
  · next stat hlookup =>
      exact keyed_insert h hdests ((hf stat).trans (h key stat hlookup))

theorem keyed_step {op : RecorderOp} {r' : Recorder} (h : Keyed r) (hstep : r.step op = some r') :
    Keyed r' := by
  cases op with
  | openConn dest =>
      cases hstep
      exact keyed_insert h rfl (destination_bucket h dest)
  | close key =>
      cases hstep
      refine keyed_onBucket h rfl fun stat => ?_
      split <;> rfl
  | up | down =>
      cases hstep
      exact keyed_onBucket h rfl fun _ => rfl
  | dialFailed =>
      cases hstep
      exact h

theorem keyed_final (ops : List RecorderOp) : Keyed (final .new (Recorder.run ops)) := by
  refine invariant_final Keyed ?_ fun e _ h hstep => keyed_step h hstep
  intro key stat hlookup
  cases hlookup

theorem mem_buckets_iff {r : RankedRecorder} (h : Keyed r.recorder) :
    stat ∈ r.buckets ↔ r.recorder.dests.lookup stat.destination = some stat := by
  rw [RankedRecorder.buckets, List.mem_map]
  constructor
  · rintro ⟨⟨key, stat⟩, hmem, rfl⟩
    have hlookup := AList.mem_lookup_iff.mpr hmem
    rw [h key stat hlookup]
    exact hlookup
  · intro hlookup
    exact ⟨⟨stat.destination, stat⟩, AList.mem_lookup_iff.mp hlookup, rfl⟩

theorem destinations_buckets {r : RankedRecorder} (h : Keyed r.recorder) :
    r.buckets.map DestStat.destination = r.recorder.dests.keys := by
  rw [RankedRecorder.buckets, List.map_map]
  refine List.map_congr_left fun entry hmem => ?_
  exact h entry.1 entry.2 (AList.mem_lookup_iff.mpr hmem)

end Keyed

/-! ## The ranking -/

/-- The bytes of a bucket, in both directions. -/
def volume (stat : DestStat) : Int := stat.bytesUp.toInt + stat.bytesDown.toInt

/-- The number of destinations that a recorder ranks which was made with this `topN`. -/
def rankLimit (topN : Int64) : Nat :=
  if topN ≤ 0 then maxTrackedDestinations else topN.toInt.toNat

theorem topN_newRecorder (topN : Int64) : (newRecorder topN).topN.toInt = rankLimit topN := by
  unfold newRecorder rankLimit
  by_cases htop : topN ≤ 0
  · simp only [htop, if_true]
    decide
  · have hpos : 0 < topN.toInt := by
      have := Int64.not_le.mp htop
      exact Int64.lt_iff_toInt_lt.mp this
    simp only [htop, if_false]
    omega

theorem less_eq_false_iff {a b : DestStat} (ha : Fits (volume a)) (hb : Fits (volume b)) :
    RankedRecorder.less a b = false ↔ volume a ≤ volume b := by
  rw [RankedRecorder.less, decide_eq_false_iff_not, gt_iff_lt, Int64.lt_iff_toInt_lt,
    toInt_add_of_fits ha, toInt_add_of_fits hb, not_lt]
  rfl

section Ranking

variable (sort : SortSlice DestStat) (ranged : List DestStat)

theorem perm_sort : (sort.sort RankedRecorder.less ranged).Perm ranged := sort.perm _ _

theorem pairwise_sort :
    (sort.sort RankedRecorder.less ranged).Pairwise fun a b => RankedRecorder.less b a = false := by
  refine sort.sorted _ _ (fun a b h => ?_) fun a b c hab hbc => ?_
  · simp only [RankedRecorder.less, gt_iff_lt, decide_eq_true_eq, decide_eq_false_iff_not,
      Int64.not_lt] at h ⊢
    exact Int64.le_of_lt h
  · simp only [RankedRecorder.less, gt_iff_lt, decide_eq_false_iff_not, Int64.not_lt] at hab hbc ⊢
    exact Int64.le_trans hab hbc

/-- The destinations are the first ones of the sorted list. -/
theorem destinations_snapshot (topN : Int64) (ops : List RecorderOp) :
    ((RankedRecorder.after topN ops).snapshot sort ranged).destinations =
      (sort.sort RankedRecorder.less ranged).take (rankLimit topN) := by
  have htop : (RankedRecorder.after topN ops).topN.toInt = rankLimit topN := topN_newRecorder topN
  unfold RankedRecorder.snapshot
  rw [htop, Int.toNat_natCast]
  dsimp only
  split
  · rfl
  · next hlong =>
      rw [List.take_of_length_le]
      omega

end Ranking

/-- What a ranking of a recorder's buckets has to be. -/
structure Ranks (r : Recorder) (limit : Nat) (list : List DestStat) : Prop where
  distinct : (list.map DestStat.destination).Nodup
  length : list.length = min limit r.dests.keys.length
  ordered : list.Pairwise fun a b => volume b ≤ volume a
  heaviest : ∀ key stat, r.dests.lookup key = some stat → key ∉ list.map DestStat.destination →
    ∀ listed ∈ list, volume stat ≤ volume listed
  current : ∀ stat ∈ list, r.dests.lookup stat.destination = some stat

/-- **The ranking of a snapshot**, after any history of calls whose volumes fit an `int64`: for every
order of the map and every way to sort, it is made of the buckets with the highest volumes. -/
theorem snapshot_ranks (topN : Int64) (ops : List RecorderOp) (sort : SortSlice DestStat)
    (ranged : List DestStat) (hranged : ranged.Perm (RankedRecorder.after topN ops).buckets)
    (hfits : ∀ stat ∈ (RankedRecorder.after topN ops).buckets, Fits (volume stat)) :
    Ranks (RankedRecorder.after topN ops).recorder (rankLimit topN)
      ((RankedRecorder.after topN ops).snapshot sort ranged).destinations := by
  rw [destinations_snapshot]
  have hkeyed : Keyed (RankedRecorder.after topN ops).recorder := keyed_final ops
  generalize RankedRecorder.after topN ops = r at *
  have hperm : (sort.sort RankedRecorder.less ranged).Perm r.buckets :=
    (perm_sort sort ranged).trans hranged
  have hsorted : (sort.sort RankedRecorder.less ranged).Pairwise fun a b => volume b ≤ volume a :=
    (pairwise_sort sort ranged).imp_of_mem fun ha hb h =>
      (less_eq_false_iff (hfits _ (hperm.mem_iff.mp hb)) (hfits _ (hperm.mem_iff.mp ha))).mp h
  generalize sort.sort RankedRecorder.less ranged = list at hperm hsorted
  have hkeys : (list.map DestStat.destination).Perm r.recorder.dests.keys := by
    rw [← destinations_buckets hkeyed]
    exact hperm.map _
  have hnodup : (list.map DestStat.destination).Nodup :=
    hkeys.nodup_iff.mpr r.recorder.dests.keys_nodup
  constructor
  · exact hnodup.sublist ((List.take_sublist _ _).map _)
  · rw [List.length_take, ← hkeys.length_eq, List.length_map]
  · exact hsorted.sublist (List.take_sublist _ _)
  · intro key stat hlookup hout listed hlisted
    obtain rfl := hkeyed key stat hlookup
    have hmem : stat ∈ list := hperm.mem_iff.mpr ((mem_buckets_iff hkeyed).mpr hlookup)
    rw [← List.take_append_drop (rankLimit topN) list] at hmem hsorted
    rcases List.mem_append.mp hmem with hin | hdrop
    · exact absurd (List.mem_map_of_mem hin) hout
    · exact (List.pairwise_append.mp hsorted).2.2 listed hlisted stat hdrop
  · intro stat hstat
    exact (mem_buckets_iff hkeyed).mp (hperm.mem_iff.mp (List.mem_of_mem_take hstat))

/-- A sort that keeps the order of equal elements. -/
def stableSort : SortSlice DestStat where
  sort less l := l.mergeSort fun a b => !less b a
  perm less l := List.mergeSort_perm l _
  sorted less l hasymm htrans := by
    refine (List.pairwise_mergeSort (fun a b c hab hbc => ?_) (fun a b => ?_) l).imp fun h => ?_
    · simp only [Bool.not_eq_true'] at hab hbc ⊢
      exact htrans c b a hbc hab
    · cases hab : less b a with
      | false => simp
      | true => simp [hasymm b a hab]
    · simpa using h

def busyAndIdle : List RecorderOp :=
  [.openConn "a.example:443", .openConn "b.example:443", .up "a.example:443" 5,
    .down "b.example:443" 9]

theorem snapshot_ranks_busyAndIdle :
    (RankedRecorder.after 1 busyAndIdle).buckets.length = 2 ∧
      Ranks (RankedRecorder.after 1 busyAndIdle).recorder (rankLimit 1)
        ((RankedRecorder.after 1 busyAndIdle).snapshot stableSort
          (RankedRecorder.after 1 busyAndIdle).buckets).destinations := by
  have hfits : (RankedRecorder.after 1 busyAndIdle).buckets.all
      (fun stat => decide (Fits (volume stat))) = true := by
    decide +kernel
  refine ⟨by decide +kernel, snapshot_ranks 1 busyAndIdle stableSort _ (.refl _) fun stat hmem => ?_⟩
  exact of_decide_eq_true (List.all_eq_true.mp hfits stat hmem)

end Pr0xteus.CellProxy
