import Pr0xteus.Proof.PoolCalls
import Pr0xteus.Proof.Turn

/-!
# What the failure cache remembers

A configuration is set aside for as long as one of its failures is recent. The cache holds one time
for each configuration, is trimmed whenever it is looked at, and is written by the requests and by
the health ticks alike; against the calls made on the pool, it still says which configurations have a
recent failure.
-/

namespace Pr0xteus

open GoTime Transition

section Pool

variable {spec : PoolSpec} {ttl : Duration} {ops : List PoolOp} {now : Int} {conf : String}

/-- The time that a call compares with those in the cache, or records there. -/
def PoolOp.cacheClock : PoolOp → Option Int
  | .markFailed _ now | .pickConf now _ _ | .recentlyFailedCount now => some now
  | _ => none

/-- Among these calls is a record of a failure that is recent now, by the clock's own difference. -/
def RecentlyFailed (ttl : Duration) (ops : List PoolOp) (now : Int) (conf : String) : Prop :=
  ∃ failedAt, .markFailed conf failedAt ∈ ops ∧ sub now failedAt ≤ ttl

theorem PoolOp.cacheClock_eq (op : PoolOp) :
    op.cacheClock = op.cacheEvent.map ExpiringCache.Event.clock := by
  cases op <;> rfl

theorem PoolOp.mem_cacheEvents_iff {failedAt : Int} :
    .record conf failedAt ∈ ops.filterMap PoolOp.cacheEvent ↔ .markFailed conf failedAt ∈ ops := by
  rw [List.mem_filterMap]
  constructor
  · rintro ⟨op, hop, hevent⟩
    cases op with
    | markFailed conf' now' =>
        cases hevent
        exact hop
    | _ => cases hevent
  · exact fun hmem => ⟨_, hmem, rfl⟩

/-- The cache is the replay of what the calls are to it. -/
theorem PoolState.failed_after : (PoolState.after ttl spec ops).failed =
    ExpiringCache.replay (isExpired ttl) (ops.filterMap PoolOp.cacheEvent) := by
  induction ops using List.reverseRecOn with
  | nil => rfl
  | append_singleton ops op ih =>
      rw [after, List.foldl_append, List.filterMap_append, ExpiringCache.replay, List.foldl_append]
      change (op.apply ttl (after ttl spec ops)).failed = _
      rw [PoolOp.failed_apply, ih]
      cases hop : op.cacheEvent <;> simp [hop, ExpiringCache.replay]

theorem PoolState.spec_after : (PoolState.after ttl spec ops).spec = spec := by
  induction ops using List.reverseRecOn with
  | nil => rfl
  | append_singleton ops op ih =>
      rw [after, List.foldl_append]
      exact (PoolOp.spec_apply ttl op _).trans ih

/-- A trimmed cache has the configurations with a recent failure. -/
theorem isSome_lookup_cleanFailedLocked_iff
    (hclock : (ops.filterMap PoolOp.cacheClock ++ [now]).Pairwise (· ≤ ·)) :
    (((PoolState.after ttl spec ops).cleanFailedLocked now ttl).failed.lookup conf).isSome = true ↔
      RecentlyFailed ttl ops now conf := by
  have hclocks : (ops.filterMap PoolOp.cacheEvent).map ExpiringCache.Event.clock =
      ops.filterMap PoolOp.cacheClock := by
    rw [List.map_filterMap]
    exact List.filterMap_congr fun op _ => op.cacheClock_eq.symm
  rw [← hclocks] at hclock
  change ((ExpiringCache.trim (isExpired ttl) now
    (PoolState.after ttl spec ops).failed).lookup conf).isSome = true ↔ _
  rw [PoolState.failed_after, ExpiringCache.isSome_lookup_trim_iff (expiry_isExpired ttl) hclock]
  simp only [RecentlyFailed, PoolOp.mem_cacheEvents_iff, isExpired, decide_eq_false_iff_not,
    Int64.not_lt]

/-- **What `pickConf` can return.** After any calls on a pool, at times that do not go back: a
configuration that is returned is one of the pool's, is not excluded and has no recent failure; none
is returned exactly where every one is excluded or has a recent failure; and what is recent stays in
the cache, whichever call trims it. -/
theorem pickConf_after (spec : PoolSpec) (ttl : Duration) (ops : List PoolOp) (now : Int)
    (exclude : List String) (draw : Nat)
    (hclock : (ops.filterMap PoolOp.cacheClock ++ [now]).Pairwise (· ≤ ·)) :
    (∀ conf, ((PoolState.after ttl spec ops).pickConf now exclude ttl draw).1 = .ok conf →
      conf ∈ spec.configs ∧ conf ∉ exclude ∧ ¬ RecentlyFailed ttl ops now conf) ∧
    ((∃ err, ((PoolState.after ttl spec ops).pickConf now exclude ttl draw).1 = .error err ∧
        err.err = .poolExhausted) ↔
      ∀ conf ∈ spec.configs, conf ∈ exclude ∨ RecentlyFailed ttl ops now conf) ∧
    ∀ conf, RecentlyFailed ttl ops now conf →
      (((PoolState.after ttl spec ops).pickConf now exclude ttl draw).2.failed.lookup conf).isSome ∧
      (((PoolState.after ttl spec ops).recentlyFailedCount now ttl).2.failed.lookup conf).isSome := by
  have hrecent : ∀ conf,
      (((PoolState.after ttl spec ops).cleanFailedLocked now ttl).failed.lookup conf).isSome = true ↔
        RecentlyFailed ttl ops now conf :=
    fun conf => isSome_lookup_cleanFailedLocked_iff hclock
  have hcandidates : ∀ conf,
      conf ∈ ((PoolState.after ttl spec ops).cleanFailedLocked now ttl).candidates exclude ↔
        conf ∈ spec.configs ∧ ¬ RecentlyFailed ttl ops now conf ∧ conf ∉ exclude := by
    intro conf
    rw [PoolState.mem_candidates_iff, ← hrecent, Option.not_isSome_iff_eq_none]
    change conf ∈ (PoolState.after ttl spec ops).spec.configs ∧ _ ↔ _
    rw [PoolState.spec_after]
  refine ⟨?_, ⟨?_, ?_⟩, ?_⟩
  · intro conf hpick
    obtain ⟨hconf, hfresh, hallowed⟩ :=
      (hcandidates conf).mp (PoolState.mem_candidates_of_pickConf _ hpick)
    exact ⟨hconf, hallowed, hfresh⟩
  · rintro ⟨err, herr, -⟩ conf hconf
    by_contra hnone
    have hmem := (hcandidates conf).mpr ⟨hconf, fun h => hnone (.inr h), fun h => hnone (.inl h)⟩
    rw [(PoolState.err_of_pickConf _ herr).2] at hmem
    cases hmem
  · intro hall
    cases hpick : ((PoolState.after ttl spec ops).pickConf now exclude ttl draw).1 with
    | error err => exact ⟨err, rfl, (PoolState.err_of_pickConf _ hpick).1⟩
    | ok conf =>
        obtain ⟨hconf, hfresh, hallowed⟩ :=
          (hcandidates conf).mp (PoolState.mem_candidates_of_pickConf _ hpick)
        exact absurd (hall conf hconf) (not_or.mpr ⟨hallowed, hfresh⟩)
  · intro conf hconf
    have hkept := (hrecent conf).mpr hconf
    rw [PoolState.pickConf_snd]
    exact ⟨hkept, hkept⟩

end Pool

def twoConfs : PoolSpec := ⟨"eu", ["wg-a", "wg-b"], ""⟩

/-- At the last instant of the failure that was recorded second, the first one having been trimmed,
the configuration is still set aside. -/
theorem pickConf_after_reRecorded :
    let ops : List PoolOp := [.markFailed "wg-a" 10, .pickConf 16 [] 0, .markFailed "wg-a" 17,
      .recentlyFailedCount 20]
    (ops.filterMap PoolOp.cacheClock ++ [22]).Pairwise (· ≤ ·) ∧
      (∃ err, ((PoolState.after 5 twoConfs ops).pickConf 22 ["wg-b"] 5 0).1 = .error err ∧
        err.err = .poolExhausted) := by
  intro ops
  have hclock : (ops.filterMap PoolOp.cacheClock ++ [22]).Pairwise (· ≤ ·) := by decide
  refine ⟨hclock, (pickConf_after twoConfs 5 ops 22 ["wg-b"] 0 hclock).2.1.mpr ?_⟩
  intro conf hconf
  rcases List.mem_pair.mp hconf with rfl | rfl
  · exact .inr ⟨17, by simp [ops], by decide⟩
  · exact .inl (by simp)

/-! ## The pools of the controller -/

section Run

variable {m : Setup}

/-- The calls on a pool that an edge is. -/
def poolOps (name : String) (e : Edge State Action) : List PoolOp :=
  match e.action with
  | .step _ answer => (actor e).elim [] fun pc => pc.call.opsOn name e.source.shared.now answer
  | _ => []

/-- **A pool is what the calls on it have made of it**, in every run of the controller. -/
theorem pools_of_path {es : List (Edge State Action)} {s : State}
    (hpath : Path (step m) (init m) es s) (name : String) :
    s.shared.pools name = (m.spec name).map fun spec =>
      PoolState.after m.cfg.failureCacheTTL spec (es.flatMap (poolOps name)) := by
  refine hpath.history (fun es s => s.shared.pools name = (m.spec name).map fun spec =>
    PoolState.after m.cfg.failureCacheTTL spec (es.flatMap (poolOps name))) rfl ?_
  intro fs u a v hu hstep _
  rw [List.flatMap_append]
  cases step_cases hstep with
  | tick d => simpa [poolOps] using hu
  | start entry hvisits => simpa [poolOps] using hu
  | turn i answer pc shared ret hpc hexec =>
      rw [pools_exec hexec, hu, Option.map_map]
      simp [poolOps, actor, hpc, PoolState.after, Function.comp_def]

end Run

end Pr0xteus
