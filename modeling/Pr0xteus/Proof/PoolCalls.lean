import Pr0xteus.Lib.ExpiringCache
import Pr0xteus.Proof.Slots

/-!
# The calls on one pool

A pool changes by the calls that are made on it and by nothing else: `Call.opsOn` are the calls of an
access, and `pools_exec` says that they are all it does to the pools. To the failure cache a call is
a record, a trim, or nothing.
-/

namespace Pr0xteus

open GoTime

/-! ## The failure cache under a call -/

/-- A failure of `failedAt` is no longer looked at. -/
def isExpired (ttl : Duration) (now failedAt : Int) : Bool := decide (ttl < sub now failedAt)

theorem expiry_isExpired (ttl : Duration) : ExpiringCache.Expiry (isExpired ttl) where
  later := by
    intro now now' failedAt hle hexpired
    simp only [isExpired, decide_eq_true_eq, Int64.lt_iff_toInt_lt, toInt_sub] at hexpired ⊢
    omega
  older := by
    intro now failedAt failedAt' hle hexpired
    simp only [isExpired, decide_eq_true_eq, Int64.lt_iff_toInt_lt, toInt_sub] at hexpired ⊢
    omega

namespace PoolOp

def cacheEvent : PoolOp → Option (ExpiringCache.Event String Int)
  | .markFailed conf now => some (.record conf now)
  | .pickConf now _ _ | .recentlyFailedCount now => some (.trim now)
  | _ => none

variable {ttl : Duration} {op : PoolOp} {p : PoolState}

/-- The other calls set the slot and no more. -/
theorem apply_eq_setTunnel (ttl : Duration) (p : PoolState) (hop : op.cacheEvent = none) :
    ∃ t, op.apply ttl p = p.setTunnel t := by
  cases op with
  | markFailed conf now | pickConf now exclude draw | recentlyFailedCount now => cases hop
  | setTunnel t => exact ⟨t, rfl⟩
  | acquire excludeProxy now =>
      simp only [apply, PoolState.acquire]
      split
      · exact ⟨_, rfl⟩
      split
      · exact ⟨_, rfl⟩
      split <;> exact ⟨_, rfl⟩
  | release =>
      simp only [apply, PoolState.release]
      split
      · exact ⟨_, rfl⟩
      split <;> exact ⟨_, rfl⟩
  | acquireContainer containerID now =>
      simp only [apply, PoolState.acquireContainer]
      split
      · exact ⟨_, rfl⟩
      split <;> exact ⟨_, rfl⟩
  | setLastURL containerID value expiresAt | markReaping containerID
  | confirmHealthy containerID now =>
      simp only [apply, PoolState.setLastURL, PoolState.markReaping, PoolState.confirmHealthy,
        PoolState.updateContainer]
      split
      · exact ⟨_, rfl⟩
      split <;> exact ⟨_, rfl⟩
  | markUnhealthy confName =>
      simp only [apply, PoolState.markUnhealthy]
      split
      · exact ⟨_, rfl⟩
      split <;> exact ⟨_, rfl⟩

theorem failed_apply (ttl : Duration) (op : PoolOp) (p : PoolState) :
    (op.apply ttl p).failed = op.cacheEvent.elim p.failed
      (ExpiringCache.apply (isExpired ttl) p.failed) := by
  cases hop : op.cacheEvent with
  | none =>
      obtain ⟨t, ht⟩ := apply_eq_setTunnel ttl p hop
      rw [ht]
      rfl
  | some e =>
      cases op with
      | markFailed conf now =>
          cases hop
          rfl
      | pickConf now exclude draw =>
          cases hop
          rw [apply, p.pickConf_snd]
          rfl
      | recentlyFailedCount now =>
          cases hop
          rfl
      | _ => cases hop

theorem spec_apply (ttl : Duration) (op : PoolOp) (p : PoolState) :
    (op.apply ttl p).spec = p.spec := by
  cases hop : op.cacheEvent with
  | none =>
      obtain ⟨t, ht⟩ := apply_eq_setTunnel ttl p hop
      rw [ht]
      rfl
  | some e =>
      cases op with
      | markFailed conf now => rfl
      | pickConf now exclude draw =>
          rw [apply, p.pickConf_snd]
          rfl
      | recentlyFailedCount now => rfl
      | _ => cases hop

/-- An entry of the cache was there before, or the call is the one that records it. -/
theorem lookup_failed_apply {conf : String} {failedAt : Int}
    (h : (op.apply ttl p).failed.lookup conf = some failedAt) :
    p.failed.lookup conf = some failedAt ∨ op = .markFailed conf failedAt := by
  rw [failed_apply] at h
  cases hop : op.cacheEvent with
  | none =>
      rw [hop] at h
      exact .inl h
  | some e =>
      rw [hop] at h
      cases e with
      | record conf' now =>
          have hmark : op = .markFailed conf' now := by
            cases op with
            | markFailed conf'' now' =>
                cases hop
                rfl
            | _ => cases hop
          by_cases hconf : conf = conf'
          · subst hconf
            rw [Option.elim, ExpiringCache.apply, AList.lookup_insert] at h
            cases h
            exact .inr hmark
          · rw [Option.elim, ExpiringCache.apply, AList.lookup_insert_ne hconf] at h
            exact .inl h
      | trim now =>
          rw [Option.elim, ExpiringCache.apply, ExpiringCache.lookup_trim,
            Option.filter_eq_some_iff] at h
          exact .inl h.1

end PoolOp

/-! ## The calls of an access -/

/-- The call on a pool that an access is, with the name of the pool. -/
def Call.poolOp (now : Int) (answer : Answer) : Call → Option (String × PoolOp)
  | .acquire pool excludeProxy => some (pool, .acquire excludeProxy now)
  | .acquireContainer pool containerID => some (pool, .acquireContainer containerID now)
  | .release pool => some (pool, .release)
  | .setTunnel pool t => some (pool, .setTunnel t)
  | .pickConf pool now exclude =>
      match answer with
      | .draw n => some (pool, .pickConf now exclude n)
      | _ => none
  | .markFailed pool conf now => some (pool, .markFailed conf now)
  | .setLastURL pool containerID value expiresAt =>
      some (pool, .setLastURL containerID value expiresAt)
  | .markReaping pool containerID => some (pool, .markReaping containerID)
  | .confirmHealthy pool containerID => some (pool, .confirmHealthy containerID now)
  | .markUnhealthy pool confName => some (pool, .markUnhealthy confName)
  | _ => none

def Call.opsOn (name : String) (now : Int) (answer : Answer) (c : Call) : List PoolOp :=
  match c.poolOp now answer with
  | some (pool, op) => if pool = name then [op] else []
  | none => []

section Exec

variable {m : Setup} {s s' : Shared} {answer : Answer}

theorem Shared.pools_onPool {α : Type} (s : Shared) (pool : String) (missing : α)
    (f : PoolState → α × PoolState) (name : String) :
    (s.onPool pool missing f).1.pools name =
      (s.pools name).map fun p => if pool = name then (f p).2 else p := by
  unfold onPool
  by_cases hname : pool = name
  · subst hname
    cases hpool : s.pools pool <;> simp [hpool]
  · cases hpool : s.pools pool <;> simp [hname, Function.update_of_ne (Ne.symm hname)]

theorem pools_of_poolOp {c : Call} {ret : c.Ret} {pool : String} {op : PoolOp}
    (hexec : exec m s c answer = some (s', ret)) (hop : c.poolOp s.now answer = some (pool, op))
    (name : String) :
    s'.pools name = (s.pools name).map fun p =>
      if pool = name then op.apply m.cfg.failureCacheTTL p else p := by
  cases c with
  | pickConf pool now exclude =>
      cases answer with
      | draw n =>
          cases hop
          obtain rfl := congrArg Prod.fst (Option.some.inj hexec)
          exact s.pools_onPool pool _ _ name
      | _ => cases hop
  | acquire pool excludeProxy | acquireContainer pool containerID | release pool
  | setTunnel pool t | markFailed pool conf now | setLastURL pool containerID value expiresAt
  | markReaping pool containerID | confirmHealthy pool containerID | markUnhealthy pool confName =>
      cases hop
      obtain rfl := congrArg Prod.fst (Option.some.inj hexec)
      exact s.pools_onPool pool _ _ name
  | _ => cases hop

theorem pools_of_not_poolOp {c : Call} {ret : c.Ret} (hexec : exec m s c answer = some (s', ret))
    (hop : c.poolOp s.now answer = none) : s'.pools = s.pools := by
  cases c with
  | acquire pool excludeProxy | acquireContainer pool containerID | release pool
  | setTunnel pool t | markFailed pool conf now | setLastURL pool containerID value expiresAt
  | markReaping pool containerID | confirmHealthy pool containerID | markUnhealthy pool confName =>
      cases hop
  | pickConf pool now exclude =>
      cases answer with
      | draw n => cases hop
      | _ => cases hexec
  | poolMutexFor pool =>
      obtain rfl := congrArg Prod.fst (Option.some.inj hexec)
      exact s.pools_poolMutexFor pool
  | _ =>
      cases answer <;> simp only [exec] at hexec <;> (try split at hexec) <;> cases hexec <;> rfl

/-- **What an access does to a pool** are the calls that it makes on it. -/
theorem pools_exec {c : Call} {ret : c.Ret} (hexec : exec m s c answer = some (s', ret))
    (name : String) :
    s'.pools name = (s.pools name).map fun p =>
      (c.opsOn name s.now answer).foldl (PoolOp.apply m.cfg.failureCacheTTL) p := by
  unfold Call.opsOn
  cases hop : c.poolOp s.now answer with
  | none =>
      rw [pools_of_not_poolOp hexec hop]
      exact Option.map_id'.symm
  | some target =>
      obtain ⟨pool, op⟩ := target
      rw [pools_of_poolOp hexec hop]
      by_cases hname : pool = name <;> simp [hname]

end Exec

end Pr0xteus
