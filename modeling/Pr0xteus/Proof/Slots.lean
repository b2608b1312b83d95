import Pr0xteus.Shared

/-!
# What an access does to the slots

Every access but `setTunnel` keeps the container in each slot: it maps the tunnel there to one with
the same identity. `Call.revise` is that map, and `slot_exec` says so for every access.
-/

namespace Pr0xteus

open Encoding GoTime

variable {c : Call} {exclude : List String} {pool : String} {ret : c.Ret}

/-- The tunnel with one request fewer in flight, never below zero. -/
def Tunnel.released (t : Tunnel) : Tunnel :=
  if t.inFlight ≤ 0 then t else { t with inFlight := t.inFlight - 1 }

/-- What an access does to the tunnel in the slot of `pool`. -/
def Call.revise (now : Int) (pool : String) (t : Tunnel) : Call → Tunnel
  | .acquire target excludeProxy =>
      if pool = target ∧ t.state = .hot ∧ ¬t.isExcluded excludeProxy then t.use now else t
  | .acquireContainer target containerID =>
      if pool = target ∧ t.state = .hot ∧ t.containerID = containerID then t.use now else t
  | .release target => if pool = target then t.released else t
  | .setLastURL target containerID value expiresAt =>
      if pool = target ∧ t.containerID = containerID then
        { t with lastURL := value, lastURLExpiresAt := expiresAt }
      else t
  | .markReaping target containerID =>
      if pool = target ∧ t.containerID = containerID then { t with state := .reaping } else t
  | .confirmHealthy target containerID =>
      if pool = target ∧ t.containerID = containerID then { t with healthyAt := now } else t
  | .markUnhealthy target confName =>
      if pool = target ∧ t.confName = confName then { t with state := .unhealthy } else t
  | _ => t

namespace PoolState

variable (p : PoolState)

theorem tunnel_acquire (excludeProxy : Option URL) (now : Int) :
    (p.acquire excludeProxy now).2.tunnel =
      p.tunnel.map fun t =>
        if t.state = .hot ∧ ¬t.isExcluded excludeProxy then t.use now else t := by
  unfold acquire
  cases htunnel : p.tunnel with
  | none => simp [htunnel]
  | some t =>
      by_cases hhot : t.state = .hot <;> by_cases hexcluded : t.isExcluded excludeProxy = true <;>
        simp [hhot, hexcluded, htunnel, setTunnel]

theorem tunnel_acquireContainer (containerID : String) (now : Int) :
    (p.acquireContainer containerID now).2.tunnel =
      p.tunnel.map fun t =>
        if t.state = .hot ∧ t.containerID = containerID then t.use now else t := by
  unfold acquireContainer
  cases htunnel : p.tunnel with
  | none => simp [htunnel]
  | some t =>
      by_cases hhot : t.state = .hot <;> by_cases hid : t.containerID = containerID <;>
        simp [hhot, hid, htunnel, setTunnel]

theorem tunnel_release : p.release.tunnel = p.tunnel.map Tunnel.released := by
  unfold release
  cases htunnel : p.tunnel with
  | none => simp [htunnel]
  | some t =>
      by_cases hpos : t.inFlight ≤ 0 <;> simp [hpos, htunnel, setTunnel, Tunnel.released]

theorem tunnel_updateContainer (containerID : String) (f : Tunnel → Tunnel) :
    (p.updateContainer containerID f).tunnel =
      p.tunnel.map fun t => if t.containerID = containerID then f t else t := by
  unfold updateContainer
  cases htunnel : p.tunnel with
  | none => simp [htunnel]
  | some t => by_cases hid : t.containerID = containerID <;> simp [hid, htunnel, setTunnel]

theorem tunnel_markUnhealthy (confName : String) :
    (p.markUnhealthy confName).tunnel =
      p.tunnel.map fun t => if t.confName = confName then { t with state := .unhealthy } else t := by
  unfold markUnhealthy
  cases htunnel : p.tunnel with
  | none => simp [htunnel]
  | some t => by_cases hconf : t.confName = confName <;> simp [hconf, htunnel, setTunnel]

/-- Picking a configuration leaves a trimmed cache behind and no more. -/
theorem pickConf_snd (now : Int) (exclude : List String) (ttl : Duration) (draw : Nat) :
    (p.pickConf now exclude ttl draw).2 = p.cleanFailedLocked now ttl := by
  unfold pickConf
  dsimp only
  split <;> rfl

theorem mem_candidates_iff {conf : String} :
    conf ∈ p.candidates exclude ↔
      conf ∈ p.spec.configs ∧ p.failed.lookup conf = none ∧ conf ∉ exclude := by
  simp [candidates]

theorem mem_candidates_of_pickConf {now : Int} {ttl : Duration} {draw : Nat} {conf : String}
    (h : (p.pickConf now exclude ttl draw).1 = .ok conf) :
    conf ∈ (p.cleanFailedLocked now ttl).candidates exclude := by
  unfold pickConf at h
  dsimp only at h
  split at h
  · cases h
  · next first rest hcandidates =>
      cases h
      have hlt : draw % (rest.length + 1) < (first :: rest).length :=
        Nat.mod_lt _ (Nat.succ_pos _)
      rw [hcandidates, List.getD_eq_getElem?_getD, List.getElem?_eq_getElem hlt]
      exact List.getElem_mem hlt

theorem err_of_pickConf {now : Int} {ttl : Duration} {draw : Nat} {err : CtxError}
    (h : (p.pickConf now exclude ttl draw).1 = .error err) :
    err.err = .poolExhausted ∧ (p.cleanFailedLocked now ttl).candidates exclude = [] := by
  simp only [pickConf] at h
  split at h
  · next hcandidates =>
      cases h
      exact ⟨rfl, hcandidates⟩
  · cases h

theorem tunnel_pickConf (now : Int) (exclude : List String) (ttl : Duration) (draw : Nat) :
    (p.pickConf now exclude ttl draw).2.tunnel = p.tunnel := by
  rw [pickConf_snd]
  rfl

end PoolState

namespace Shared

variable (s : Shared)

section OnPool

variable {α : Type} (pool : String) (missing : α) (f : PoolState → α × PoolState)

theorem slot_onPool (q : String) :
    (s.onPool pool missing f).1.slot q =
      if q = pool then (s.pools pool).bind fun p => (f p).2.tunnel else s.slot q := by
  unfold onPool slot
  by_cases hq : q = pool
  · subst hq
    cases hpool : s.pools q <;> simp [hpool]
  · cases hpool : s.pools pool <;> simp [hq]

theorem slot_onPool_map {g : Tunnel → Tunnel}
    (hf : ∀ p : PoolState, (f p).2.tunnel = p.tunnel.map g) (q : String) :
    (s.onPool pool missing f).1.slot q =
      (s.slot q).map fun t => if q = pool then g t else t := by
  rw [slot_onPool]
  by_cases hq : q = pool
  · subst hq
    unfold slot
    cases hpool : s.pools q <;> simp [hf]
  · simp [hq]

end OnPool

theorem pools_poolMutexFor (pool : String) : (s.poolMutexFor pool).1.pools = s.pools := by
  unfold poolMutexFor
  split <;> rfl

theorem slot_congr {s t : Shared} (h : s.pools = t.pools) (q : String) : s.slot q = t.slot q := by
  unfold slot
  rw [h]

end Shared

/-- The same cell in a slot: what no access changes while it stays there. -/
structure Tunnel.SameCell (t t' : Tunnel) : Prop where
  containerID : t'.containerID = t.containerID
  gatewayAddr : t'.gatewayAddr = t.gatewayAddr
  proxyURL : t'.proxyURL = t.proxyURL
  confName : t'.confName = t.confName

theorem Tunnel.SameCell.refl (t : Tunnel) : t.SameCell t := ⟨rfl, rfl, rfl, rfl⟩

theorem Tunnel.sameCell_use (t : Tunnel) (now : Int) : t.SameCell (t.use now) := ⟨rfl, rfl, rfl, rfl⟩

theorem Tunnel.sameCell_released (t : Tunnel) : t.SameCell t.released := by
  unfold released
  split <;> exact ⟨rfl, rfl, rfl, rfl⟩

/-- What no access but a use or a release changes. A tunnel that is not hot does not become hot
again. -/
structure Tunnel.Kept (t t' : Tunnel) : Prop where
  sameCell : t.SameCell t'
  inFlight : t'.inFlight = t.inFlight
  lastUsedAt : t'.lastUsedAt = t.lastUsedAt
  hot : t'.state = .hot → t.state = .hot

theorem Tunnel.Kept.refl (t : Tunnel) : t.Kept t := ⟨.refl t, rfl, rfl, id⟩

namespace Call

/-- The accesses that neither use, release, replace nor create anything. -/
def isQuiet : Call → Bool
  | .acquire _ _ | .acquireContainer _ _ | .release _ | .setTunnel _ _ | .containerCreate _ => false
  | _ => true

theorem kept_revise (hquiet : c.isQuiet) (now : Int) (q : String) (t : Tunnel) :
    t.Kept (c.revise now q t) := by
  cases c <;> simp only [isQuiet, Bool.false_eq_true] at hquiet <;> simp only [revise] <;>
    (try split) <;> constructor <;> first | exact ⟨rfl, rfl, rfl, rfl⟩ | simp

end Call

variable {m : Setup} {s s' : Shared} {answer : Answer}

theorem slot_exec_setTunnel {t : Option Tunnel} {ret : Unit}
    (hexec : exec m s (.setTunnel pool t) answer = some (s', ret)) (q : String) :
    s'.slot q = if q = pool ∧ (s.pools pool).isSome then t else s.slot q := by
  obtain rfl := congrArg Prod.fst (Option.some.inj hexec)
  rw [Shared.modifyPool, Shared.slot_onPool]
  by_cases hq : q = pool
  · subst hq
    cases hpool : s.pools q <;> simp [hpool, Shared.slot, PoolState.setTunnel]
  · simp [hq]

theorem slot_exec_clear (hexec : exec m s c answer = some (s', ret)) (hc : c = .setTunnel pool none)
    (q : String) : s'.slot q = if q = pool then none else s.slot q := by
  subst hc
  rw [slot_exec_setTunnel hexec]
  by_cases hq : q = pool
  · subst hq
    cases hpool : s.pools q <;> simp [Shared.slot, hpool]
  · simp [hq]

theorem slot_exec (hexec : exec m s c answer = some (s', ret))
    (hset : ∀ pool t, c ≠ .setTunnel pool t) (q : String) :
    s'.slot q = (s.slot q).map fun t => c.revise s.now q t := by
  cases c with
  | setTunnel pool t => exact absurd rfl (hset pool t)
  | acquire pool excludeProxy =>
      obtain rfl := congrArg Prod.fst (Option.some.inj hexec)
      rw [Shared.slot_onPool_map _ _ _ _ fun p => p.tunnel_acquire excludeProxy s.now]
      simp [Call.revise, ite_and]
  | acquireContainer pool containerID =>
      obtain rfl := congrArg Prod.fst (Option.some.inj hexec)
      rw [Shared.slot_onPool_map _ _ _ _ fun p => p.tunnel_acquireContainer containerID s.now]
      simp [Call.revise, ite_and]
  | release pool =>
      obtain rfl := congrArg Prod.fst (Option.some.inj hexec)
      rw [Shared.modifyPool, Shared.slot_onPool_map _ _ _ _ fun p => p.tunnel_release]
      rfl
  | setLastURL | markReaping | confirmHealthy =>
      obtain rfl := congrArg Prod.fst (Option.some.inj hexec)
      rw [Shared.modifyPool, Shared.slot_onPool_map _ _ _ _ fun p => p.tunnel_updateContainer _ _]
      simp [Call.revise, ite_and]
  | markUnhealthy pool confName =>
      obtain rfl := congrArg Prod.fst (Option.some.inj hexec)
      rw [Shared.modifyPool, Shared.slot_onPool_map _ _ _ _ fun p => p.tunnel_markUnhealthy _]
      simp [Call.revise, ite_and]
  | markFailed pool conf now =>
      obtain rfl := congrArg Prod.fst (Option.some.inj hexec)
      rw [Shared.modifyPool, Shared.slot_onPool_map (g := id) _ _ _ _ fun p => by
        simp [PoolState.markFailed]]
      simp [Call.revise]
  | pickConf pool now exclude =>
      cases answer with
      | draw n =>
          obtain rfl := congrArg Prod.fst (Option.some.inj hexec)
          rw [Shared.slot_onPool_map (g := id) _ _ _ _ fun p => by
            simp [PoolState.tunnel_pickConf]]
          simp [Call.revise]
      | _ => simp [exec] at hexec
  | poolMutexFor pool =>
      obtain rfl := congrArg Prod.fst (Option.some.inj hexec)
      simp [Call.revise, Shared.slot_congr (s.pools_poolMutexFor pool)]
  | _ =>
      -- the other accesses do not reach a pool
      simp only [Call.revise, Option.map_id']
      refine Shared.slot_congr ?_ q
      cases answer <;> simp only [exec] at hexec <;> (try split at hexec) <;> cases hexec <;> rfl

/-- What an access can do to the shared state: change a pool, make a mutex, or change one of the
other parts by an access that is for that part. -/
inductive Access (s : Shared) : Call → Shared → Prop
  | none (c : Call) : Access s c s
  | pool (c : Call) (pool : String) (p p' : PoolState) (hpool : s.pools pool = some p) :
      Access s c { s with pools := Function.update s.pools pool (some p') }
  | poolMutexFor (pool : String) (mu : Nat) (hnew : s.spawnMu.lookup pool = none) :
      Access s (.poolMutexFor pool) { s with spawnMu := s.spawnMu.insert pool mu }
  | lock (mu : Nat) :
      Access s (.lock mu) { s with locked := Function.update s.locked mu true }
  | unlock (mu : Nat) :
      Access s (.unlock mu) { s with locked := Function.update s.locked mu false }
  | issueLease (now : Int) (leaseID secret : String) (acq : Acquisition) (url : URL) :
      Access s (.issueLease now leaseID secret acq url)
        { s with leases := (s.leases.issueLocked now leaseID secret acq url).2 }
  | lookupLease (now : Int) (leaseID secret : String) :
      Access s (.lookupLease now leaseID secret)
        { s with leases := (s.leases.lookup now leaseID secret).2 }
  | containerCreate (req : SpawnRequest) (id : String) (container : Container) :
      Access s (.containerCreate req)
        { s with docker := Function.update s.docker id (some container) }

theorem access_onPool {α : Type} (c : Call) (pool : String) (missing : α)
    (f : PoolState → α × PoolState) : Access s c (s.onPool pool missing f).1 := by
  unfold Shared.onPool
  split
  · exact .none c
  · next p hpool => exact .pool c pool p _ hpool

theorem access_of_exec (hexec : exec m s c answer = some (s', ret)) : Access s c s' := by
  cases c with
  | acquire pool excludeProxy | acquireContainer pool containerID | release pool
  | setTunnel pool t | markFailed pool conf now | setLastURL pool containerID value expiresAt
  | markReaping pool containerID | confirmHealthy pool containerID | markUnhealthy pool confName =>
      obtain rfl := congrArg Prod.fst (Option.some.inj hexec)
      exact access_onPool _ pool _ _
  | pickConf pool now exclude =>
      cases answer with
      | draw n =>
          obtain rfl := congrArg Prod.fst (Option.some.inj hexec)
          exact access_onPool _ pool _ _
      | _ => cases hexec
  | poolMutexFor pool =>
      obtain rfl := congrArg Prod.fst (Option.some.inj hexec)
      unfold Shared.poolMutexFor
      split
      · exact .none _
      · next hnew => exact .poolMutexFor pool _ hnew
  | lock mu =>
      simp only [exec] at hexec
      split at hexec
      · cases hexec
      · cases hexec
        exact .lock mu
  | unlock mu =>
      cases hexec
      exact .unlock mu
  | issueLease now leaseID secret acq url =>
      cases hexec
      exact .issueLease now leaseID secret acq url
  | lookupLease now leaseID secret =>
      cases hexec
      exact .lookupLease now leaseID secret
  | containerCreate req =>
      cases answer with
      | container id =>
          simp only [exec] at hexec
          split at hexec
          · cases hexec
          · cases hexec
            exact .containerCreate req id _
      | fail reason =>
          cases hexec
          exact .none _
      | _ => cases hexec
  | _ =>
      -- the clock, the snapshots and the outside world
      cases answer <;> simp only [exec] at hexec <;> (try split at hexec) <;> cases hexec <;>
        exact .none _

theorem now_exec (hexec : exec m s c answer = some (s', ret)) : s'.now = s.now := by
  cases access_of_exec hexec <;> rfl

theorem isSome_pools_exec (hexec : exec m s c answer = some (s', ret)) (q : String) :
    (s'.pools q).isSome = (s.pools q).isSome := by
  cases access_of_exec hexec with
  | pool _ pool p p' hpool =>
      by_cases hq : q = pool
      · subst hq
        simp [hpool]
      · simp [hq]
  | _ => rfl

theorem docker_exec (hexec : exec m s c answer = some (s', ret))
    (hcreate : ∀ req, c ≠ .containerCreate req) : s'.docker = s.docker := by
  cases access_of_exec hexec with
  | containerCreate req => exact absurd rfl (hcreate req)
  | _ => rfl

/-- What an acquisition returns: a use of the hot tunnel in the slot, or an error, and then there is
no such tunnel that the caller would accept. -/
theorem exec_acquire {excludeProxy : Option URL} {ret : Except CtxError Tunnel}
    (hexec : exec m s (.acquire pool excludeProxy) answer = some (s', ret)) :
    (∃ t, s.slot pool = some t ∧ t.state = .hot ∧ t.isExcluded excludeProxy = false ∧
      ret = .ok (t.use s.now)) ∨
    ∃ err, ret = .error err ∧ (err.err = .unknownPool ↔ (s.pools pool).isSome = false) ∧
      ∀ t, s.slot pool = some t → t.state = .hot → t.isExcluded excludeProxy = true := by
  obtain rfl := congrArg Prod.snd (Option.some.inj hexec)
  unfold Shared.onPool Shared.slot
  cases hpool : s.pools pool with
  | none => exact .inr ⟨_, rfl, by simp [unknownPool], by simp⟩
  | some p =>
      simp only [Option.bind_some, PoolState.acquire]
      cases htunnel : p.tunnel with
      | none => exact .inr ⟨_, rfl, by simp, by simp⟩
      | some t =>
          dsimp only
          by_cases hhot : t.state = .hot
          · by_cases hexcluded : t.isExcluded excludeProxy = true
            · exact .inr ⟨_, by simp only [hhot, hexcluded]; rfl, by simp, by simp [hexcluded]⟩
            · exact .inl ⟨t, rfl, hhot, by simpa using hexcluded, by simp [hhot, hexcluded]⟩
          · exact .inr ⟨_, by rw [if_pos hhot], by simp, by simp [hhot]⟩

theorem exec_acquireContainer {pool containerID : String} {ret : Except CtxError Tunnel}
    (hexec : exec m s (.acquireContainer pool containerID) answer = some (s', ret)) :
    (∃ t, s.slot pool = some t ∧ t.state = .hot ∧ t.containerID = containerID ∧
      ret = .ok (t.use s.now)) ∨
    ∃ err, ret = .error err ∧
      ∀ t, s.slot pool = some t → t.state = .hot → t.containerID ≠ containerID := by
  obtain rfl := congrArg Prod.snd (Option.some.inj hexec)
  unfold Shared.onPool Shared.slot
  cases hpool : s.pools pool with
  | none => exact .inr ⟨_, rfl, by simp⟩
  | some p =>
      simp only [Option.bind_some, PoolState.acquireContainer]
      cases htunnel : p.tunnel with
      | none => exact .inr ⟨_, rfl, by simp⟩
      | some t =>
          dsimp only
          by_cases hlive : t.state = .hot ∧ t.containerID = containerID
          · exact .inl ⟨t, rfl, hlive.1, hlive.2, by simp [hlive.1, hlive.2]⟩
          · have hdead : t.state ≠ .hot ∨ t.containerID ≠ containerID :=
              not_and_or.mp hlive
            exact .inr ⟨_, by rw [if_pos hdead], by simpa using hlive⟩

theorem exec_containerCreate {req : SpawnRequest} {ret : Except String String}
    (hexec : exec m s (.containerCreate req) answer = some (s', ret)) :
    (∃ id, id ≠ "" ∧ s.docker id = none ∧ ret = .ok id ∧ s'.pools = s.pools ∧
      s'.docker = Function.update s.docker id (some ⟨s.now, req.pool, req.confName⟩)) ∨
    ∃ reason, ret = .error reason ∧ s' = s := by
  cases answer with
  | container id =>
      simp only [exec] at hexec
      split at hexec
      · exact absurd hexec.symm (Option.some_ne_none _)
      · next hid =>
          obtain ⟨hname, hfresh⟩ := not_or.mp hid
          cases hexec
          exact .inl ⟨id, hname, by simpa using hfresh, rfl, rfl, rfl⟩
  | fail reason =>
      cases hexec
      exact .inr ⟨reason, rfl, rfl⟩
  | _ => exact absurd hexec.symm (Option.some_ne_none _)

end Pr0xteus
