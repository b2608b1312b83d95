import Pr0xteus.Proof.Acquire
import Pr0xteus.Proof.WellFormed

/-!
# One spawn at a time

`acquireFromState` looks at the slot, takes the pool's spawn mutex, and looks again before it spawns.
The mutex is made on demand and never replaced, so the acquisitions of one pool that are past the
lock are one. Between two spawns of a pool, a slot that is not cleared and stays hot can only have
been refused at the second look for the excluded proxy.
-/

namespace Pr0xteus

open Transition Threads

variable {m : Setup} {pool : String} {pc : Pc} {a : Attempt} {s : State} {t : Tunnel}

section Exec

variable {s s' : Shared} {answer : Answer}

theorem spawnMu_exec {c : Call} {ret : c.Ret} (hexec : exec m s c answer = some (s', ret))
    {mu : Nat} (hmu : s.spawnMu.lookup pool = some mu) : s'.spawnMu.lookup pool = some mu := by
  cases access_of_exec hexec with
  | poolMutexFor target _ hnone =>
      have hne : pool ≠ target := by
        rintro rfl
        rw [hnone] at hmu
        cases hmu
      rw [AList.lookup_insert_ne hne]
      exact hmu
  | _ => exact hmu

theorem lookup_poolMutexFor {mu : Nat} (h : s.poolMutexFor pool = (s', mu)) :
    s'.spawnMu.lookup pool = some mu := by
  unfold Shared.poolMutexFor at h
  split at h
  · next found =>
      cases h
      exact found
  · cases h
    exact AList.lookup_insert _

def Call.isLocking : Call → Bool
  | .lock _ | .unlock _ => true
  | _ => false

theorem locked_exec {c : Call} {ret : c.Ret} (hexec : exec m s c answer = some (s', ret))
    (hc : c.isLocking = false) : s'.locked = s.locked := by
  cases access_of_exec hexec with
  | lock mu => cases hc
  | unlock mu => cases hc
  | _ => rfl

theorem isLocking_of_isOutside (h : pc.isOutside = true) : pc.call.isLocking = false := by
  cases pc with
  | acquire a stage =>
      cases stage with
      | tryHot => rfl
      | _ => cases h
  | assign acq stage | gateway u p stage | reaper stage | orphan stage | destroy containerID stage
  | close stage | markFailed pool confName stage => cases stage <;> rfl
  | _ => rfl

theorem locks_of_isOutside (h : pc.isOutside = true) : pc.locks = none := by
  cases pc with
  | acquire a stage =>
      cases stage with
      | tryHot => rfl
      | _ => cases h
  | _ => rfl

/-- What a turn does to the mutexes: nothing, or it takes a free one, or it gives back its own. -/
inductive LockTurn (s : Shared) (pc : Pc) (s' : Shared) (pc' : Pc) : Prop
  | same (hlocks : pc'.locks = pc.locks) (hlocked : s'.locked = s.locked)
  | take (mu : Nat) (hbefore : pc.locks = none) (hafter : pc'.locks = some mu)
      (hfree : s.locked mu = false) (hlocked : s'.locked = Function.update s.locked mu true)
  | give (mu : Nat) (hbefore : pc.locks = some mu) (hafter : pc'.locks = none)
      (hlocked : s'.locked = Function.update s.locked mu false)

theorem lockTurn_of_exec {ret : pc.call.Ret} (hexec : exec m s pc.call answer = some (s', ret)) :
    LockTurn s pc s' (resume m pc ret) := by
  cases pc with
  | acquire a stage =>
      cases stage with
      | tryHot =>
          refine .same ?_ (locked_exec hexec rfl)
          rcases ret with err | t
          · simp only [resume]
            split <;> rfl
          · exact locks_of_isOutside (by simp [resume])
      | lock mu =>
          obtain hout | hnext := acquireNext_of_exec hexec
          · cases hout
          · cases hnext with
            | lock _ hfree hlocked => exact .take mu rfl rfl hfree hlocked
      | unlockOk mu acq =>
          cases hexec
          exact .give mu rfl (locks_of_isOutside (by simp [resume])) rfl
      | unlockFail mu err =>
          cases hexec
          exact .give mu rfl (locks_of_isOutside (by simp [resume])) rfl
      | pickClock mu =>
          refine .same ?_ (locked_exec hexec rfl)
          simp only [resume]
          split <;> rfl
      | recheck mu | pickConf mu now exclude | create mu conf | waitReady mu conf containerID =>
          refine .same ?_ (locked_exec hexec rfl)
          rcases ret with _ | _ <;> rfl
      | _ => exact .same rfl (locked_exec hexec rfl)
  | _ =>
      -- nobody else comes near a mutex
      have hout : (resume m _ ret).isOutside = true := by
        rw [← Bool.not_eq_false]
        intro hinside
        obtain ⟨a, stage, hpc, -⟩ := acquireNext_of_inside hexec hinside
        cases hpc
      exact .same (locks_of_isOutside hout) (locked_exec hexec (isLocking_of_isOutside rfl))

end Exec

/-- Past its first look at the slot, an acquisition is one of a pool that exists, with the mutex of
that pool. -/
def Pc.Registered (s : Shared) : Pc → Prop
  | .acquire _ .tryHot => True
  | .acquire a stage =>
      (s.pools a.state).isSome = true ∧ ∀ mu ∈ stage.mutex, s.spawnMu.lookup a.state = some mu
  | _ => True

/-- The mutexes are in order: everybody uses the one of its pool, and each has at most one owner. -/
structure Guarded (s : State) : Prop where
  registered : ∀ (i : Nat) (pc : Pc), s.threads[i]? = some pc → pc.Registered s.shared
  exclusive : ∀ mu, Exclusive (fun pc : Pc => pc.locks == some mu) s.threads (s.shared.locked mu)

theorem registered_of_isOutside {s : Shared} (h : pc.isOutside = true) : pc.Registered s := by
  cases pc with
  | acquire a stage =>
      cases stage with
      | tryHot => trivial
      | _ => cases h
  | _ => trivial

theorem Pc.Registered.mono {s s' : Shared} (h : pc.Registered s)
    (hpools : ∀ q, (s'.pools q).isSome = (s.pools q).isSome)
    (hmu : ∀ pool mu, s.spawnMu.lookup pool = some mu → s'.spawnMu.lookup pool = some mu) :
    pc.Registered s' := by
  cases pc with
  | acquire a stage =>
      cases stage with
      | tryHot => trivial
      | _ => exact ⟨(hpools a.state).trans h.1, fun mu hmem => hmu _ _ (h.2 mu hmem)⟩
  | _ => trivial

theorem registered_resume {s s' : Shared} {answer : Answer} {ret : pc.call.Ret}
    (hexec : exec m s pc.call answer = some (s', ret)) (h : pc.Registered s) :
    (resume m pc ret).Registered s' := by
  cases hinside : (resume m pc ret).isOutside with
  | true => exact registered_of_isOutside hinside
  | false =>
      obtain ⟨a, stage, rfl, hnext⟩ := acquireNext_of_inside hexec hinside
      have hpools := isSome_pools_exec hexec
      have hafter := h.mono hpools fun pool mu => spawnMu_exec hexec
      generalize resume m _ ret = pc' at hnext
      cases hnext with
      | refused hpool => exact ⟨(hpools a.state).trans hpool, by simp [AcquireStage.mutex]⟩
      | mutexFor mu hmu =>
          refine ⟨hafter.1, fun mu' hmem => ?_⟩
          obtain rfl : mu = mu' := Option.some.inj hmem
          exact lookup_poolMutexFor hmu
      | _ => exact hafter

theorem guarded_step {s t : State} {a : Action} (h : Guarded s) (hstep : step m s a = some t) :
    Guarded t := by
  constructor
  · have hmu : ∀ pool mu, s.shared.spawnMu.lookup pool = some mu →
        t.shared.spawnMu.lookup pool = some mu := by
      intro pool mu hmu
      cases step_cases hstep with
      | tick d => exact hmu
      | start entry hvisits => exact hmu
      | turn i answer pc shared ret hpc hexec => exact spawnMu_exec hexec hmu
    refine forall_threads_of_step hstep h.registered ?_ ?_ ?_
    · intro i pc hpc
      exact hpc.mono (isSome_pools_step hstep) hmu
    · intro i entry _ _
      exact registered_of_isOutside (isOutside_start entry)
    · intro i answer pc ret _ hpc hexec
      exact registered_resume hexec (h.registered i pc hpc)
  · intro mu
    have hmu := h.exclusive mu
    cases step_cases hstep with
    | tick d => exact hmu
    | start entry hvisits => exact hmu.start (by simp [locks_of_isOutside])
    | turn i answer pc shared ret hpc hexec =>
        cases lockTurn_of_exec hexec with
        | same hlocks hlocked =>
            rw [hlocked]
            exact hmu.stay hpc (by rw [hlocks])
        | take mu' hbefore hafter hfree hlocked =>
            rw [hlocked]
            by_cases heq : mu = mu'
            · subst heq
              rw [hfree] at hmu
              rw [Function.update_self]
              exact hmu.enter hpc (by simp [hbefore]) (by simp [hafter])
            · rw [Function.update_of_ne heq]
              exact hmu.stay hpc (by simp [hbefore, hafter, Ne.symm heq])
        | give mu' hbefore hafter hlocked =>
            rw [hlocked]
            by_cases heq : mu = mu'
            · subst heq
              rw [Function.update_self]
              exact hmu.leave hpc (by simp [hbefore]) (by simp [hafter])
            · rw [Function.update_of_ne heq]
              exact hmu.stay hpc (by simp [hbefore, hafter, Ne.symm heq])

theorem guarded_of_path {es : List (Edge State Action)} (hpath : Path (step m) (init m) es s) :
    Guarded s := by
  refine hpath.invariant Guarded ⟨?_, ?_⟩ fun _ _ hguarded hstep => guarded_step hguarded hstep
  · intro i pc hpc
    simp [init] at hpc
  · intro mu
    rfl

def Pc.critical : Pc → Option String
  | .acquire a stage => (Pc.acquire a stage).locks.map fun _ => a.state
  | _ => none

theorem locks_of_critical {s : Shared} (hregistered : pc.Registered s) (h : pc.critical = some pool) :
    ∃ mu, pc.locks = some mu ∧ s.spawnMu.lookup pool = some mu ∧ (s.pools pool).isSome = true := by
  cases pc with
  | acquire a stage =>
      cases stage with
      | tryHot | mutexFor | lock mu => cases h
      | _ =>
          cases h
          exact ⟨_, rfl, hregistered.2 _ rfl, hregistered.1⟩
  | _ => cases h

/-- **Mutual exclusion.** Two goroutines in the critical section of one pool are one. -/
theorem Guarded.eq_of_critical (h : Guarded s) {i j : Nat} {pc q : Pc}
    (hi : s.threads[i]? = some pc) (hj : s.threads[j]? = some q) (hpc : pc.critical = some pool)
    (hq : q.critical = some pool) : i = j := by
  obtain ⟨mu, hlocks, hmu, -⟩ := locks_of_critical (h.registered i pc hi) hpc
  obtain ⟨mu', hlocks', hmu', -⟩ := locks_of_critical (h.registered j q hj) hq
  obtain rfl : mu = mu' := Option.some.inj (hmu.symm.trans hmu')
  exact (h.exclusive mu).eq hi hj (by simp [hlocks]) (by simp [hlocks'])

section Critical

variable {pc : Pc}

theorem critical_of_spawning (h : pc.spawning = some pool) : pc.critical = some pool := by
  unfold Pc.spawning at h
  split at h <;> cases h <;> rfl

theorem critical_of_spawned (h : pc.spawned = some pool) : pc.critical = some pool := by
  unfold Pc.spawned at h
  split at h <;> cases h <;> rfl

theorem critical_of_respawns (h : pc.respawns = some a) : pc.critical = some a.state := by
  unfold Pc.respawns at h
  split at h <;> cases h <;> rfl

theorem respawns_of_spawns (h : pc.spawns = some a) : pc.respawns = some a := by
  unfold Pc.spawns at h
  split at h <;> cases h
  rfl

theorem spawned_of_spawns (h : pc.spawns = some a) (ret : pc.call.Ret) :
    (resume m pc ret).spawned = some a.state := by
  unfold Pc.spawns at h
  split at h <;> cases h
  rfl

theorem spawned_of_respawns (h : pc.respawns = some a) : pc.spawned = none := by
  unfold Pc.respawns at h
  split at h <;> first | rfl | cases h

theorem spawned_of_publishes (h : pc.publishes = some pool) : pc.spawned = some pool := by
  unfold Pc.publishes at h
  split at h <;> cases h
  rfl

theorem isOutside_of_respawns (h : pc.respawns = some a) : pc.isOutside = false := by
  unfold Pc.respawns at h
  split at h <;> first | rfl | cases h

theorem isOutside_of_spawned (h : pc.spawned = some pool) : pc.isOutside = false := by
  unfold Pc.spawned at h
  split at h <;> first | rfl | cases h

end Critical

section Resume

variable {s s' : Shared} {answer : Answer} {pc : Pc} {ret : pc.call.Ret}

theorem respawns_resume (hexec : exec m s pc.call answer = some (s', ret))
    (ha : (resume m pc ret).respawns = some a) :
    pc.respawns = some a ∨
      ∀ t, s.slot a.state = some t → t.state = .hot → t.isExcluded a.excludeProxy = true := by
  have hinside := isOutside_of_respawns ha
  obtain ⟨a', stage, rfl, hnext⟩ := acquireNext_of_inside hexec hinside
  generalize resume m _ ret = pc' at hnext ha
  cases hnext with
  | cold mu hcold =>
      cases ha
      exact .inr hcold
  | exclude | pick | pickExcluded | picked | created | ready => exact .inl ha
  | _ => cases ha

theorem spawned_resume (hexec : exec m s pc.call answer = some (s', ret))
    (h : (resume m pc ret).spawned = some pool) :
    pc.spawned = some pool ∨ ∃ a, pc.spawns = some a ∧ a.state = pool := by
  have hinside := isOutside_of_spawned h
  obtain ⟨a, stage, rfl, hnext⟩ := acquireNext_of_inside hexec hinside
  generalize resume m _ ret = pc' at hnext h
  cases hnext with
  | spawned mu conf containerID addr gatewayAddr =>
      cases h
      exact .inr ⟨a, rfl, rfl⟩
  | stamped mu t now => exact .inl h
  | _ => cases h

end Resume

def SpawnReturns (e : Edge State Action) (pool : String) : Prop :=
  ∃ pc ∈ actor e, ∃ a ∈ pc.spawns, a.state = pool

/-- The slot is not cleared, and a hot tunnel that stays in it stays hot. -/
def KeepsHot (e : Edge State Action) (pool : String) : Prop :=
  ∀ t ∈ e.source.shared.slot pool, ∃ t' ∈ e.target.shared.slot pool,
    t'.containerID = t.containerID → t.state = .hot → t'.state = .hot

instance (e : Edge State Action) (pool : String) : Decidable (SpawnReturns e pool) :=
  inferInstanceAs (Decidable (∃ pc ∈ actor e, ∃ a ∈ pc.spawns, a.state = pool))

instance (e : Edge State Action) (pool : String) : Decidable (KeepsHot e pool) :=
  inferInstanceAs (Decidable (∀ t ∈ e.source.shared.slot pool, ∃ t' ∈ e.target.shared.slot pool,
    t'.containerID = t.containerID → t.state = .hot → t'.state = .hot))

/-- The pool's slot holds a hot tunnel, nobody is about to replace it, and whoever is spawning for
the pool was told to avoid it. -/
structure Occupied (s : State) (pool : String) (t : Tunnel) : Prop where
  slot : s.shared.slot pool = some t
  hot : t.state = .hot
  excluded : ∀ pc ∈ s.threads, ∀ a ∈ pc.respawns, a.state = pool →
    t.isExcluded a.excludeProxy = true
  unspawned : ∀ pc ∈ s.threads, pc.spawned ≠ some pool

theorem isExcluded_congr {t t' : Tunnel} (h : t.SameCell t') (excludeProxy : Option Encoding.URL) :
    t'.isExcluded excludeProxy = t.isExcluded excludeProxy := by
  unfold Tunnel.isExcluded
  rw [h.proxyURL]

theorem occupied_step {s u : State} {a : Action} (h : Occupied s pool t)
    (hreturns : ¬SpawnReturns ⟨s, a, u⟩ pool) (hkeeps : KeepsHot ⟨s, a, u⟩ pool)
    (hstep : step m s a = some u) : ∃ t', Occupied u pool t' := by
  obtain ⟨t', ht', hhot⟩ := hkeeps t h.slot
  have hcell : t.SameCell t' := by
    cases step_cases hstep with
    | tick | start =>
        obtain rfl : t = t' := Option.some.inj (h.slot.symm.trans ht')
        exact .refl t
    | turn i answer pc shared ret hpc hexec =>
        obtain ⟨t₀, hslot, hcell⟩ | ⟨hpublishes, -⟩ := (turn_of_exec hexec).slot_cases ht'
        · obtain rfl : t = t₀ := Option.some.inj (h.slot.symm.trans hslot)
          exact hcell
        · exact absurd (spawned_of_publishes hpublishes) (h.unspawned pc (List.mem_of_getElem? hpc))
  refine ⟨t', ht', hhot hcell.containerID h.hot, ?_, ?_⟩
  · refine forall_mem_threads_of_step hstep h.excluded ?_ ?_ ?_
    · intro pc hpc a' ha' hpool
      rw [isExcluded_congr hcell]
      exact hpc a' ha' hpool
    · intro entry _ _ a' ha'
      have hinside := isOutside_of_respawns ha'
      simp at hinside
    · intro i answer pc ret _ hpc hexec a' ha' hpool
      rw [isExcluded_congr hcell]
      obtain hbefore | hcold := respawns_resume hexec ha'
      · exact h.excluded pc (List.mem_of_getElem? hpc) a' hbefore hpool
      · exact hcold t (hpool ▸ h.slot) h.hot
  · refine forall_mem_threads_of_step hstep h.unspawned (fun _ hpc => hpc) ?_ ?_
    · intro entry _ _ hspawned
      have hinside := isOutside_of_spawned hspawned
      simp at hinside
    · intro i answer pc ret haction hpc hexec hspawned
      obtain hbefore | ⟨a', ha', hpool⟩ := spawned_resume hexec hspawned
      · exact h.unspawned pc (List.mem_of_getElem? hpc) hbefore
      · subst haction
        exact hreturns ⟨pc, hpc, a', ha', hpool⟩

/-- A goroutine that has a tunnel for the pool keeps it until it publishes it, and nobody else is in
the critical section then. -/
theorem pending_step {s u : State} {a : Action} {i : Nat} (hguarded : Guarded s)
    (hpc : s.threads[i]? = some pc) (hspawned : pc.spawned = some pool)
    (hstep : step m s a = some u) :
    (∃ pc', u.threads[i]? = some pc' ∧ pc'.spawned = some pool) ∨ ∃ t, Occupied u pool t := by
  have hguarded' := guarded_step hguarded hstep
  cases step_cases hstep with
  | tick d => exact .inl ⟨pc, hpc, hspawned⟩
  | start entry hvisits =>
      obtain ⟨hlt, -⟩ := List.getElem?_eq_some_iff.mp hpc
      exact .inl ⟨pc, by rw [List.getElem?_append_left hlt, hpc], hspawned⟩
  | turn j answer q shared ret hq hexec =>
      by_cases hji : j = i
      · subst hji
        obtain rfl : pc = q := Option.some.inj (hpc.symm.trans hq)
        obtain ⟨hlt, -⟩ := List.getElem?_eq_some_iff.mp hpc
        have hset := List.getElem?_set_self (a := resume m pc ret) hlt
        unfold Pc.spawned at hspawned
        split at hspawned
        · cases hspawned
          exact .inl ⟨_, hset, rfl⟩
        · next a' mu t now =>
          cases hspawned
          -- nobody else can be in the critical section of this pool
          have halone : ∀ q ∈ s.threads.set j (resume m (.acquire a' (.publish mu t now)) ret),
              q.critical = some a'.state → q = .acquire a' (.unlockOk mu ⟨t.firstUse a'.state now,
                a'.state⟩) := by
            intro q hq hcritical
            obtain ⟨k, hk⟩ := List.mem_iff_getElem?.mp hq
            obtain rfl := hguarded'.eq_of_critical hk hset hcritical rfl
            exact Option.some.inj (hk.symm.trans hset)
          refine .inr ⟨t.firstUse a'.state now, ?_, rfl, fun q hq b hb hpool => ?_,
            fun q hq hspawned => ?_⟩
          · rw [slot_exec_setTunnel hexec, if_pos ⟨rfl, (hguarded.registered j _ hpc).1⟩]
          · obtain rfl := halone q hq (hpool ▸ critical_of_respawns hb)
            cases hb
          · obtain rfl := halone q hq (critical_of_spawned hspawned)
            cases hspawned
        · cases hspawned
      · exact .inl ⟨pc, by rw [List.getElem?_set_ne hji, hpc], hspawned⟩

/-- At most one goroutine is in `Spawn` for a pool. -/
def SpawnsApart (s : State) : Prop :=
  ∀ (i j : Nat) (pc q : Pc) (pool : String), s.threads[i]? = some pc → s.threads[j]? = some q →
    pc.spawning = some pool → q.spawning = some pool → i = j

/-- The request whose `Spawn` returns excluded the proxy of the tunnel in the slot. -/
def ExcludesCurrent (e : Edge State Action) (pool : String) : Prop :=
  ∀ pc ∈ actor e, ∀ a ∈ pc.spawns, ∃ t ∈ e.source.shared.slot pool, ∃ url ∈ t.proxyURL,
    ∃ excluded ∈ a.excludeProxy, url.scheme = excluded.scheme ∧ url.host = excluded.host

theorem sameURL_of_isExcluded {excludeProxy : Option Encoding.URL}
    (h : t.isExcluded excludeProxy = true) :
    ∃ url ∈ t.proxyURL, ∃ excluded ∈ excludeProxy,
      url.scheme = excluded.scheme ∧ url.host = excluded.host := by
  unfold Tunnel.isExcluded at h
  split at h
  · next excluded url hurl =>
      refine ⟨url, hurl, excluded, rfl, ?_⟩
      simpa [sameURL] using h
  · cases h

/-- At most one goroutine at a time is in `Spawn` for a pool. If two of them return a tunnel for it
one after the other, and in between the slot is not cleared and what is hot in it stays hot, then the
second request excluded the proxy of the tunnel in the slot. -/
theorem one_spawn_per_pool (m : Setup) (actions : List Action) :
    (∀ e ∈ run m actions, SpawnsApart e.target) ∧
      ∀ (j k : Nat) (e₁ e₂ : Edge State Action) (pool : String), j < k →
        (run m actions)[j]? = some e₁ → (run m actions)[k]? = some e₂ →
        SpawnReturns e₁ pool → SpawnReturns e₂ pool →
        (∀ l e, j < l → l < k → (run m actions)[l]? = some e →
          ¬SpawnReturns e pool ∧ KeepsHot e pool) →
        ExcludesCurrent e₂ pool := by
  obtain ⟨s, hpath⟩ := exists_path_run m actions
  constructor
  · intro e he i j pc q pool hi hj hpc hq
    obtain ⟨k, hk⟩ := List.mem_iff_getElem?.mp he
    obtain ⟨hfront, hstep, -⟩ := hpath.cut hk
    exact (guarded_step (guarded_of_path hfront) hstep).eq_of_critical hi hj
      (critical_of_spawning hpc) (critical_of_spawning hq)
  · intro j k e₁ e₂ pool hjk h₁ h₂ hreturns₁ hreturns₂ hbetween pc₂ hpc₂ a₂ ha₂
    obtain ⟨hfront, hstep, -⟩ := hpath.cut h₁
    obtain ⟨fs, hfs, hmem⟩ := hpath.between hjk h₁ h₂
    have hguarded := guarded_step (guarded_of_path hfront) hstep
    -- the first goroutine leaves `Spawn` with a tunnel to publish
    obtain ⟨pc₁, hpc₁, a₁, ha₁, rfl⟩ := hreturns₁
    obtain ⟨i, answer, ret, -, -, hi⟩ := turn_of_actor hstep hpc₁
    have hspawned := spawned_of_spawns (m := m) ha₁ ret
    -- up to the return of the second `Spawn` it still has it, or the slot is occupied by it
    obtain ⟨hguarded₂, hphase⟩ := hfs.invariant
      (fun s => Guarded s ∧ ((∃ pc, s.threads[i]? = some pc ∧ pc.spawned = some a₁.state) ∨
        ∃ t, Occupied s a₁.state t)) ⟨hguarded, .inl ⟨_, hi, hspawned⟩⟩ (by
        rintro e he ⟨hguarded, hphase⟩ hstep
        obtain ⟨l, hjl, hlk, hl⟩ := hmem e he
        obtain ⟨hreturns, hkeeps⟩ := hbetween l e hjl hlk hl
        refine ⟨guarded_step hguarded hstep, ?_⟩
        obtain ⟨pc, hpc, hspawned⟩ | ⟨t, hoccupied⟩ := hphase
        · exact pending_step hguarded hpc hspawned hstep
        · exact .inr (occupied_step hoccupied hreturns hkeeps hstep))
    have hpool : a₂.state = a₁.state := by
      obtain ⟨pc, hpc, a, ha, hpool⟩ := hreturns₂
      obtain rfl : pc₂ = pc := Option.some.inj (hpc₂.symm.trans hpc)
      obtain rfl : a₂ = a := Option.some.inj (ha₂.symm.trans ha)
      exact hpool
    have hrespawns := respawns_of_spawns ha₂
    obtain ⟨pc, hpc, hspawned⟩ | ⟨t, hoccupied⟩ := hphase
    · -- both would be in the critical section
      obtain ⟨j, hj⟩ := List.mem_iff_getElem?.mp (mem_threads_of_actor hpc₂)
      obtain rfl := hguarded₂.eq_of_critical hpc hj (critical_of_spawned hspawned)
        (hpool ▸ critical_of_respawns hrespawns)
      obtain rfl : pc = pc₂ := Option.some.inj (hpc.symm.trans hj)
      rw [spawned_of_respawns hrespawns] at hspawned
      cases hspawned
    · exact ⟨t, hoccupied.slot, sameURL_of_isExcluded
        (hoccupied.excluded pc₂ (mem_threads_of_actor hpc₂) a₂ hrespawns hpool)⟩

open Schedule in
/-- A request spawns `x`, and one that excludes `x` spawns `y`. -/
theorem one_spawn_per_pool_rotated :
    let es := run setup (.start (.proxy "de" none false) :: ready 0 0 "x" ++ go 0 2 ++
      .start (.proxy "de" (some (proxyURL "x")) false) :: go 1 6 ++ spawn 1 0 "y" ++ go 1 2)
    (∀ e ∈ es, SpawnsApart e.target) ∧
      ∃ e₁ e₂, es[9]? = some e₁ ∧ es[23]? = some e₂ ∧
        SpawnReturns e₁ "de" ∧ SpawnReturns e₂ "de" ∧
        (∀ l e, 9 < l → l < 23 → es[l]? = some e → ¬SpawnReturns e "de" ∧ KeepsHot e "de") ∧
        ExcludesCurrent e₂ "de" := by
  intro es
  have hends : ∃ e₁ ∈ es[9]?, ∃ e₂ ∈ es[23]?, SpawnReturns e₁ "de" ∧ SpawnReturns e₂ "de" := by
    decide +kernel
  have hbetween : ∀ l < 23, 9 < l → ∀ e ∈ es[l]?, ¬SpawnReturns e "de" ∧ KeepsHot e "de" := by
    decide +kernel
  obtain ⟨e₁, h₁, e₂, h₂, hreturns₁, hreturns₂⟩ := hends
  have hbetween' : ∀ l e, 9 < l → l < 23 → es[l]? = some e →
      ¬SpawnReturns e "de" ∧ KeepsHot e "de" := fun l e hj hk he => hbetween l hk hj e he
  obtain ⟨hapart, hexcludes⟩ := one_spawn_per_pool setup _
  exact ⟨hapart, e₁, e₂, h₁, h₂, hreturns₁, hreturns₂, hbetween',
    hexcludes 9 23 e₁ e₂ "de" (by decide) h₁ h₂ hreturns₁ hreturns₂ hbetween'⟩

end Pr0xteus
