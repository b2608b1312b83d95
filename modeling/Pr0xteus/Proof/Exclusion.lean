import Pr0xteus.Proof.Leases

/-!
# Which configurations an exclusion rules out

A caller names the proxy it wants to avoid by the URL of a lease, which is resolved to the URL of the
leased cell. From the URL the request gets back to a configuration only if the cell is still in the
slot when `excludeConfsFor` looks: then that configuration is not picked again. Once the slot has been
cleared, or refilled with another cell, nothing is ruled out.
-/

namespace Pr0xteus

open Encoding Transition

variable {m : Setup} {l : Issued} {acq : Acquisition} {es : List (Edge State Action)} {pc : Pc}
  {i : Nat} {s : State}

/-- Goroutine `i` resolves the exclusion of a lease `l` of the pool it asks for. -/
structure Resolves (m : Setup) (front : List (Edge State Action)) (e : Edge State Action) (i : Nat)
    (l : Issued) : Prop where
  thread : e.action.thread = some i
  issued : l ∈ leasesOf m front
  found : ∃ pc ∈ actor e, pc.resolves e.source.shared = some (l.acq.pool, l.record)

/-- What goroutine `i` holds of the lease's pool is of another configuration than the leased cell. -/
def HoldsOther (i : Nat) (l : Issued) (s : State) : Prop :=
  ∀ pc ∈ s.threads[i]?, ∀ acq ∈ pc.held, acq.pool = l.acq.pool →
    acq.tunnel.confName ≠ l.acq.tunnel.confName

/-- When goroutine `i` asks for a tunnel of the lease's pool, the slot holds the leased cell, or one of
another configuration, or none; when it looks for the configuration to exclude, the slot holds the
leased cell. -/
def SeesLeased (i : Nat) (l : Issued) (e : Edge State Action) : Prop :=
  e.action.thread = some i → ∀ pc ∈ actor e,
    (pc.asks = some l.acq.pool → ∀ t ∈ e.source.shared.slot l.acq.pool,
      t.containerID = l.acq.tunnel.containerID ∨ t.confName ≠ l.acq.tunnel.confName) ∧
    (pc.excludes = some l.acq.pool → ∃ t ∈ e.source.shared.slot l.acq.pool,
      t.containerID = l.acq.tunnel.containerID)

instance (i : Nat) (l : Issued) (s : State) : Decidable (HoldsOther i l s) :=
  inferInstanceAs (Decidable (∀ pc ∈ s.threads[i]?, ∀ acq ∈ pc.held, acq.pool = l.acq.pool →
    acq.tunnel.confName ≠ l.acq.tunnel.confName))

instance (i : Nat) (l : Issued) (e : Edge State Action) : Decidable (SeesLeased i l e) :=
  inferInstanceAs (Decidable (e.action.thread = some i → ∀ pc ∈ actor e,
    (pc.asks = some l.acq.pool → ∀ t ∈ e.source.shared.slot l.acq.pool,
      t.containerID = l.acq.tunnel.containerID ∨ t.confName ≠ l.acq.tunnel.confName) ∧
    (pc.excludes = some l.acq.pool → ∃ t ∈ e.source.shared.slot l.acq.pool,
      t.containerID = l.acq.tunnel.containerID)))

/-! A lease records the URL of the tunnel it is issued for. -/

section LeasedURL

/-- The acquisition a request is leasing, with the URL that the lease will record. -/
def Pc.leasing : Pc → Option (Acquisition × URL)
  | .assign acq (.leaseParts url) => some (acq, url)
  | .assign acq (.issueClock url _ _) => some (acq, url)
  | .assign acq (.issue url _ _ _) => some (acq, url)
  | _ => none

variable {s s' : Shared} {answer : Answer} {pc : Pc} {ret : pc.call.Ret} {k : Acquisition × URL}

theorem proxyURL_of_leasing_assign (h : (assign acq).leasing = some k) :
    k.1.tunnel.proxyURL = some k.2 := by
  unfold assign at h
  split at h
  · cases h
  · next t url hleasable =>
      cases h
      unfold leasable at hleasable
      simp only at hleasable
      split at hleasable
      · cases hleasable
      · split at hleasable
        · cases hleasable
        · cases hleasable
          assumption

theorem leasing_resume (hexec : exec m s pc.call answer = some (s', ret))
    (hk : (resume m pc ret).leasing = some k) :
    pc.leasing = some k ∨ k.1.tunnel.proxyURL = some k.2 := by
  cases pc with
  | acquire a stage =>
      cases stage with
      | tryHot =>
          rcases ret with err | t
          · simp only [resume] at hk
            split at hk <;> cases hk
          · exact .inr (proxyURL_of_leasing_assign hk)
      | unlockOk mu acq => exact .inr (proxyURL_of_leasing_assign hk)
      | unlockFail mu err =>
          simp only [resume, Attempt.fail] at hk
          split at hk <;> cases hk
      | pickClock mu =>
          simp only [resume] at hk
          split at hk <;> cases hk
      | recheck mu | pickConf mu now exclude | create mu conf | waitReady mu conf containerID =>
          rcases ret with _ | _ <;> cases hk
      | _ => cases hk
  | assign acq stage =>
      cases stage with
      | leaseParts url =>
          rcases ret with _ | ⟨leaseID, secret⟩
          · cases hk
          · exact .inl hk
      | issueClock url leaseID secret => exact .inl hk
      | _ => cases hk
  | gateway u p stage =>
      cases stage with
      | lookup use now =>
          rcases ret with _ | record
          · cases hk
          · cases use <;> cases hk
      | reserve now record => rcases ret with _ | _ <;> cases hk
      | dial acq => cases ret <;> cases hk
      | _ => cases hk
  | _ =>
      have hbackground := isBackground_resume hexec rfl
      generalize resume m _ ret = pc' at hk hbackground
      cases pc' <;> first | cases hk | cases hbackground

theorem leasing_start (entry : Entry) : entry.start.leasing = none := by
  cases entry with
  | reapOrphans names | close names => cases names <;> rfl
  | _ => rfl

theorem leasing_of_path {s : State} (hpath : Path (step m) (init m) es s) :
    ∀ pc ∈ s.threads, ∀ k, pc.leasing = some k → k.1.tunnel.proxyURL = some k.2 := by
  refine hpath.invariant (fun s => ∀ pc ∈ s.threads, ∀ k, pc.leasing = some k →
    k.1.tunnel.proxyURL = some k.2) (by simp [init]) fun e _ hbefore hstep => ?_
  refine forall_mem_threads_of_step hstep hbefore (fun _ hpc => hpc) ?_ ?_
  · intro entry _ _ k hk
    simp [leasing_start] at hk
  · intro i answer pc ret _ hpc hexec k hk
    exact (leasing_resume hexec hk).elim (hbefore pc (List.mem_of_getElem? hpc) k) id

theorem proxyURL_of_mem_leasesOf {s : State} (hpath : Path (step m) (init m) es s)
    (hl : l ∈ leasesOf m es) : l.acq.tunnel.proxyURL = some l.url := by
  obtain ⟨e, he, hissue⟩ := List.mem_filterMap.mp hl
  obtain ⟨pc, hpc, hissue⟩ := Option.bind_eq_some_iff.mp hissue
  obtain ⟨front, back, rfl⟩ := List.append_of_mem he
  have hleasing : pc.leasing = some (l.acq, l.url) := by
    cases pc with
    | assign acq stage =>
        cases stage with
        | issue url leaseID secret now =>
            cases hissue
            rfl
        | _ => cases hissue
    | acquire a stage | gateway u p stage | reaper stage | orphan stage | destroy containerID stage
    | close stage | markFailed pool confName stage => cases stage <;> cases hissue
    | _ => cases hissue
  exact leasing_of_path hpath.split.1 pc (mem_threads_of_actor hpc) _ hleasing

end LeasedURL

/-- Picking takes none of the excluded configurations. -/
theorem exec_pickConf_not_mem {s s' : Shared} {answer : Answer} {pool conf : String} {now : Int}
    {exclude : List String}
    (hexec : exec m s (.pickConf pool now exclude) answer = some (s', .ok conf)) :
    conf ∉ exclude := by
  cases answer with
  | draw n =>
      have hret := congrArg Prod.snd (Option.some.inj hexec)
      unfold Shared.onPool at hret
      split at hret
      · cases hret
      · next p hp =>
          have hmem := p.mem_candidates_of_pickConf hret
          exact ((PoolState.mem_candidates_iff _).mp hmem).2.2
  | _ => cases hexec

section Avoids

variable {pool conf : String} {url : URL}

/-- From the exclusion on, the configuration is kept out at every stage of the spawn. -/
def AcquireStage.Avoids (conf : String) : AcquireStage → Prop
  | .pickConf _ _ exclude => conf ∈ exclude
  | .create _ picked => picked ≠ conf
  | .waitReady _ picked _ => picked ≠ conf
  | .readyClock _ picked _ _ _ => picked ≠ conf
  | .useClock _ t => t.confName ≠ conf
  | .publish _ t _ => t.confName ≠ conf
  | _ => True

/-- A request that excludes `url`, as long as it is served by the pool, is on its way to a tunnel of
another configuration. -/
def Pc.Avoids (pool conf : String) (url : URL) : Pc → Prop
  | .acquire a stage =>
      a.excludeProxy = some url ∧ (a.state = pool → stage.Avoids conf) ∧
        ∀ acq ∈ (Pc.acquire a stage).held, acq.pool = pool → acq.tunnel.confName ≠ conf
  | .gateway _ _ _ => False
  | pc => ∀ acq ∈ pc.held, acq.pool = pool → acq.tunnel.confName ≠ conf

theorem avoids_assign (h : acq.pool = pool → acq.tunnel.confName ≠ conf) :
    (assign acq).Avoids pool conf url := by
  unfold assign
  split <;> exact fun acq' hacq => Option.some.inj hacq ▸ h

theorem avoids_of_isBackground (h : pc.isBackground = true) : pc.Avoids pool conf url := by
  cases pc with
  | acquire a stage | assign acq stage | gateway u p stage => cases h
  | reaper stage | orphan stage | destroy containerID stage | close stage
  | markFailed pool confName stage => exact fun acq hacq => by cases hacq
  | done | failed err => exact fun acq hacq => by cases hacq

theorem Pc.Avoids.held (h : pc.Avoids pool conf url) (hacq : pc.held = some acq)
    (hpool : acq.pool = pool) : acq.tunnel.confName ≠ conf := by
  cases pc with
  | acquire a stage => exact h.2.2 acq hacq hpool
  | gateway u p stage => exact h.elim
  | _ => exact h acq hacq hpool

variable {s s' : Shared} {answer : Answer}

theorem isExcluded_of_proxyURL {t : Tunnel} (h : t.proxyURL = some url) :
    t.isExcluded (some url) = true := by
  simp [Tunnel.isExcluded, h, sameURL]

/-- A request that asks for the hot tunnel is not given one of the configuration, if what it may find
in the slot of the pool is the excluded cell or a cell of another configuration. -/
theorem confName_of_acquire {a : Attempt} {ret : Except CtxError Tunnel}
    (hexec : exec m s (.acquire a.state a.excludeProxy) answer = some (s', ret))
    (hurl : a.excludeProxy = some url)
    (hasks : a.state = pool → ∀ u, s.slot pool = some u → u.proxyURL = some url ∨ u.confName ≠ conf)
    (t : Tunnel) (hret : ret = .ok t) (hpool : a.state = pool) : t.confName ≠ conf := by
  obtain ⟨u, hslot, -, hexcluded, hret'⟩ | ⟨err, herr, -⟩ := exec_acquire hexec
  · rw [hret] at hret'
    cases hret'
    obtain hsame | hother := hasks hpool u (hpool ▸ hslot)
    · rw [hurl, isExcluded_of_proxyURL hsame] at hexcluded
      cases hexcluded
    · exact hother
  · rw [hret] at herr
    cases herr

theorem avoids_resume {ret : pc.call.Ret} (h : pc.Avoids pool conf url)
    (hexec : exec m s pc.call answer = some (s', ret))
    (hasks : pc.asks = some pool → ∀ u, s.slot pool = some u →
      u.proxyURL = some url ∨ u.confName ≠ conf)
    (hexcludes : pc.excludes = some pool → ∃ u, s.slot pool = some u ∧ u.proxyURL = some url ∧
      u.confName = conf) : (resume m pc ret).Avoids pool conf url := by
  cases pc with
  | acquire a stage =>
      obtain ⟨hurl, hstage, hheld⟩ := h
      have hnone : ∀ stage' : AcquireStage, (Pc.acquire a stage').held = none →
          (a.state = pool → stage'.Avoids conf) → (Pc.acquire a stage').Avoids pool conf url :=
        fun stage' hnone hstage' => ⟨hurl, hstage', by simp [hnone]⟩
      cases stage with
      | tryHot =>
          have hconf := confName_of_acquire hexec hurl fun hpool => hasks (hpool ▸ rfl)
          rcases ret with err | t
          · simp only [resume]
            split
            · exact avoids_of_isBackground rfl
            · exact hnone .mutexFor rfl fun _ => trivial
          · exact avoids_assign (hconf t rfl)
      | recheck mu =>
          have hconf := confName_of_acquire hexec hurl fun hpool => hasks (hpool ▸ rfl)
          rcases ret with err | t
          · exact hnone (.pickClock mu) rfl fun _ => trivial
          · refine ⟨hurl, fun _ => trivial, fun acq hacq => ?_⟩
            cases hacq
            exact hconf t rfl
      | pickClock mu =>
          simp only [resume, hurl, Option.isSome_some, if_true]
          exact hnone (.excludeConfs mu ret) rfl fun _ => trivial
      | excludeConfs mu now =>
          refine hnone _ rfl fun hpool => ?_
          obtain ⟨u, hslot, hsame, rfl⟩ := hexcludes (hpool ▸ rfl)
          obtain rfl : s.slot a.state = ret := congrArg Prod.snd (Option.some.inj hexec)
          simp [AcquireStage.Avoids, excludeConfsFor, hpool, hslot, hurl,
            isExcluded_of_proxyURL hsame]
      | pickConf mu now exclude =>
          rcases ret with err | picked
          · exact hnone (.unlockFail mu err) rfl fun _ => trivial
          · refine hnone (.create mu picked) rfl fun hpool hsame => ?_
            exact exec_pickConf_not_mem hexec (hsame ▸ hstage hpool)
      | create mu picked =>
          rcases ret with reason | containerID
          · exact hnone (.failClock mu picked reason) rfl fun _ => trivial
          · exact hnone (.waitReady mu picked containerID) rfl hstage
      | waitReady mu picked containerID =>
          rcases ret with reason | ⟨addr, gatewayAddr⟩
          · exact hnone (.abandon mu picked containerID reason) rfl fun _ => trivial
          · exact hnone (.readyClock mu picked containerID addr gatewayAddr) rfl hstage
      | readyClock mu picked containerID addr gatewayAddr => exact hnone _ rfl hstage
      | useClock mu t => exact hnone _ rfl hstage
      | publish mu t now =>
          refine ⟨hurl, fun _ => trivial, fun acq hacq hpool => ?_⟩
          cases hacq
          exact hstage hpool
      | unlockOk mu acq => exact avoids_assign (hheld acq rfl)
      | unlockFail mu err =>
          simp only [resume, Attempt.fail]
          split
          · exact avoids_of_isBackground rfl
          · exact ⟨hurl, fun _ => trivial, fun acq hacq => by cases hacq⟩
      | _ => exact hnone _ rfl fun _ => trivial
  | assign acq stage =>
      cases stage with
      | leaseParts url' => rcases ret with _ | ⟨leaseID, secret⟩ <;> exact h
      | release => exact avoids_of_isBackground rfl
      | _ => exact h
  | gateway u p stage => exact h.elim
  | _ => exact avoids_of_isBackground (isBackground_resume hexec rfl)

end Avoids

theorem avoids_of_resolves {front : List (Edge State Action)} {e : Edge State Action}
    (h : Resolves m front e i l) (hstep : step m e.source e.action = some e.target) :
    ∃ q, e.target.threads[i]? = some q ∧ q.Avoids l.acq.pool l.acq.tunnel.confName l.url := by
  obtain ⟨pc, hpc, hfound⟩ := h.found
  rw [actor_of_thread h.thread] at hpc
  obtain ⟨answer, ret, hexec, -, hresume⟩ := turn_of_step hstep h.thread hpc
  refine ⟨_, hresume, ?_⟩
  unfold Pc.resolves at hfound
  split at hfound
  · next u p poolName fallbackOK now =>
      obtain ⟨record, hrecord, hpair⟩ := Option.map_eq_some_iff.mp hfound
      obtain ⟨-, rfl⟩ := Prod.mk.inj hpair
      obtain rfl : (e.source.shared.leases.lookup now u p).1 = ret :=
        congrArg Prod.snd (Option.some.inj hexec)
      rw [hrecord]
      exact ⟨rfl, fun _ => trivial, fun acq hacq => by cases hacq⟩
  · cases hfound

theorem avoids_step {s t : State} {a : Action} {q : Pc} (hissuance : Issuance m es s)
    (hl : l ∈ leasesOf m es) (hurl : l.acq.tunnel.proxyURL = some l.url)
    (hq : s.threads[i]? = some q) (h : q.Avoids l.acq.pool l.acq.tunnel.confName l.url)
    (hsees : SeesLeased i l ⟨s, a, t⟩) (hstep : step m s a = some t) :
    ∃ q', t.threads[i]? = some q' ∧ q'.Avoids l.acq.pool l.acq.tunnel.confName l.url := by
  -- the leased cell is recognised by its container
  have hsame : ∀ u, s.shared.slot l.acq.pool = some u →
      u.containerID = l.acq.tunnel.containerID → u.cell = l.acq.tunnel.cell := by
    intro u hu hid
    obtain ⟨book, hbook⟩ := hissuance.cells
    rw [← hbook.slot _ u hu, hid, hbook.issued l hl]
  have hsameURL : ∀ u, s.shared.slot l.acq.pool = some u →
      u.containerID = l.acq.tunnel.containerID → u.proxyURL = some l.url :=
    fun u hu hid => (congrArg Cell.proxyURL (hsame u hu hid)).trans hurl
  refine follow_step hstep hq h fun hi answer s' ret hexec => ?_
  obtain ⟨hasks, hexcludes⟩ := hsees hi q ((actor_of_thread hi).trans hq)
  refine avoids_resume h hexec (fun hpool u hu => ?_) fun hpool => ?_
  · exact (hasks hpool u hu).imp_left (hsameURL u hu)
  · obtain ⟨u, hu, hid⟩ := hexcludes hpool
    exact ⟨u, hu, hsameURL u hu hid, congrArg Cell.confName (hsame u hu hid)⟩

theorem avoids_of_path {front fs : List (Edge State Action)} {e : Edge State Action}
    (hfront : Path (step m) (init m) front e.source)
    (hstep : step m e.source e.action = some e.target) (hresolves : Resolves m front e i l)
    (hfs : Path (step m) e.target fs s) (hsees : ∀ f ∈ fs, SeesLeased i l f) :
    ∃ q, s.threads[i]? = some q ∧ q.Avoids l.acq.pool l.acq.tunnel.confName l.url := by
  have hurl := proxyURL_of_mem_leasesOf hfront hresolves.issued
  refine (hfs.history (fun fs u => (Issuance m (front ++ [e] ++ fs) u ∧
    l ∈ leasesOf m (front ++ [e] ++ fs)) ∧
    ∃ q, u.threads[i]? = some q ∧ q.Avoids l.acq.pool l.acq.tunnel.confName l.url) ?_ ?_).2
  · rw [List.append_nil]
    exact ⟨⟨issuance_step (issuance_of_path hfront) hstep, mem_leasesOf_append e hresolves.issued⟩,
      avoids_of_resolves hresolves hstep⟩
  · rintro gs u a v ⟨⟨hissuance, hl⟩, q, hq, havoids⟩ huv hmem
    rw [← List.append_assoc]
    exact ⟨⟨issuance_step hissuance huv, mem_leasesOf_append _ hl⟩,
      avoids_step hissuance hl hurl hq havoids (hsees _ hmem) huv⟩

/-- A request that excludes a lease of the pool it asks for, and that sees the leased cell in the
slot, or while it asks for a hot tunnel one of another configuration or none, is not served from that
pool with the configuration of the leased cell. -/
theorem excluded_conf_not_served (m : Setup) (actions : List Action) (j : Nat)
    (e : Edge State Action) (he : (run m actions)[j]? = some e) (i : Nat) (l : Issued)
    (hresolves : Resolves m ((run m actions).take j) e i l)
    (hsees : ∀ f ∈ (run m actions).drop (j + 1), SeesLeased i l f) :
    ∀ f ∈ (run m actions).drop (j + 1), HoldsOther i l f.target := by
  intro f hf pc hpc acq hacq hpool
  obtain ⟨s, hpath⟩ := exists_path_run m actions
  obtain ⟨hfront, hstep, hback⟩ := hpath.cut he
  obtain ⟨fs, hfs, hsub⟩ := hback.upTo hf
  obtain ⟨q, hq, havoids⟩ := avoids_of_path hfront hstep hresolves hfs fun g hg => hsees g (hsub hg)
  obtain rfl : q = pc := Option.some.inj (hq.symm.trans hpc)
  exact havoids.held hacq hpool

open Schedule in
/-- The lease of a cell is excluded while the cell is in the slot, and the other configuration of the
pool is served. -/
theorem excluded_conf_not_served_rotated :
    let actions := .start (.proxy "de" none false) :: ready 0 0 "x" ++ go 0 2 ++ lease 0 1 2 ++
      .start (.lease (leasePart 1) (leasePart 2) (.exclude "de" false)) :: go 1 8 ++
      spawn 1 0 "y" ++ go 1 2 ++ lease 1 3 4
    ∃ e ∈ (run setup actions)[20]?, ∃ l, Resolves setup ((run setup actions).take 20) e 1 l ∧
      (∀ f ∈ (run setup actions).drop 21, SeesLeased 1 l f) ∧
        ∀ f ∈ (run setup actions).drop 21, HoldsOther 1 l f.target := by
  intro actions
  have hrun : ∃ e ∈ (run setup actions)[20]?,
      ∃ l ∈ leasesOf setup ((run setup actions).take 20), e.action.thread = some 1 ∧
        (∃ pc ∈ actor e, pc.resolves e.source.shared = some (l.acq.pool, l.record)) ∧
        ∀ f ∈ (run setup actions).drop 21, SeesLeased 1 l f := by
    decide +kernel
  obtain ⟨e, he, l, hl, hthread, hfound, hsees⟩ := hrun
  have hresolves : Resolves setup ((run setup actions).take 20) e 1 l := ⟨hthread, hl, hfound⟩
  exact ⟨e, he, l, hresolves, hsees,
    excluded_conf_not_served setup actions 20 e he 1 l hresolves hsees⟩

open Schedule in
/-- The leased cell is reaped for idleness before its lease is excluded: the slot is empty, nothing is
ruled out, and the configuration is served again. -/
theorem not_excluded_conf_not_served :
    let actions := .start (.proxy "de" none false) :: ready 0 0 "x" ++ go 0 2 ++ lease 0 1 2 ++
      [.tick 600000000000, .start (.reapIdle ["de"])] ++ steps 1 [.ok, .handles [], .ok] ++
      go 1 3 ++ .start (.lease (leasePart 1) (leasePart 2) (.exclude "de" false)) :: go 2 8 ++
      spawn 2 0 "y" ++ go 2 2
    ¬∀ (j : Nat) (e : Edge State Action), (run setup actions)[j]? = some e → ∀ (i : Nat) (l : Issued),
      Resolves setup ((run setup actions).take j) e i l →
        ∀ f ∈ (run setup actions).drop (j + 1), HoldsOther i l f.target := by
  intro actions hother
  have hserved : ∃ e ∈ (run setup actions)[28]?,
      ∃ l ∈ leasesOf setup ((run setup actions).take 28), e.action.thread = some 2 ∧
        (∃ pc ∈ actor e, pc.resolves e.source.shared = some (l.acq.pool, l.record)) ∧
        ∃ f ∈ (run setup actions).drop 29, ¬HoldsOther 2 l f.target := by
    decide +kernel
  obtain ⟨e, he, l, hl, hthread, hfound, f, hf, hsame⟩ := hserved
  exact hsame (hother 28 e he 2 l ⟨hthread, hl, hfound⟩ f hf)

end Pr0xteus
