import Pr0xteus.Proof.Acquire
import Pr0xteus.Proof.Turn

/-!
# What the health timestamp stands for

`HealthyAt` is written when a tunnel is spawned and when a tick finds it healthy. A tick that has a
control URL asks the cell. A tick that has none, because the listing failed or does not show the
cell, goes by the age of `HealthyAt` itself, and then refreshes it: a cell nobody can reach stays hot
for as long as the ticks come often enough.
-/

namespace Pr0xteus

open GoTime Transition

variable {m : Setup} {pc : Pc} {t : Tunnel} {es : List (Edge State Action)} {pool : String}
  {k : String × Tunnel} {s : State} {ret : pc.call.Ret}

/-- The cell of the tunnel that tick `i` asks about answers `/healthz` with 200. -/
def Answers (e : Edge State Action) (i : Nat) (k : String × Tunnel) : Prop :=
  e.action = .step i .ok ∧ ∃ pc ∈ e.source.threads[i]?, pc.probes = some k

def Confirms (e : Edge State Action) (i : Nat) (k : String × Tunnel) : Prop :=
  e.action.thread = some i ∧ ∃ pc ∈ e.source.threads[i]?, pc.confirms = some k

/-- At `now` a tick confirmed the container, having had a 200 from it. -/
def ConfirmedAt (es : List (Edge State Action)) (containerID : String) (now : Int) : Prop :=
  ∃ front e back i k, es = front ++ e :: back ∧ e.source.shared.now = now ∧
    k.2.containerID = containerID ∧ Confirms e i k ∧ ∃ f ∈ front, Answers f i k

/-- A tick that has to go by the age finds the tunnel too old. -/
def AgesOut (m : Setup) (e : Edge State Action) : Prop :=
  ∀ pc ∈ actor e, ∀ t ∈ pc.ages, m.cfg.healthHandshakeMaxAge < sub e.source.shared.now t.healthyAt

instance (e : Edge State Action) : Decidable (AgesOut m e) :=
  inferInstanceAs (Decidable (∀ pc ∈ actor e, ∀ t ∈ pc.ages,
    m.cfg.healthHandshakeMaxAge < sub e.source.shared.now t.healthyAt))

/-- Every timestamp in a slot is the spawn's or that of a tick with a 200. -/
def Timestamps (es : List (Edge State Action)) (s : State) : Prop :=
  ∀ pool, ∀ t ∈ s.shared.slot pool,
    t.healthyAt = t.spawnedAt ∨ ConfirmedAt es t.containerID t.healthyAt

/-- The tunnel is past the maximum age, counted from its spawn and from every 200. -/
def Stale (m : Setup) (es : List (Edge State Action)) (now : Int) (t : Tunnel) : Prop :=
  m.cfg.healthHandshakeMaxAge < sub now t.spawnedAt ∧
    ∀ at', ConfirmedAt es t.containerID at' → m.cfg.healthHandshakeMaxAge < sub now at'

theorem ConfirmedAt.append {es fs : List (Edge State Action)} {containerID : String} {now : Int}
    (h : ConfirmedAt es containerID now) : ConfirmedAt (es ++ fs) containerID now := by
  obtain ⟨front, e, back, i, k, rfl, hrest⟩ := h
  exact ⟨front, e, back ++ fs, i, k, by simp, hrest⟩

section Exec

variable {s s' : Shared} {answer : Answer}

theorem exec_healthyAt {c : Call} {ret : c.Ret} (hexec : exec m s c answer = some (s', ret))
    {t' : Tunnel} (hslot : s'.slot pool = some t') :
    c = .setTunnel pool (some t') ∨
      ∃ t, s.slot pool = some t ∧ t'.containerID = t.containerID ∧ t'.spawnedAt = t.spawnedAt ∧
        (t'.healthyAt = t.healthyAt ∨
          c = .confirmHealthy pool t.containerID ∧ t'.healthyAt = s.now) := by
  by_cases hset : ∃ target tunnel, c = .setTunnel target tunnel
  · obtain ⟨target, tunnel, rfl⟩ := hset
    rw [slot_exec_setTunnel hexec] at hslot
    split at hslot
    · next hpool => exact .inl (by rw [hpool.1, hslot])
    · exact .inr ⟨t', hslot, rfl, rfl, .inl rfl⟩
  · rw [slot_exec hexec fun target tunnel h => hset ⟨target, tunnel, h⟩,
      Option.map_eq_some_iff] at hslot
    obtain ⟨t, hslot, rfl⟩ := hslot
    refine .inr ⟨t, hslot, ?_⟩
    cases c with
    | confirmHealthy target containerID =>
        simp only [Call.revise]
        split
        · next h =>
            obtain ⟨rfl, rfl⟩ := h
            exact ⟨rfl, rfl, .inr ⟨rfl, rfl⟩⟩
        · exact ⟨rfl, rfl, .inl rfl⟩
    | release target =>
        simp only [Call.revise, Tunnel.released]
        split
        · split <;> exact ⟨rfl, rfl, .inl rfl⟩
        · exact ⟨rfl, rfl, .inl rfl⟩
    | _ =>
        first
        | exact ⟨rfl, rfl, .inl rfl⟩
        | simp only [Call.revise]
          split <;> exact ⟨rfl, rfl, .inl rfl⟩

theorem confirms_of_call {pool containerID : String}
    (h : pc.call = .confirmHealthy pool containerID) :
    ∃ t, pc.confirms = some (pool, t) ∧ t.containerID = containerID := by
  cases pc with
  | reaper stage =>
      cases stage with
      | healthConfirm urls names pool' t =>
          cases h
          exact ⟨t, rfl, rfl⟩
      | _ => cases h
  | acquire a stage | assign acq stage | gateway u p stage => cases stage <;> cases h
  | orphan stage | destroy containerID stage | close stage | markFailed pool confName stage =>
      cases stage <;> cases h
  | _ => cases h

theorem readied_of_call (h : pc.call = .setTunnel pool (some t)) :
    ∃ t' now, pc.readied = some t' ∧ t = t'.firstUse pool now := by
  cases pc with
  | acquire a stage =>
      cases stage with
      | publish mu t' now =>
          cases h
          exact ⟨t', now, rfl, rfl⟩
      | _ => cases h
  | assign acq stage | gateway u p stage => cases stage <;> cases h
  | reaper stage | orphan stage | destroy containerID stage | close stage
  | markFailed pool confName stage => cases stage <;> cases h
  | _ => cases h

theorem isBusy_of_confirms (h : pc.confirms = some k) : pc.isBusy = true := by
  unfold Pc.confirms at h
  split at h <;> first | rfl | cases h

/-- A tick comes to write the timestamp by a 200, or by finding the tunnel young. -/
theorem confirms_resume (hexec : exec m s pc.call answer = some (s', ret))
    (hk : (resume m pc ret).confirms = some k) :
    pc.probes = some k ∧ answer = .ok ∨
      pc.ages = some k.2 ∧ sub s.now k.2.healthyAt ≤ m.cfg.healthHandshakeMaxAge := by
  have hbusy := isBusy_of_confirms hk
  have hnext := (backgroundNext_of_isBusy hexec hbusy).2
  generalize resume m pc ret = pc' at hnext hk
  cases hnext with
  | probeConfirm urls pool names t url hanswer => exact .inl ⟨hk, hanswer⟩
  | ageConfirm urls pool names t hage =>
      cases hk
      exact .inr ⟨rfl, hage⟩
  | _ => cases hk

theorem isOutside_of_readied (h : pc.readied = some t) : pc.isOutside = false := by
  unfold Pc.readied at h
  split at h <;> first | rfl | cases h

theorem readied_resume (hexec : exec m s pc.call answer = some (s', ret))
    (ht : (resume m pc ret).readied = some t) :
    pc.readied = some t ∨ t.healthyAt = t.spawnedAt := by
  have hinside := isOutside_of_readied ht
  obtain ⟨a, stage, rfl, hnext⟩ := acquireNext_of_inside hexec hinside
  generalize resume m _ ret = pc' at hnext ht
  cases hnext with
  | spawned mu conf containerID addr gatewayAddr =>
      cases ht
      exact .inr rfl
  | stamped mu t' now => exact .inl ht
  | _ => cases ht

end Exec

/-- The invariant of a run in which every age verdict is negative: who writes a timestamp has had a
200, and the timestamps are what they should be, in the slots and before. -/
structure HealthHistory (es : List (Edge State Action)) (s : State) : Prop where
  confirms : ∀ (i : Nat) (pc : Pc), s.threads[i]? = some pc → ∀ k ∈ pc.confirms,
    ∃ f ∈ es, Answers f i k
  slots : Timestamps es s
  readied : ∀ pc ∈ s.threads, ∀ t ∈ pc.readied, t.healthyAt = t.spawnedAt

theorem timestamps_step {s t : State} {a : Action} (h : HealthHistory es s)
    (hstep : step m s a = some t) : Timestamps (es ++ [⟨s, a, t⟩]) t := by
  cases step_cases hstep with
  | tick | start => exact fun pool t ht => (h.slots pool t ht).imp_right fun hc => hc.append
  | turn i answer pc shared ret hpc hexec =>
      intro pool t' ht'
      obtain hcall | ⟨t, hslot, hid, hspawned, hhealthy⟩ := exec_healthyAt hexec ht'
      · -- a published tunnel still has the timestamps of its spawn
        obtain ⟨t, now, hreadied, rfl⟩ := readied_of_call hcall
        exact .inl (h.readied pc (List.mem_of_getElem? hpc) t hreadied)
      · rw [hid, hspawned]
        obtain hsame | ⟨hcall, hnow⟩ := hhealthy
        · rw [hsame]
          exact (h.slots pool t hslot).imp_right fun hc => hc.append
        · obtain ⟨t₀, hconfirms, hid₀⟩ := confirms_of_call hcall
          obtain ⟨f, hf, hanswers⟩ := h.confirms i pc hpc _ hconfirms
          exact .inr ⟨es, _, [], i, (pool, t₀), rfl, hnow.symm, hid₀, ⟨rfl, pc, hpc, hconfirms⟩, f,
            hf, hanswers⟩

theorem healthHistory_step {s t : State} {a : Action} (h : HealthHistory es s)
    (hages : AgesOut m ⟨s, a, t⟩) (hstep : step m s a = some t) :
    HealthHistory (es ++ [⟨s, a, t⟩]) t := by
  refine ⟨?_, timestamps_step h hstep, ?_⟩
  · refine forall_threads_of_step hstep h.confirms ?_ ?_ ?_
    · intro i pc hpc k hk
      obtain ⟨f, hf, hanswers⟩ := hpc k hk
      exact ⟨f, List.mem_append_left _ hf, hanswers⟩
    · intro i entry _ _ k hk
      have hbusy := isBusy_of_confirms hk
      simp at hbusy
    · intro i answer pc ret haction hpc hexec k hk
      subst haction
      obtain ⟨hprobes, rfl⟩ | ⟨hold, hage⟩ := confirms_resume hexec hk
      · exact ⟨_, List.mem_append_right _ (List.mem_singleton.mpr rfl), rfl, pc, hpc, hprobes⟩
      · exact absurd (hages pc hpc k.2 hold) (Int64.not_lt.mpr hage)
  · refine forall_mem_threads_of_step hstep h.readied (fun _ h => h) ?_ ?_
    · intro entry _ _ t ht
      have hinside := isOutside_of_readied ht
      simp at hinside
    · intro i answer pc ret _ hpc hexec t ht
      exact (readied_resume hexec ht).elim (h.readied pc (List.mem_of_getElem? hpc) t) id

theorem healthHistory_of_path (hpath : Path (step m) (init m) es s) (hages : ∀ e ∈ es, AgesOut m e) :
    HealthHistory es s := by
  refine hpath.history HealthHistory ⟨by simp [init], fun pool t ht => ?_, by simp [init]⟩
    fun fs u a v hist hstep hmem => healthHistory_step hist (hages _ hmem) hstep
  rw [slot_init] at ht
  cases ht

/-- The two ways an examination ends: the confirmation and the clear. -/
theorem examines_end (hk : pc.examines = some k) (hend : (resume m pc ret).examines = none) :
    pc.confirms = some k ∨ pc.call = .setTunnel k.1 none := by
  unfold Pc.examines at hk
  split at hk
  · cases hk
    cases ret <;> cases hend
  · cases hk
    simp only [resume] at hend
    split at hend <;> cases hend
  · exact .inl hk
  · cases hk
    cases hend
  · cases hk
    cases hend
  · cases hk
    cases hend
  · cases hk
    cases hend
  · cases hk
    exact .inr rfl
  · cases hk

theorem examines_of_hot {s s' : Shared} {answer : Answer} {urls : String → Option Encoding.URL}
    {names : List String} {ret : (Pc.reaper (.healthPool urls pool names)).call.Ret}
    (hexec : exec m s (Pc.reaper (.healthPool urls pool names)).call answer = some (s', ret))
    (hslot : s.slot pool = some t) (hhot : t.state = .hot) :
    (resume m (.reaper (.healthPool urls pool names)) ret).examines = some (pool, t) := by
  obtain rfl : s.slot pool = ret := congrArg Prod.snd (Option.some.inj hexec)
  simp only [hslot, resume, hhot]
  split
  · next hne => exact absurd rfl hne
  · split <;> rfl

def EndsExamination (e : Edge State Action) (i : Nat) (k : String × Tunnel) : Prop :=
  e.action.thread = some i ∧ (∃ pc ∈ e.source.threads[i]?, pc.examines = some k) ∧
    ∃ pc ∈ e.target.threads[i]?, pc.examines = none

def ComesTo (e : Edge State Action) (i : Nat) (pool : String) : Prop :=
  e.action.thread = some i ∧
    ∃ urls names, e.source.threads[i]? = some (.reaper (.healthPool urls pool names))

/-- A tick examines every hot tunnel it comes to. -/
def ExaminesHot (e : Edge State Action) : Prop :=
  ∀ i pool, ComesTo e i pool → ∀ t ∈ e.source.shared.slot pool, t.state = .hot →
    ∃ pc ∈ e.target.threads[i]?, pc.examines = some (pool, t)

/-- A tick that is through with a tunnel has not left it hot if it is stale. -/
def LeavesNoneStale (m : Setup) (front : List (Edge State Action)) (e : Edge State Action) : Prop :=
  ∀ i k, EndsExamination e i k → ∀ t ∈ e.target.shared.slot k.1,
    t.containerID = k.2.containerID → Stale m (front ++ [e]) e.target.shared.now t → t.state ≠ .hot

/-- In a run where every tick that has to go by the age finds the tunnel too old, and the maximum age
is not negative, the timestamps are those of spawns and of ticks with a 200. A tick examines every
hot tunnel it comes to, and does not leave one hot that is stale by its spawn and by every 200. -/
theorem healthyAt_of_ticks (m : Setup) (actions : List Action)
    (hmax : 0 ≤ m.cfg.healthHandshakeMaxAge) (hages : ∀ e ∈ run m actions, AgesOut m e) :
    ∀ front e back, run m actions = front ++ e :: back →
      Timestamps (front ++ [e]) e.target ∧ ExaminesHot e ∧ LeavesNoneStale m front e := by
  intro front e back hrun
  obtain ⟨s, hpath⟩ := exists_path_run m actions
  rw [hrun] at hpath hages
  obtain ⟨hfront, hstep, -⟩ := hpath.split
  have hbefore : HealthHistory front e.source := healthHistory_of_path hfront fun f hf =>
    hages f (List.mem_append_left _ hf)
  have hafter : HealthHistory (front ++ [e]) e.target :=
    healthHistory_step hbefore (hages e (by simp)) hstep
  refine ⟨hafter.slots, ?_, ?_⟩
  · rintro i pool ⟨hi, urls, names, hpc⟩ t ht hhot
    obtain ⟨answer, ret, hexec, -, hpc'⟩ := turn_of_step hstep hi hpc
    exact ⟨_, hpc', examines_of_hot hexec ht hhot⟩
  · rintro i k ⟨hi, ⟨pc, hpc, hk⟩, pc', hpc', hend⟩ t ht hid hstale
    obtain ⟨answer, ret, hexec, -, hresume⟩ := turn_of_step hstep hi hpc
    obtain rfl : resume m pc ret = pc' := Option.some.inj (hresume.symm.trans hpc')
    obtain hconfirms | hcall := examines_end hk hend
    · -- the tick has just had a 200
      obtain ⟨f, hf, hanswers⟩ := hbefore.confirms i pc hpc k hconfirms
      have hconfirmed : ConfirmedAt (front ++ [e]) t.containerID e.source.shared.now :=
        ⟨front, e, [], i, k, rfl, rfl, hid.symm, ⟨hi, pc, hpc, hconfirms⟩, f, hf, hanswers⟩
      have hlate := hstale.2 _ hconfirmed
      rw [now_exec hexec, sub_self] at hlate
      exact absurd hlate (Int64.not_lt.mpr hmax)
    · -- the slot has just been cleared
      rw [Option.mem_def, slot_exec_clear hexec hcall, if_pos rfl] at ht
      cases ht

open Schedule in
/-- A tick that has a 200 from the cell, and a later one, without a listing, that finds it too old. -/
theorem healthyAt_of_ticks_listed :
    let url : Encoding.URL := ⟨"http", none, "x:9090"⟩
    let actions := .start (.proxy "de" none false) :: ready 0 0 "x" ++ go 0 2 ++ lease 0 1 2 ++
      [.tick 120000000000, .start (.checkHealth ["de"])] ++ steps 1 [.handles [⟨"x", some url⟩]] ++
      go 1 3 ++ [.tick 181000000000, .start (.checkHealth ["de"])] ++ steps 2 [.fail "no daemon"] ++
      go 2 7
    (∀ e ∈ run setup actions, AgesOut setup e) ∧
      ∀ front e back, run setup actions = front ++ e :: back →
        Timestamps (front ++ [e]) e.target ∧ ExaminesHot e ∧ LeavesNoneStale setup front e := by
  intro url actions
  have hages : ∀ e ∈ run setup actions, AgesOut setup e := by decide +kernel
  exact ⟨hages, healthyAt_of_ticks setup actions (by decide) hages⟩

open Schedule in
/-- Without a listing, a tick two minutes after the spawn finds the tunnel young and refreshes its
timestamp, though no cell was asked; two minutes later the next tick does the same, and leaves hot a
tunnel that has been silent for longer than the maximum age. -/
theorem not_healthyAt_of_ticks :
    let es := run setup (.start (.proxy "de" none false) :: ready 0 0 "x" ++ go 0 2 ++
      lease 0 1 2 ++ [.tick 120000000000, .start (.checkHealth ["de"])] ++
      steps 1 [.fail "no daemon"] ++ go 1 3 ++
      [.tick 120000000000, .start (.checkHealth ["de"])] ++ steps 2 [.fail "no daemon"] ++ go 2 3)
    (¬∀ front e back, es = front ++ e :: back → Timestamps (front ++ [e]) e.target) ∧
      ¬∀ front e back, es = front ++ e :: back → LeavesNoneStale setup front e := by
  intro es
  have hunasked : ∀ f ∈ es, ∀ pc ∈ actor f, pc.probes = none := by decide +kernel
  have hunconfirmed : ∀ id now, ¬ConfirmedAt es id now := by
    rintro id now ⟨front, e, back, i, k, hes, -, -, -, f, hf, haction, pc, hpc, hk⟩
    have hactor : actor f = f.source.threads[i]? := by simp [actor, haction]
    rw [hunasked f (by simp [hes, hf]) pc (hactor ▸ hpc)] at hk
    cases hk
  have hstamp : ∃ e ∈ es.getLast?, ∃ t ∈ e.target.shared.slot "de", t.healthyAt ≠ t.spawnedAt := by
    decide +kernel
  have hhot : ∃ e ∈ es.getLast?, e.action.thread = some 2 ∧ ∃ pc ∈ e.source.threads[2]?,
      ∃ k ∈ pc.examines, ∃ t ∈ e.target.shared.slot k.1, t.containerID = k.2.containerID ∧
        setup.cfg.healthHandshakeMaxAge < sub e.target.shared.now t.spawnedAt ∧ t.state = .hot ∧
        ∃ pc ∈ e.target.threads[2]?, pc.examines = none := by
    decide +kernel
  constructor
  · intro hstamps
    obtain ⟨e, he, t, ht, hne⟩ := hstamp
    obtain ⟨front, hes⟩ := List.getLast?_eq_some_iff.mp he
    have htrue := hstamps front e [] hes "de" t ht
    rw [← hes] at htrue
    exact htrue.elim hne (hunconfirmed _ _)
  · intro hnone
    obtain ⟨e, he, hi, pc, hpc, k, hk, t, ht, hid, hold, hhot, hend⟩ := hhot
    obtain ⟨front, hes⟩ := List.getLast?_eq_some_iff.mp he
    refine hnone front e [] hes 2 k ⟨hi, ⟨pc, hpc, hk⟩, hend⟩ t ht hid
      ⟨hold, fun now hconfirmed => ?_⟩ hhot
    rw [← hes] at hconfirmed
    exact absurd hconfirmed (hunconfirmed _ _)

end Pr0xteus
