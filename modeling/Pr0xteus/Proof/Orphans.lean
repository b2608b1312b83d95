import Pr0xteus.Proof.Acquire
import Pr0xteus.Proof.WellFormed

/-!
# Orphan passes and spawns in progress

An orphan pass collects the containers in the slots, lists what docker knows, reads its clock and
kills what it listed, did not collect and finds old enough. A container whose spawn is in progress is
in no slot. What protects it is its age: docker reports the creation in whole seconds, the spawn has
its timeout, and the pass has the grace less the second that the truncation can cost.
-/

namespace Pr0xteus

open GoTime Transition

variable {m : Setup} {s t : State} {es : List (Edge State Action)} {containerID : String} {pc : Pc}
  {i : Nat} {e : Edge State Action} {keep : List String} {ret : pc.call.Ret}

section Order

theorem now_step {a : Action} (hstep : step m s a = some t) : s.shared.now ≤ t.shared.now := by
  cases step_cases hstep with
  | tick d => exact Int.le_add_of_nonneg_right (Int.natCast_nonneg d)
  | start entry hvisits => exact Int.le_refl _
  | turn i answer pc shared ret hpc hexec => exact Int.le_of_eq (now_exec hexec).symm

theorem now_of_path (hpath : Path (step m) s es t) : s.shared.now ≤ t.shared.now :=
  hpath.invariant (fun u => s.shared.now ≤ u.shared.now) (Int.le_refl _)
    fun _ _ hle hstep => Int.le_trans hle (now_step hstep)

theorem docker_unique (hpath : Path (step m) s es t) {e f : Edge State Action} (he : e ∈ es)
    (hf : f ∈ es) {c d : Container} (hc : e.source.shared.docker containerID = some c)
    (hd : f.source.shared.docker containerID = some d) : c = d := by
  have hend : ∀ {g : Edge State Action} {b : Container}, g ∈ es →
      g.source.shared.docker containerID = some b → t.shared.docker containerID = some b := by
    intro g b hg hb
    obtain ⟨front, back, rfl⟩ := List.append_of_mem hg
    obtain ⟨-, hstep, hback⟩ := hpath.split
    exact docker_of_path hback (docker_step hstep hb)
  exact Option.some.inj ((hend he hc).symm.trans (hend hf hd))

theorem reports_step {a : Action} {c : Summary} (hstep : step m s a = some t)
    (hc : s.shared.reports c = true) : t.shared.reports c = true := by
  unfold Shared.reports at hc ⊢
  split at hc
  · cases hc
  · next container hcontainer =>
      rw [docker_step hstep hcontainer]
      exact hc

end Order

/-- Where an orphan pass can go, and what it has seen when it goes there. -/
inductive OrphanNext (m : Setup) (s : Shared) : OrphanStage → Pc → Prop
  | collected (keep : List String) (pool : String) (names keep' : List String)
      (hsub : keep ⊆ keep')
      (hkept : ∀ t ∈ s.slot pool, t.containerID ≠ "" → t.containerID ∈ keep') :
      OrphanNext m s (.collect keep pool names) (collectNext keep' names)
  | listed (keep : List String) (listed : List Summary)
      (hreports : ∀ c ∈ listed, s.reports c = true) :
      OrphanNext m s (.list keep) (.orphan (.clock keep listed))
  | unlisted (keep : List String) : OrphanNext m s (.list keep) .done
  | chosen (keep : List String) (listed : List Summary) :
      OrphanNext m s (.clock keep listed)
        (orphanNext ((listed.filter (reapsOrphan m.cfg keep true s.now)).map Summary.id))
  | killed (containerID : String) (rest : List String) :
      OrphanNext m s (.kill containerID rest) (orphanNext rest)

section Exec

variable {s s' : Shared} {answer : Answer}

theorem orphanNext_of_exec {stage : OrphanStage} {ret : (Pc.orphan stage).call.Ret}
    (hexec : exec m s (Pc.orphan stage).call answer = some (s', ret)) :
    OrphanNext m s stage (resume m (.orphan stage) ret) := by
  cases stage with
  | collect keep pool names =>
      obtain rfl : s.slot pool = ret := congrArg Prod.snd (Option.some.inj hexec)
      simp only [resume]
      cases hslot : s.slot pool with
      | none => exact .collected keep pool names keep (List.Subset.refl _) (by simp [hslot])
      | some t =>
          dsimp only
          split
          · next hempty =>
              refine .collected keep pool names keep (List.Subset.refl _) ?_
              simp [hslot, hempty]
          · exact .collected keep pool names _ (List.subset_cons_self _ _) (by simp [hslot])
  | list keep =>
      cases answer with
      | summaries listed =>
          simp only [Pc.call, exec] at hexec
          split at hexec
          · next hall =>
              cases hexec
              exact .listed keep listed (List.all_eq_true.mp hall)
          · exact absurd hexec.symm (Option.some_ne_none _)
      | fail reason =>
          cases hexec
          exact .unlisted keep
      | _ => exact absurd hexec.symm (Option.some_ne_none _)
  | clock keep listed =>
      obtain rfl : s.now = ret := congrArg Prod.snd (Option.some.inj hexec)
      exact .chosen keep listed
  | kill containerID rest => exact .killed containerID rest

theorem orphanNext_of_task (hexec : exec m s pc.call answer = some (s', ret))
    (htask : (resume m pc ret).task = some .reapOrphans) :
    ∃ stage, pc = .orphan stage ∧ OrphanNext m s stage (resume m pc ret) := by
  obtain hsame | hthrough := task_resume (m := m) ret
  · rw [htask] at hsame
    cases pc with
    | orphan stage => exact ⟨stage, rfl, orphanNext_of_exec hexec⟩
    | _ => cases hsame
  · rw [htask] at hthrough
    cases hthrough

end Exec

/-- Pass `i` looked at the slot of the pool, and keeps what it found there. -/
def Collected (es : List (Edge State Action)) (i : Nat) (pool : String) (keep : List String) :
    Prop :=
  ∃ e ∈ es, e.action.thread = some i ∧
    (∃ keep' names, e.source.threads[i]? = some (.orphan (.collect keep' pool names))) ∧
    ∀ t ∈ e.source.shared.slot pool, t.containerID ≠ "" → t.containerID ∈ keep

/-- Pass `i` chose to kill the container: it listed it, had not collected it from any pool, and found
it old enough. -/
def Chosen (m : Setup) (es : List (Edge State Action)) (i : Nat) (containerID : String) : Prop :=
  ∃ e ∈ es, ∃ keep listed c, e.action.thread = some i ∧
    e.source.threads[i]? = some (.orphan (.clock keep listed)) ∧ c.id = containerID ∧
    e.source.shared.reports c = true ∧
    reapsOrphan m.cfg keep true e.source.shared.now c = true ∧
    ∀ pool ∈ m.poolNames, Collected es i pool keep

/-- What an orphan pass has done so far. -/
def Pc.Passing (m : Setup) (es : List (Edge State Action)) (s : Shared) (i : Nat) : Pc → Prop
  | .orphan (.collect keep pool names) =>
      ∀ q ∈ m.poolNames, q ∈ pool :: names ∨ Collected es i q keep
  | .orphan (.list keep) => ∀ q ∈ m.poolNames, Collected es i q keep
  | .orphan (.clock keep listed) =>
      (∀ q ∈ m.poolNames, Collected es i q keep) ∧ ∀ c ∈ listed, s.reports c = true
  | .orphan (.kill containerID rest) => ∀ id ∈ containerID :: rest, Chosen m es i id
  | _ => True

section Passing

variable {es : List (Edge State Action)} {e : Edge State Action} {i : Nat}

theorem Collected.append {pool : String} {keep keep' : List String} (h : Collected es i pool keep)
    (hsub : keep ⊆ keep') : Collected (es ++ [e]) i pool keep' := by
  obtain ⟨f, hf, hi, hcollect, hkept⟩ := h
  exact ⟨f, List.mem_append_left _ hf, hi, hcollect, fun t ht hid => hsub (hkept t ht hid)⟩

theorem Chosen.append (h : Chosen m es i containerID) : Chosen m (es ++ [e]) i containerID := by
  obtain ⟨f, hf, keep, listed, c, hi, hpc, hid, hreports, hreaps, hcollected⟩ := h
  exact ⟨f, List.mem_append_left _ hf, keep, listed, c, hi, hpc, hid, hreports, hreaps,
    fun pool hpool => (hcollected pool hpool).append (List.Subset.refl _)⟩

theorem Pc.Passing.append {s s' : Shared} (h : pc.Passing m es s i)
    (hreports : ∀ c, s.reports c = true → s'.reports c = true) : pc.Passing m (es ++ [e]) s' i := by
  unfold Pc.Passing at h ⊢
  split at h
  · exact fun q hq => (h q hq).imp_right fun hc => hc.append (List.Subset.refl _)
  · exact fun q hq => (h q hq).append (List.Subset.refl _)
  · exact ⟨fun q hq => (h.1 q hq).append (List.Subset.refl _), fun c hc => hreports c (h.2 c hc)⟩
  · exact fun id hid => (h id hid).append
  · trivial

theorem passing_of_task_ne {s : Shared} (h : pc.task ≠ some .reapOrphans) :
    pc.Passing m es s i := by
  cases pc with
  | orphan stage => exact absurd rfl h
  | _ => trivial

theorem passing_collectNext {keep names : List String} {s : Shared}
    (h : ∀ q ∈ m.poolNames, q ∈ names ∨ Collected es i q keep) :
    (collectNext keep names).Passing m es s i := by
  cases names with
  | nil => exact fun q hq => (h q hq).resolve_left List.not_mem_nil
  | cons pool names => exact h

theorem passing_orphanNext {ids : List String} {s : Shared} (h : ∀ id ∈ ids, Chosen m es i id) :
    (orphanNext ids).Passing m es s i := by
  cases ids with
  | nil => trivial
  | cons id rest => exact h

theorem passing_start (entry : Entry) (hvisits : entry.visitsPools m = true) {s : Shared} :
    entry.start.Passing m es s i := by
  cases entry with
  | reapOrphans names =>
      refine passing_collectNext fun q hq => .inl ?_
      exact (List.isPerm_iff.mp hvisits).mem_iff.mpr hq
  | close names => cases names <;> trivial
  | _ => trivial

theorem passing_resume {shared : Shared} {answer : Answer} (hsource : e.source = s)
    (haction : e.action = .step i answer) (hpc : s.threads[i]? = some pc)
    (hexec : exec m s.shared pc.call answer = some (shared, ret))
    (hreports : ∀ c, s.shared.reports c = true → shared.reports c = true)
    (h : pc.Passing m es s.shared i) : (resume m pc ret).Passing m (es ++ [e]) shared i := by
  by_cases htask : (resume m pc ret).task = some .reapOrphans
  swap
  · exact passing_of_task_ne htask
  obtain ⟨stage, rfl, hnext⟩ := orphanNext_of_task hexec htask
  have hlast : e ∈ es ++ [e] := by simp
  have hthread : e.action.thread = some i := by
    rw [haction]
    rfl
  subst hsource
  generalize resume m _ ret = pc' at hnext
  cases hnext with
  | collected keep pool names keep' hsub hkept =>
      refine passing_collectNext fun q hq => ?_
      obtain hq | hcollected := h q hq
      · obtain rfl | hq := List.mem_cons.mp hq
        · exact .inr ⟨e, hlast, hthread, ⟨keep, names, hpc⟩, hkept⟩
        · exact .inl hq
      · exact .inr (hcollected.append hsub)
  | listed keep listed hlisted =>
      exact ⟨fun q hq => (h q hq).append (List.Subset.refl _),
        fun c hc => hreports c (hlisted c hc)⟩
  | unlisted keep => trivial
  | chosen keep listed =>
      refine passing_orphanNext fun id hid => ?_
      obtain ⟨c, hc, rfl⟩ := List.mem_map.mp hid
      obtain ⟨hmem, hreaps⟩ := List.mem_filter.mp hc
      exact ⟨e, hlast, keep, listed, c, hthread, hpc, rfl, h.2 c hmem, hreaps,
        fun q hq => (h.1 q hq).append (List.Subset.refl _)⟩
  | killed containerID rest =>
      exact passing_orphanNext fun id hid => (h id (List.mem_cons_of_mem _ hid)).append

end Passing

theorem passing_of_path (hpath : Path (step m) (init m) es s) :
    ∀ (i : Nat) (pc : Pc), s.threads[i]? = some pc → pc.Passing m es s.shared i := by
  refine hpath.history (fun es s => ∀ (i : Nat) (pc : Pc), s.threads[i]? = some pc →
    pc.Passing m es s.shared i) (by simp [init]) ?_
  intro fs u a v hpassing hstep _
  have hreports : ∀ c, u.shared.reports c = true → v.shared.reports c = true :=
    fun c hc => reports_step hstep hc
  refine forall_threads_of_step hstep hpassing ?_ ?_ ?_
  · intro i pc hpc
    exact hpc.append hreports
  · intro i entry _ hvisits
    exact passing_start entry hvisits
  · intro i answer pc ret haction hpc hexec
    exact passing_resume rfl haction hpc hexec hreports (hpassing i pc hpc)

def Collects (e : Edge State Action) (i : Nat) : Prop :=
  e.action.thread = some i ∧ ∃ pc ∈ actor e, pc.collects = true

def Chooses (e : Edge State Action) (i : Nat) : Prop :=
  e.action.thread = some i ∧ ∃ pc ∈ actor e, pc.chooses = true

def KillsOrphan (e : Edge State Action) (i : Nat) (containerID : String) : Prop :=
  e.action.thread = some i ∧ ∃ pc ∈ actor e, pc.orphanKills = some containerID

def Publishes (e : Edge State Action) (containerID : String) : Prop :=
  ∃ pc ∈ actor e, pc.publication = some containerID

/-- From one access to another, a pass takes at most the grace less a second to read its clock. -/
def Prompt (e f : Edge State Action) (i : Nat) : Prop :=
  Collects e i → Chooses f i →
    f.source.shared.now ≤ e.source.shared.now + (orphanInFlightGrace.toInt - second.toInt)

/-- Every container whose spawn is in progress was created within the spawn timeout. -/
def SpawnsInTime (m : Setup) (s : State) : Prop :=
  ∀ pc ∈ s.threads, ∀ containerID ∈ pc.inProgress, ∀ c ∈ s.shared.docker containerID,
    s.shared.now ≤ add c.created m.cfg.spawnTimeout

instance (e : Edge State Action) (i : Nat) : Decidable (Collects e i) :=
  inferInstanceAs (Decidable (e.action.thread = some i ∧ ∃ pc ∈ actor e, pc.collects = true))

instance (e : Edge State Action) (i : Nat) : Decidable (Chooses e i) :=
  inferInstanceAs (Decidable (e.action.thread = some i ∧ ∃ pc ∈ actor e, pc.chooses = true))

instance (e f : Edge State Action) (i : Nat) : Decidable (Prompt e f i) :=
  inferInstanceAs (Decidable (Collects e i → Chooses f i →
    f.source.shared.now ≤ e.source.shared.now + (orphanInFlightGrace.toInt - second.toInt)))

instance (s : State) : Decidable (SpawnsInTime m s) :=
  inferInstanceAs (Decidable (∀ pc ∈ s.threads, ∀ containerID ∈ pc.inProgress,
    ∀ c ∈ s.shared.docker containerID, s.shared.now ≤ add c.created m.cfg.spawnTimeout))

/-- The arithmetic of the grace: a container younger than the spawn timeout when the pass starts is
younger than the minimum age when it reads its clock, truncation included. -/
theorem sub_lt_minAge {cfg : Config} {start now created : Int}
    (hgrace : cfg.spawnTimeout.toInt + orphanInFlightGrace.toInt < 2 ^ 63)
    (hclock : now ≤ start + (orphanInFlightGrace.toInt - second.toInt))
    (hspawn : start ≤ add created cfg.spawnTimeout) :
    sub now (unix (unixSeconds created)) < minAge cfg := by
  have hpos : 0 < orphanInFlightGrace.toInt := by decide
  have hlow := cfg.spawnTimeout.le_toInt
  have hage : (minAge cfg).toInt = cfg.spawnTimeout.toInt + orphanInFlightGrace.toInt :=
    toInt_add_of_lt (by omega) hgrace
  have htruncated := lt_unix_unixSeconds created
  unfold add at hspawn
  apply sub_lt_of_lt
  · omega
  · rw [hage]
    calc
      now - unix (unixSeconds created) < now - (created - second.toInt) := by omega
      _ ≤ start + (orphanInFlightGrace.toInt - second.toInt) - (created - second.toInt) := by omega
      _ ≤ cfg.spawnTimeout.toInt + orphanInFlightGrace.toInt := by omega

theorem old_of_reapsOrphan {cfg : Config} {now : Int} {c : Summary}
    (h : reapsOrphan cfg keep true now c = true) :
    c.id ∉ keep ∧ ¬sub now (unix c.created) < minAge cfg := by
  simp only [reapsOrphan, Bool.and_eq_true, Bool.not_eq_true', Bool.true_and,
    decide_eq_false_iff_not] at h
  exact ⟨by simpa using h.1.1, h.1.2⟩

theorem chosen_of_killsOrphan (hpath : Path (step m) (init m) es s) (hsource : e.source = s)
    (hkill : KillsOrphan e i containerID) : Chosen m es i containerID := by
  obtain ⟨hi, pc, hpc, hkills⟩ := hkill
  rw [actor_of_thread hi, hsource] at hpc
  have hpassing := passing_of_path hpath i pc hpc
  unfold Pc.orphanKills at hkills
  split at hkills
  · cases hkills
    exact hpassing containerID (by simp)
  · cases hkills

theorem isOutside_of_inProgress (h : pc.inProgress = some containerID) : pc.isOutside = false := by
  unfold Pc.inProgress at h
  split at h <;> first | rfl | cases h

theorem inProgress_resume {s s' : Shared} {answer : Answer}
    (hexec : exec m s pc.call answer = some (s', ret))
    (h : (resume m pc ret).inProgress = some containerID) :
    pc.inProgress = some containerID ∨
      ∃ pool, (resume m pc ret).unpublished = some (pool, containerID) := by
  have hinside := isOutside_of_inProgress h
  obtain ⟨a, stage, rfl, hnext⟩ := acquireNext_of_inside hexec hinside
  generalize resume m _ ret = pc' at hnext h
  cases hnext with
  | created mu conf id =>
      cases h
      exact .inr ⟨a.state, rfl⟩
  | ready | unready | spawned | stamped => exact .inl h
  | _ => cases h

theorem docker_of_inProgress (hpath : Path (step m) (init m) es s) (hpc : pc ∈ s.threads)
    (h : pc.inProgress = some containerID) : ∃ c, s.shared.docker containerID = some c := by
  have hknown := hpath.invariant
    (fun s => WellFormed s ∧ ∀ pc ∈ s.threads, ∀ id ∈ pc.inProgress, ∃ c, s.shared.docker id = some c)
    ⟨wellFormed_init, by simp [init]⟩ (by
      rintro e - ⟨hwf, hknown⟩ hstep
      have hwf' := wellFormed_step hwf hstep
      refine ⟨hwf', fun pc hpc => ?_⟩
      refine forall_mem_threads_of_step (Q := fun pc => pc ∈ e.target.threads →
        ∀ id ∈ pc.inProgress, ∃ c, e.target.shared.docker id = some c) hstep hknown ?_ ?_ ?_ pc hpc hpc
      · rintro pc hpc - id hid
        obtain ⟨c, hc⟩ := hpc id hid
        exact ⟨c, docker_step hstep hc⟩
      · rintro entry - - - id hid
        have hinside := isOutside_of_inProgress hid
        simp at hinside
      · rintro i answer pc ret - hpc hexec hmem id hid
        obtain hbefore | ⟨pool, hreadies⟩ := inProgress_resume hexec hid
        · obtain ⟨c, hc⟩ := hknown pc (List.mem_of_getElem? hpc) id hbefore
          exact ⟨c, docker_step hstep hc⟩
        · obtain ⟨c, hc, -⟩ := hwf'.readied _ hmem pool id hreadies
          exact ⟨c, hc⟩)
  exact hknown.2 pc hpc containerID h

/-- A pass kills no container that is within the spawn timeout at some instant after the pass began
to collect. -/
theorem not_killsOrphan_of_recent (hpath : Path (step m) (init m) es s)
    (hgrace : m.cfg.spawnTimeout.toInt + orphanInFlightGrace.toInt < 2 ^ 63)
    (hprompt : ∀ e ∈ es, ∀ f ∈ es, Prompt e f i) {e f g : Edge State Action} (he : e ∈ es)
    (hf : f ∈ es) (hg : g ∈ es) (hcollects : Collects e i)
    (hlater : e.source.shared.now ≤ g.source.shared.now) {c : Container}
    (hc : g.source.shared.docker containerID = some c)
    (hyoung : g.source.shared.now ≤ add c.created m.cfg.spawnTimeout) :
    ¬KillsOrphan f i containerID := by
  intro hkill
  obtain ⟨front, back, hes⟩ := List.append_of_mem hf
  obtain ⟨hfront, -, -⟩ := (hes ▸ hpath).split
  obtain ⟨k, hk, keep, listed, summary, hi, hpc, rfl, hreports, hreaps, -⟩ :=
    chosen_of_killsOrphan hfront rfl hkill
  have hk : k ∈ es := by simp [hes, hk]
  -- what docker reported to the pass is the creation of this container, truncated
  obtain ⟨-, hold⟩ := old_of_reapsOrphan hreaps
  unfold Shared.reports at hreports
  split at hreports
  · cases hreports
  · next container hcontainer =>
      obtain rfl := docker_unique hpath hk hg hcontainer hc
      rw [beq_iff_eq.mp hreports] at hold
      apply hold
      apply sub_lt_minAge hgrace _ (Int.le_trans hlater hyoung)
      exact hprompt e he k hk hcollects ⟨hi, _, (actor_of_thread hi).trans hpc, rfl⟩

/-- No container whose spawn is in progress at a time when pass `i` collects is killed by it. -/
def SparesInProgress (es : List (Edge State Action)) (i : Nat) : Prop :=
  ∀ e ∈ es, Collects e i → ∀ f ∈ es, ∀ containerID, KillsOrphan f i containerID →
    ∀ pc ∈ e.source.threads, pc.inProgress ≠ some containerID

/-- Nor is a container that is published after that. -/
def SparesPublished (es : List (Edge State Action)) (i : Nat) : Prop :=
  es.Pairwise fun e g => Collects e i → ∀ f ∈ es, ∀ containerID, KillsOrphan f i containerID →
    ¬Publishes g containerID

theorem inProgress_of_publication (h : pc.publication = some containerID) :
    pc.inProgress = some containerID := by
  unfold Pc.publication at h
  split at h <;> cases h
  rfl

theorem sparesInProgress_of_path (hpath : Path (step m) (init m) es s)
    (hgrace : m.cfg.spawnTimeout.toInt + orphanInFlightGrace.toInt < 2 ^ 63)
    (hspawns : ∀ e ∈ es, SpawnsInTime m e.source) (hprompt : ∀ e ∈ es, ∀ f ∈ es, Prompt e f i) :
    SparesInProgress es i := by
  intro e he hcollects f hf containerID hkill pc hpc hprogress
  obtain ⟨front, back, hes⟩ := List.append_of_mem he
  obtain ⟨hfront, -, -⟩ := (hes ▸ hpath).split
  obtain ⟨c, hc⟩ := docker_of_inProgress hfront hpc hprogress
  exact not_killsOrphan_of_recent hpath hgrace hprompt he hf he hcollects (Int.le_refl _) hc
    (hspawns e he pc hpc containerID hprogress c hc) hkill

theorem sparesPublished_of_path (hpath : Path (step m) (init m) es s)
    (hgrace : m.cfg.spawnTimeout.toInt + orphanInFlightGrace.toInt < 2 ^ 63)
    (hspawns : ∀ e ∈ es, SpawnsInTime m e.source) (hprompt : ∀ e ∈ es, ∀ f ∈ es, Prompt e f i) :
    SparesPublished es i := by
  rw [SparesPublished, List.pairwise_iff_getElem]
  rintro j k hj hk hjk hcollects f hf containerID hkill ⟨pc, hactor, hpublication⟩
  have he := List.getElem?_eq_getElem hj
  have hg := List.getElem?_eq_getElem hk
  obtain ⟨-, hstep, -⟩ := hpath.cut he
  obtain ⟨fs, hfs, -⟩ := hpath.between hjk he hg
  have hlater := Int.le_trans (now_step hstep) (now_of_path hfs)
  have hpc := mem_threads_of_actor hactor
  have hprogress := inProgress_of_publication hpublication
  obtain ⟨c, hc⟩ := docker_of_inProgress (hpath.cut hg).1 hpc hprogress
  exact not_killsOrphan_of_recent hpath hgrace hprompt (List.getElem_mem hj) hf
    (List.getElem_mem hk) hcollects hlater hc
    (hspawns _ (List.getElem_mem hk) pc hpc containerID hprogress c hc) hkill

/-- Where the spawn timeout and the grace make a duration, and in a run where every container whose
spawn is in progress was created within the spawn timeout, an orphan pass that reads its clock within
the grace less a second of collecting kills no container whose spawn was in progress then, and none
that was published later. -/
theorem orphan_pass_spares_spawns (m : Setup) (actions : List Action) (i : Nat)
    (hgrace : m.cfg.spawnTimeout.toInt + orphanInFlightGrace.toInt < 2 ^ 63)
    (hspawns : ∀ e ∈ run m actions, SpawnsInTime m e.source)
    (hprompt : ∀ e ∈ run m actions, ∀ f ∈ run m actions, Prompt e f i) :
    SparesInProgress (run m actions) i ∧ SparesPublished (run m actions) i := by
  obtain ⟨s, hpath⟩ := exists_path_run m actions
  exact ⟨sparesInProgress_of_path hpath hgrace hspawns hprompt,
    sparesPublished_of_path hpath hgrace hspawns hprompt⟩

open Schedule in
/-- With `x` rotated out by `y`, and `z` in progress and published while the pass runs, the pass kills
`x` and neither of the others. -/
theorem orphan_pass_spares_spawns_rotated :
    let actions := .start (.proxy "de" none false) :: ready 0 0 "x" ++ go 0 2 ++ lease 0 1 2 ++
      .start (.proxy "de" (some (proxyURL "x")) false) :: go 1 6 ++ spawn 1 0 "y" ++ go 1 2 ++
      lease 1 3 4 ++ .tick 120000000000 ::
      .start (.proxy "de" (some (proxyURL "y")) false) :: go 2 6 ++
      steps 2 [.draw 0, .container "z"] ++ .tick 59000000000 ::
      .start (.reapOrphans ["de"]) :: go 3 1 ++
      steps 3 [.summaries [⟨"x", 0, "running"⟩, ⟨"y", 0, "running"⟩, ⟨"z", 120, "running"⟩]] ++
      .step 2 (.ready "z:1080" "z:9050") :: go 2 4 ++ .tick 29000000000 :: go 3 2
    (∀ e ∈ run setup actions, SpawnsInTime setup e.source) ∧
      SparesInProgress (run setup actions) 3 ∧ SparesPublished (run setup actions) 3 := by
  intro actions
  have hspawns : ∀ e ∈ run setup actions, SpawnsInTime setup e.source := by decide +kernel
  exact ⟨hspawns, orphan_pass_spares_spawns setup actions 3 (by decide) hspawns
    (by decide +kernel)⟩

open Schedule in
/-- With the longest duration for a spawn timeout the minimum age wraps to a negative one, and a pass
kills the container of a spawn that has only just created it. -/
theorem not_orphan_pass_spares_spawns :
    let m := { setup with cfg := { setup.cfg with spawnTimeout := Int64.maxValue } }
    let es := run m (.start (.proxy "de" none false) :: go 0 5 ++
      steps 0 [.draw 0, .container "x"] ++ .start (.reapOrphans ["de"]) :: go 1 1 ++
      steps 1 [.summaries [⟨"x", 0, "running"⟩]] ++ go 1 2)
    (∀ e ∈ es, SpawnsInTime m e.source) ∧ (∀ e ∈ es, ∀ f ∈ es, Prompt e f 1) ∧
      ¬SparesInProgress es 1 := by
  intro m es
  have hkills : ∃ e ∈ es, Collects e 1 ∧ ∃ f ∈ es, f.action.thread = some 1 ∧ ∃ pc ∈ actor f,
      ∃ id ∈ pc.orphanKills, ∃ q ∈ e.source.threads, q.inProgress = some id := by
    decide +kernel
  refine ⟨by decide +kernel, by decide +kernel, fun hspares => ?_⟩
  obtain ⟨e, he, hcollects, f, hf, hi, pc, hpc, id, hid, q, hq, hprogress⟩ := hkills
  exact hspares e he hcollects f hf id ⟨hi, pc, hpc, hid⟩ q hq hprogress

end Pr0xteus
