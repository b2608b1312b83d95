import Pr0xteus.Fleet
import Pr0xteus.Proof.Kills

/-!
# What a controller sees of a shared daemon

A filter `key=value` matches exactly the containers with that label, whatever the value. So a
controller's listings show the cells it created, and no cell of a controller with another scope and
another parent. As long as everything they can show is something the controller's own state records,
an access to the daemon is an access of the machine.
-/

namespace Pr0xteus

open Transition GoTime

variable {id : String} {es : List (Edge State Action)} {s : State}

section Filters

variable {cfg : CellConfig} {labels : Labels}

/-- A daemon that cuts each filter at its first `=`. -/
@[reducible] def keyValueFilter : LabelFilter where
  accepts filters labels := filters.all fun filter =>
    match Bytes.cut '=' filter.toList with
    | (key, none) => (labels.lookup (String.ofList key)).isSome
    | (key, some value) => labels.lookup (String.ofList key) = some (String.ofList value)
  accepts_nil _ := rfl
  accepts_cons {key value filters labels} hkey := by
    have hcut : Bytes.cut '=' (key ++ "=" ++ value).toList = (key.toList, some value.toList) := by
      rw [String.toList_append, String.toList_append, List.append_assoc]
      exact Bytes.cut_append hkey
    simp only [List.all_cons, hcut, String.ofList_toList, Bool.and_eq_true, decide_eq_true_eq]
    rw [String.ofList_toList]

theorem managed_eq : labelManaged ++ "=true" = labelManaged ++ "=" ++ "true" := by decide

theorem accepts_orphanFilters [LabelFilter] :
    LabelFilter.accepts cfg.orphanFilters labels = true ↔
      labels.lookup labelManaged = some "true" ∧
        labels.lookup labelScope = some cfg.managedScope := by
  rw [CellConfig.orphanFilters, managed_eq, LabelFilter.accepts_cons (by decide),
    LabelFilter.accepts_cons (by decide)]
  simp only [LabelFilter.accepts_nil, and_true]

theorem accepts_childFilters [LabelFilter] :
    LabelFilter.accepts cfg.childFilters labels = true ↔
      labels.lookup labelManaged = some "true" ∧
        if cfg.parentID ≠ "" then labels.lookup labelParent = some cfg.parentID
        else labels.lookup labelScope = some cfg.managedScope := by
  rw [CellConfig.childFilters, managed_eq, LabelFilter.accepts_cons (by decide)]
  split
  · rw [LabelFilter.accepts_cons (by decide)]
    simp only [LabelFilter.accepts_nil, and_true]
  · rw [LabelFilter.accepts_cons (by decide)]
    simp only [LabelFilter.accepts_nil, and_true]

theorem lookup_labels_managed (req : SpawnRequest) :
    (cfg.labels req).lookup labelManaged = some "true" := by
  unfold CellConfig.labels
  split <;> simp [-AList.insert_empty, AList.lookup_insert_ne, labelManaged, labelPool, labelConf,
    labelScope, labelParent]

theorem lookup_labels_scope (req : SpawnRequest) :
    (cfg.labels req).lookup labelScope = some cfg.managedScope := by
  unfold CellConfig.labels
  split <;> simp [AList.lookup_insert_ne, labelScope, labelParent]

theorem lookup_labels_parent (req : SpawnRequest) :
    (cfg.labels req).lookup labelParent = if cfg.parentID ≠ "" then some cfg.parentID else none := by
  unfold CellConfig.labels
  split <;> simp [-AList.insert_empty, AList.lookup_insert_ne, labelManaged, labelPool, labelConf,
    labelScope, labelParent]

theorem sees_labels [LabelFilter] (req : SpawnRequest) : cfg.sees (cfg.labels req) = true := by
  rw [CellConfig.sees, Bool.or_eq_true]
  exact .inr (accepts_orphanFilters.mpr ⟨lookup_labels_managed req, lookup_labels_scope req⟩)

theorem not_sees_labels [LabelFilter] {other : CellConfig} (hscope : cfg.managedScope ≠ other.managedScope)
    (hparent : cfg.parentID ≠ "" → cfg.parentID ≠ other.parentID) (req : SpawnRequest) :
    cfg.sees (other.labels req) = false := by
  have hother : some other.managedScope ≠ some cfg.managedScope := fun h => hscope (Option.some.inj h).symm
  rw [CellConfig.sees, Bool.or_eq_false_iff, ← Bool.not_eq_true, ← Bool.not_eq_true,
    accepts_childFilters, accepts_orphanFilters, lookup_labels_scope, lookup_labels_parent]
  refine ⟨?_, fun h => hother h.2⟩
  rintro ⟨-, h⟩
  split at h
  · next hne =>
      split at h
      · exact hparent hne (Option.some.inj h).symm
      · cases h
  · exact hother h

end Filters

/-- What a controller's state records of docker, against the daemon. -/
structure View [LabelFilter] (d : Daemon) (cfg : CellConfig) (docker : String → Option Container) : Prop where
  shown : ∀ id c, d.containers id = some c → cfg.sees c.labels = true →
    ∃ k, docker id = some k ∧ k.created = c.created
  known : ∀ id k, docker id = some k → ∃ c, d.containers id = some c ∧ cfg.sees c.labels = true

/-- What an access does to the daemon and to the record of it. -/
inductive DaemonAccess (cfg : CellConfig) (d : Daemon) (s : Shared) (c : Call) (answer : Answer)
    (d' : Daemon) (s' : Shared) : Prop
  | create (req : SpawnRequest) (id : String) (hname : id ≠ "") (hcall : c = .containerCreate req)
      (hanswer : answer = .container id) (hfresh : d.containers id = none)
      (hdaemon : d' = d.create id hname ⟨s.now, cfg.labels req⟩)
      (hdocker : s'.docker = Function.update s.docker id (some ⟨s.now, req.pool, req.confName⟩))
  | other (hcreate : ∀ req id, c = .containerCreate req → answer ≠ .container id) (hdaemon : d' = d)
      (hdocker : s'.docker = s.docker)

section Exec

variable [LabelFilter] {cfg : CellConfig} {m : Setup} {d d' : Daemon} {s s' : Shared} {c : Call} {answer : Answer}
  {ret : c.Ret}

theorem exists_of_lists {filters : List String} (h : d.lists filters id = true) :
    ∃ c, d.containers id = some c ∧ LabelFilter.accepts filters c.labels = true :=
  (Option.any_eq_true _ _).mp h

theorem exists_of_reports {filters : List String} {c : Summary} (h : d.reports filters c = true) :
    ∃ container, d.containers c.id = some container ∧
      LabelFilter.accepts filters container.labels = true ∧ c.created = unixSeconds container.created := by
  obtain ⟨container, hcontainer, hreported⟩ := (Option.any_eq_true _ _).mp h
  obtain ⟨hfilters, hcreated⟩ := Bool.and_eq_true_iff.mp hreported
  exact ⟨container, hcontainer, hfilters, eq_of_beq hcreated⟩

theorem View.lists (hview : View d cfg s.docker) (h : d.lists cfg.childFilters id = true) :
    (s.docker id).isSome = true := by
  obtain ⟨c, hc, hmatch⟩ := exists_of_lists h
  have hsees : cfg.sees c.labels = true := by simp [CellConfig.sees, hmatch]
  obtain ⟨k, hk, -⟩ := hview.shown id c hc hsees
  simp [hk]

theorem View.reports (hview : View d cfg s.docker) {c : Summary}
    (h : d.reports cfg.orphanFilters c = true) : s.reports c = true := by
  obtain ⟨container, hcontainer, hmatch, hcreated⟩ := exists_of_reports h
  have hsees : cfg.sees container.labels = true := by simp [CellConfig.sees, hmatch]
  obtain ⟨k, hk, hsame⟩ := hview.shown c.id container hcontainer hsees
  simp [Shared.reports, hk, hsame, hcreated]

theorem View.fresh (hview : View d cfg s.docker) (h : d.containers id = none) :
    s.docker id = none := by
  cases hdocker : s.docker id with
  | none => rfl
  | some k =>
      obtain ⟨c, hc, -⟩ := hview.known id k hdocker
      rw [h] at hc
      cases hc

omit [LabelFilter] in
theorem docker_of_no_create (hexec : exec m s c answer = some (s', ret))
    (hcreate : ∀ req id, c = .containerCreate req → answer ≠ .container id) :
    s'.docker = s.docker := by
  cases c with
  | containerCreate req =>
      cases answer with
      | container id => exact absurd rfl (hcreate req id rfl)
      | fail reason =>
          cases hexec
          rfl
      | _ => exact absurd hexec.symm (Option.some_ne_none _)
  | _ => exact docker_exec hexec (fun req h => by cases h)

/-- An access that the daemon has no part in. -/
theorem access_of_map (hcreate : ∀ req id, c = .containerCreate req → answer ≠ .container id)
    (h : (exec m s c answer).map (fun result => ((d, result.1), result.2)) = some ((d', s'), ret)) :
    DaemonAccess cfg d s c answer d' s' ∧
      (View d cfg s.docker → exec m s c answer = some (s', ret)) := by
  obtain ⟨⟨s₁, ret₁⟩, hexec, heq⟩ := Option.map_eq_some_iff.mp h
  cases heq
  exact ⟨.other hcreate rfl (docker_of_no_create hexec hcreate), fun _ => hexec⟩

/-- The daemon answers nothing that the machine of the controller does not expect. -/
theorem access_of_daemon (hexec : Daemon.exec cfg m (d, s) c answer = some ((d', s'), ret)) :
    DaemonAccess cfg d s c answer d' s' ∧
      (View d cfg s.docker → exec m s c answer = some (s', ret)) := by
  cases c with
  | containerCreate req =>
      cases answer with
      | container id =>
          simp only [Daemon.exec] at hexec
          split at hexec
          · cases hexec
          · next hid =>
              obtain ⟨hname, hsome⟩ := not_or.mp hid
              have hfresh := Option.not_isSome_iff_eq_none.mp hsome
              cases hexec
              refine ⟨.create req id hname rfl rfl hfresh rfl rfl, fun hview => ?_⟩
              simp [exec, hname, hview.fresh hfresh]
      | _ => exact access_of_map (fun _ _ _ h => by cases h) hexec
  | listChildren =>
      cases answer with
      | handles listed =>
          simp only [Daemon.exec] at hexec
          split at hexec
          · next hall =>
              cases hexec
              refine ⟨.other (fun _ _ h => by cases h) rfl rfl, fun hview => ?_⟩
              have hknown : (listed.all fun handle => (s.docker handle.containerID).isSome) = true :=
                List.all_eq_true.mpr fun handle hmem =>
                  hview.lists (List.all_eq_true.mp hall handle hmem)
              simp only [exec, hknown, if_true]
          · cases hexec
      | _ => exact access_of_map (fun _ _ h => by cases h) hexec
  | containerList =>
      cases answer with
      | summaries listed =>
          simp only [Daemon.exec] at hexec
          split at hexec
          · next hall =>
              cases hexec
              refine ⟨.other (fun _ _ h => by cases h) rfl rfl, fun hview => ?_⟩
              have hknown : listed.all s.reports = true :=
                List.all_eq_true.mpr fun c hmem => hview.reports (List.all_eq_true.mp hall c hmem)
              simp only [exec, hknown, if_true]
          · cases hexec
      | _ => exact access_of_map (fun _ _ h => by cases h) hexec
  | _ => exact access_of_map (fun _ _ h => by cases h) hexec

end Exec

section Keep

variable [LabelFilter] {cfg : CellConfig} {d : Daemon} {docker : String → Option Container} {id : String}
  (hname : id ≠ "")

omit [LabelFilter] in
theorem containers_create_of_some (hfresh : d.containers id = none) {c c' : DaemonContainer}
    {x : String} (hc : d.containers x = some c') : (d.create id hname c).containers x = some c' := by
  have hx : x ≠ id := by
    rintro rfl
    rw [hfresh] at hc
    cases hc
  rw [Daemon.containers_create_of_ne d hname _ hx, hc]

/-- A container that the controller creates, and records. -/
theorem View.create (hview : View d cfg docker) (req : SpawnRequest) (now : Int) :
    View (d.create id hname ⟨now, cfg.labels req⟩) cfg
      (Function.update docker id (some ⟨now, req.pool, req.confName⟩)) := by
  constructor
  · intro x c hc hsees
    by_cases hx : x = id
    · subst hx
      rw [Daemon.containers_create_self] at hc
      cases hc
      exact ⟨_, Function.update_self .., rfl⟩
    · rw [Daemon.containers_create_of_ne d hname _ hx] at hc
      rw [Function.update_of_ne hx]
      exact hview.shown x c hc hsees
  · intro x k hk
    by_cases hx : x = id
    · subst hx
      exact ⟨_, Daemon.containers_create_self .., sees_labels req⟩
    · rw [Function.update_of_ne hx] at hk
      rw [Daemon.containers_create_of_ne d hname _ hx]
      exact hview.known x k hk

/-- A new container that the controller's listings do not show. -/
theorem View.unseen (hview : View d cfg docker) (hfresh : d.containers id = none)
    {c : DaemonContainer} (hunseen : cfg.sees c.labels = false) :
    View (d.create id hname c) cfg docker := by
  constructor
  · intro x c' hc hsees
    by_cases hx : x = id
    · subst hx
      rw [Daemon.containers_create_self] at hc
      cases hc
      rw [hunseen] at hsees
      cases hsees
    · rw [Daemon.containers_create_of_ne d hname _ hx] at hc
      exact hview.shown x c' hc hsees
  · intro x k hk
    obtain ⟨c', hc, hsees⟩ := hview.known x k hk
    exact ⟨c', containers_create_of_some hname hfresh hc, hsees⟩

theorem view_setup (d : Daemon) (launch : Launch) (now : Int) :
    View d launch.cfg (d.setup launch now).docker := by
  constructor
  · intro x c hc hsees
    exact ⟨c.container, by simp [Daemon.setup, hc, hsees], rfl⟩
  · intro x k hk
    obtain ⟨c, hc, -⟩ := Option.map_eq_some_iff.mp hk
    rw [Option.filter_eq_some_iff] at hc
    exact ⟨c, hc.1, hc.2⟩

end Keep

/-! Two facts about the machine of one controller. Every removal it asks for is of a container that is
on its record, and what it hands out is a container of its own, not one that it found. -/

section Machine

variable {m : Setup}

theorem docker_of_kill (hpath : Path (step m) (init m) es s) {k : Nat} {pc : Pc}
    (hpc : s.threads[k]? = some pc) (hcall : pc.call = .kill id) :
    ∃ c, s.shared.docker id = some c := by
  have hmem := List.mem_of_getElem? hpc
  have htargets := targets_of_path hpath
  have hseen : ∀ pool, pc.seen = some (pool, id) → ∃ c, s.shared.docker id = some c := by
    intro pool h
    obtain ⟨c, hc, -⟩ := (htargets.seen pc hmem (pool, id) h).labelled
    exact ⟨c, hc⟩
  cases pc with
  | acquire a stage =>
      cases stage with
      | abandon mu conf containerID reason =>
          cases hcall
          exact docker_of_inProgress hpath hmem rfl
      | _ => cases hcall
  | reaper stage =>
      cases stage with
      | killInvoke pass pool t =>
          cases hcall
          exact hseen pool rfl
      | _ => cases hcall
  | orphan stage =>
      cases stage with
      | kill containerID rest =>
          cases hcall
          obtain ⟨pool, c, hc, -⟩ :=
            labelled_of_orphanKills (e := ⟨s, .step k .ok, s⟩) hpath hpc rfl
          exact ⟨c, hc⟩
      | _ => cases hcall
  | destroy containerID stage =>
      cases stage with
      | kill names =>
          cases hcall
          exact Option.isSome_iff_exists.mp (htargets.searched _ hmem).2
      | _ => cases hcall
  | close stage =>
      cases stage with
      | kill pool containerID names =>
          cases hcall
          exact hseen pool rfl
      | _ => cases hcall
  | assign acq stage => cases stage <;> cases hcall
  | gateway u p stage => cases stage <;> cases hcall
  | markFailed pool confName stage => cases stage <;> cases hcall
  | _ => cases hcall

/-- The containers in use were not there when the controller started. -/
structure Homemade (m : Setup) (s : State) : Prop where
  slot : ∀ pool t, s.shared.slot pool = some t → m.docker t.containerID = none
  held : ∀ pc ∈ s.threads, ∀ acq, pc.held = some acq → m.docker acq.tunnel.containerID = none
  readied : ∀ pc ∈ s.threads, ∀ pool id, pc.unpublished = some (pool, id) → m.docker id = none

theorem homemade_step {s t : State} {a : Action}
    (hknown : ∀ id c, m.docker id = some c → s.shared.docker id = some c) (h : Homemade m s)
    (hstep : step m s a = some t) : Homemade m t := by
  refine ⟨fun pool t hslot => ?_, ?_, ?_⟩
  · cases step_cases hstep with
    | turn i answer pc shared ret hpc hexec =>
        obtain ⟨t', hslot', hcell⟩ | ⟨-, hreadies, -⟩ := (turn_of_exec hexec).slot_cases hslot
        · exact hcell.containerID ▸ h.slot pool t' hslot'
        · exact h.readied pc (List.mem_of_getElem? hpc) pool _ hreadies
    | _ => exact h.slot pool t hslot
  · refine forall_mem_threads_of_step hstep h.held (fun _ hheld => hheld) ?_ ?_
    · intro entry _ _ acq hacq
      simp at hacq
    · intro i answer pc ret _ hpc hexec acq hacq
      have hmem := List.mem_of_getElem? hpc
      obtain hheld | ⟨t', hslot', hcell⟩ | ⟨hreadies, -⟩ := (turn_of_exec hexec).held_cases hacq
      · exact h.held pc hmem acq hheld
      · exact hcell.containerID ▸ h.slot acq.pool t' hslot'
      · exact h.readied pc hmem acq.pool _ hreadies
  · refine forall_mem_threads_of_step hstep h.readied (fun _ hreadied => hreadied) ?_ ?_
    · intro entry _ _ pool id hreadies
      simp at hreadies
    · intro i answer pc ret _ hpc hexec pool id hreadies
      obtain hbefore | ⟨hfresh, -⟩ := (turn_of_exec hexec).readies_cases hreadies
      · exact h.readied pc (List.mem_of_getElem? hpc) pool id hbefore
      · -- docker gives no identifier twice
        cases hdocker : m.docker id with
        | none => rfl
        | some c =>
            rw [hknown id c hdocker] at hfresh
            cases hfresh

theorem homemade_of_path (hpath : Path (step m) (init m) es s) : Homemade m s := by
  refine (hpath.invariant
    (fun s => Homemade m s ∧ ∀ id c, m.docker id = some c → s.shared.docker id = some c)
    ⟨⟨?_, ?_, ?_⟩, fun _ _ h => h⟩ ?_).1
  · intro pool t hslot
    rw [slot_init] at hslot
    cases hslot
  · simp [init]
  · simp [init]
  · rintro e - ⟨h, hknown⟩ hstep
    exact ⟨homemade_step hknown h hstep, fun id c hc => docker_step hstep (hknown id c hc)⟩

/-- So they were created by the controller itself, in one of the steps of the run. -/
theorem created_of_fresh (hpath : Path (step m) (init m) es s) {c : Container}
    (hfound : m.docker id = none) (hdocker : s.shared.docker id = some c) :
    ∃ e ∈ es, e.source.shared.docker id = none ∧ e.target.shared.docker id ≠ none := by
  obtain ⟨e, he, hsource, htarget⟩ := hpath.exists_turning (fun s => s.shared.docker id ≠ none)
    (fun h => h hfound) (by rw [hdocker]; exact Option.some_ne_none c)
  exact ⟨e, he, not_not.mp hsource, htarget⟩

end Machine

end Pr0xteus
