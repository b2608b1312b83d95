import Pr0xteus.Proof.DockerView

/-!
# Controllers that share a daemon

As long as no two controllers run under one scope or one parent, each of them goes through a run of
its own machine, as if it had the daemon to itself. It asks docker to remove only cells of its own, of
this process or an earlier one, and it hands out only cells that this process created.
-/

namespace Pr0xteus

open Transition FleetEdge

variable {ι : Type} [DecidableEq ι] [LabelFilter] {i j : ι} {a : FleetAction ι} {now : Int}
  {l : Launch} {m : Setup} {fs : List (Edge (Fleet ι) (FleetAction ι))} {id : String} {p : Process}
  {s : State} {answer : Answer}

/-- An action of the fleet, taken apart. -/
inductive FleetCases (f : Fleet ι) : FleetAction ι → Fleet ι → Prop
  | tick (d : Nat) : FleetCases f (.tick d)
      { f with now := f.now + d, process := fun i => (f.process i).tick d }
  | launch (i : ι) (l : Launch) :
      FleetCases f (.launch i l) (f.setProcess i (.booting l .list))
  | boot (i : ι) (answer : Answer) (l : Launch) (stage : BootStage) (p : Process)
      (hp : f.process i = .booting l stage)
      (hboot : Process.bootStep f.daemon f.now l stage answer = some p) :
      FleetCases f (.boot i answer) (f.setProcess i p)
  | start (i : ι) (entry : Entry) (l : Launch) (m : Setup) (s t : State)
      (hp : f.process i = .serving l m s) (hstep : step m s (.start entry) = some t) :
      FleetCases f (.start i entry) (f.setProcess i (.serving l m t))
  | turn (i : ι) (k : Nat) (answer : Answer) (l : Launch) (m : Setup) (s : State) (pc : Pc)
      (d : Daemon) (shared : Shared) (ret : pc.call.Ret) (hp : f.process i = .serving l m s)
      (hpc : s.threads[k]? = some pc)
      (hexec : Daemon.exec l.cfg m (f.daemon, s.shared) pc.call answer = some ((d, shared), ret)) :
      FleetCases f (.turn i k answer)
        { f.setProcess i (.serving l m ⟨shared, s.threads.set k (resume m pc ret)⟩) with daemon := d }

theorem fleet_cases {f g : Fleet ι} (h : f.step a = some g) : FleetCases f a g := by
  cases a with
  | tick d =>
      cases h
      exact .tick d
  | launch i l =>
      cases h
      exact .launch i l
  | boot i answer =>
      simp only [Fleet.step] at h
      split at h
      · next l stage hp =>
          obtain ⟨p, hboot, rfl⟩ := Option.map_eq_some_iff.mp h
          exact .boot i answer l stage p hp hboot
      · cases h
  | start i entry =>
      simp only [Fleet.step] at h
      split at h
      · next l m s hp =>
          obtain ⟨t, hstep, rfl⟩ := Option.map_eq_some_iff.mp h
          exact .start i entry l m s t hp hstep
      · cases h
  | turn i k answer =>
      simp only [Fleet.step] at h
      split at h
      · next l m s hp =>
          obtain ⟨t, hturn, rfl⟩ := Option.map_eq_some_iff.mp h
          obtain ⟨pc, ⟨d, shared⟩, ret, hpc, hexec, rfl⟩ := Threads.turn_eq_some_iff.mp hturn
          exact .turn i k answer l m s pc d shared ret hp hpc hexec
      · cases h

section Since

variable {i : ι} {es : List (Edge (Fleet ι) (FleetAction ι))} {e : Edge (Fleet ι) (FleetAction ι)}

omit [LabelFilter] in
theorem sinceLaunch_append (i : ι) (es : List (Edge (Fleet ι) (FleetAction ι)))
    (e : Edge (Fleet ι) (FleetAction ι)) :
    sinceLaunch i (es ++ [e]) =
      if (launches e).any fun l => l.1 = i then [] else sinceLaunch i es ++ [e] := by
  rw [sinceLaunch, List.foldl_append]
  rfl

omit [LabelFilter] in
theorem sinceLaunch_subset (i : ι) (es : List (Edge (Fleet ι) (FleetAction ι))) :
    sinceLaunch i es ⊆ es := by
  induction es using List.reverseRecOn with
  | nil => exact List.Subset.refl _
  | append_singleton es e ih =>
      rw [sinceLaunch_append]
      split
      · exact List.nil_subset _
      · exact List.append_subset.mpr ⟨fun x hx => List.mem_append_left _ (ih hx),
          List.subset_append_right es [e]⟩

omit [LabelFilter] in
theorem machineRun_append (hlaunch : ∀ l, e.action ≠ .launch i l) :
    machineRun i (es ++ [e]) = machineRun i es ++ (projected i e).toList := by
  have hnot : ((launches e).any fun l => decide (l.1 = i)) = false := by
    unfold launches
    split
    · next j l haction =>
        have hne : j ≠ i := by
          rintro rfl
          exact hlaunch l haction
        simp [hne]
    · rfl
  rw [machineRun, sinceLaunch_append, hnot, if_neg Bool.false_ne_true, List.filterMap_append, machineRun]
  cases h : projected i e <;> simp [h]

omit [LabelFilter] in
theorem machineRun_launch (haction : e.action = .launch i l) : machineRun i (es ++ [e]) = [] := by
  simp [machineRun, sinceLaunch_append, launches, haction]

end Since

def BootStage.pending : BootStage → List String
  | .list => []
  | .kill id rest => id :: rest

/-- A controller that removes what its scope holds, or one whose record of docker is right and which
has come to its state in a run of its machine. -/
def Process.Sound (es : List (Edge (Fleet ι) (FleetAction ι))) (d : Daemon) (i : ι) :
    Process → Prop
  | .down => True
  | .booting l stage => Launched es i l ∧ machineRun i es = [] ∧
      ∀ id ∈ stage.pending, ∃ c, d.containers id = some c ∧ l.cfg.sees c.labels = true
  | .serving l m s => Launched es i l ∧ m.cfg = l.cfg.toConfig ∧ m.specs = l.specs ∧
      View d l.cfg s.shared.docker ∧ Path (step m) (init m) (machineRun i es) s

/-- Where a container comes from. -/
inductive Origin (d₀ : Daemon) (es : List (Edge (Fleet ι) (FleetAction ι))) (id : String)
    (c : DaemonContainer) : Prop
  | found (hfound : d₀.containers id = some c) (hnone : ∀ e ∈ es, ∀ j, creates e ≠ some (j, id))
  | made (i : ι) (l : Launch) (req : SpawnRequest) (hlaunched : Launched es i l)
      (hlabels : c.labels = l.cfg.labels req) (hcreates : ∃ e ∈ es, creates e = some (i, id))
      (honly : ∀ e ∈ es, ∀ j, creates e = some (j, id) → j = i)

structure Chronicle (d₀ : Daemon) (es : List (Edge (Fleet ι) (FleetAction ι))) (f : Fleet ι) :
    Prop where
  origin : ∀ id c, f.daemon.containers id = some c → Origin d₀ es id c
  absent : ∀ id, f.daemon.containers id = none → ∀ e ∈ es, ∀ j, creates e ≠ some (j, id)
  process : ∀ i, (f.process i).Sound es f.daemon i

section Append

variable {d₀ d d' : Daemon} {es : List (Edge (Fleet ι) (FleetAction ι))}
  {e : Edge (Fleet ι) (FleetAction ι)} {i : ι} {l : Launch}

omit [DecidableEq ι] [LabelFilter] in
theorem launched_append (h : Launched es i l) (e : Edge (Fleet ι) (FleetAction ι)) :
    Launched (es ++ [e]) i l := by
  obtain ⟨e', he', hl⟩ := h
  exact ⟨e', List.mem_append_left _ he', hl⟩

omit [DecidableEq ι] [LabelFilter] in
theorem forall_creates_append {P : ι → Prop} (hes : ∀ e ∈ es, ∀ j, creates e = some (j, id) → P j)
    (he : ∀ j, creates e = some (j, id) → P j) :
    ∀ e' ∈ es ++ [e], ∀ j, creates e' = some (j, id) → P j := by
  intro e' he' j hj
  rcases List.mem_append.mp he' with h | h
  · exact hes e' h j hj
  · obtain rfl := List.mem_singleton.mp h
    exact he j hj

omit [DecidableEq ι] [LabelFilter] in
theorem Origin.append {c : DaemonContainer} (h : Origin d₀ es id c)
    (hnew : ∀ j, creates e ≠ some (j, id)) : Origin d₀ (es ++ [e]) id c := by
  cases h with
  | found hfound hnone => exact .found hfound (forall_creates_append hnone hnew)
  | made i l req hlaunched hlabels hcreates honly =>
      obtain ⟨e', he', hmade⟩ := hcreates
      exact .made i l req (launched_append hlaunched e) hlabels ⟨e', List.mem_append_left _ he', hmade⟩
        (forall_creates_append honly fun j hj => absurd hj (hnew j))

/-- An edge that is nothing to the controller's machine. -/
theorem Process.Sound.append (h : p.Sound es d i) (hlaunch : ∀ l, e.action ≠ .launch i l)
    (hproj : projected i e = none)
    (hmono : ∀ id c, d.containers id = some c → d'.containers id = some c)
    (hview : ∀ l docker, Launched es i l → View d l.cfg docker → View d' l.cfg docker) :
    p.Sound (es ++ [e]) d' i := by
  have hrun : machineRun i (es ++ [e]) = machineRun i es := by
    rw [machineRun_append hlaunch, hproj, Option.toList_none, List.append_nil]
  cases p with
  | down => trivial
  | booting l stage =>
      obtain ⟨hlaunched, hnil, hpending⟩ := h
      refine ⟨launched_append hlaunched e, hrun.trans hnil, fun id hid => ?_⟩
      obtain ⟨c, hc, hsees⟩ := hpending id hid
      exact ⟨c, hmono id c hc, hsees⟩
  | serving l m s =>
      obtain ⟨hlaunched, hcfg, hspecs, hdocker, hpath⟩ := h
      exact ⟨launched_append hlaunched e, hcfg, hspecs, hview l _ hlaunched hdocker, hrun ▸ hpath⟩

/-- An edge that is a step of the controller's machine. -/
theorem sound_step {s t : State} {a : Action} (h : (Process.serving l m s).Sound es d i)
    (hlaunch : ∀ l, e.action ≠ .launch i l) (hproj : projected i e = some ⟨s, a, t⟩)
    (hstep : step m s a = some t) (hview : View d' l.cfg t.shared.docker) :
    (Process.serving l m t).Sound (es ++ [e]) d' i := by
  obtain ⟨hlaunched, hcfg, hspecs, -, hpath⟩ := h
  refine ⟨launched_append hlaunched e, hcfg, hspecs, hview, ?_⟩
  rw [machineRun_append hlaunch, hproj]
  exact path_append_iff.mpr ⟨s, hpath, .cons hstep (.nil t)⟩

end Append

section Boot

variable {d : Daemon} {es : List (Edge (Fleet ι) (FleetAction ι))} {i : ι} {l : Launch}

theorem sound_bootNext (hlaunched : Launched es i l) (hrun : machineRun i es = [])
    (pending : List String)
    (hpending : ∀ id ∈ pending, ∃ c, d.containers id = some c ∧ l.cfg.sees c.labels = true) :
    (Process.bootNext d now l pending).Sound es d i := by
  cases pending with
  | nil => exact ⟨hlaunched, rfl, rfl, view_setup d l now, by rw [hrun]; exact .nil _⟩
  | cons id rest => exact ⟨hlaunched, hrun, hpending⟩

theorem sound_bootStep {stage : BootStage} (h : (Process.booting l stage).Sound es d i)
    (hboot : Process.bootStep d now l stage answer = some p) : p.Sound es d i := by
  obtain ⟨hlaunched, hrun, hpending⟩ := h
  cases stage with
  | list =>
      cases answer with
      | summaries listed =>
          simp only [Process.bootStep] at hboot
          split at hboot
          · next hall =>
              cases hboot
              refine sound_bootNext hlaunched hrun _ fun id hid => ?_
              obtain ⟨c, hc, rfl⟩ := List.mem_map.mp hid
              obtain ⟨container, hcontainer, hmatch, -⟩ :=
                exists_of_reports (List.all_eq_true.mp hall c (List.mem_of_mem_filter hc))
              exact ⟨container, hcontainer, by simp [CellConfig.sees, hmatch]⟩
          · cases hboot
      | fail reason =>
          cases hboot
          exact sound_bootNext hlaunched hrun [] (by simp)
      | _ => cases hboot
  | kill id rest =>
      cases hboot
      exact sound_bootNext hlaunched hrun rest fun x hx => hpending x (List.mem_cons_of_mem _ hx)

end Boot

section Step

variable {d₀ : Daemon} {es : List (Edge (Fleet ι) (FleetAction ι))} {f g : Fleet ι}

omit [DecidableEq ι] in
theorem separated_of_launched (hsep : Separated fs) (hsub : es ⊆ fs) (hij : i ≠ j) {l l' : Launch}
    (hl : Launched es i l) (hl' : Launched es j l') (req : SpawnRequest) :
    l.cfg.sees (l'.cfg.labels req) = false := by
  obtain ⟨e, he, hlaunch⟩ := hl
  obtain ⟨e', he', hlaunch'⟩ := hl'
  obtain ⟨hscope, hparent⟩ := hsep e (hsub he) e' (hsub he') _ hlaunch _ hlaunch' hij
  exact not_sees_labels hscope hparent req

/-- Where the daemon stays as it is and nothing is created, only the processes matter. -/
theorem Chronicle.of_same_daemon (h : Chronicle d₀ es f) (hdaemon : g.daemon = f.daemon)
    (hcreates : creates ⟨f, a, g⟩ = none)
    (hprocess : ∀ i, (g.process i).Sound (es ++ [⟨f, a, g⟩]) f.daemon i) :
    Chronicle d₀ (es ++ [⟨f, a, g⟩]) g := by
  have hnew : ∀ (id : String) (j : ι), creates ⟨f, a, g⟩ ≠ some (j, id) := by simp [hcreates]
  refine ⟨fun id c hc => ?_, fun id hid => ?_, fun i => ?_⟩
  · exact (h.origin id c (hdaemon ▸ hc)).append (hnew id)
  · exact forall_creates_append (h.absent id (hdaemon ▸ hid)) (hnew id)
  · exact hdaemon ▸ hprocess i

theorem Chronicle.of_create (h : Chronicle d₀ es f) {hname : id ≠ ""} {req : SpawnRequest}
    (hdaemon : g.daemon = f.daemon.create id hname ⟨now, l.cfg.labels req⟩)
    (hfresh : f.daemon.containers id = none) (hlaunched : Launched es i l)
    (hcreates : creates ⟨f, a, g⟩ = some (i, id))
    (hprocess : ∀ j, (g.process j).Sound (es ++ [⟨f, a, g⟩]) g.daemon j) :
    Chronicle d₀ (es ++ [⟨f, a, g⟩]) g := by
  have hcreator : ∀ (x : String) (j : ι), creates ⟨f, a, g⟩ = some (j, x) → j = i ∧ x = id := by
    intro x j hj
    rw [hcreates] at hj
    cases hj
    exact ⟨rfl, rfl⟩
  refine ⟨fun x c hc => ?_, fun x hx => ?_, hprocess⟩
  · by_cases hx : x = id
    · subst hx
      rw [hdaemon, Daemon.containers_create_self] at hc
      cases hc
      refine .made i l req (launched_append hlaunched _) rfl
        ⟨_, List.mem_append_right _ (List.mem_singleton.mpr rfl), hcreates⟩ ?_
      exact forall_creates_append (fun e he j hj => absurd hj (h.absent x hfresh e he j))
        fun j hj => (hcreator x j hj).1
    · rw [hdaemon, Daemon.containers_create_of_ne _ hname _ hx] at hc
      exact (h.origin x c hc).append fun j hj => hx (hcreator x j hj).2
  · have hne : x ≠ id := by
      rintro rfl
      rw [hdaemon, Daemon.containers_create_self] at hx
      cases hx
    rw [hdaemon, Daemon.containers_create_of_ne _ hname _ hne] at hx
    exact forall_creates_append (h.absent x hx) fun j hj => hne (hcreator x j hj).2

omit [LabelFilter] in
theorem projected_turn_of_ne (hij : j ≠ i) (k : Nat) (answer : Answer) :
    projected j ⟨f, .turn i k answer, g⟩ = none := by
  unfold projected
  split
  · simp [Ne.symm hij]
  · rfl

omit [LabelFilter] in
theorem projected_start_of_ne (hij : j ≠ i) (entry : Entry) :
    projected j ⟨f, .start i entry, g⟩ = none := by
  unfold projected
  split
  · simp [Ne.symm hij]
  · rfl

omit [LabelFilter] in
theorem projected_launch (i j : ι) (l : Launch) : projected j ⟨f, .launch i l, g⟩ = none := by
  unfold projected
  split <;> rfl

omit [LabelFilter] in
theorem projected_boot (i j : ι) (answer : Answer) : projected j ⟨f, .boot i answer, g⟩ = none := by
  unfold projected
  split <;> rfl

omit [DecidableEq ι] [LabelFilter] in
theorem creates_of_access {k : Nat} {c : Call}
    (hcall : access ⟨f, .turn i k answer, g⟩ = some (i, c))
    (hcreate : ∀ req id, c = .containerCreate req → answer ≠ .container id) :
    creates ⟨f, .turn i k answer, g⟩ = none := by
  unfold creates
  split
  · next j k' id haction =>
      cases haction
      rw [hcall]
      split
      · next j' req hcase =>
          obtain ⟨-, rfl⟩ := Prod.mk.inj (Option.some.inj hcase)
          exact absurd rfl (hcreate req id rfl)
      · rfl
  · rfl

omit [LabelFilter] in
theorem Fleet.forall_setProcess {P : ι → Process → Prop} (hself : P i p)
    (hothers : ∀ j ≠ i, P j (f.process j)) (j : ι) : P j ((f.setProcess i p).process j) := by
  by_cases hj : j = i
  · subst hj
    rw [f.process_setProcess_self]
    exact hself
  · rw [f.process_setProcess_of_ne hj]
    exact hothers j hj

theorem chronicle_turn (hsep : Separated fs) (hsub : es ⊆ fs) (h : Chronicle d₀ es f) {k : Nat}
    {pc : Pc} {d : Daemon} {shared : Shared} {ret : pc.call.Ret} (hp : f.process i = .serving l m s)
    (hpc : s.threads[k]? = some pc)
    (hexec : Daemon.exec l.cfg m (f.daemon, s.shared) pc.call answer = some ((d, shared), ret))
    (hprocess : g.process = Function.update f.process i
      (.serving l m ⟨shared, s.threads.set k (resume m pc ret)⟩)) (hdaemon : g.daemon = d) :
    Chronicle d₀ (es ++ [⟨f, .turn i k answer, g⟩]) g := by
  have hsound : (Process.serving l m s).Sound es f.daemon i := hp ▸ h.process i
  obtain ⟨hlaunched, -, -, hview, -⟩ := hsound
  obtain ⟨haccess, hexpected⟩ := access_of_daemon hexec
  have hmachine := hexpected hview
  have hstep : step m s (.step k answer) =
      some ⟨shared, s.threads.set k (resume m pc ret)⟩ :=
    Threads.turn_eq_some_iff.mpr ⟨pc, shared, ret, hpc, hmachine, rfl⟩
  have hcall : access (⟨f, .turn i k answer, g⟩ : Edge (Fleet ι) (FleetAction ι)) =
      some (i, pc.call) := by
    simp [access, hp, hpc]
  have hself : projected i ⟨f, .turn i k answer, g⟩ =
      some ⟨s, .step k answer, ⟨shared, s.threads.set k (resume m pc ret)⟩⟩ := by
    simp [projected, hp, hprocess]
  -- the controller that moves takes a step of its machine, the others do not notice
  have hprocesses (hown : View d l.cfg shared.docker)
      (hmono : ∀ id c, f.daemon.containers id = some c → d.containers id = some c)
      (hothers : ∀ j ≠ i, ∀ l' docker, Launched es j l' → View f.daemon l'.cfg docker →
        View d l'.cfg docker) (j : ι) :
      (g.process j).Sound (es ++ [⟨f, .turn i k answer, g⟩]) d j := by
    by_cases hj : j = i
    · subst hj
      rw [hprocess, Function.update_self]
      exact sound_step (hp ▸ h.process j) (by simp) hself hstep hown
    · rw [hprocess, Function.update_of_ne hj]
      exact (h.process j).append (by simp) (projected_turn_of_ne hj k answer) hmono (hothers j hj)
  cases haccess with
  | other hcreate hsame hdocker =>
      subst hsame
      exact h.of_same_daemon hdaemon (creates_of_access hcall hcreate)
        (hprocesses (hdocker ▸ hview) (fun _ _ hc => hc) fun _ _ _ _ _ hv => hv)
  | create req id hname hreq hanswer hfresh hnew hdocker =>
      subst hnew hanswer
      refine h.of_create hdaemon hfresh hlaunched (by simp [creates, hcall, hreq])
        (hdaemon ▸ hprocesses ?_ (fun x c => containers_create_of_some hname hfresh) ?_)
      · rw [hdocker]
        exact hview.create hname req s.shared.now
      · intro j hj l' docker hl' hv
        exact hv.unseen hname hfresh (separated_of_launched hsep hsub hj hl' hlaunched req)

theorem chronicle_step (hsep : Separated fs) (hsub : es ⊆ fs) (h : Chronicle d₀ es f)
    (hstep : f.step a = some g) : Chronicle d₀ (es ++ [⟨f, a, g⟩]) g := by
  have hframe (i : ι) (hlaunch : ∀ l, a ≠ .launch i l) (hproj : projected i ⟨f, a, g⟩ = none) :
      (f.process i).Sound (es ++ [⟨f, a, g⟩]) f.daemon i :=
    (h.process i).append hlaunch hproj (fun _ _ hc => hc) fun _ _ _ hv => hv
  cases fleet_cases hstep with
  | tick d =>
      refine h.of_same_daemon rfl rfl fun i => ?_
      have hsound := h.process i
      cases hp : f.process i with
      | serving l m s =>
          rw [hp] at hsound
          simp only [hp, Process.tick]
          exact sound_step (a := .tick d) hsound (by simp) (by simp [projected, hp]) rfl
            hsound.2.2.2.1
      | _ =>
          have hkept := hframe i (by simp) (by simp [projected, hp])
          rw [hp] at hkept
          simpa only [hp, Process.tick] using hkept
  | launch i l =>
      refine h.of_same_daemon rfl rfl (Fleet.forall_setProcess ?_ fun j hj => ?_)
      · exact ⟨⟨_, List.mem_append_right _ (List.mem_singleton.mpr rfl), rfl⟩, machineRun_launch rfl,
          by simp [BootStage.pending]⟩
      · exact hframe j (by simp [Ne.symm hj]) (projected_launch i j l)
  | boot i answer l stage p hp hboot =>
      have hkept (j : ι) := hframe j (by simp) (projected_boot i j answer)
      exact h.of_same_daemon rfl rfl
        (Fleet.forall_setProcess (sound_bootStep (hp ▸ hkept i) hboot) fun j _ => hkept j)
  | start i entry l m s t hp hmachine =>
      have hsound : (Process.serving l m s).Sound es f.daemon i := hp ▸ h.process i
      have hdocker : t.shared.docker = s.shared.docker := by
        cases step_cases hmachine
        rfl
      refine h.of_same_daemon rfl rfl (Fleet.forall_setProcess ?_ fun j hj => ?_)
      · exact sound_step (a := .start entry) hsound (by simp)
          (by simp [projected, hp, f.process_setProcess_self]) hmachine (hdocker ▸ hsound.2.2.2.1)
      · exact hframe j (by simp) (projected_start_of_ne hj entry)
  | turn i k answer l m s pc d shared ret hp hpc hexec =>
      exact chronicle_turn hsep hsub h hp hpc hexec rfl rfl

theorem chronicle_initial (now : Int) : Chronicle d₀ [] (Fleet.initial (ι := ι) d₀ now) where
  origin id c hc := .found hc (by simp)
  absent id _ := by simp
  process i := trivial

theorem chronicle_of_path (hsep : Separated fs)
    (hpath : Path Fleet.step (Fleet.initial d₀ now) es f) (hsub : es ⊆ fs) : Chronicle d₀ es f := by
  refine hpath.history_along (Chronicle d₀) (chronicle_initial now) ?_
  intro front u a v h hstep hfront
  exact chronicle_step hsep (fun e he => hsub (hfront.subset (List.mem_append_left _ he))) h hstep

end Step

theorem exists_path_fleet (daemon : Daemon) (now : Int) (actions : List (FleetAction ι)) :
    ∃ f, Path Fleet.step (Fleet.initial daemon now) (Fleet.run daemon now actions) f :=
  exists_path_edges _ actions

theorem exists_path_serving (daemon : Daemon) (now : Int) (actions : List (FleetAction ι))
    (hsep : Separated (Fleet.run daemon now actions))
    (hserving : (final (Fleet.initial daemon now) (Fleet.run daemon now actions)).process i =
      .serving l m s) :
    ∃ f, Path Fleet.step (Fleet.initial daemon now) (Fleet.run daemon now actions) f ∧
      (Process.serving l m s).Sound (Fleet.run daemon now actions) f.daemon i := by
  obtain ⟨f, hpath⟩ := exists_path_fleet daemon now actions
  rw [← hpath.eq_final] at hserving
  exact ⟨f, hpath, hserving ▸ (chronicle_of_path hsep hpath (List.Subset.refl _)).process i⟩

/-- **A controller of a fleet is a controller.** Whatever the others do, and however often it was
started before, it has come to its state in a run of its own machine. -/
theorem fleet_runs_machine (daemon : Daemon) (now : Int) (actions : List (FleetAction ι))
    (hsep : Separated (Fleet.run daemon now actions)) (i : ι) (l : Launch) (m : Setup) (s : State)
    (hserving : (final (Fleet.initial daemon now) (Fleet.run daemon now actions)).process i =
      .serving l m s) :
    Launched (Fleet.run daemon now actions) i l ∧ m.cfg = l.cfg.toConfig ∧ m.specs = l.specs ∧
      Path (step m) (init m) (machineRun i (Fleet.run daemon now actions)) s := by
  obtain ⟨f, -, hlaunched, hcfg, hspecs, -, hrun⟩ :=
    exists_path_serving daemon now actions hsep hserving
  exact ⟨hlaunched, hcfg, hspecs, hrun⟩

omit [LabelFilter] in
theorem fleet_runs_machine_restarted :
    letI := keyValueFilter
    ∃ l m s, (final (Fleet.initial ⟨fun _ => none, rfl⟩ 0)
        (Fleet.run ⟨fun _ => none, rfl⟩ 0 Schedule.restarted)).process false = .serving l m s ∧
      Path (step m) (init m)
        (machineRun false (Fleet.run ⟨fun _ => none, rfl⟩ 0 Schedule.restarted)) s := by
  refine ⟨_, _, _, rfl, ?_⟩
  exact (@fleet_runs_machine Bool _ keyValueFilter ⟨fun _ => none, rfl⟩ 0 Schedule.restarted (by decide +kernel) false _ _ _
    rfl).2.2.2

section Kills

variable {d₀ : Daemon} {es : List (Edge (Fleet ι) (FleetAction ι))}
  {e : Edge (Fleet ι) (FleetAction ι)} {i : ι} {id : String}

theorem containers_step {f g : Fleet ι} (hstep : f.step a = some g) {c : DaemonContainer}
    (hc : f.daemon.containers id = some c) : g.daemon.containers id = some c := by
  cases fleet_cases hstep with
  | turn i k answer l m s pc d shared ret hp hpc hexec =>
      cases (access_of_daemon hexec).1 with
      | create req id' hname hcall hanswer hfresh hdaemon hdocker =>
          rw [hdaemon]
          exact containers_create_of_some hname hfresh hc
      | other hcreate hdaemon hdocker =>
          rw [hdaemon]
          exact hc
  | _ => exact hc

omit [DecidableEq ι] [LabelFilter] in
theorem goroutine_of_access {c : Call} (h : access e = some (i, c)) :
    ∃ (l : Launch) (m : Setup) (s : State) (k : Nat) (pc : Pc),
      e.source.process i = .serving l m s ∧ s.threads[k]? = some pc ∧ pc.call = c := by
  unfold access at h
  split at h
  · next j k answer haction =>
      split at h
      · next l m s hp =>
          obtain ⟨pc, hpc, hcall⟩ := Option.map_eq_some_iff.mp h
          cases hcall
          exact ⟨l, m, s, k, pc, hp, hpc, rfl⟩
      · cases h
  · cases h

omit [DecidableEq ι] [LabelFilter] in
/-- A removal is one of the boot pass or one of a goroutine. -/
theorem booting_or_access_of_kills (h : kills e = some (i, id)) :
    (∃ l rest, e.source.process i = .booting l (.kill id rest)) ∨ access e = some (i, .kill id) := by
  unfold kills at h
  split at h
  · next j answer haction =>
      split at h
      · next l id' rest hp =>
          cases h
          exact .inl ⟨l, rest, hp⟩
      · cases h
  · split at h
    · next j id' haccess =>
        cases h
        exact .inr haccess
    · cases h

/-- What a controller asks docker to remove is a container that its listings show. -/
theorem seen_of_kills (h : Chronicle d₀ es e.source) (hkills : kills e = some (i, id)) :
    ∃ l c, Launched es i l ∧ e.source.daemon.containers id = some c ∧
      l.cfg.sees c.labels = true := by
  have hsound := h.process i
  obtain ⟨l, rest, hp⟩ | haccess := booting_or_access_of_kills hkills
  · rw [hp] at hsound
    obtain ⟨hlaunched, -, hpending⟩ := hsound
    obtain ⟨c, hc, hsees⟩ := hpending id List.mem_cons_self
    exact ⟨l, c, hlaunched, hc, hsees⟩
  · obtain ⟨l, m, s, k, pc, hp, hpc, hcall⟩ := goroutine_of_access haccess
    rw [hp] at hsound
    obtain ⟨hlaunched, -, -, hview, hpath⟩ := hsound
    obtain ⟨container, hdocker⟩ := docker_of_kill hpath hpc hcall
    obtain ⟨c, hc, hsees⟩ := hview.known id container hdocker
    exact ⟨l, c, hlaunched, hc, hsees⟩

end Kills

/-- **Removals stay at home.** A container that a controller asks docker to remove is one that it
created itself before, in this process or an earlier one, or one that was there before anybody and has
the labels that the controller lists by. No other controller ever creates it. -/
theorem fleet_kills_own (daemon : Daemon) (now : Int) (actions : List (FleetAction ι))
    (hsep : Separated (Fleet.run daemon now actions)) (e : Edge (Fleet ι) (FleetAction ι))
    (front back : List (Edge (Fleet ι) (FleetAction ι)))
    (hrun : Fleet.run daemon now actions = front ++ e :: back) (i : ι) (id : String)
    (hkills : kills e = some (i, id)) :
    (∀ f ∈ Fleet.run daemon now actions, ∀ j, creates f = some (j, id) → j = i) ∧
      ((∃ f ∈ front, creates f = some (i, id)) ∨
        ∃ c l, daemon.containers id = some c ∧ Launched front i l ∧ l.cfg.sees c.labels = true) := by
  obtain ⟨f, hpath⟩ := exists_path_fleet daemon now actions
  rw [hrun] at hsep hpath ⊢
  obtain ⟨hfront, hstep, hback⟩ := hpath.split
  have hsub : front ⊆ front ++ e :: back := List.subset_append_left front _
  have hthen := chronicle_of_path hsep hfront hsub
  have hend := chronicle_of_path hsep hpath (List.Subset.refl _)
  obtain ⟨l, c, hlaunched, hc, hsees⟩ := seen_of_kills hthen hkills
  have hkept : f.daemon.containers id = some c :=
    hback.invariant (fun g => g.daemon.containers id = some c) (containers_step hstep hc)
      fun _ _ hsource hnext => containers_step hnext hsource
  -- its labels are those of its creator, and no other controller lists by them
  have hmine : ∀ j l' req, Launched (front ++ e :: back) j l' → c.labels = l'.cfg.labels req →
      j = i := by
    intro j l' req hlaunched' hlabels
    by_contra hji
    obtain ⟨e', he', hl⟩ := hlaunched
    rw [hlabels, separated_of_launched hsep (List.Subset.refl _) (Ne.symm hji) ⟨e', hsub he', hl⟩
      hlaunched' req] at hsees
    cases hsees
  constructor
  · cases hend.origin id c hkept with
    | found hfound hnone => exact fun g hg j hj => absurd hj (hnone g hg j)
    | made j l' req hlaunched' hlabels hcreates honly =>
        exact hmine j l' req hlaunched' hlabels ▸ honly
  · cases hthen.origin id c hc with
    | found hfound hnone => exact .inr ⟨c, l, hfound, hlaunched, hsees⟩
    | made j l' req hlaunched' hlabels hcreates honly =>
        obtain ⟨e', he', hl⟩ := hlaunched'
        exact .inl (hmine j l' req ⟨e', hsub he', hl⟩ hlabels ▸ hcreates)

omit [LabelFilter] in
theorem fleet_kills_own_restarted :
    letI := keyValueFilter
    let run := Fleet.run ⟨fun _ => none, rfl⟩ 0 Schedule.restarted
    ∃ front e back, run = front ++ e :: back ∧ kills e = some (false, "x") ∧
      (∃ f ∈ front, creates f = some (false, "x")) ∧
        ∀ f ∈ run, ∀ j, creates f = some (j, "x") → j = false := by
  intro run
  have hkills : ∃ e ∈ run, kills e = some (false, "x") := by decide +kernel
  obtain ⟨e, he, hx⟩ := hkills
  obtain ⟨front, back, hrun⟩ := List.append_of_mem he
  obtain ⟨honly, hcreated | ⟨c, l, hc, -⟩⟩ := @fleet_kills_own Bool _ keyValueFilter
    ⟨fun _ => none, rfl⟩ 0 Schedule.restarted (by decide +kernel) e front back hrun false "x" hx
  · exact ⟨front, e, back, hrun, hx, hcreated, honly⟩
  · cases hc

section Serves

variable {es : List (Edge (Fleet ι) (FleetAction ι))} {f g : Fleet ι} {a : FleetAction ι} {i : ι}
  {id : String}

theorem creates_of_projected {e' : Edge State Action} (hstep : f.step a = some g)
    (hproj : projected i ⟨f, a, g⟩ = some e') (hbefore : e'.source.shared.docker id = none)
    (hafter : e'.target.shared.docker id ≠ none) : creates ⟨f, a, g⟩ = some (i, id) := by
  cases fleet_cases hstep with
  | tick d =>
      cases hp : f.process i with
      | serving l m s =>
          simp only [projected, hp, Process.tick, Option.some.injEq] at hproj
          subst hproj
          exact absurd hbefore hafter
      | _ => simp [projected, hp] at hproj
  | launch j l =>
      rw [projected_launch] at hproj
      cases hproj
  | boot j answer l stage p hp hboot =>
      rw [projected_boot] at hproj
      cases hproj
  | start j entry l m s t hp hmachine =>
      by_cases hj : i = j
      · subst hj
        simp only [projected, hp, f.process_setProcess_self, if_true, Option.some.injEq] at hproj
        subst hproj
        cases step_cases hmachine
        exact absurd hbefore hafter
      · rw [projected_start_of_ne hj] at hproj
        cases hproj
  | turn j k answer l m s pc d shared ret hp hpc hexec =>
      by_cases hj : i = j
      · subst hj
        simp only [projected, hp, f.process_setProcess_self, if_true, Option.some.injEq] at hproj
        subst hproj
        cases (access_of_daemon hexec).1 with
        | other hcreate hdaemon hdocker => exact absurd (hdocker ▸ hbefore) hafter
        | create req id' hname hcall hanswer hfresh hdaemon hdocker =>
            have hid : id = id' := by
              by_contra hne
              rw [hdocker, Function.update_of_ne hne] at hafter
              exact hafter hbefore
            simp [creates, access, hp, hpc, hanswer, hcall, hid]
      · rw [projected_turn_of_ne hj] at hproj
        cases hproj

theorem created_since {d₀ : Daemon} (hpath : Path Fleet.step (Fleet.initial d₀ now) es f)
    (hrun : Path (step m) (init m) (machineRun i es) s) {c : Container}
    (hfound : m.docker id = none) (hdocker : s.shared.docker id = some c) :
    ∃ e ∈ sinceLaunch i es, creates e = some (i, id) := by
  obtain ⟨e', he', hbefore, hafter⟩ := created_of_fresh hrun hfound hdocker
  obtain ⟨e, he, hproj⟩ := List.mem_filterMap.mp he'
  exact ⟨e, he, creates_of_projected (hpath.enabled (sinceLaunch_subset i es he)) hproj hbefore hafter⟩

end Serves

/-- **What a controller hands out is its own.** The cell in a slot of a controller, and the cell of
every acquisition that one of its goroutines holds, was created by that controller since it was last
started. -/
theorem fleet_serves_own (daemon : Daemon) (now : Int) (actions : List (FleetAction ι))
    (hsep : Separated (Fleet.run daemon now actions)) (i : ι) (l : Launch) (m : Setup) (s : State)
    (hserving : (final (Fleet.initial daemon now) (Fleet.run daemon now actions)).process i =
      .serving l m s) :
    (∀ pool t, s.shared.slot pool = some t →
      ∃ e ∈ sinceLaunch i (Fleet.run daemon now actions), creates e = some (i, t.containerID)) ∧
    ∀ pc ∈ s.threads, ∀ acq, pc.held = some acq →
      ∃ e ∈ sinceLaunch i (Fleet.run daemon now actions),
        creates e = some (i, acq.tunnel.containerID) := by
  obtain ⟨f, hpath, -, -, -, -, hrun⟩ := exists_path_serving daemon now actions hsep hserving
  have hwf := wellFormed_of_path hrun
  have hhome := homemade_of_path hrun
  constructor
  · intro pool t hslot
    obtain ⟨c, hc, -⟩ := (hwf.slot pool t hslot).labelled
    exact created_since hpath hrun (hhome.slot pool t hslot) hc
  · intro pc hpc acq hheld
    obtain ⟨c, hc, -⟩ := (hwf.held pc hpc acq hheld).labelled
    exact created_since hpath hrun (hhome.held pc hpc acq hheld) hc

omit [LabelFilter] in
theorem fleet_serves_own_restarted :
    letI := keyValueFilter
    ∃ l m s, (final (Fleet.initial ⟨fun _ => none, rfl⟩ 0)
        (Fleet.run ⟨fun _ => none, rfl⟩ 0 Schedule.restarted)).process false = .serving l m s ∧
      (∃ t, s.shared.slot "de" = some t ∧ t.containerID = "z") ∧
      ∃ e ∈ sinceLaunch false (Fleet.run ⟨fun _ => none, rfl⟩ 0 Schedule.restarted),
        creates e = some (false, "z") := by
  refine ⟨_, _, _, rfl, ⟨_, rfl, rfl⟩, ?_⟩
  exact (@fleet_serves_own Bool _ keyValueFilter ⟨fun _ => none, rfl⟩ 0 Schedule.restarted (by decide +kernel) false _ _ _
    rfl).1 "de" _ rfl

end Pr0xteus
