import Pr0xteus.CellNetwork

/-!
# Several controllers at one docker daemon

The machine of one controller takes it for granted that docker lists only containers it knows. Here
the daemon is shared: it keeps every container with its labels, several controllers create and list
containers there, and their processes stop and start again, each with an empty memory and a pass that
removes what an earlier process left behind. What keeps them apart is the labels they give to their
cells and the filters they list with. How the daemon matches the two is docker's affair, and a parameter.
-/

namespace Pr0xteus

open Transition GoTime

section Labels

def labelManaged : String := "pr0xteus.managed"

def labelPool : String := "pr0xteus.pool"

def labelConf : String := "pr0xteus.conf"

def labelScope : String := "pr0xteus.scope"

def labelParent : String := "pr0xteus.parent.id"

abbrev Labels := AList fun _ : String => String

/-- The label filters of the daemon. What docker documents of them: a filter `key=value` asks for that
label, and all filters of one request have to match. -/
class LabelFilter where
  accepts : List String → Labels → Bool
  accepts_nil (labels : Labels) : accepts [] labels = true
  accepts_cons {key value : String} {filters : List String} {labels : Labels}
    (hkey : '=' ∉ key.toList) : accepts ((key ++ "=" ++ value) :: filters) labels = true ↔
      labels.lookup key = some value ∧ accepts filters labels = true

namespace CellConfig

/-- The labels of `buildContainerConfig`. -/
def labels (cfg : CellConfig) (req : SpawnRequest) : Labels :=
  let labels := (∅ : Labels).insert labelManaged "true" |>.insert labelPool req.pool
    |>.insert labelConf req.confName |>.insert labelScope cfg.managedScope
  if cfg.parentID ≠ "" then labels.insert labelParent cfg.parentID else labels

/-- The filters of `ReapOrphans`. -/
def orphanFilters (cfg : CellConfig) : List String :=
  [labelManaged ++ "=true", labelScope ++ "=" ++ cfg.managedScope]

/-- The filters of `ListChildren`. -/
def childFilters (cfg : CellConfig) : List String :=
  (labelManaged ++ "=true") ::
    (if cfg.parentID ≠ "" then [labelParent ++ "=" ++ cfg.parentID]
    else [labelScope ++ "=" ++ cfg.managedScope])

/-- Whether one of the two listings can show a container with these labels. -/
def sees [LabelFilter] (cfg : CellConfig) (labels : Labels) : Bool :=
  LabelFilter.accepts cfg.childFilters labels || LabelFilter.accepts cfg.orphanFilters labels

end CellConfig

end Labels

section Daemon

structure DaemonContainer where
  created : Int
  labels : Labels

def DaemonContainer.container (c : DaemonContainer) : Container :=
  ⟨c.created, (c.labels.lookup labelPool).getD "", (c.labels.lookup labelConf).getD ""⟩

/-- Every container that was ever created, by anybody. -/
structure Daemon where
  containers : String → Option DaemonContainer
  unnamed : containers "" = none

namespace Daemon

def create (d : Daemon) (id : String) (hname : id ≠ "") (c : DaemonContainer) : Daemon where
  containers := Function.update d.containers id (some c)
  unnamed := by rw [Function.update_of_ne (Ne.symm hname), d.unnamed]

theorem containers_create_self (d : Daemon) {id : String} (hname : id ≠ "") (c : DaemonContainer) :
    (d.create id hname c).containers id = some c := Function.update_self ..

theorem containers_create_of_ne (d : Daemon) {id x : String} (hname : id ≠ "") (c : DaemonContainer)
    (hx : x ≠ id) : (d.create id hname c).containers x = d.containers x := Function.update_of_ne hx ..

variable [LabelFilter]

def lists (d : Daemon) (filters : List String) (id : String) : Bool :=
  (d.containers id).any fun c => LabelFilter.accepts filters c.labels

def reports (d : Daemon) (filters : List String) (c : Summary) : Bool :=
  (d.containers c.id).any fun container =>
    LabelFilter.accepts filters container.labels && c.created == unixSeconds container.created

/-- One access of a goroutine of a controller. The three requests that concern containers go to the
daemon; what the controller's own state records of docker is written here and never read. -/
def exec (cfg : CellConfig) (m : Setup) (w : Daemon × Shared) :
    (c : Call) → Answer → Option ((Daemon × Shared) × c.Ret)
  | .containerCreate req, .container id =>
      if h : id = "" ∨ (w.1.containers id).isSome then none
      else
        let container : Container := ⟨w.2.now, req.pool, req.confName⟩
        some ((w.1.create id (fun hname => h (.inl hname)) ⟨w.2.now, cfg.labels req⟩,
          { w.2 with docker := Function.update w.2.docker id (some container) }), .ok id)
  | .listChildren, .handles listed =>
      if listed.all fun handle => w.1.lists cfg.childFilters handle.containerID then
        some (w, some listed)
      else none
  | .containerList, .summaries listed =>
      if listed.all (w.1.reports cfg.orphanFilters) then some (w, some listed) else none
  | c, answer => (Pr0xteus.exec m w.2 c answer).map fun result => ((w.1, result.1), result.2)

end Daemon

end Daemon

/-- What a process of a controller is started with. -/
structure Launch where
  cfg : CellConfig
  specs : List PoolSpec

/-- The pass of `ReapOrphans` before a controller serves. -/
inductive BootStage where
  | list
  | kill (containerID : String) (rest : List String)

inductive Process where
  | down
  | booting (launch : Launch) (stage : BootStage)
  | serving (launch : Launch) (setup : Setup) (state : State)

/-- What the machine of a controller starts from: of the containers that are there, it can come to
know those that its listings show. -/
def Daemon.setup [LabelFilter] (d : Daemon) (launch : Launch) (now : Int) : Setup where
  cfg := launch.cfg.toConfig
  specs := launch.specs
  docker := fun id =>
    ((d.containers id).filter fun c => launch.cfg.sees c.labels).map DaemonContainer.container
  docker_empty := by simp [d.unnamed]
  boot := now

namespace Process

variable [LabelFilter]

def bootNext (d : Daemon) (now : Int) (launch : Launch) : List String → Process
  | [] => .serving launch (d.setup launch now) (init (d.setup launch now))
  | id :: rest => .booting launch (.kill id rest)

/-- One request of the boot pass: no container is kept and none is too young, and a failed listing
or removal is only logged. -/
def bootStep (d : Daemon) (now : Int) (launch : Launch) : BootStage → Answer → Option Process
  | .list, .summaries listed =>
      if listed.all (d.reports launch.cfg.orphanFilters) then
        some (bootNext d now launch
          ((listed.filter (reapsOrphan launch.cfg.toConfig [] false now)).map Summary.id))
      else none
  | .list, .fail _ => some (bootNext d now launch [])
  | .list, _ => none
  | .kill _ rest, _ => some (bootNext d now launch rest)

def tick (d : Nat) : Process → Process
  | .serving launch m s =>
      .serving launch m ⟨{ s.shared with now := s.shared.now + d }, s.threads⟩
  | p => p

end Process

/-- The daemon, and the process of each controller. -/
structure Fleet (ι : Type) where
  now : Int
  daemon : Daemon
  process : ι → Process

inductive FleetAction (ι : Type) where
  | tick (d : Nat)
  /-- The process of the controller, if it has one, is gone, and a new one starts. -/
  | launch (i : ι) (launch : Launch)
  | boot (i : ι) (answer : Answer)
  | start (i : ι) (entry : Entry)
  | turn (i : ι) (k : Nat) (answer : Answer)

namespace Fleet

variable {ι : Type} [DecidableEq ι]

def setProcess (f : Fleet ι) (i : ι) (p : Process) : Fleet ι :=
  { f with process := Function.update f.process i p }

theorem process_setProcess_self (f : Fleet ι) (i : ι) (p : Process) :
    (f.setProcess i p).process i = p := Function.update_self ..

theorem process_setProcess_of_ne (f : Fleet ι) {i j : ι} (hj : j ≠ i) (p : Process) :
    (f.setProcess i p).process j = f.process j := Function.update_of_ne hj ..

def step [LabelFilter] (f : Fleet ι) : FleetAction ι → Option (Fleet ι)
  | .tick d => some { f with now := f.now + d, process := fun i => (f.process i).tick d }
  | .launch i launch => some (f.setProcess i (.booting launch .list))
  | .boot i answer =>
      match f.process i with
      | .booting launch stage =>
          (Process.bootStep f.daemon f.now launch stage answer).map (f.setProcess i)
      | _ => none
  | .start i entry =>
      match f.process i with
      | .serving launch m s =>
          (Pr0xteus.step m s (.start entry)).map fun t => f.setProcess i (.serving launch m t)
      | _ => none
  | .turn i k answer =>
      match f.process i with
      | .serving launch m s =>
          (Threads.turn Pc.call (Daemon.exec launch.cfg m) (resume m)
              ⟨(f.daemon, s.shared), s.threads⟩ k answer).map fun t =>
            { f.setProcess i (.serving launch m ⟨t.shared.2, t.threads⟩) with daemon := t.shared.1 }
      | _ => none

/-- Nobody is running yet. -/
def initial (daemon : Daemon) (now : Int) : Fleet ι := ⟨now, daemon, fun _ => .down⟩

abbrev run [LabelFilter] (daemon : Daemon) (now : Int) (actions : List (FleetAction ι)) :
    List (Edge (Fleet ι) (FleetAction ι)) :=
  edges step (initial daemon now) actions

end Fleet

/-! What is seen of an edge. -/

namespace FleetEdge

variable {ι : Type}

def launches (e : Edge (Fleet ι) (FleetAction ι)) : Option (ι × Launch) :=
  match e.action with
  | .launch i launch => some (i, launch)
  | _ => none

/-- The access that a goroutine of a serving controller makes. -/
def access (e : Edge (Fleet ι) (FleetAction ι)) : Option (ι × Call) :=
  match e.action with
  | .turn i k _ =>
      match e.source.process i with
      | .serving _ _ s => (s.threads[k]?).map fun pc => (i, pc.call)
      | _ => none
  | _ => none

/-- The controller that asks docker to remove a container, and the container. -/
def kills (e : Edge (Fleet ι) (FleetAction ι)) : Option (ι × String) :=
  match e.action with
  | .boot i _ =>
      match e.source.process i with
      | .booting _ (.kill id _) => some (i, id)
      | _ => none
  | _ =>
      match access e with
      | some (i, .kill id) => some (i, id)
      | _ => none

def creates (e : Edge (Fleet ι) (FleetAction ι)) : Option (ι × String) :=
  match e.action with
  | .turn _ _ (.container id) =>
      match access e with
      | some (i, .containerCreate _) => some (i, id)
      | _ => none
  | _ => none

def Launched (es : List (Edge (Fleet ι) (FleetAction ι))) (i : ι) (l : Launch) : Prop :=
  ∃ e ∈ es, launches e = some (i, l)

variable [DecidableEq ι]

/-- The part of a run since the controller's last start. -/
def sinceLaunch (i : ι) (es : List (Edge (Fleet ι) (FleetAction ι))) :
    List (Edge (Fleet ι) (FleetAction ι)) :=
  es.foldl (fun since e => if (launches e).any fun l => l.1 = i then [] else since ++ [e]) []

/-- What an edge is for the machine of one controller: the passing of time, or its own action. -/
def projected (i : ι) (e : Edge (Fleet ι) (FleetAction ι)) : Option (Edge State Action) :=
  match e.source.process i, e.target.process i with
  | .serving _ _ s, .serving _ _ t =>
      match e.action with
      | .tick d => some ⟨s, .tick d, t⟩
      | .start j entry => if j = i then some ⟨s, .start entry, t⟩ else none
      | .turn j k answer => if j = i then some ⟨s, .step k answer, t⟩ else none
      | _ => none
  | _, _ => none

/-- The run of one controller's machine. -/
def machineRun (i : ι) (es : List (Edge (Fleet ι) (FleetAction ι))) : List (Edge State Action) :=
  (sinceLaunch i es).filterMap (projected i)

end FleetEdge

/-- Different controllers never run under one scope, nor under one parent. -/
def Separated {ι : Type} (es : List (Edge (Fleet ι) (FleetAction ι))) : Prop :=
  ∀ e ∈ es, ∀ f ∈ es, ∀ a ∈ FleetEdge.launches e, ∀ b ∈ FleetEdge.launches f, a.1 ≠ b.1 →
    a.2.cfg.managedScope ≠ b.2.cfg.managedScope ∧
      (a.2.cfg.parentID ≠ "" → a.2.cfg.parentID ≠ b.2.cfg.parentID)

instance {ι : Type} [DecidableEq ι] (es : List (Edge (Fleet ι) (FleetAction ι))) :
    Decidable (Separated es) :=
  inferInstanceAs (Decidable (∀ e ∈ es, ∀ f ∈ es, ∀ a ∈ FleetEdge.launches e,
    ∀ b ∈ FleetEdge.launches f, a.1 ≠ b.1 → a.2.cfg.managedScope ≠ b.2.cfg.managedScope ∧
      (a.2.cfg.parentID ≠ "" → a.2.cfg.parentID ≠ b.2.cfg.parentID)))

namespace Schedule

/-- Accesses and requests of one controller of a fleet. -/
def onController {ι : Type} (i : ι) (actions : List Action) : List (FleetAction ι) :=
  actions.map fun
    | .tick d => .tick d
    | .start entry => .start i entry
    | .step k answer => .turn i k answer

def deployment (scope parent : String) : Launch :=
  ⟨{ Schedule.cells "" "" with managedScope := scope, parentID := parent }, Schedule.setup.specs⟩

/-- Two controllers. The first is asked for a cell, `x`, and the second for `y`; then the first starts
again, removes `x`, and is asked for a cell once more, `z`. -/
def restarted : List (FleetAction Bool) :=
  [.launch false (deployment "blue" "a"), .boot false (.fail "no daemon"),
    .launch true (deployment "green" "b"), .boot true (.summaries []),
    .start false (.proxy "de" none false), .start true (.proxy "de" none false)] ++
  onController false (ready 0 0 "x" ++ go 0 2) ++ onController true (ready 0 1 "y" ++ go 0 2) ++
  [.launch false (deployment "blue" "c"), .boot false (.summaries [⟨"x", 0, "running"⟩]),
    .boot false .ok, .start false (.proxy "de" none false)] ++
  onController false (ready 0 1 "z" ++ go 0 2)

end Schedule

end Pr0xteus
