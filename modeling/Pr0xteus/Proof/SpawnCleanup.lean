import Pr0xteus.Spawn

/-!
# A spawn cleans up after itself

Whatever docker, the pull, the poll and the log capture answer, a failed `Spawn` has created no
container or has killed the one that it created, once and in a context that the caller cannot cancel.
A successful one has killed none. `SpawnCases` says so by the three ways in which `Spawn` ends, and
each function that it calls has one lemma about the requests that it makes.
-/

namespace Pr0xteus

open Encoding

section Requests

/-- The identifiers that docker gave to the containers it created. -/
def createdIDs (calls : List DockerCall) : List String :=
  calls.filterMap fun call => match call with
    | .containerCreate _ _ (.ok containerID) => some containerID
    | _ => none

def killCalls (calls : List DockerCall) : List (Ctx × String) :=
  calls.filterMap fun call => match call with
    | .kill ctx containerID => some (ctx, containerID)
    | _ => none

/-- The container that a request is about, where it is about one that exists. -/
def DockerCall.container : DockerCall → Option String
  | .imagePull _ _ | .containerCreate _ _ _ => none
  | .containerStart _ containerID | .containerLogs _ containerID | .containerInspect _ containerID
  | .kill _ containerID | .containerStop _ containerID | .containerRemove _ containerID =>
      some containerID

/-- These requests are about one container at most. -/
def TouchesOnly (containerID : String) (calls : List DockerCall) : Prop :=
  ∀ call ∈ calls, ∀ touched ∈ call.container, touched = containerID

variable {containerID : String} {calls more : List DockerCall}

theorem createdIDs_append : createdIDs (calls ++ more) = createdIDs calls ++ createdIDs more :=
  List.filterMap_append

theorem killCalls_append : killCalls (calls ++ more) = killCalls calls ++ killCalls more :=
  List.filterMap_append

theorem touchesOnly_append : TouchesOnly containerID (calls ++ more) ↔
    TouchesOnly containerID calls ∧ TouchesOnly containerID more :=
  List.forall_mem_append

theorem Ctx.followsCaller_detachedCleanupContext (ctx : Ctx) :
    (detachedCleanupContext ctx).followsCaller = false :=
  rfl

def InspectsOnly (containerID : String) (calls : List DockerCall) : Prop :=
  ∀ call ∈ calls, ∃ ctx, call = .containerInspect ctx containerID

theorem InspectsOnly.append (h : InspectsOnly containerID calls)
    (hmore : InspectsOnly containerID more) : InspectsOnly containerID (calls ++ more) :=
  List.forall_mem_append.mpr ⟨h, hmore⟩

theorem InspectsOnly.createdIDs_eq_nil (h : InspectsOnly containerID calls) :
    createdIDs calls = [] := by
  apply List.filterMap_eq_nil_iff.mpr
  intro call hcall
  obtain ⟨ctx, rfl⟩ := h call hcall
  rfl

theorem InspectsOnly.killCalls_eq_nil (h : InspectsOnly containerID calls) :
    killCalls calls = [] := by
  apply List.filterMap_eq_nil_iff.mpr
  intro call hcall
  obtain ⟨ctx, rfl⟩ := h call hcall
  rfl

theorem InspectsOnly.touchesOnly (h : InspectsOnly containerID calls) :
    TouchesOnly containerID calls := by
  intro call hcall touched htouched
  obtain ⟨ctx, rfl⟩ := h call hcall
  exact (Option.some.inj htouched).symm

end Requests

section Kill

variable (w : SpawnWorld) (ctx : Ctx) (containerID : String)

/-- The two lists of requests that `Kill` can make. -/
theorem bestEffortKill_cases :
    let killCtx := detachedCleanupContext ctx
    w.bestEffortKill ctx containerID =
        [.kill killCtx containerID, .containerStop killCtx containerID] ∨
      w.bestEffortKill ctx containerID =
        [.kill killCtx containerID, .containerStop killCtx containerID,
          .containerRemove killCtx containerID] := by
  unfold SpawnWorld.bestEffortKill SpawnWorld.kill
  cases w.containerStop with
  | ok _ => exact .inr rfl
  | error reason =>
      dsimp only
      split
      · exact .inr rfl
      · exact .inl rfl

theorem createdIDs_bestEffortKill : createdIDs (w.bestEffortKill ctx containerID) = [] := by
  rcases bestEffortKill_cases w ctx containerID with h | h <;> rw [h] <;> rfl

theorem killCalls_bestEffortKill : killCalls (w.bestEffortKill ctx containerID) =
    [(detachedCleanupContext ctx, containerID)] := by
  rcases bestEffortKill_cases w ctx containerID with h | h <;> rw [h] <;> rfl

theorem touchesOnly_bestEffortKill : TouchesOnly containerID (w.bestEffortKill ctx containerID) := by
  rcases bestEffortKill_cases w ctx containerID with h | h <;> rw [h] <;>
    simp [TouchesOnly, DockerCall.container]

end Kill

section Spawn

variable {cfg : CellConfig} {w : SpawnWorld} {ctx : Ctx} {req : SpawnRequest}
  {containerID containerName : String}

/-- How `createAndStart` ends, and the requests that it has made by then. -/
inductive CreateCases (ctx : Ctx) (name : String) (calls : List DockerCall) :
    Except SpawnError (String × String) → Prop
  | uncreated (err : SpawnError) (hcreated : createdIDs calls = []) (hkills : killCalls calls = [])
      (htouches : ∀ call ∈ calls, call.container = none) : CreateCases ctx name calls (.error err)
  | killed (err : SpawnError) (containerID : String) (hcreated : createdIDs calls = [containerID])
      (hkills : killCalls calls = [(detachedCleanupContext ctx, containerID)])
      (htouches : TouchesOnly containerID calls) : CreateCases ctx name calls (.error err)
  | started (containerID : String) (hcreated : createdIDs calls = [containerID])
      (hkills : killCalls calls = []) (htouches : TouchesOnly containerID calls) :
      CreateCases ctx name calls (.ok (containerID, name))

theorem createContainer_cases (w : SpawnWorld) (ctx : Ctx) (containerName : String) :
    CreateCases ctx containerName (CellConfig.createContainer w ctx containerName).1
      (CellConfig.createContainer w ctx containerName).2 := by
  unfold CellConfig.createContainer
  cases w.containerCreate with
  | error reason => exact .uncreated _ rfl rfl (by simp [DockerCall.container])
  | ok containerID =>
      dsimp only
      cases w.containerStart with
      | error reason =>
          refine .killed _ containerID ?_ ?_ ?_
          · rw [createdIDs_append, createdIDs_bestEffortKill]
            rfl
          · rw [killCalls_append, killCalls_bestEffortKill]
            rfl
          · rw [touchesOnly_append]
            exact ⟨by simp [TouchesOnly, DockerCall.container],
              touchesOnly_bestEffortKill w ctx containerID⟩
      | ok _ => exact .started containerID rfl rfl (by simp [TouchesOnly, DockerCall.container])

/-- A pull before that changes nothing. -/
theorem CreateCases.pulled {name image : String} {calls : List DockerCall}
    {result : Except SpawnError (String × String)} (h : CreateCases ctx name calls result) :
    CreateCases ctx name (.imagePull ctx image :: calls) result := by
  cases h with
  | uncreated err hcreated hkills htouches =>
      exact .uncreated err hcreated hkills (List.forall_mem_cons.mpr ⟨rfl, htouches⟩)
  | killed err containerID hcreated hkills htouches =>
      exact .killed err containerID hcreated hkills (List.forall_mem_cons.mpr ⟨nofun, htouches⟩)
  | started containerID hcreated hkills htouches =>
      exact .started containerID hcreated hkills (List.forall_mem_cons.mpr ⟨nofun, htouches⟩)

theorem createAndStart_cases (cfg : CellConfig) (w : SpawnWorld) (ctx : Ctx) (req : SpawnRequest) :
    CreateCases ctx (buildContainerName req.pool req.confName w.now)
      (cfg.createAndStart w ctx req).1 (cfg.createAndStart w ctx req).2 := by
  have hcreate := createContainer_cases w ctx (buildContainerName req.pool req.confName w.now)
  unfold CellConfig.createAndStart
  dsimp only
  split
  · exact hcreate
  · cases w.pullImage with
    | error reason => exact .uncreated _ rfl rfl (by simp [DockerCall.container])
    | ok _ => exact hcreate.pulled

/-- What a look at a cell has found when `readyGateway` reports it ready. -/
structure FoundReady (cfg : CellConfig) (containerName : String) (look : Look)
    (addr gatewayAddr : String) : Prop where
  socksAddr : cfg.resolveSocksAddr containerName look.socks = .ok addr
  addr_ne : addr ≠ ""
  probe : cfg.probeCellReady look.probes look.probe addr = .ok true
  gateway : cfg.resolveGatewayAddr look.gateway addr = .ok gatewayAddr
  gatewayAddr_ne : gatewayAddr ≠ ""

theorem inspectsOnly_ite (p : Prop) [Decidable p] :
    InspectsOnly containerID (if p then [] else [.containerInspect ctx containerID]) := by
  split <;> simp [InspectsOnly]

theorem readyGateway_spec (cfg : CellConfig) (ctx : Ctx) (containerID containerName : String)
    (look : Look) :
    InspectsOnly containerID (cfg.readyGateway ctx containerID containerName look).1 ∧
      ∀ addr gatewayAddr,
        (cfg.readyGateway ctx containerID containerName look).2 = some (addr, gatewayAddr) →
        FoundReady cfg containerName look addr gatewayAddr := by
  have honHost : InspectsOnly containerID
      (if cfg.cellNetwork ≠ "" then [] else [DockerCall.containerInspect ctx containerID]) :=
    inspectsOnly_ite _
  have honControl : InspectsOnly containerID
      (if cfg.cellControlNetwork = "" then [] else [DockerCall.containerInspect ctx containerID]) :=
    inspectsOnly_ite _
  unfold CellConfig.readyGateway
  dsimp only
  split
  · exact ⟨honHost, nofun⟩
  · next addr hsocks =>
      split
      · exact ⟨honHost, nofun⟩
      · next haddr =>
          split
          · exact ⟨honHost.append honControl, nofun⟩
          · exact ⟨honHost.append honControl, nofun⟩
          · next hprobe =>
              have hcalls := (honHost.append honControl).append honControl
              split
              · exact ⟨hcalls, nofun⟩
              · next gatewayAddr hgateway =>
                  split
                  · exact ⟨hcalls, nofun⟩
                  · next hne =>
                      refine ⟨hcalls, fun addr' gatewayAddr' hfound => ?_⟩
                      cases hfound
                      exact ⟨hsocks, haddr, hprobe, hgateway, hne⟩

/-- The tunnel of a cell that one of the looks found ready. -/
structure BecameReady (cfg : CellConfig) (w : SpawnWorld) (req : SpawnRequest)
    (containerID containerName : String) (tunnel : Tunnel) : Prop where
  found : ∃ round look addr gatewayAddr, w.round round = .tick look ∧
    FoundReady cfg containerName look addr gatewayAddr ∧
    tunnel = readyTunnel req containerID addr gatewayAddr w.readyAt

theorem waitReady_spec {fuel round : Nat} {calls : List DockerCall}
    {result : Except SpawnError Tunnel}
    (h : cfg.waitReady w ctx containerID containerName req fuel round = some (calls, result)) :
    InspectsOnly containerID calls ∧
      ∀ tunnel, result = .ok tunnel → BecameReady cfg w req containerID containerName tunnel := by
  induction fuel generalizing round calls with
  | zero => cases h
  | succ fuel ih =>
      rw [CellConfig.waitReady] at h
      cases hround : w.round round with
      | done =>
          rw [hround] at h
          cases h
          exact ⟨List.forall_mem_nil _, fun _ htunnel => nomatch htunnel⟩
      | tick look =>
          rw [hround] at h
          dsimp only at h
          obtain ⟨hinspects, hready⟩ := readyGateway_spec cfg ctx containerID containerName look
          generalize cfg.readyGateway ctx containerID containerName look = looked
            at h hinspects hready
          obtain ⟨looks, _ | ⟨addr, gatewayAddr⟩⟩ := looked
          · -- not ready: the next round goes on
            obtain ⟨⟨later, result'⟩, hlater, hresult⟩ := Option.map_eq_some_iff.mp h
            cases hresult
            obtain ⟨hinspects', hready'⟩ := ih hlater
            exact ⟨hinspects.append hinspects', hready'⟩
          · have hfound := hready addr gatewayAddr rfl
            dsimp only at h
            split at h
            · cases h
              exact ⟨hinspects, fun _ htunnel => nomatch htunnel⟩
            · cases h
              refine ⟨hinspects, fun tunnel htunnel => ?_⟩
              cases htunnel
              exact ⟨round, look, addr, gatewayAddr, hround, hfound, rfl⟩

inductive SpawnCases (cfg : CellConfig) (w : SpawnWorld) (ctx : Ctx) (req : SpawnRequest)
    (run : SpawnRun) : Prop
  | uncreated (err : SpawnError) (hresult : run.result = .error err)
      (hcreated : createdIDs run.calls = []) (hkills : killCalls run.calls = [])
      (htouches : ∀ call ∈ run.calls ++ run.follower, call.container = none)
  | killed (err : SpawnError) (containerID : String) (hresult : run.result = .error err)
      (hcreated : createdIDs run.calls = [containerID])
      (hkills : killCalls run.calls = [(detachedCleanupContext ctx, containerID)])
      (htouches : TouchesOnly containerID (run.calls ++ run.follower))
  | ready (tunnel : Tunnel) (containerID : String) (hresult : run.result = .ok tunnel)
      (hcreated : createdIDs run.calls = [containerID]) (hkills : killCalls run.calls = [])
      (htouches : TouchesOnly containerID (run.calls ++ run.follower))
      (hready : BecameReady cfg w req containerID
        (buildContainerName req.pool req.confName w.now) tunnel)

theorem spawn_cases {fuel : Nat} {run : SpawnRun} (h : cfg.spawn w ctx req fuel = some run) :
    SpawnCases cfg w ctx req run := by
  have hcreate := createAndStart_cases cfg w ctx req
  unfold CellConfig.spawn at h
  generalize cfg.createAndStart w ctx req = created at h hcreate
  obtain ⟨calls, result⟩ := created
  cases hcreate with
  | uncreated err hcreated hkills htouches =>
      cases h
      refine .uncreated err rfl hcreated hkills ?_
      rw [List.append_nil]
      exact htouches
  | killed err containerID hcreated hkills htouches =>
      cases h
      refine .killed err containerID rfl hcreated hkills ?_
      rw [List.append_nil]
      exact htouches
  | started containerID hcreated hkills htouches =>
      have hfollower : TouchesOnly containerID
          [.containerLogs (.withCancel (.withoutCancel ctx)) containerID] := by
        simp [TouchesOnly, DockerCall.container]
      dsimp only at h
      split at h
      · cases h
      · next polled tunnel hwait =>
          cases h
          obtain ⟨hinspects, hready⟩ := waitReady_spec hwait
          refine .ready tunnel containerID rfl ?_ ?_ ?_ (hready tunnel rfl)
          · rw [createdIDs_append, hcreated, hinspects.createdIDs_eq_nil, List.append_nil]
          · rw [killCalls_append, hkills, hinspects.killCalls_eq_nil, List.append_nil]
          · exact touchesOnly_append.mpr
              ⟨touchesOnly_append.mpr ⟨htouches, hinspects.touchesOnly⟩, hfollower⟩
      · next polled err hwait =>
          cases h
          obtain ⟨hinspects, -⟩ := waitReady_spec hwait
          refine .killed _ containerID rfl ?_ ?_ ?_
          · rw [createdIDs_append, createdIDs_append, hcreated, hinspects.createdIDs_eq_nil,
              createdIDs_bestEffortKill, List.append_nil, List.append_nil]
          · rw [killCalls_append, killCalls_append, hkills, hinspects.killCalls_eq_nil,
              killCalls_bestEffortKill, List.append_nil, List.nil_append]
          · exact touchesOnly_append.mpr
              ⟨touchesOnly_append.mpr ⟨touchesOnly_append.mpr ⟨htouches, hinspects.touchesOnly⟩,
                touchesOnly_bestEffortKill w ctx containerID⟩, hfollower⟩

/-- `Spawn` returns when its context ends, if not before. -/
theorem exists_spawn (cfg : CellConfig) (w : SpawnWorld) (ctx : Ctx) (req : SpawnRequest) {n : Nat}
    (hdone : w.round n = .done) : ∃ run, cfg.spawn w ctx req (n + 1) = some run := by
  have hwait : ∀ (left round : Nat) (containerID containerName : String), round + left = n →
      ∃ waited, cfg.waitReady w ctx containerID containerName req (left + 1) round = some waited := by
    intro left
    induction left with
    | zero =>
        rintro round containerID containerName rfl
        exact ⟨_, by rw [CellConfig.waitReady, show w.round round = .done from hdone]⟩
    | succ left ih =>
        intro round containerID containerName hround
        obtain ⟨later, hlater⟩ := ih (round + 1) containerID containerName (by omega)
        rw [CellConfig.waitReady]
        cases w.round round with
        | done => exact ⟨_, rfl⟩
        | tick look =>
            dsimp only
            split
            · exact ⟨_, by rw [hlater]; rfl⟩
            · split <;> exact ⟨_, rfl⟩
  unfold CellConfig.spawn
  split
  · exact ⟨_, rfl⟩
  · next calls containerID containerName hcreate =>
      obtain ⟨⟨polled, result⟩, hwaited⟩ := hwait n 0 containerID containerName (by omega)
      rw [hwaited]
      cases result <;> exact ⟨_, rfl⟩

/-- The machine's `waitReady` and `readyClock` are what a successful `Spawn` does after the create. -/
theorem resume_of_spawn {m : Setup} {a : Attempt} {mu fuel : Nat} {conf : String} {run : SpawnRun}
    {tunnel : Tunnel} (hspawn : cfg.spawn w ctx (a.request conf) fuel = some run)
    (hresult : run.result = .ok tunnel) (s : Shared) :
    ∃ addr gatewayAddr,
      exec m s (.waitReady tunnel.containerID) (.ready addr gatewayAddr) =
        some (s, .ok (addr, gatewayAddr)) ∧
      resume m (.acquire a (.readyClock mu conf tunnel.containerID addr gatewayAddr)) w.readyAt =
        .acquire a (.useClock mu tunnel) := by
  cases spawn_cases hspawn with
  | uncreated err herr =>
      rw [hresult] at herr
      cases herr
  | killed err containerID herr =>
      rw [hresult] at herr
      cases herr
  | ready tunnel' containerID hok hcreated hkills htouches hready =>
      rw [hresult] at hok
      cases hok
      obtain ⟨round, look, addr, gatewayAddr, hround, hfound, rfl⟩ := hready.found
      refine ⟨addr, gatewayAddr, ?_, rfl⟩
      simp [exec, hfound.addr_ne, hfound.gatewayAddr_ne]

end Spawn

/-- **A spawn cleans up after itself.** Whatever the answers are: a `Spawn` that fails has created no
container, or has called `Kill` once, for the container it created and in a context that does not end
with the caller's; a `Spawn` that returns a tunnel has created that tunnel's container, has not called
`Kill`, and has found the cell ready and its gateway there; and no request is about another
container. -/
theorem spawn_cleans_up (cfg : CellConfig) (w : SpawnWorld) (ctx : Ctx) (req : SpawnRequest)
    (fuel : Nat) (run : SpawnRun) (hspawn : cfg.spawn w ctx req fuel = some run) :
    (∀ err, run.result = .error err →
      createdIDs run.calls = [] ∧ killCalls run.calls = [] ∨
      ∃ containerID killCtx, createdIDs run.calls = [containerID] ∧
        killCalls run.calls = [(killCtx, containerID)] ∧ killCtx.followsCaller = false) ∧
    (∀ tunnel, run.result = .ok tunnel →
      createdIDs run.calls = [tunnel.containerID] ∧ killCalls run.calls = [] ∧
      ∃ round look addr, w.round round = .tick look ∧
        cfg.probeCellReady look.probes look.probe addr = .ok true ∧
        cfg.resolveGatewayAddr look.gateway addr = .ok tunnel.gatewayAddr ∧
        tunnel.gatewayAddr ≠ "") ∧
    ∀ call ∈ run.calls ++ run.follower, ∀ containerID ∈ call.container,
      containerID ∈ createdIDs run.calls := by
  cases spawn_cases hspawn with
  | uncreated err hresult hcreated hkills htouches =>
      refine ⟨fun _ _ => .inl ⟨hcreated, hkills⟩, fun tunnel htunnel => ?_,
        fun call hcall containerID hcontainer => ?_⟩
      · rw [hresult] at htunnel
        cases htunnel
      · rw [htouches call hcall] at hcontainer
        cases hcontainer
  | killed err containerID hresult hcreated hkills htouches =>
      refine ⟨fun _ _ => .inr ⟨containerID, _, hcreated, hkills,
        Ctx.followsCaller_detachedCleanupContext ctx⟩, fun tunnel htunnel => ?_,
        fun call hcall touched htouched => ?_⟩
      · rw [hresult] at htunnel
        cases htunnel
      · rw [hcreated, htouches call hcall touched htouched]
        exact List.mem_singleton_self _
  | ready tunnel containerID hresult hcreated hkills htouches hready =>
      refine ⟨fun err herr => ?_, fun tunnel' htunnel => ?_, fun call hcall touched htouched => ?_⟩
      · rw [hresult] at herr
        cases herr
      · rw [hresult] at htunnel
        cases htunnel
        obtain ⟨round, look, addr, gatewayAddr, hround, hfound, rfl⟩ := hready.found
        exact ⟨hcreated, hkills, round, look, addr, hround, hfound.probe, hfound.gateway,
          hfound.gatewayAddr_ne⟩
      · rw [hcreated, htouches call hcall touched htouched]
        exact List.mem_singleton_self _

/-- Docker starts the container, and the context ends before the cell has an address. -/
def Schedule.unreadyCell : SpawnWorld where
  now := 0
  pullImage := .ok ()
  containerCreate := .ok "x"
  containerStart := .ok ()
  round := fun round =>
    if round = 0 then .tick ⟨.ok none, .ok none, .ok none, ⟨fun _ => false, fun _ => false⟩⟩ else .done
  readyAt := 0
  logs := .copied "wg0: no handshake" (some .canceled) none
  containerStop := .error "container x is not running"
  containerRemove := .ok ()

open Schedule in
theorem spawn_cleans_up_unready :
    ∃ run killCtx, (cells "cells" "control").spawn unreadyCell .caller ⟨"de", "a"⟩ 2 = some run ∧
      createdIDs run.calls = ["x"] ∧ killCalls run.calls = [(killCtx, "x")] ∧
      killCtx.followsCaller = false := by
  obtain ⟨run, hspawn⟩ := exists_spawn (cells "cells" "control") unreadyCell .caller ⟨"de", "a"⟩
    (n := 1) rfl
  have hfacts : ((cells "cells" "control").spawn unreadyCell .caller ⟨"de", "a"⟩ 2).all
      (fun run => createdIDs run.calls = ["x"] ∧ run.result.toBool = false) = true := by
    decide +kernel
  rw [hspawn, Option.all_some, decide_eq_true_iff] at hfacts
  obtain ⟨hcreated, hfailed⟩ := hfacts
  obtain ⟨err, herr⟩ : ∃ err, run.result = .error err := by
    cases hresult : run.result with
    | error err => exact ⟨err, rfl⟩
    | ok tunnel =>
        rw [hresult] at hfailed
        cases hfailed
  have hlaw := (spawn_cleans_up _ _ _ _ _ _ hspawn).1 err herr
  rw [hcreated] at hlaw
  obtain ⟨hnil, -⟩ | ⟨containerID, killCtx, hid, hkills, hdetached⟩ := hlaw
  · cases hnil
  · cases hid
    exact ⟨run, killCtx, hspawn, hcreated, hkills, hdetached⟩

end Pr0xteus
