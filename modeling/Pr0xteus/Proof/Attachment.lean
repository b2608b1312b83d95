import Mathlib.Logic.Function.DependsOn
import Pr0xteus.CellNetwork

/-!
# Looking for a cell where it is

Six functions read the two network settings. Where a cell network is set they agree: the container is
attached to it, and to the control network if there is one, and is looked for on one of these. A
control network by itself attaches nothing, and is looked at all the same.
-/

namespace Pr0xteus

open Encoding

namespace CellConfig

variable (cfg : CellConfig)

/-- What the spawner finds out about a cell depends on its endpoints on the networks that it was
attached to, and on no other. The URL that the inspection gives is only asked for by the readiness
probe. -/
structure LooksOnAttached : Prop where
  probeCellReady : ∀ probes ports socksAddr,
    DependsOn (fun networks => cfg.probeCellReady probes (.ok (some ⟨networks, ports⟩)) socksAddr)
      {network | network ∈ cfg.attachedNetworks}
  resolveGatewayAddr : ∀ ports socksAddr,
    DependsOn (fun networks => cfg.resolveGatewayAddr (.ok (some ⟨networks, ports⟩)) socksAddr)
      {network | network ∈ cfg.attachedNetworks}
  controlURLFromSummary :
    DependsOn (fun networks => cfg.controlURLFromSummary (some networks))
      {network | network ∈ cfg.attachedNetworks}

section Attached

theorem mem_attachedNetworks_of_dual (hcell : cfg.cellNetwork ≠ "")
    (hcontrol : cfg.cellControlNetwork ≠ "") : cfg.cellControlNetwork ∈ cfg.attachedNetworks := by
  have hkey : cfg.cellControlNetwork ∈ (((∅ : AList fun _ : String => Int).insert cfg.cellNetwork
      cellEgressGwPriority).insert cfg.cellControlNetwork cellControlGwPriority).keys := by
    rw [AList.keys_insert]
    exact List.mem_cons_self
  unfold attachedNetworks buildHostConfig buildNetworkingConfig
  simp only [hcell, hcontrol, ne_eq, not_false_eq_true, if_true, if_false, List.nil_append,
    Option.map_some, Option.getD_some]
  rw [if_neg (List.ne_nil_of_mem hkey)]
  exact hkey

theorem mem_attachedNetworks_of_single (hcell : cfg.cellNetwork ≠ "")
    (hcontrol : cfg.cellControlNetwork = "") : cfg.cellNetwork ∈ cfg.attachedNetworks := by
  unfold attachedNetworks buildHostConfig
  simp [hcell, hcontrol]

theorem attachedNetworks_of_smoke (hcell : cfg.cellNetwork = "") :
    cfg.attachedNetworks = [defaultBridge] := by
  unfold attachedNetworks buildHostConfig buildNetworkingConfig
  simp [hcell]

end Attached

theorem endpointAddress_congr {networks networks' : Networks} {network : String}
    (hsame : networks network = networks' network) :
    endpointAddress networks network = endpointAddress networks' network := by
  rw [endpointAddress, endpointAddress, hsame]

/-- The controller looks on the control network where there is one. -/
theorem looksOnAttached_of_dual (hcontrol : cfg.cellControlNetwork ≠ "")
    (hattached : cfg.cellControlNetwork ∈ cfg.attachedNetworks) : cfg.LooksOnAttached where
  probeCellReady := by
    intro probes ports socksAddr networks networks' hsame
    simp only [CellConfig.probeCellReady, controlURLFromInspect, hcontrol, if_false,
      endpointAddress_congr (hsame _ hattached)]
  resolveGatewayAddr := by
    intro ports socksAddr networks networks' hsame
    simp only [CellConfig.resolveGatewayAddr, hcontrol, if_false,
      endpointAddress_congr (hsame _ hattached)]
  controlURLFromSummary := by
    intro networks networks' hsame
    simp only [CellConfig.controlURLFromSummary, hcontrol, ne_eq, not_false_eq_true, if_true,
      endpointAddress_congr (hsame _ hattached)]

/-- Without one, it looks at what the cell's SOCKS5 address answers, and on the cell network. -/
theorem looksOnAttached_of_single (hcontrol : cfg.cellControlNetwork = "") :
    cfg.LooksOnAttached where
  probeCellReady := by
    intro probes ports socksAddr networks networks' _
    simp only [CellConfig.probeCellReady, hcontrol, if_true]
  resolveGatewayAddr := by
    intro ports socksAddr networks networks' _
    simp only [CellConfig.resolveGatewayAddr, hcontrol, if_true]
  controlURLFromSummary := by
    intro networks networks' hsame
    by_cases hcell : cfg.cellNetwork = ""
    · simp only [CellConfig.controlURLFromSummary, hcell, if_true]
    · have hattached := cfg.mem_attachedNetworks_of_single hcell hcontrol
      simp only [CellConfig.controlURLFromSummary, hcontrol, ne_eq, not_true_eq_false, if_false,
        endpointAddress_congr (hsame _ hattached)]

def oneEndpoint (network : String) : Networks :=
  Function.update (fun _ => none) network (some ⟨some "10.9.0.2"⟩)

/-- A control network that the cell is not attached to decides what its gateway is. -/
theorem mem_attachedNetworks_of_looksOnAttached (hlooks : cfg.LooksOnAttached)
    (hcontrol : cfg.cellControlNetwork ≠ "") : cfg.cellControlNetwork ∈ cfg.attachedNetworks := by
  by_contra hdetached
  have hsame := hlooks.probeCellReady ⟨fun _ => true, fun _ => true⟩ (fun _ => []) ""
    (x := oneEndpoint cfg.cellControlNetwork) (y := fun _ => none) (by
      intro network hnetwork
      have hne : network ≠ cfg.cellControlNetwork := fun heq => hdetached (heq ▸ hnetwork)
      rw [oneEndpoint, Function.update_of_ne hne])
  simp [CellConfig.probeCellReady, controlURLFromInspect, hcontrol, oneEndpoint,
    endpointAddress] at hsame

theorem looksOnAttached_iff : cfg.LooksOnAttached ↔
    cfg.cellNetwork ≠ "" ∨ cfg.cellControlNetwork = "" ∨
      cfg.cellControlNetwork = defaultBridge := by
  by_cases hcontrol : cfg.cellControlNetwork = ""
  · simp only [hcontrol, true_or, or_true, iff_true]
    exact cfg.looksOnAttached_of_single hcontrol
  · rw [show cfg.LooksOnAttached ↔ cfg.cellControlNetwork ∈ cfg.attachedNetworks from
      ⟨fun hlooks => cfg.mem_attachedNetworks_of_looksOnAttached hlooks hcontrol,
        cfg.looksOnAttached_of_dual hcontrol⟩]
    by_cases hcell : cfg.cellNetwork = ""
    · simp [cfg.attachedNetworks_of_smoke hcell, hcell, hcontrol]
    · simp [cfg.mem_attachedNetworks_of_dual hcell hcontrol, hcell]

/-- The listing and the inspection look on the same network where a cell network is set. -/
theorem controlURLFromSummary_eq_of_cellNetwork (hcell : cfg.cellNetwork ≠ "")
    (settings : Option NetworkSettings) :
    cfg.controlURLFromSummary (settings.map NetworkSettings.networks) =
      cfg.controlURLFromInspect settings := by
  unfold controlURLFromSummary
  rw [if_neg hcell]
  cases settings with
  | none => rfl
  | some settings =>
      by_cases hcontrol : cfg.cellControlNetwork = "" <;> simp [controlURLFromInspect, hcontrol]

theorem controlURLFromSummary_eq_iff :
    (∀ settings : Option NetworkSettings, (∀ s ∈ settings, s.networks "" = none) →
      cfg.controlURLFromSummary (settings.map NetworkSettings.networks) =
        cfg.controlURLFromInspect settings) ↔
      cfg.cellNetwork ≠ "" ∨ cfg.cellControlNetwork = "" := by
  by_cases hcell : cfg.cellNetwork = ""
  · simp only [controlURLFromSummary, hcell, if_true, ne_eq, not_true_eq_false, false_or]
    constructor
    · intro hsame
      by_contra hcontrol
      -- the inspection finds an endpoint on the control network, and the listing does not look
      have hnone := hsame (some ⟨oneEndpoint cfg.cellControlNetwork, fun _ => []⟩) (by
        rintro s ⟨⟩
        exact Function.update_of_ne (Ne.symm hcontrol) _ (fun _ => none))
      simp [controlURLFromInspect, hcontrol, oneEndpoint, endpointAddress] at hnone
    · intro hcontrol settings hunnamed
      cases settings with
      | none => rfl
      | some settings =>
          simp [controlURLFromInspect, hcontrol, hcell, endpointAddress, hunnamed settings rfl]
  · simp only [hcell, ne_eq, not_false_eq_true, true_or, iff_true]
    exact fun settings _ => cfg.controlURLFromSummary_eq_of_cellNetwork hcell settings

end CellConfig

/-- **The networks of a cell.** For every configuration, and so for every one that `LoadConfig`
accepts: what the spawner finds out about a cell depends only on networks that the cell was attached
to exactly when a cell network is set, or no control network is, or the control network is the one
that docker attaches by default; and the two control URLs agree on every report (in which no network
has the empty name) exactly when a cell network is set or no control network is. -/
theorem networks_of_cell (cfg : CellConfig) :
    (cfg.LooksOnAttached ↔ cfg.cellNetwork ≠ "" ∨ cfg.cellControlNetwork = "" ∨
      cfg.cellControlNetwork = CellConfig.defaultBridge) ∧
    ((∀ settings : Option NetworkSettings, (∀ s ∈ settings, s.networks "" = none) →
      cfg.controlURLFromSummary (settings.map NetworkSettings.networks) =
        cfg.controlURLFromInspect settings) ↔
      cfg.cellNetwork ≠ "" ∨ cfg.cellControlNetwork = "") :=
  ⟨cfg.looksOnAttached_iff, cfg.controlURLFromSummary_eq_iff⟩

/-- What passes the checks of `LoadConfig` comes out as it went in. -/
theorem loadConfig_eq_ok {cfg : CellConfig} {hostname : Option String} {token : List UInt8}
    (hports : cfg.validatePorts = .ok ()) (hparent : Text.trimSpace cfg.parentID ≠ "")
    (htoken : validateAPIToken cfg.apiToken = .ok token)
    (hscope : Text.trimSpace cfg.managedScope ≠ "") :
    loadConfig (.ok cfg) cfg.cellImage hostname = .ok cfg := by
  simp [loadConfig, CellConfig.resolveParentID, Except.mapError, wrapLoad, bind, Except.bind, hports,
    hparent, htoken, hscope]

/-- `LoadConfig` accepts a control network without a cell network. The cell is not attached to it,
though the spawner looks for it there; and where docker reports an endpoint there, the listing gives
no control URL and the inspection gives one. -/
theorem not_networks_of_cell :
    let cfg := Schedule.cells "" "cell-control"
    let settings : NetworkSettings := ⟨CellConfig.oneEndpoint "cell-control", fun _ => []⟩
    loadConfig (.ok cfg) cfg.cellImage none = .ok cfg ∧ ¬cfg.LooksOnAttached ∧
      cfg.controlURLFromSummary (some settings.networks) ≠
        cfg.controlURLFromInspect (some settings) := by
  intro cfg settings
  have hports : cfg.validatePorts = .ok () := by decide +kernel
  have htoken : validateAPIToken cfg.apiToken = .ok (utf8 "token") := by decide +kernel
  refine ⟨loadConfig_eq_ok hports (by decide +kernel) htoken (by decide +kernel), ?_,
    by decide +kernel⟩
  rw [CellConfig.looksOnAttached_iff]
  decide

end Pr0xteus
