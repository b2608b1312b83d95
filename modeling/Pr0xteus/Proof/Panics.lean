import Pr0xteus.Panics

/-!
# Which calls panic

`Expected` lists the guarded calls of each goroutine. `LoadConfig` checks the ports, and the intervals of
the other tickers are constants, so one call is left that can panic: the one of the health loop.
-/

namespace Pr0xteus

open Encoding GoTime Net Fallible

variable {env : Environ} {call : GuardedCall} {w : SpawnWorld} {g : Goroutine} {cellImage : String}
  {s : State}

/-! ## Ports -/

section Ports

theorem slash_not_mem_toString (port : Int) : '/'.toUInt8 ∉ utf8 (toString port) := by
  rw [utf8_toString_int]
  intro h
  obtain ⟨c, hc, hslash⟩ := List.mem_map.mp h
  rcases isDigit_or_dash_of_mem_toString hc with hdigit | rfl
  · have hbyte := (isDigit_toUInt8 hdigit).1
    rw [hslash] at hbyte
    exact absurd hbyte (by decide)
  · exact absurd hslash (by decide)

theorem mustParsePort_eq (port : Int) :
    mustParsePort port = (match parsePortNumber (utf8 (toString port)) with
      | .error reason => .error ("invalid port '" ++ toString port ++ "': " ++ reason)
      | .ok portNum => .ok ⟨portNum, utf8 "tcp"⟩) := by
  have htext : utf8 (toString port ++ "/tcp") =
      utf8 (toString port) ++ '/'.toUInt8 :: utf8 "tcp" := by
    rw [Bytes.utf8_append]
    rfl
  rw [mustParsePort, htext, parsePort, if_neg (List.append_ne_nil_of_right_ne_nil _ (by simp)),
    Bytes.cut_append (slash_not_mem_toString port)]
  dsimp only
  rw [Bytes.text?_utf8]
  rfl

theorem parsePortNumber_natCast {n : Nat} {num : UInt16} :
    parsePortNumber (utf8 (toString n)) = .ok num ↔ n ≤ 65535 ∧ num = .ofNat n := by
  have hiff : ∀ m, parseUint 16 (utf8 (toString n)) = .ok m ↔ n = m ∧ m < 2 ^ 16 := by
    intro m
    rw [parseUint_eq_ok_iff, decimal_toString]
    exact ⟨fun h => h.2.2, fun h => ⟨toString_ne_nil n, fun b hb => isDigit_of_mem_toString hb, h⟩⟩
  rw [parsePortNumber, if_neg (toString_ne_nil n)]
  constructor
  · intro h
    split at h
    · cases h
    · cases h
    · next m hparse =>
        obtain ⟨rfl, hfits⟩ := (hiff m).mp hparse
        cases h
        exact ⟨Nat.le_of_lt_succ hfits, rfl⟩
  · rintro ⟨hfits, rfl⟩
    rw [(hiff n).mpr ⟨rfl, Nat.lt_succ_of_le hfits⟩]

theorem parsePortNumber_negSucc (n : Nat) :
    parsePortNumber (utf8 (toString (Int.negSucc n))) = .error "invalid syntax" := by
  have htext : utf8 (toString (Int.negSucc n)) = '-'.toUInt8 :: utf8 (n + 1).repr := by
    change utf8 ("-" ++ (n + 1).repr) = _
    rw [Bytes.utf8_append]
    rfl
  rw [htext]
  rfl

/-- The numbers that are ports are read as such, and no others. -/
theorem mustParsePort_eq_ok_iff {port : Int} {p : Port} :
    mustParsePort port = .ok p ↔
      0 ≤ port ∧ port ≤ 65535 ∧ p = ⟨.ofNat port.toNat, utf8 "tcp"⟩ := by
  rw [mustParsePort_eq]
  cases port with
  | ofNat n =>
      have htext : toString (Int.ofNat n) = toString n := rfl
      rw [htext]
      constructor
      · intro h
        split at h
        · cases h
        · next num hnumber =>
            obtain ⟨hfits, rfl⟩ := parsePortNumber_natCast.mp hnumber
            cases h
            exact ⟨Int.natCast_nonneg n, Int.ofNat_le.mpr hfits, rfl⟩
      · rintro ⟨-, hfits, rfl⟩
        rw [parsePortNumber_natCast.mpr ⟨Int.ofNat_le.mp hfits, rfl⟩]
        rfl
  | negSucc n =>
      rw [parsePortNumber_negSucc]
      simp

end Ports

/-! ## What is expected of each goroutine -/

namespace Panics

variable {cfg : EnvConfig}

/-- The guarded calls that there are. -/
inductive Expected (cfg : EnvConfig) : Goroutine → GuardedCall → Prop
  | idle : Expected cfg .idleLoop (.newTicker tickEvery)
  | health : Expected cfg .healthLoop (.newTicker cfg.healthCheckInterval)
  | orphan : Expected cfg .orphanLoop (.newTicker orphanReapInterval)
  | poll : Expected cfg .spawn (.newTicker waitReadyTickInterval)
  | socks : Expected cfg .spawn (.mustParsePort cfg.cellSocksPort)
  | control : Expected cfg .spawn (.mustParsePort cfg.cellControlPort)

theorem expected_loops {entry : Goroutine × List GuardedCall} (h : entry ∈ loops cfg) :
    ∀ call ∈ entry.2, Expected cfg entry.1 call := by
  have hcall : ∀ {g : Goroutine} {call : GuardedCall}, Expected cfg g call →
      ∀ call' ∈ [call], Expected cfg g call' := by
    intro g call hexpected call' hmem
    rwa [List.mem_singleton.mp hmem]
  simp only [loops, List.mem_cons, List.not_mem_nil, or_false] at h
  obtain rfl | rfl | rfl := h
  · exact hcall .idle
  · exact hcall .health
  · exact hcall .orphan

theorem expected_resolveCalls {info : Inspection} (h : call ∈ resolveCalls cfg.toCellConfig info) :
    Expected cfg .spawn call := by
  unfold resolveCalls at h
  split at h
  · cases h
  · split at h
    · cases h
    · cases h
    · rw [List.mem_singleton.mp h]
      exact .socks

theorem expected_roundCalls {ctx : Ctx} {containerID containerName : String} {fuel round : Nat}
    (h : call ∈ roundCalls cfg.toCellConfig w ctx containerID containerName fuel round) :
    Expected cfg .spawn call := by
  induction fuel generalizing round with
  | zero => cases h
  | succ fuel ih =>
      simp only [roundCalls] at h
      split at h
      · cases h
      · rcases List.mem_append.mp h with hresolve | hlater
        · exact expected_resolveCalls hresolve
        · split at hlater
          · exact ih hlater
          · cases hlater

theorem expected_createAndStartCalls (h : call ∈ createAndStartCalls cfg.toCellConfig w) :
    Expected cfg .spawn call := by
  have hcreate : call ∈ createCalls cfg.toCellConfig → Expected cfg .spawn call := by
    intro h
    rcases List.mem_append.mp h with hcontainer | hhost
    · simp only [List.mem_cons, List.not_mem_nil, or_false] at hcontainer
      obtain rfl | rfl := hcontainer
      · exact .socks
      · exact .control
    · split at hhost
      · cases hhost
      · rw [List.mem_singleton.mp hhost]
        exact .socks
  unfold createAndStartCalls at h
  split at h
  · exact hcreate h
  · split at h
    · cases h
    · exact hcreate h

theorem expected_spawnCalls {ctx : Ctx} {req : SpawnRequest} {fuel : Nat} :
    ∀ call ∈ spawnCalls cfg.toCellConfig w ctx req fuel, Expected cfg .spawn call := by
  intro call h
  rcases List.mem_append.mp h with hcreate | hwait
  · exact expected_createAndStartCalls hcreate
  · split at hwait
    · cases hwait
    · rcases List.mem_cons.mp hwait with rfl | hround
      · exact .poll
      · exact expected_roundCalls hround

/-! ## Runs -/

/-- Every guarded call, made or still to be made, is an expected one, and a process that ended did so
by a panic of a loop. -/
structure Inv (cfg : EnvConfig) (s : State) : Prop where
  goroutines : ∀ entry ∈ s.goroutines, ∀ call ∈ entry.2, Expected cfg entry.1 call
  made : ∀ entry ∈ s.made, Expected cfg entry.1 entry.2
  crashed : s.crashed ≠ none → ∃ entry ∈ s.made, entry.2.panic? ≠ none

theorem inv_init : Inv cfg init where
  goroutines _ h := absurd h List.not_mem_nil
  made _ h := absurd h List.not_mem_nil
  crashed h := absurd rfl h

/-- A goroutine may be left with any calls that are expected of it. -/
theorem Inv.set_goroutine (hinv : Inv cfg s) {calls : List GuardedCall}
    (hcalls : ∀ call ∈ calls, Expected cfg g call) (i : Nat) :
    ∀ entry ∈ s.goroutines.set i (g, calls), ∀ call ∈ entry.2, Expected cfg entry.1 call := by
  intro entry hentry
  obtain hold | hset := List.mem_or_eq_of_mem_set hentry
  · exact hinv.goroutines entry hold
  · rw [hset]
    exact hcalls

theorem inv_makeCall {s t : State} {i : Nat} (hinv : Inv cfg s) (hrunning : s.crashed = none)
    (h : makeCall s i = some t) : Inv cfg t := by
  unfold makeCall at h
  split at h
  · cases h
  · cases h
  · next g call rest hget =>
      have hcalls := hinv.goroutines _ (List.mem_of_getElem? hget)
      rw [List.forall_mem_cons] at hcalls
      obtain ⟨hcall, hrest⟩ := hcalls
      have hmade : ∀ entry ∈ s.made ++ [(g, call)], Expected cfg entry.1 entry.2 := by
        rw [List.forall_mem_append]
        exact ⟨hinv.made, List.forall_mem_singleton.mpr hcall⟩
      dsimp only at h
      split at h
      · cases h
        exact ⟨hinv.set_goroutine hrest i, hmade, fun hcrashed => absurd hrunning hcrashed⟩
      · next message hpanic =>
          split at h
          · -- a handler ends with the panic, and nothing else does
            cases h
            have hnone : ∀ call ∈ [], Expected cfg g call :=
              fun _ hnil => absurd hnil List.not_mem_nil
            exact ⟨hinv.set_goroutine hnone i, hmade, fun hcrashed => absurd hrunning hcrashed⟩
          · cases h
            refine ⟨hinv.goroutines, hmade, fun _ => ⟨(g, call), ?_, ?_⟩⟩
            · exact List.mem_append_right _ (List.mem_singleton_self _)
            · rw [hpanic]
              exact Option.some_ne_none _

theorem inv_step {s t : State} {a : Action} (hinv : Inv cfg s) (h : step cfg s a = some t) :
    Inv cfg t := by
  unfold step at h
  split at h
  · cases h
  · next hcrashed =>
      have hrunning : s.crashed = none := by simpa using hcrashed
      cases a with
      | start =>
          dsimp only at h
          split at h
          · cases h
          · cases h
            refine ⟨?_, hinv.made, hinv.crashed⟩
            rw [List.forall_mem_append]
            exact ⟨hinv.goroutines, fun entry hentry => expected_loops hentry⟩
      | spawn w ctx req fuel =>
          dsimp only at h
          split at h
          · cases h
          · cases h
            refine ⟨?_, hinv.made, hinv.crashed⟩
            rw [List.forall_mem_append]
            exact ⟨hinv.goroutines, List.forall_mem_singleton.mpr expected_spawnCalls⟩
      | call i => exact inv_makeCall hinv hrunning h

theorem inv_after (cfg : EnvConfig) (actions : List Action) : Inv cfg (after cfg actions) :=
  Transition.invariant_final (Inv cfg) inv_init fun _ _ hsource hstep => inv_step hsource hstep

/-! ## What `LoadConfig` accepts -/

/-- Ports as `validateCellPorts` accepts them. -/
def PortsInRange (cfg : ServiceConfig) : Prop :=
  (minPort ≤ cfg.cellSocksPort ∧ cfg.cellSocksPort ≤ maxPort) ∧
    minPort ≤ cfg.cellControlPort ∧ cfg.cellControlPort ≤ maxPort

theorem portsInRange_of_validatePorts {cfg : ServiceConfig} (h : cfg.validatePorts = .ok ()) :
    PortsInRange cfg := by
  simp only [ServiceConfig.validatePorts, bind_eq_ok_iff, ite_error_eq_ok_iff] at h
  obtain ⟨-, -, -, hports⟩ := h
  simp only [ServiceConfig.validateCellPorts, ite_error_eq_ok_iff, not_or, Int.not_lt] at hports
  exact ⟨hports.1, hports.2.1⟩

theorem toServiceConfig_resolveParentID (cfg : CellConfig) (hostname : Option String) :
    (cfg.resolveParentID hostname).toServiceConfig = cfg.toServiceConfig := by
  unfold CellConfig.resolveParentID
  split
  · rfl
  · cases hostname with
    | none => rfl
    | some hostname => rfl

/-- The ports of an accepted configuration are in range. -/
theorem portsInRange_of_loadConfig {hostname : Option String}
    (h : EnvConfig.loadConfig env cellImage hostname = .ok cfg) :
    PortsInRange cfg.toServiceConfig := by
  simp only [EnvConfig.loadConfig, Pr0xteus.loadConfig, bind_eq_ok_iff, mapError_eq_ok_iff,
    ite_error_eq_ok_iff] at h
  obtain ⟨parsed, -, checked, ⟨parsed', hparsed, _, hports, _, -, -, hchecked⟩, hcfg⟩ := h
  cases hparsed
  cases hchecked
  cases hcfg
  rw [toServiceConfig_resolveParentID]
  exact portsInRange_of_validatePorts hports

/-- A field depends on its own variable. -/
theorem fillFieldValue_update {α : Type} {key name : String} {value : Option String}
    {set : String → Except String α} {zero : α} {required : Bool} {tagDefault : Option String}
    (h : key ≠ name) :
    Gonfiguration.fillFieldValue (Function.update env name value) key set zero required tagDefault =
      Gonfiguration.fillFieldValue env key set zero required tagDefault := by
  unfold Gonfiguration.fillFieldValue
  rw [Function.update_of_ne h]

/-- The interval is whatever its variable says, and the other fields stay as they are. -/
theorem parseDstFields_update {parsed : EnvConfig} {text : String} {d : Duration}
    (h : Gonfiguration.parseDstFields env = .ok parsed) (hd : parseDuration (utf8 text) = some d) :
    Gonfiguration.parseDstFields
      (Function.update env "TUNNEL_POOL_HEALTH_CHECK_INTERVAL" (some text)) =
        .ok { parsed with healthCheckInterval := d } := by
  have hdefault : Gonfiguration.setDuration "30s" = .ok (30 * second) := by
    have hparse : parseDuration (utf8 "30s") = some (30 * second) := by decide +kernel
    rw [Gonfiguration.setDuration, hparse]
  have hset : Gonfiguration.setDuration text = .ok d := by rw [Gonfiguration.setDuration, hd]
  have hhealth : Gonfiguration.durationField
      (Function.update env "TUNNEL_POOL_HEALTH_CHECK_INTERVAL" (some text))
      "TUNNEL_POOL_HEALTH_CHECK_INTERVAL" "30s" = .ok d := by
    simp only [Gonfiguration.durationField, Gonfiguration.fillFieldValue, hdefault, Except.mapError,
      Function.update_self, bind, Except.bind]
    exact hset
  rw [Gonfiguration.durationField] at hhealth
  simp (disch := decide) only [Gonfiguration.parseDstFields, Gonfiguration.stringField,
    Gonfiguration.intField, Gonfiguration.durationField, fillFieldValue_update, bind_eq_ok_iff] at h ⊢
  obtain ⟨_, h1, _, h2, _, h3, _, h4, _, h5, _, h6, _, h7, _, -, _, h9, _, h10, _, h11, _, h12, _, h13,
    _, h14, _, h15, _, h16, _, h17, hparsed⟩ := h
  cases hparsed
  exact ⟨_, h1, _, h2, _, h3, _, h4, _, h5, _, h6, _, h7, _, hhealth, _, h9, _, h10, _, h11, _, h12,
    _, h13, _, h14, _, h15, _, h16, _, h17, rfl⟩

/-- An accepted environment is accepted with any other interval. -/
theorem loadConfig_update {hostname : Option String} {text : String} {d : Duration}
    (h : EnvConfig.loadConfig env cellImage hostname = .ok cfg)
    (hd : parseDuration (utf8 text) = some d) :
    EnvConfig.loadConfig (Function.update env "TUNNEL_POOL_HEALTH_CHECK_INTERVAL" (some text))
      cellImage hostname = .ok { cfg with healthCheckInterval := d } := by
  simp only [EnvConfig.loadConfig, Gonfiguration.parse, bind_eq_ok_iff, mapError_eq_ok_iff] at h ⊢
  obtain ⟨parsed, hparsed, checked, hchecked, hcfg⟩ := h
  cases hcfg
  exact ⟨_, parseDstFields_update hparsed hd, checked, hchecked, rfl⟩

/-! ## Panics -/

theorem panic?_newTicker_eq_none_iff (d : Duration) :
    (GuardedCall.newTicker d).panic? = none ↔ 0 < d := by
  have hpos : 0 < d ↔ ¬d ≤ 0 := by
    rw [Int64.lt_iff_toInt_lt, Int64.le_iff_toInt_le, Int.not_le]
  rw [hpos]
  by_cases hd : d ≤ 0
  · simp [GuardedCall.panic?, newTicker, hd]
  · simp [GuardedCall.panic?, newTicker, hd]

theorem panic?_mustParsePort {port : Int} (h : minPort ≤ port ∧ port ≤ maxPort) :
    (GuardedCall.mustParsePort port).panic? = none := by
  have hlow : 1 ≤ port := h.1
  have hport := mustParsePort_eq_ok_iff.mpr ⟨by omega, h.2, rfl⟩
  rw [GuardedCall.panic?, hport]

/-- The one expected call that may panic is the ticker of the health loop. -/
theorem Expected.panics (h : Expected cfg g call) (hports : PortsInRange cfg.toServiceConfig)
    (hpanic : call.panic? ≠ none) :
    (g, call) = (.healthLoop, .newTicker cfg.healthCheckInterval) := by
  cases h with
  | health => rfl
  | idle | orphan | poll => exact absurd ((panic?_newTicker_eq_none_iff _).mpr (by decide)) hpanic
  | socks => exact absurd (panic?_mustParsePort hports.1) hpanic
  | control => exact absurd (panic?_mustParsePort hports.2) hpanic

theorem Expected.port {port : Int} (h : Expected cfg g (.mustParsePort port))
    (hports : PortsInRange cfg.toServiceConfig) : minPort ≤ port ∧ port ≤ maxPort := by
  cases h with
  | socks => exact hports.1
  | control => exact hports.2

/-- The health loop gets to its ticker first, and the process ends there. -/
theorem crashed_of_not_pos (h : ¬0 < cfg.healthCheckInterval) :
    (after cfg [.start, .call 1]).crashed = some "non-positive interval for NewTicker" := by
  have hpanic : newTicker cfg.healthCheckInterval =
      .error "non-positive interval for NewTicker" := by
    rw [newTicker, if_pos]
    rw [Int64.lt_iff_toInt_lt, Int.not_lt] at h
    exact Int64.le_iff_toInt_le.mpr h
  simp [after, runs, Transition.edges, Transition.final, step, init, loops, makeCall,
    GuardedCall.panic?, hpanic, Goroutine.recovers]

/-- Of the guarded calls that an accepted configuration leads to, every port is valid and only the
ticker of the health loop can panic. The calls return on every run, and no run ends the process, exactly
if its interval is positive; an interval is accepted whatever it is. -/
theorem guarded_calls_return_iff (env : Environ) (cellImage : String) (hostname : Option String)
    (cfg : EnvConfig) (h : EnvConfig.loadConfig env cellImage hostname = .ok cfg) :
    (∀ actions, ∀ entry ∈ (after cfg actions).made,
      (∀ port, entry.2 = .mustParsePort port →
        (minPort ≤ port ∧ port ≤ maxPort) ∧
          mustParsePort port = .ok ⟨.ofNat port.toNat, utf8 "tcp"⟩) ∧
      (entry.2.panic? ≠ none →
        entry = (.healthLoop, .newTicker cfg.healthCheckInterval))) ∧
    ((∀ actions, (after cfg actions).crashed = none ∧
        ∀ entry ∈ (after cfg actions).made, entry.2.panic? = none) ↔
      0 < cfg.healthCheckInterval) ∧
    (∀ text d, parseDuration (utf8 text) = some d →
      EnvConfig.loadConfig (Function.update env "TUNNEL_POOL_HEALTH_CHECK_INTERVAL" (some text))
        cellImage hostname = .ok { cfg with healthCheckInterval := d }) := by
  have hports := portsInRange_of_loadConfig h
  refine ⟨fun actions entry hentry => ⟨?_, ?_⟩, ⟨?_, ?_⟩, fun text d hd => loadConfig_update h hd⟩
  · intro port hport
    have hexpected := (inv_after cfg actions).made entry hentry
    rw [hport] at hexpected
    have hrange := hexpected.port hports
    have hlow : 1 ≤ port := hrange.1
    exact ⟨hrange, mustParsePort_eq_ok_iff.mpr ⟨by omega, hrange.2, rfl⟩⟩
  · exact ((inv_after cfg actions).made entry hentry).panics hports
  · intro hsafe
    by_contra hpos
    have hcrashed := (hsafe [.start, .call 1]).1
    rw [crashed_of_not_pos hpos] at hcrashed
    cases hcrashed
  · intro hpos actions
    have hinv := inv_after cfg actions
    have hreturn : ∀ entry ∈ (after cfg actions).made, entry.2.panic? = none := by
      intro entry hentry
      by_contra hpanic
      have hhealth : entry = (.healthLoop, .newTicker cfg.healthCheckInterval) :=
        (hinv.made entry hentry).panics hports hpanic
      rw [hhealth] at hpanic
      exact hpanic ((panic?_newTicker_eq_none_iff _).mpr hpos)
    refine ⟨?_, hreturn⟩
    by_contra hcrashed
    obtain ⟨entry, hentry, hpanic⟩ := hinv.crashed hcrashed
    exact hpanic (hreturn entry hentry)

/-- An environment with a token, and with an interval of the health checks where one is given. -/
def environWith (interval : Option String) : Environ := fun key =>
  if key = "PR0XTEUS_API_TOKEN" then some "token"
  else if key = "TUNNEL_POOL_HEALTH_CHECK_INTERVAL" then interval
  else none

theorem exists_loadConfig {p : EnvConfig → Bool}
    (h : (EnvConfig.loadConfig env cellImage none).toOption.any p = true) :
    ∃ cfg, EnvConfig.loadConfig env cellImage none = .ok cfg ∧ p cfg = true := by
  cases hload : EnvConfig.loadConfig env cellImage none with
  | error err =>
      rw [hload] at h
      cases h
  | ok cfg =>
      rw [hload] at h
      exact ⟨cfg, rfl, h⟩

theorem guarded_calls_return_default :
    ∃ cfg, EnvConfig.loadConfig (environWith none) "psyb0t/pr0xteus:cell-dev" none = .ok cfg ∧
      ∀ actions, (after cfg actions).crashed = none := by
  obtain ⟨cfg, hload, hpos⟩ : ∃ cfg, EnvConfig.loadConfig (environWith none)
      "psyb0t/pr0xteus:cell-dev" none = .ok cfg ∧ decide (0 < cfg.healthCheckInterval) = true :=
    exists_loadConfig (by decide +kernel)
  have hreturn := (guarded_calls_return_iff _ _ _ _ hload).2.1.mpr (of_decide_eq_true hpos)
  exact ⟨cfg, hload, fun actions => (hreturn actions).1⟩

/-- An interval of zero is accepted. -/
theorem zero_interval_crashes :
    ∃ cfg, EnvConfig.loadConfig (environWith (some "0s")) "psyb0t/pr0xteus:cell-dev" none = .ok cfg ∧
      (after cfg [.start, .call 1]).crashed = some "non-positive interval for NewTicker" := by
  obtain ⟨cfg, hload, hzero⟩ : ∃ cfg, EnvConfig.loadConfig (environWith (some "0s"))
      "psyb0t/pr0xteus:cell-dev" none = .ok cfg ∧ decide (cfg.healthCheckInterval = 0) = true :=
    exists_loadConfig (by decide +kernel)
  refine ⟨cfg, hload, crashed_of_not_pos ?_⟩
  rw [of_decide_eq_true hzero]
  decide

end Panics

end Pr0xteus
