import Mathlib.Data.List.Infix
import Pr0xteus.Entrypoint

/-!
# The kill switch of a cell

A boot has run a prefix of the script, and everything it has changed is the effect of that prefix:
`Booted`. The packet filter at any moment is therefore read off the commands that were run, also
where the script was ended between two of them.
-/

namespace Pr0xteus.Cell

open Iptables Transition

variable {h : Host} {plan : Plan} {table : Table} {s t : Boot} {a : Event} {r : Rule}
  {commands : List Command}

/-! ## What a boot has done -/

/-- One event: no command has succeeded, or the next one has. -/
inductive Moves (plan : Plan) (s : Boot) : Boot → Prop
  | stays {deadline : Option (BitVec 64)} {status : Status} (hstatus : status ≠ .serving) :
      Moves plan s { s with deadline := deadline, status := status }
  | completes {c : Command} {rest : List Command} (htodo : s.todo = c :: rest)
      (hbooting : s.status = .booting) : Moves plan s (s.complete plan c rest)

theorem Moves.refl (hbooting : s.status = .booting) : Moves plan s s :=
  .stays (by rw [hbooting]; nofun)

theorem Moves.exit (code : Nat) : Moves plan s (s.exit code) := .stays nofun

theorem moves_of_runCommand {ok : Bool} {c : Command} {rest : List Command}
    (htodo : s.todo = c :: rest) (hbooting : s.status = .booting)
    (hrun : s.runCommand plan ok c rest = some t) : Moves plan s t := by
  unfold Boot.runCommand at hrun
  split at hrun
  · cases hrun
  · cases hrun
    exact .completes htodo hbooting
  · cases hrun
    exact .exit 1
  · cases hrun
    split
    · exact .completes htodo hbooting
    · exact .exit 1

theorem moves_poll {deadline : BitVec 64} {seconds : Nat} {handshake : String}
    {rest : List Command} (htodo : s.todo = .waitForHandshake :: rest)
    (hbooting : s.status = .booting) :
    Moves plan s (s.poll plan deadline seconds handshake rest) := by
  unfold Boot.poll
  split
  · split
    · exact .completes htodo hbooting
    · exact .refl hbooting
  · exact .exit 1

theorem moves_of_step (hstep : step plan s a = some t) : Moves plan s t := by
  cases a with
  | failed =>
      simp only [step, Option.ite_none_right_eq_some] at hstep
      obtain ⟨-, hexit⟩ := hstep
      cases hexit
      exact .exit 1
  | signalled =>
      simp only [step, Option.ite_none_right_eq_some] at hstep
      obtain ⟨-, hexit⟩ := hstep
      cases hexit
      exact .exit 0
  | ran ok =>
      simp only [step, Option.ite_none_right_eq_some] at hstep
      obtain ⟨hbooting, hrun⟩ := hstep
      split at hrun
      · cases hrun
      · next c rest htodo => exact moves_of_runCommand htodo hbooting hrun
  | entered seconds =>
      simp only [step] at hstep
      split at hstep
      · next hbooting htodo hdeadline =>
          cases hstep
          exact .stays (by rw [hbooting]; nofun)
      · cases hstep
  | polled seconds handshake =>
      simp only [step] at hstep
      split at hstep
      · next hbooting htodo hdeadline =>
          cases hstep
          exact moves_poll htodo hbooting
      · cases hstep

/-- What a boot has changed is the effect of the commands it has run, and these are the first ones
of the script. -/
structure Booted (h : Host) (plan : Plan) (table : Table) (s : Boot) : Prop where
  split : s.done ++ s.todo = script h plan
  filter : s.table = s.done.foldl Command.filter table
  handshake : s.handshake = decide (.waitForHandshake ∈ s.done)
  resolvConf : s.resolvConf =
    s.done.foldl (Command.resolve plan) (h.resolvConf.map (.docker, ·))
  serving : s.status = .serving → .startCellproxy ∈ s.done

theorem booted_start : Booted h plan table (start h plan table) where
  split := rfl
  filter := rfl
  handshake := rfl
  resolvConf := rfl
  serving := nofun

theorem booted_step (hstep : step plan s a = some t) (hs : Booted h plan table s) :
    Booted h plan table t := by
  cases moves_of_step hstep with
  | stays hstatus => exact { hs with serving := fun h => absurd h hstatus }
  | @completes c rest htodo hbooting =>
      refine ⟨?_, ?_, ?_, ?_, ?_⟩
      · rw [← hs.split, htodo]
        simp [Boot.complete]
      · simp [Boot.complete, hs.filter]
      · simp [Boot.complete, hs.handshake, eq_comm]
      · simp [Boot.complete, hs.resolvConf]
      · intro hserving
        by_cases hc : c = .startCellproxy
        · simp [Boot.complete, hc]
        · simp [Boot.complete, hc, hbooting] at hserving

theorem booted_of_mem_run {events : List Event} {e : Edge Boot Event}
    (he : e ∈ run h plan table events) : Booted h plan table e.target := by
  obtain ⟨u, hpath⟩ := exists_path_edges (start h plan table) events
  exact (hpath.invariant_of_mem (Booted h plan table) booted_start
    (fun _ _ hs hstep => booted_step hstep hs) he).2

/-! ## The packet filter after some commands -/

/-- The rules that the commands append to a chain. -/
def appended (name : ChainName) (commands : List Command) : List Rule :=
  commands.flatMap fun
    | .append chain rules => if chain = name then rules else []
    | _ => []

theorem rules_foldl (name : ChainName) (commands : List Command) (table : Table) :
    ((commands.foldl Command.filter table).chain name).rules =
      (table.chain name).rules ++ appended name commands := by
  induction commands generalizing table with
  | nil => simp [appended]
  | cons c commands ih =>
      rw [List.foldl_cons, ih, appended, appended, List.flatMap_cons, ← List.append_assoc]
      congr 1
      cases c with
      | policy chain target => simp [Command.filter]
      | append chain rules =>
          simp only [Command.filter, Table.rules_append]
          split <;> simp
      | _ => simp [Command.filter]

theorem policy_foldl {name : ChainName} (table : Table)
    (hdrop : ∀ chain target, .policy chain target ∈ commands → target = .drop)
    (hset : (table.chain name).policy = .drop ∨ .policy name .drop ∈ commands) :
    ((commands.foldl Command.filter table).chain name).policy = .drop := by
  induction commands generalizing table with
  | nil => simpa using hset
  | cons c commands ih =>
      refine ih (c.filter table) (fun chain target hc => ?_) ?_
      · exact hdrop chain target (List.mem_cons_of_mem c hc)
      · cases c with
        | policy chain target =>
            have htarget := hdrop chain target List.mem_cons_self
            subst htarget
            rw [Command.filter, Table.policy_setPolicy]
            split
            · exact .inl rfl
            · next hne => simpa [Ne.symm hne] using hset
        | append chain rules => simpa [Command.filter] using hset
        | _ => simpa [Command.filter] using hset

theorem appended_subset {name : ChainName} {commands more : List Command}
    (hfirst : commands <+: more) : appended name commands ⊆ appended name more := by
  intro r hr
  obtain ⟨c, hc, hrule⟩ := List.mem_flatMap.mp hr
  exact List.mem_flatMap.mpr ⟨c, hfirst.subset hc, hrule⟩

/-! ## The rules of the script -/

theorem appended_append (name : ChainName) (front back : List Command) :
    appended name (front ++ back) = appended name front ++ appended name back :=
  List.flatMap_append

theorem appended_allowEndpoint (name : ChainName) :
    appended name (allowEndpoint h plan) = if .output = name then endpointRules h plan else [] := by
  unfold allowEndpoint
  split <;> simp [appended]

theorem appended_beforeHandshake (name : ChainName) (hname : name ≠ .forward) :
    appended name (beforeHandshake h plan) =
      loopbackRule :: establishedRule :: if .output = name then endpointRules h plan else [] := by
  simp only [beforeHandshake, appended_append, appended_allowEndpoint]
  cases name with
  | forward => exact absurd rfl hname
  | input | output =>
      simp [appended, killSwitch, killSwitchV6, allowLoopbackAndEstablished, bringUpTunnel]

theorem appended_output_script :
    appended .output (script h plan) =
      loopbackRule :: establishedRule :: endpointRules h plan ++ [tunnelRule] := by
  rw [script, appended_append, appended_beforeHandshake .output nofun]
  simp [appended, afterHandshake, allowTunnel, allowInbound]

theorem appended_input_script :
    appended .input (script h plan) =
      loopbackRule :: establishedRule ::
        (inboundRules h plan.egressIf plan.socks5Port ++
          (inboundRules h plan.controlIf plan.socks5Port ++
            inboundRules h plan.controlIf plan.controlPort)) := by
  rw [script, appended_append, appended_beforeHandshake .input nofun]
  simp [appended, afterHandshake, allowTunnel, allowInbound]

/-- What the script consists of before it waits: the policies, rules, and other programs. -/
theorem mem_beforeHandshake {c : Command} (hc : c ∈ beforeHandshake h plan) :
    c ∈ killSwitch ∨ (∃ name rules, c = .append name rules) ∨
      ∃ words, c = .exec words ∨ c = .execOrTrue words := by
  simp only [beforeHandshake, List.mem_append] at hc
  obtain (((hc | hc) | hc) | hc) | hc := hc
  · exact .inl hc
  · obtain ⟨chain, -, rfl⟩ := List.mem_map.mp hc
    exact .inr (.inr ⟨_, .inr rfl⟩)
  · simp only [allowLoopbackAndEstablished, List.mem_cons, List.not_mem_nil, or_false] at hc
    obtain rfl | rfl | rfl | rfl := hc <;> exact .inr (.inl ⟨_, _, rfl⟩)
  · obtain rfl | hc := List.mem_cons.mp hc
    · exact .inr (.inl ⟨_, _, rfl⟩)
    · split at hc
      · cases hc
      · exact .inr (.inr ⟨_, .inr (List.mem_singleton.mp hc)⟩)
  · simp only [bringUpTunnel, List.mem_cons, List.not_mem_nil, or_false] at hc
    right; right
    obtain rfl | rfl | rfl | rfl | rfl | rfl | rfl | rfl := hc <;> exact ⟨_, .inl rfl⟩

theorem policy_of_mem_script {chain : ChainName} {target : Target}
    (hmem : .policy chain target ∈ script h plan) : target = .drop := by
  rcases List.mem_append.mp hmem with hbefore | hafter
  · obtain hkill | ⟨name, rules, hc⟩ | ⟨words, hc | hc⟩ := mem_beforeHandshake hbefore
    · simp only [killSwitch, List.mem_cons, List.not_mem_nil, or_false] at hkill
      obtain hc | hc | hc := hkill <;> cases hc <;> rfl
    all_goals cases hc
  · simp [afterHandshake, allowTunnel, allowInbound] at hafter

/-- A boot that has left the first half of the script has seen a handshake. -/
theorem beforeHandshake_or_handshake (hfirst : commands <+: script h plan) :
    commands <+: beforeHandshake h plan ∨ .waitForHandshake ∈ commands := by
  by_cases hlength : commands.length ≤ (beforeHandshake h plan).length
  · exact .inl (List.prefix_of_prefix_length_le hfirst (List.prefix_append _ _) hlength)
  · right
    have hwait : beforeHandshake h plan ++ [.waitForHandshake] <+: script h plan :=
      ⟨afterHandshake h plan, by simp [script]⟩
    have hmore : beforeHandshake h plan ++ [.waitForHandshake] <+: commands :=
      List.prefix_of_prefix_length_le hwait hfirst (by simp; omega)
    exact hmore.subset (by simp)

/-! ## What the rules let through -/

variable {p : Packet}

theorem not_fits_establishedRule (hnew : p.ctstate = .new) :
    establishedRule.fits p = false := by
  simp [Rule.fits, establishedRule, hnew]

theorem iface_of_fits_loopbackRule (hfits : loopbackRule.fits p = true) : p.iface = "lo" := by
  have hiface : "lo" = p.iface := by simpa [Rule.fits, loopbackRule] using hfits
  exact hiface.symm

theorem iface_of_fits_tunnelRule (hfits : tunnelRule.fits p = true) : p.iface = "wg0" := by
  have hiface : "wg0" = p.iface := by simpa [Rule.fits, tunnelRule] using hfits
  exact hiface.symm

/-- UDP on the egress interface to the WireGuard endpoint. -/
def ToEndpoint (h : Host) (plan : Plan) (p : Packet) : Prop :=
  p.proto = .udp ∧ p.iface = plan.egressIf ∧ p.dst ∈ h.readAddress plan.wgEndpointIP ∧
    h.readPort plan.wgEndpointPort = some p.dport

theorem toEndpoint_of_fits (hr : r ∈ endpointRules h plan) (hfits : r.fits p = true) :
    ToEndpoint h plan p := by
  unfold endpointRules at hr
  split at hr
  · cases hr
  · next port hport =>
      obtain ⟨ip, hip, rfl⟩ := List.mem_map.mp hr
      simp only [Rule.fits, Option.all_some, Option.all_none, Bool.and_true, Bool.and_eq_true,
        beq_iff_eq] at hfits
      obtain ⟨⟨⟨hiface, hdst⟩, hproto⟩, hdport⟩ := hfits
      exact ⟨hproto.symm, hiface.symm, hdst ▸ hip, by rw [hport, hdport]⟩

theorem of_fits_inboundRules {iface port : String} (hr : r ∈ inboundRules h iface port)
    (hfits : r.fits p = true) :
    p.proto = .tcp ∧ p.iface = iface ∧ h.readPort port = some p.dport := by
  unfold inboundRules at hr
  split at hr
  · cases hr
  · next number hport =>
      obtain rfl := List.mem_singleton.mp hr
      simp only [Rule.fits, Option.all_some, Option.all_none, Bool.and_true, Bool.and_eq_true,
        beq_iff_eq] at hfits
      obtain ⟨⟨hiface, hproto⟩, hdport⟩ := hfits
      exact ⟨hproto.symm, hiface.symm, by rw [hport, hdport]⟩

def MayLeave (h : Host) (plan : Plan) (handshake : Bool) (p : Packet) : Prop :=
  p.iface = "lo" ∨ p.iface = "wg0" ∧ handshake = true ∨ ToEndpoint h plan p

/-- Never from the tunnel; from elsewhere than loopback only TCP to one of the two ports, each on
its own interfaces. -/
def MayEnter (h : Host) (plan : Plan) (p : Packet) : Prop :=
  let toSocks5 := h.readPort plan.socks5Port = some p.dport
  let toControl := h.readPort plan.controlPort = some p.dport
  p.iface ≠ "wg0" ∧ (p.iface ≠ "lo" →
    p.proto = .tcp ∧ (toSocks5 ∨ toControl) ∧
      (toSocks5 → p.iface = plan.egressIf ∨ p.iface = plan.controlIf) ∧
      (toControl → h.readPort plan.socks5Port ≠ h.readPort plan.controlPort →
        p.iface = plan.controlIf))

theorem mayLeave_of_rule {handshake : Bool} (hfirst : commands <+: script h plan)
    (hhandshake : handshake = decide (.waitForHandshake ∈ commands)) (hnew : p.ctstate = .new)
    (hr : r ∈ appended .output commands) (hfits : r.fits p = true) :
    MayLeave h plan handshake p := by
  have hearly : r ∈ loopbackRule :: establishedRule :: endpointRules h plan →
      MayLeave h plan handshake p := by
    intro hr
    rcases List.mem_cons.mp hr with rfl | hr
    · exact .inl (iface_of_fits_loopbackRule hfits)
    rcases List.mem_cons.mp hr with rfl | hr
    · rw [not_fits_establishedRule hnew] at hfits
      cases hfits
    · exact .inr (.inr (toEndpoint_of_fits hr hfits))
  rcases beforeHandshake_or_handshake hfirst with hbefore | hwait
  · have hrule := appended_subset hbefore hr
    rw [appended_beforeHandshake .output nofun] at hrule
    exact hearly hrule
  · have hscript := appended_subset hfirst hr
    rw [appended_output_script] at hscript
    rcases List.mem_append.mp hscript with hr | hr
    · exact hearly hr
    · obtain rfl := List.mem_singleton.mp hr
      exact .inr (.inl ⟨iface_of_fits_tunnelRule hfits, by simpa [hhandshake] using hwait⟩)

theorem mayEnter_of_rule (hegress : plan.egressIf ≠ "wg0") (hcontrol : plan.controlIf ≠ "wg0")
    (hnew : p.ctstate = .new) (hr : r ∈ appended .input (script h plan)) (hfits : r.fits p = true) :
    MayEnter h plan p := by
  rw [appended_input_script] at hr
  rcases List.mem_cons.mp hr with rfl | hr
  · have hlo := iface_of_fits_loopbackRule hfits
    exact ⟨by rw [hlo]; decide, fun hne => absurd hlo hne⟩
  rcases List.mem_cons.mp hr with rfl | hr
  · rw [not_fits_establishedRule hnew] at hfits
    cases hfits
  rcases List.mem_append.mp hr with hr | hr
  · obtain ⟨hproto, hiface, hport⟩ := of_fits_inboundRules hr hfits
    refine ⟨hiface ▸ hegress, fun _ => ⟨hproto, .inl hport, fun _ => .inl hiface, ?_⟩⟩
    exact fun hto hne => absurd (hport.trans hto.symm) hne
  rcases List.mem_append.mp hr with hr | hr
  · obtain ⟨hproto, hiface, hport⟩ := of_fits_inboundRules hr hfits
    exact ⟨hiface ▸ hcontrol,
      fun _ => ⟨hproto, .inl hport, fun _ => .inr hiface, fun _ _ => hiface⟩⟩
  · obtain ⟨hproto, hiface, hport⟩ := of_fits_inboundRules hr hfits
    exact ⟨hiface ▸ hcontrol,
      fun _ => ⟨hproto, .inr hport, fun _ => .inr hiface, fun _ _ => hiface⟩⟩

theorem Booted.first (hs : Booted h plan table s) : s.done <+: script h plan :=
  ⟨s.todo, hs.split⟩

/-- Behind the kill switch a chain that was empty accepts only what one of its new rules fits. -/
theorem Booted.exists_rule (hs : Booted h plan table s) (hkill : killSwitch <+: s.done)
    (name : ChainName) (hempty : (table.chain name).rules = [])
    (haccept : (s.table.chain name).verdict p = .accept) :
    ∃ r ∈ appended name s.done, r.fits p = true := by
  have hpolicy : (s.table.chain name).policy = .drop := by
    rw [hs.filter]
    refine policy_foldl table (fun chain target hc => ?_) (.inr (hkill.subset ?_))
    · exact policy_of_mem_script (hs.first.subset hc)
    · cases name <;> simp [killSwitch]
  have hrules : (s.table.chain name).rules = appended name s.done := by
    rw [hs.filter, rules_foldl, hempty, List.nil_append]
  obtain ⟨r, hr, hfits⟩ := Chain.exists_of_accept hpolicy haccept
  exact ⟨r, hrules ▸ hr, hfits⟩

/-- **The kill switch.** From the end of its second step on, wherever the script stands or has been
ended, a packet of a new connection leaves the cell only on loopback, to the WireGuard endpoint or,
once a handshake was seen, through the tunnel; and it enters only on loopback or, from the docker
networks, to the SOCKS5 and the control port. -/
theorem new_packets_confined (h : Host) (plan : Plan) (hegress : plan.egressIf ≠ "wg0")
    (hcontrol : plan.controlIf ≠ "wg0") (table : Table)
    (hempty : ∀ name, (table.chain name).rules = []) (events : List Event) :
    ∀ e ∈ run h plan table events, killSwitch <+: e.target.done →
      ∀ p : Packet, p.ctstate = .new →
        (e.target.table.output.verdict p = .accept → MayLeave h plan e.target.handshake p) ∧
        (e.target.table.input.verdict p = .accept → MayEnter h plan p) := by
  intro e he hkill p hnew
  have hs := booted_of_mem_run he
  constructor
  · intro haccept
    obtain ⟨r, hr, hfits⟩ := hs.exists_rule hkill .output (hempty .output) haccept
    exact mayLeave_of_rule hs.first hs.handshake hnew hr hfits
  · intro haccept
    obtain ⟨r, hr, hfits⟩ := hs.exists_rule hkill .input (hempty .input) haccept
    exact mayEnter_of_rule hegress hcontrol hnew (appended_subset hs.first hr) hfits

/-- A cell on an egress network and a control network. -/
def twoNetworkHost (conf : String) : Host where
  srcValidMark := some "1"
  conf := some conf
  dig := fun _ => none
  defaultRoute := "default via 172.18.0.1 dev eth0\n"
  addrShow := "1: lo inet 127.0.0.1/8\n2: eth0 inet 172.18.0.2/16\n3: eth1 inet 172.19.0.2/16\n"
  socks5Port := ""
  cellControlPort := ""
  handshakeWaitSeconds := ""
  resolvConf := ["nameserver 127.0.0.11"]
  readPort := fun port => (if port = "1080" then some 1080 else if port = "9090" then some 9090
    else if port = "51820" then some 51820 else none)
  readAddress := fun _ => [0xCB007107#32]

def confWith (dns : String) : String :=
  "[Interface]\nPrivateKey = key\nAddress = 10.2.0.2/32\n" ++ dns ++
    "\n\n[Peer]\nPublicKey = peer\nAllowedIPs = 0.0.0.0/0\nEndpoint = 203.0.113.7:51820\n"

def openTable : Table := ⟨⟨.accept, []⟩, ⟨.accept, []⟩, ⟨.accept, []⟩⟩

/-- Every command succeeds, and the handshake is there in the second round. -/
def smoothBoot : List Event :=
  List.replicate 20 (.ran true) ++
    [.entered 3, .polled 3 "0", .polled 4 "1700000000"] ++ List.replicate 6 (.ran true)

theorem new_packets_confined_serving :
    ∃ plan, prepare (twoNetworkHost (confWith "DNS = 10.2.0.1")) = some plan ∧
      ∃ e ∈ run (twoNetworkHost (confWith "DNS = 10.2.0.1")) plan openTable smoothBoot,
        e.target.status = .serving ∧ ∀ p : Packet, p.ctstate = .new →
          (e.target.table.output.verdict p = .accept →
            MayLeave (twoNetworkHost (confWith "DNS = 10.2.0.1")) plan e.target.handshake p) ∧
          (e.target.table.input.verdict p = .accept →
            MayEnter (twoNetworkHost (confWith "DNS = 10.2.0.1")) plan p) := by
  let h := twoNetworkHost (confWith "DNS = 10.2.0.1")
  have hprepared : ∃ plan, prepare h = some plan ∧ plan.egressIf = "eth0" ∧
      plan.controlIf = "eth1" ∧ ∃ e ∈ run h plan openTable smoothBoot,
        e.target.status = .serving ∧ killSwitch <+: e.target.done := by
    have hany : (prepare h).any fun plan => decide (plan.egressIf = "eth0" ∧
        plan.controlIf = "eth1" ∧ ∃ e ∈ run h plan openTable smoothBoot,
          e.target.status = .serving ∧ killSwitch <+: e.target.done) := by decide +kernel
    simpa [Option.any_eq_true] using hany
  obtain ⟨plan, hplan, hegress, hcontrol, e, he, hserving, hkill⟩ := hprepared
  refine ⟨plan, hplan, e, he, hserving, fun p hnew => ?_⟩
  exact new_packets_confined h plan (by rw [hegress]; decide) (by rw [hcontrol]; decide) openTable
    (fun name => by cases name <;> rfl) smoothBoot e he hkill p hnew

end Pr0xteus.Cell
