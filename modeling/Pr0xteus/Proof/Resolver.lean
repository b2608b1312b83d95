import Pr0xteus.Proof.KillSwitch

/-!
# The resolvers of a cell

Which nameservers `/etc/resolv.conf` lists when cellproxy starts, against the DNS entries of the
WireGuard configuration as `wg-quick` reads them. The script takes what stands between the first and
the second ` = ` of a line that begins with `DNS`; an entry spelled otherwise is not seen, and where
none is seen docker's file stays.
-/

namespace Pr0xteus.Cell

open Shell Iptables Transition

variable {conf : String}

/-! ## The entries and the nameservers -/

/-- The value of a line whose key is `DNS`, with any white space around the `=`; a comment begins at
a `#`. -/
def dnsValue (line : Str) : Option Str :=
  match Bytes.cut '=' (Bytes.cut '#' line).1 with
  | (key, some value) => if trim key = "DNS".toList then some (trim value) else none
  | (_, none) => none

/-- `(^[0-9.]+$)|(^.*:.*$)`; the other items of an entry are search domains. -/
def isAddress (item : Str) : Bool :=
  (item ≠ [] && item.all fun c => c.isDigit || c == '.') || item.contains ':'

def dnsAddresses (conf : String) : List Str :=
  (records conf.toList).flatMap fun line =>
    (words (fun c => c == ',' || c == ' ' || c == '\t') ((dnsValue line).getD [])).filter isAddress

def firstWord (s : Str) : Option Str := (words isSpace s).head?

/-- The address a line of `/etc/resolv.conf` names as a nameserver. -/
def nameserver (line : String) : Option Str :=
  match line.toList.drop "nameserver".length with
  | [] => none
  | c :: rest =>
      if "nameserver".toList.isPrefixOf line.toList && isSpace c then firstWord rest else none

/-- The file lists the addresses of the DNS entries and no others, and no resolver of docker's. -/
def ResolvesAsConfigured (conf : String) (lines : List (Origin × String)) : Prop :=
  (∀ line ∈ lines, line.1 = .docker → nameserver line.2 = none) ∧
    ∀ address, address ∈ lines.filterMap (fun line => nameserver line.2) ↔
      address ∈ dnsAddresses conf

/-- What stands between the first and the second ` = ` of the lines that begin with `DNS`, without
its blanks. -/
def dnsFields (conf : String) : List Str :=
  ((records conf.toList).filter ("DNS".toList.isPrefixOf ·)).map fun line =>
    trDelete ' ' (secondField " = ".toList line)

def spelledOut (conf : String) : List Str :=
  (dnsFields conf).flatMap fun value => (value.splitOn ',').filterMap firstWord

/-! ## What the script writes -/

theorem nameserver_line (ip : Str) :
    nameserver ("nameserver " ++ String.ofList ip) = firstWord ip := by
  have htext : ("nameserver " ++ String.ofList ip).toList =
      "nameserver".toList ++ ' ' :: ip := by simp
  rw [nameserver, htext]
  rfl

theorem firstWord_nil : firstWord [] = none := by
  simp [firstWord]

theorem newline_notMem_dnsFields {value : Str} (hvalue : value ∈ dnsFields conf) :
    '\n' ∉ value := by
  obtain ⟨line, hline, rfl⟩ := List.mem_map.mp hvalue
  intro hmem
  have hfield := secondField_subset _ _ (List.mem_of_mem_filter hmem)
  exact newline_notMem_of_mem_records (List.mem_of_mem_filter hline) hfield

theorem field_dns (conf : String) :
    field "DNS" conf = String.ofList (substitute (unlines (dnsFields conf))) := by
  rw [field, printField, trDelete_unlines (by decide), List.map_map]
  rfl

theorem field_dns_eq_empty_iff (conf : String) :
    field "DNS" conf = "" ↔ ∀ value ∈ dnsFields conf, value = [] := by
  rw [field_dns, ← substitute_unlines_eq_nil_iff fun _ => newline_notMem_dnsFields]
  simp

/-- The pieces that the loop of the script goes over are those of the fields. -/
theorem pieces_field_dns (conf : String) :
    (readLines (trReplace ',' '\n' (field "DNS" conf).toList)).filterMap firstWord =
      spelledOut conf := by
  rw [field_dns, String.toList_ofList, readLines_trReplace, filterMap_splitOnP firstWord_nil,
    substitute, words_rdropWhile (by simp), words_unlines (by simp), List.filterMap_flatMap]
  refine List.flatMap_congr fun value hvalue => ?_
  rw [← filterMap_splitOnP firstWord_nil, List.splitOn_eq_splitOnP]
  congr 1
  refine splitOnP_congr fun c hc => ?_
  have hne : c ≠ '\n' := fun h => newline_notMem_dnsFields hvalue (h ▸ hc)
  simp [hne]

theorem spelledOut_eq_nil (h : ∀ value ∈ dnsFields conf, value = []) : spelledOut conf = [] := by
  refine List.flatMap_eq_nil_iff.mpr fun value hvalue => ?_
  simp [h value hvalue, firstWord_nil]

/-! ## The file when cellproxy starts -/

variable {h : Host} {plan : Plan} {table : Table} {s : Boot}

theorem wgDnsRaw_of_prepare (hconf : h.conf = some conf) (hplan : prepare h = some plan) :
    plan.wgDnsRaw = field "DNS" conf := by
  obtain ⟨-, -, hplan⟩ := Option.bind_eq_some_iff.mp hplan
  obtain ⟨conf', hconf', hplan⟩ := Option.bind_eq_some_iff.mp hplan
  -- the required fields, the wait and the endpoint are checked before the fields are put together
  obtain ⟨-, -, hplan⟩ := Option.bind_eq_some_iff.mp hplan
  obtain ⟨-, -, hplan⟩ := Option.bind_eq_some_iff.mp hplan
  obtain ⟨endpointIP, -, hplan⟩ := Option.bind_eq_some_iff.mp hplan
  obtain ⟨-, -, hplan⟩ := Option.bind_eq_some_iff.mp hplan
  rw [← Option.some.inj hplan, Option.some.inj (hconf.symm.trans hconf')]

theorem foldl_resolve_of_notMem {commands : List Command} (hnot : .writeResolvConf ∉ commands)
    (lines : List (Origin × String)) : commands.foldl (Command.resolve plan) lines = lines := by
  induction commands with
  | nil => rfl
  | cons c commands ih =>
      obtain ⟨hc, hrest⟩ := not_or.mp (mt List.mem_cons.mpr hnot)
      rw [List.foldl_cons]
      cases c with
      | writeResolvConf => exact absurd rfl hc
      | _ => exact ih hrest

theorem script_eq_concat (h : Host) (plan : Plan) :
    ∃ commands, script h plan = commands ++ [.writeResolvConf, .startCellproxy] ∧
      .writeResolvConf ∉ commands ∧ .startCellproxy ∉ commands := by
  have hbefore : ∀ c, c = .writeResolvConf ∨ c = .startCellproxy → c ∉ beforeHandshake h plan := by
    rintro c hwhich hmem
    obtain hkill | ⟨name, rules, rfl⟩ | ⟨words, rfl | rfl⟩ := mem_beforeHandshake hmem
    · obtain rfl | rfl := hwhich <;> simp [killSwitch] at hkill
    all_goals obtain hc | hc := hwhich <;> cases hc
  refine ⟨beforeHandshake h plan ++ .waitForHandshake :: (allowTunnel ++ allowInbound h plan),
    by simp [script, afterHandshake], ?_, ?_⟩
  · simp [hbefore _ (.inl rfl), allowTunnel, allowInbound]
  · simp [hbefore _ (.inr rfl), allowTunnel, allowInbound]

/-- When cellproxy runs, step 8 has been done once. -/
theorem Booted.resolvConf_serving (hs : Booted h plan table s) (hserving : s.status = .serving) :
    s.resolvConf = writeResolvConf plan (h.resolvConf.map (.docker, ·)) := by
  obtain ⟨commands, hscript, hwrite, hstart⟩ := script_eq_concat h plan
  have hfirst : s.done <+: (commands ++ [.writeResolvConf]) ++ [.startCellproxy] := by
    simpa [hscript] using hs.first
  have hdone : s.done = commands ++ [.writeResolvConf, .startCellproxy] := by
    rcases List.prefix_concat_iff.mp hfirst with hall | hless
    · simpa using hall
    · have hmem := hless.subset (hs.serving hserving)
      simp [hstart] at hmem
  rw [hs.resolvConf, hdone, List.foldl_append, foldl_resolve_of_notMem hwrite]
  rfl

theorem filterMap_nameserver_writeResolvConf (lines : List (Origin × String))
    (hraw : plan.wgDnsRaw = field "DNS" conf) (hne : field "DNS" conf ≠ "") :
    (writeResolvConf plan lines).filterMap (fun line => nameserver line.2) = spelledOut conf := by
  rw [writeResolvConf, hraw, if_neg hne, ← pieces_field_dns, List.filterMap_map]
  exact List.filterMap_congr fun ip _ => nameserver_line ip

/-- The addresses of the DNS entries are what stands between commas in the part of a `DNS` line that
the script looks at, and that part is not blank everywhere unless docker named no resolver. -/
def SpelledForScript (h : Host) (conf : String) : Prop :=
  ((∃ value ∈ dnsFields conf, value ≠ []) ∨ ∀ line ∈ h.resolvConf, nameserver line = none) ∧
    ∀ address, address ∈ spelledOut conf ↔ address ∈ dnsAddresses conf

/-- **No DNS leak, exactly where the entries are spelled for the script.** -/
theorem resolves_as_configured_iff (h : Host) (plan : Plan) (conf : String)
    (hconf : h.conf = some conf) (hplan : prepare h = some plan) (table : Table)
    (events : List Event) :
    ∀ e ∈ run h plan table events, e.target.status = .serving →
      (ResolvesAsConfigured conf e.target.resolvConf ↔ SpelledForScript h conf) := by
  intro e he hserving
  have hraw := wgDnsRaw_of_prepare hconf hplan
  rw [(booted_of_mem_run he).resolvConf_serving hserving]
  unfold ResolvesAsConfigured SpelledForScript
  by_cases hempty : field "DNS" conf = ""
  · -- the script leaves docker's file as it is
    have hblank := (field_dns_eq_empty_iff conf).mp hempty
    have hnone : ¬ ∃ value ∈ dnsFields conf, value ≠ [] :=
      fun ⟨value, hvalue, hne⟩ => hne (hblank value hvalue)
    rw [writeResolvConf, hraw, if_pos hempty, spelledOut_eq_nil hblank, List.filterMap_map]
    simp only [hnone, false_or, List.forall_mem_map, forall_const]
    refine and_congr_right fun hdocker => forall_congr' fun address => ?_
    have hlist : h.resolvConf.filterMap
        ((fun line : Origin × String => nameserver line.2) ∘ fun x => (.docker, x)) = [] :=
      List.filterMap_eq_nil_iff.mpr hdocker
    rw [hlist]
  · have hsome : ∃ value ∈ dnsFields conf, value ≠ [] := by
      have hall : ¬ ∀ value ∈ dnsFields conf, value = [] :=
        fun hall => hempty ((field_dns_eq_empty_iff conf).mpr hall)
      simpa using hall
    rw [filterMap_nameserver_writeResolvConf _ hraw hempty]
    have hown : ∀ line ∈ writeResolvConf plan (h.resolvConf.map (.docker, ·)),
        line.1 = .docker → nameserver line.2 = none := by
      rw [writeResolvConf, hraw, if_neg hempty]
      simp
    exact and_congr (iff_of_true hown (.inl hsome)) Iff.rfl

theorem resolves_as_configured_two :
    ∃ plan, prepare (twoNetworkHost (confWith "DNS = 10.2.0.1, 10.2.0.2")) = some plan ∧
      ∃ e ∈ run (twoNetworkHost (confWith "DNS = 10.2.0.1, 10.2.0.2")) plan openTable smoothBoot,
        e.target.status = .serving ∧
          ResolvesAsConfigured (confWith "DNS = 10.2.0.1, 10.2.0.2") e.target.resolvConf := by
  have hboot : (prepare (twoNetworkHost (confWith "DNS = 10.2.0.1, 10.2.0.2"))).any fun plan =>
      decide (∃ e ∈ run (twoNetworkHost (confWith "DNS = 10.2.0.1, 10.2.0.2")) plan openTable
        smoothBoot, e.target.status = .serving) := by decide +kernel
  obtain ⟨plan, hplan, hrun⟩ := (Option.any_eq_true _ _).mp hboot
  obtain ⟨e, he, hserving⟩ := of_decide_eq_true hrun
  have hspelled : (∃ value ∈ dnsFields (confWith "DNS = 10.2.0.1, 10.2.0.2"), value ≠ []) ∧
      spelledOut (confWith "DNS = 10.2.0.1, 10.2.0.2") =
        dnsAddresses (confWith "DNS = 10.2.0.1, 10.2.0.2") := by decide +kernel
  refine ⟨plan, hplan, e, he, hserving, ?_⟩
  refine (resolves_as_configured_iff _ plan _ rfl hplan openTable smoothBoot e he hserving).mpr
    ⟨.inl hspelled.1, fun address => by rw [hspelled.2]⟩

/-- An entry without blanks around its `=` is not seen: the cell serves with docker's resolver. -/
theorem not_resolves_as_configured :
    ∃ plan, prepare (twoNetworkHost (confWith "DNS=10.2.0.1")) = some plan ∧
      dnsAddresses (confWith "DNS=10.2.0.1") = ["10.2.0.1".toList] ∧
      ∃ e ∈ run (twoNetworkHost (confWith "DNS=10.2.0.1")) plan openTable smoothBoot,
        e.target.status = .serving ∧
          ¬ ResolvesAsConfigured (confWith "DNS=10.2.0.1") e.target.resolvConf := by
  have hboot : (prepare (twoNetworkHost (confWith "DNS=10.2.0.1"))).any fun plan =>
      decide (∃ e ∈ run (twoNetworkHost (confWith "DNS=10.2.0.1")) plan openTable smoothBoot,
        e.target.status = .serving ∧ (.docker, "nameserver 127.0.0.11") ∈ e.target.resolvConf) := by
    decide +kernel
  obtain ⟨plan, hplan, hrun⟩ := (Option.any_eq_true _ _).mp hboot
  obtain ⟨e, he, hserving, hdocker⟩ := of_decide_eq_true hrun
  refine ⟨plan, hplan, by decide +kernel, e, he, hserving, fun hresolves => ?_⟩
  have hnone := hresolves.1 _ hdocker rfl
  exact absurd hnone (by decide +kernel)

end Pr0xteus.Cell
