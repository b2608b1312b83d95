import Pr0xteus.Lib.Iptables
import Pr0xteus.Lib.Shell
import Pr0xteus.Lib.Transition

/-!
# The entrypoint of a cell

`cell/entrypoint.sh`. Its first step only reads: `prepare` is what it leaves in the script's
variables, from what the container holds and what the commands print. From the second step on the
script is a list of commands, run one after the other under `set -e`: a command that fails ends the
script, unless `|| true` stands behind it, and a signal may end it anywhere. The traps take `wg0`
down and leave the packet filter alone.
-/

namespace Pr0xteus.Cell

open Shell Iptables

/-- What the script finds in its container. The last two are how iptables reads the operand of
`--dport`, and the addresses it reads from the operand of `-d`. -/
structure Host where
  /-- `/proc/sys/net/ipv4/conf/all/src_valid_mark` -/
  srcValidMark : Option String
  /-- `/wgconf/wg0.conf`, where it can be read and copied -/
  conf : Option String
  /-- `dig +short`, where it succeeds -/
  dig : String → Option String
  /-- `ip route show default` -/
  defaultRoute : String
  /-- `ip -o -4 addr show` -/
  addrShow : String
  /-- `PR0XTEUS_SOCKS5_PORT` -/
  socks5Port : String
  /-- `PR0XTEUS_CELL_CONTROL_PORT` -/
  cellControlPort : String
  /-- `PR0XTEUS_HANDSHAKE_WAIT_SECONDS` -/
  handshakeWaitSeconds : String
  /-- the lines docker wrote to `/etc/resolv.conf` -/
  resolvConf : List String
  readPort : String → Option UInt16
  readAddress : String → List (BitVec 32)

/-- The script's variables after its first step. -/
structure Plan where
  wgPrivateKey : String
  wgAddress : String
  wgDnsRaw : String
  wgMtu : String
  wgPeerPubkey : String
  wgPeerAllowed : String
  wgEndpointIP : String
  wgEndpointPort : String
  egressIf : String
  egressGw : String
  controlIf : String
  socks5Port : String
  controlPort : String
  handshakeWaitSeconds : Nat
  deriving DecidableEq

/-- `awk -F' = ' '/^key/{print $2}' | tr -d ' '`. -/
def printField (key conf : String) : Str :=
  trDelete ' ' (unlines (((records conf.toList).filter (key.toList.isPrefixOf ·)).map
    (secondField " = ".toList)))

def field (key conf : String) : String := String.ofList (substitute (printField key conf))

/-- The same with `head -1` behind it. -/
def firstField (key conf : String) : String :=
  String.ofList ((records (printField key conf)).headD [])

/-- `awk 'NR == 1 {value = $n} END {print value}'`. -/
def firstRecordField (n : Nat) (printed : String) : String :=
  String.ofList (nthField n ((records printed.toList).headD []))

def withDefault (s d : String) : String := if s = "" then d else s

/-- `^[0-9.]+$` -/
def numericHost (s : String) : Bool := s ≠ "" && s.toList.all fun c => c.isDigit || c == '.'

/-- `^[1-9][0-9]*$` -/
def positiveInteger (s : String) : Bool := s.toList.all Char.isDigit && !(s.toList.headD '0' == '0')

def resolveEndpoint (h : Host) (host : String) : Option String :=
  if numericHost host then some host
  else (h.dig host).map fun printed => String.ofList ((records printed.toList).headD [])

/-- The first interface with an IPv4 address that is neither loopback nor the egress interface. -/
def selectControlIf (h : Host) (egressIf : String) : String :=
  let names := (records h.addrShow.toList).map fun line => String.ofList (nthField 2 line)
  withDefault ((names.find? fun name => name ≠ "lo" && name ≠ egressIf).getD "") egressIf

/-- Everything before the kill switch. The script ends here where the sysctl or the configuration is
missing, a required field is empty, or the endpoint has no address. -/
def prepare (h : Host) : Option Plan := do
  guard (h.srcValidMark.getD "0" = "1")
  let conf ← h.conf
  let endpoint := (field "Endpoint" conf).toList
  let host := String.ofList (beforeLast ':' endpoint)
  let port := String.ofList (afterLast ':' endpoint)
  guard ([field "PrivateKey" conf, firstField "Address" conf, field "PublicKey" conf,
    field "AllowedIPs" conf, host, port].all (· ≠ ""))
  let wait := withDefault h.handshakeWaitSeconds "15"
  guard (positiveInteger wait)
  let endpointIP ← resolveEndpoint h host
  guard (endpointIP ≠ "")
  let egressIf := withDefault (firstRecordField 5 h.defaultRoute) "eth0"
  return {
    wgPrivateKey := field "PrivateKey" conf
    wgAddress := firstField "Address" conf
    wgDnsRaw := field "DNS" conf
    wgMtu := withDefault (field "MTU" conf) "1420"
    wgPeerPubkey := field "PublicKey" conf
    wgPeerAllowed := field "AllowedIPs" conf
    wgEndpointIP := endpointIP
    wgEndpointPort := port
    egressIf
    egressGw := firstRecordField 3 h.defaultRoute
    controlIf := selectControlIf h egressIf
    socks5Port := withDefault h.socks5Port "1080"
    controlPort := withDefault h.cellControlPort "9090"
    handshakeWaitSeconds := wait.toList.foldl (fun n c => 10 * n + (c.toNat - 48)) 0 }

inductive Command
  /-- `iptables -P` -/
  | policy (chain : ChainName) (target : Target)
  /-- `iptables -A`; no rules where an operand cannot be read -/
  | append (chain : ChainName) (rules : List Rule)
  /-- a command with no part in the packet filter -/
  | exec (words : List String)
  /-- the same with `|| true` behind it -/
  | execOrTrue (words : List String)
  | waitForHandshake
  | writeResolvConf
  | startCellproxy
  deriving DecidableEq

variable (h : Host) (plan : Plan)

def endpointRules : List Rule :=
  match h.readPort plan.wgEndpointPort with
  | none => []
  | some port => (h.readAddress plan.wgEndpointIP).map fun ip =>
      { iface := some plan.egressIf, dst := some ip, proto := some .udp, dport := some port,
        target := .accept }

def inboundRules (iface port : String) : List Rule :=
  match h.readPort port with
  | none => []
  | some port =>
      [{ iface := some iface, proto := some .tcp, dport := some port, target := .accept }]

def loopbackRule : Rule := { iface := some "lo", target := .accept }

def establishedRule : Rule := { ctstate := some [.established, .related], target := .accept }

def tunnelRule : Rule := { iface := some "wg0", target := .accept }

/-- Step 2, as far as IPv4 goes. -/
def killSwitch : List Command :=
  [.policy .input .drop, .policy .output .drop, .policy .forward .drop]

def killSwitchV6 : List Command :=
  ["INPUT", "OUTPUT", "FORWARD"].map fun chain => .execOrTrue ["ip6tables", "-P", chain, "DROP"]

/-- Step 3. -/
def allowLoopbackAndEstablished : List Command :=
  [.append .input [loopbackRule], .append .output [loopbackRule],
   .append .input [establishedRule], .append .output [establishedRule]]

/-- Step 4, with the route to the endpoint. -/
def allowEndpoint : List Command :=
  .append .output (endpointRules h plan) ::
    (if plan.egressGw = "" then []
     else [.execOrTrue ["ip", "route", "add", plan.wgEndpointIP ++ "/32", "via", plan.egressGw,
       "dev", plan.egressIf]])

def strippedConf : String :=
  "[Interface]\nPrivateKey = " ++ plan.wgPrivateKey ++ "\n\n[Peer]\nPublicKey = " ++
    plan.wgPeerPubkey ++ "\nAllowedIPs = " ++ plan.wgPeerAllowed ++ "\nEndpoint = " ++
    plan.wgEndpointIP ++ ":" ++ plan.wgEndpointPort ++ "\nPersistentKeepalive = 25\n"

/-- Step 5 up to the wait. -/
def bringUpTunnel : List Command :=
  [.exec ["mktemp"],
   .exec ["cat", strippedConf plan],
   .exec ["ip", "link", "add", "wg0", "type", "wireguard"],
   .exec ["wg", "setconf", "wg0"],
   .exec ["rm", "-f"],
   .exec ["ip", "address", "add", plan.wgAddress, "dev", "wg0"],
   .exec ["ip", "link", "set", "mtu", plan.wgMtu, "up", "dev", "wg0"],
   .exec ["ip", "route", "replace", "default", "dev", "wg0"]]

/-- Step 6. -/
def allowTunnel : List Command := [.append .output [tunnelRule]]

/-- Step 7. -/
def allowInbound : List Command :=
  [.append .input (inboundRules h plan.egressIf plan.socks5Port),
   .append .input (inboundRules h plan.controlIf plan.socks5Port),
   .append .input (inboundRules h plan.controlIf plan.controlPort)]

def beforeHandshake : List Command :=
  killSwitch ++ killSwitchV6 ++ allowLoopbackAndEstablished ++ allowEndpoint h plan ++
    bringUpTunnel plan

def afterHandshake : List Command :=
  allowTunnel ++ allowInbound h plan ++ [.writeResolvConf, .startCellproxy]

def script : List Command := beforeHandshake h plan ++ .waitForHandshake :: afterHandshake h plan

inductive Origin
  | docker
  | entrypoint
  deriving DecidableEq

inductive Status
  | booting
  | serving
  | exited (code : Nat)
  deriving DecidableEq

structure Boot where
  table : Table
  /-- `wait_for_handshake` has returned 0 -/
  handshake : Bool
  deadline : Option (BitVec 64)
  resolvConf : List (Origin × String)
  done : List Command
  todo : List Command
  status : Status
  deriving DecidableEq

def start (table : Table) : Boot where
  table
  handshake := false
  deadline := none
  resolvConf := h.resolvConf.map (.docker, ·)
  done := []
  todo := script h plan
  status := .booting

inductive Event
  /-- the next command has ended, or could not be run -/
  | ran (ok : Bool)
  /-- `wait_for_handshake` sets its deadline -/
  | entered (seconds : Nat)
  /-- one round of its loop -/
  | polled (seconds : Nat) (handshake : String)
  /-- anything between the commands failed -/
  | failed
  /-- `TERM` or `INT` -/
  | signalled
  deriving DecidableEq

/-- Step 8: a line for each line that `tr ',' '\n'` makes of the value, and nothing at all where the
value is empty. -/
def writeResolvConf (lines : List (Origin × String)) : List (Origin × String) :=
  if plan.wgDnsRaw = "" then lines
  else (readLines (trReplace ',' '\n' plan.wgDnsRaw.toList)).map fun ip =>
    (.entrypoint, "nameserver " ++ String.ofList ip)

/-- What a command that succeeds does to the packet filter. -/
def Command.filter (table : Table) : Command → Table
  | .policy chain target => table.setPolicy chain target
  | .append chain rules => table.append chain rules
  | _ => table

/-- What it does to `/etc/resolv.conf`. -/
def Command.resolve (lines : List (Origin × String)) : Command → List (Origin × String)
  | .writeResolvConf => Cell.writeResolvConf plan lines
  | _ => lines

def Boot.exit (s : Boot) (code : Nat) : Boot := { s with status := .exited code }

/-- The command `c` has succeeded and `rest` is left to do. -/
def Boot.complete (s : Boot) (c : Command) (rest : List Command) : Boot :=
  { s with
    table := c.filter s.table
    handshake := s.handshake || c = .waitForHandshake
    resolvConf := c.resolve plan s.resolvConf
    done := s.done ++ [c]
    todo := rest
    status := if c = .startCellproxy then .serving else s.status }

/-- One command that runs to its end, well or badly. -/
def Boot.runCommand (s : Boot) (ok : Bool) (c : Command) (rest : List Command) : Option Boot :=
  match c with
  | .waitForHandshake => none
  | .execOrTrue _ => some (s.complete plan c rest)
  | .append _ [] => some (s.exit 1)
  | _ => some (if ok then s.complete plan c rest else s.exit 1)

/-- One round of `wait_for_handshake`: the time is looked at first. -/
def Boot.poll (s : Boot) (deadline : BitVec 64) (seconds : Nat) (handshake : String)
    (rest : List Command) : Boot :=
  if (BitVec.ofNat 64 seconds).slt deadline then
    if handshake ≠ "" ∧ handshake ≠ "0" then s.complete plan .waitForHandshake rest else s
  else s.exit 1

def step (s : Boot) : Event → Option Boot
  | .failed => if s.status = .booting then some (s.exit 1) else none
  | .signalled => if s.status = .booting then some (s.exit 0) else none
  | .ran ok =>
      if s.status = .booting then
        match s.todo with
        | [] => none
        | c :: rest => s.runCommand plan ok c rest
      else none
  | .entered seconds =>
      match s.status, s.todo, s.deadline with
      | .booting, .waitForHandshake :: _, none =>
          some { s with deadline := some (BitVec.ofNat 64 (seconds + plan.handshakeWaitSeconds)) }
      | _, _, _ => none
  | .polled seconds handshake =>
      match s.status, s.todo, s.deadline with
      | .booting, .waitForHandshake :: rest, some deadline =>
          some (s.poll plan deadline seconds handshake rest)
      | _, _, _ => none

/-- A boot from the given packet filter on. -/
def run (table : Table) (events : List Event) : List (Transition.Edge Boot Event) :=
  Transition.edges (step plan) (start h plan table) events

end Pr0xteus.Cell
