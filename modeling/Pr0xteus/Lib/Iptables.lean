import Mathlib.Data.List.Basic

/-!
# IPv4 packet filter

The `filter` table of iptables with plain rules: a chain is a list of rules and a policy, the first
rule that fits a packet decides, and the policy decides where none does. An interface is known by
its name, so a rule for an interface fits the packets of that interface and no others.
-/

namespace Iptables

inductive Proto
  | tcp
  | udp
  | other (number : UInt8)
  deriving DecidableEq, Repr

inductive CtState
  | new
  | established
  | related
  | invalid
  | untracked
  deriving DecidableEq, Repr

inductive Target
  | accept
  | drop
  deriving DecidableEq, Repr

/-- The interface is the one a packet came in on, or the one it leaves by. -/
structure Packet where
  iface : String
  proto : Proto
  dst : BitVec 32
  dport : UInt16
  ctstate : CtState
  deriving DecidableEq, Repr

/-- A part that is `none` is not written in the rule and fits every packet. -/
structure Rule where
  iface : Option String := none
  ctstate : Option (List CtState) := none
  dst : Option (BitVec 32) := none
  proto : Option Proto := none
  dport : Option UInt16 := none
  target : Target
  deriving DecidableEq, Repr

def Rule.fits (r : Rule) (p : Packet) : Bool :=
  r.iface.all (· == p.iface) && r.ctstate.all (·.contains p.ctstate) && r.dst.all (· == p.dst) &&
    r.proto.all (· == p.proto) && r.dport.all (· == p.dport)

structure Chain where
  policy : Target
  rules : List Rule
  deriving DecidableEq, Repr

def Chain.verdict (c : Chain) (p : Packet) : Target :=
  ((c.rules.find? (·.fits p)).map Rule.target).getD c.policy

/-- Behind a policy of `drop`, what is accepted was accepted by a rule. -/
theorem Chain.exists_of_accept {c : Chain} {p : Packet} (hpolicy : c.policy = .drop)
    (haccept : c.verdict p = .accept) : ∃ r ∈ c.rules, r.fits p = true := by
  unfold verdict at haccept
  cases hfind : c.rules.find? (·.fits p) with
  | none =>
      rw [hfind, Option.map_none, Option.getD_none, hpolicy] at haccept
      cases haccept
  | some r =>
      have hfits : r.fits p = true := by simpa using List.find?_some hfind
      exact ⟨r, List.mem_of_find?_eq_some hfind, hfits⟩

inductive ChainName
  | input
  | output
  | forward
  deriving DecidableEq, Repr

structure Table where
  input : Chain
  output : Chain
  forward : Chain
  deriving DecidableEq, Repr

def Table.chain (t : Table) : ChainName → Chain
  | .input => t.input
  | .output => t.output
  | .forward => t.forward

def Table.modify (t : Table) (f : Chain → Chain) : ChainName → Table
  | .input => { t with input := f t.input }
  | .output => { t with output := f t.output }
  | .forward => { t with forward := f t.forward }

/-- `iptables -P`. -/
def Table.setPolicy (t : Table) (name : ChainName) (target : Target) : Table :=
  t.modify (fun c => { c with policy := target }) name

/-- `iptables -A`; an address that resolves to several addresses makes as many rules. -/
def Table.append (t : Table) (name : ChainName) (rules : List Rule) : Table :=
  t.modify (fun c => { c with rules := c.rules ++ rules }) name

theorem Table.chain_modify (t : Table) (f : Chain → Chain) (name other : ChainName) :
    (t.modify f name).chain other = if name = other then f (t.chain other) else t.chain other := by
  cases name <;> cases other <;> rfl

@[simp]
theorem Table.rules_setPolicy (t : Table) (name other : ChainName) (target : Target) :
    ((t.setPolicy name target).chain other).rules = (t.chain other).rules := by
  rw [setPolicy, chain_modify]
  split <;> rfl

@[simp]
theorem Table.policy_setPolicy (t : Table) (name other : ChainName) (target : Target) :
    ((t.setPolicy name target).chain other).policy =
      if name = other then target else (t.chain other).policy := by
  rw [setPolicy, chain_modify]
  split <;> rfl

@[simp]
theorem Table.rules_append (t : Table) (name other : ChainName) (rules : List Rule) :
    ((t.append name rules).chain other).rules =
      if name = other then (t.chain other).rules ++ rules else (t.chain other).rules := by
  rw [append, chain_modify]
  split <;> rfl

@[simp]
theorem Table.policy_append (t : Table) (name other : ChainName) (rules : List Rule) :
    ((t.append name rules).chain other).policy = (t.chain other).policy := by
  rw [append, chain_modify]
  split <;> rfl

end Iptables
