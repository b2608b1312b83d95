import Pr0xteus.Proof.Registry
import Pr0xteus.Proof.WellFormed

/-!
# Which cell a lease reaches

A connection looks its lease up in the registry and then reserves the leased container in the slot of
the leased pool. The two are locked separately, and the slot can be cleared and refilled any number
of times in between. Yet a container is published once, with one gateway address, so the container
that answers to the recorded identifier is the one the lease was issued for.
-/

namespace Pr0xteus

open GoTime Transition

variable {m : Setup} {es : List (Edge State Action)} {s t : State} {pc : Pc} {l : Issued} {i : Nat}
  {p u : String} {a : Action}

def Call.issues (cfg : Config) : Call → Option Issued
  | .issueLease now leaseID secret acq url =>
      some ⟨leaseID, secret, acq, url, add now cfg.proxyLeaseTTLOrDefault⟩
  | _ => none

def Call.presents : Call → Option String
  | .lookupLease _ _ secret => some secret
  | _ => none

def leasesOf (m : Setup) (es : List (Edge State Action)) : List Issued :=
  es.filterMap fun e => (actor e).bind fun pc => pc.call.issues m.cfg

theorem leasesOf_append_singleton (es : List (Edge State Action)) (e : Edge State Action) :
    leasesOf m (es ++ [e]) =
      leasesOf m es ++ ((actor e).bind fun pc => pc.call.issues m.cfg).toList := by
  unfold leasesOf
  rw [List.filterMap_append]
  cases h : (actor e).bind fun pc => pc.call.issues m.cfg <;> simp [h]

theorem mem_leasesOf_append (e : Edge State Action) (hl : l ∈ leasesOf m es) :
    l ∈ leasesOf m (es ++ [e]) := by
  rw [leasesOf_append_singleton]
  exact List.mem_append_left _ hl

theorem mem_leasesOf_append_iff {e : Edge State Action} : l ∈ leasesOf m (es ++ [e]) ↔
      l ∈ leasesOf m es ∨ ∃ pc ∈ actor e, pc.call.issues m.cfg = some l := by
  rw [leasesOf_append_singleton, List.mem_append, Option.mem_toList, Option.bind_eq_some_iff]
  simp only [Option.mem_def]

theorem held_of_issues {cfg : Config} (h : pc.call.issues cfg = some l) : pc.held = some l.acq := by
  cases pc with
  | assign acq stage =>
      cases stage with
      | issue url leaseID secret now =>
          cases h
          rfl
      | _ => cases h
  | acquire a stage | gateway u p stage | reaper stage | orphan stage | destroy containerID stage
  | close stage | markFailed pool confName stage => cases stage <;> cases h
  | _ => cases h

section Exec

variable {s s' : Shared} {answer : Answer}

theorem leases_exec {c : Call} {ret : c.Ret} (hexec : exec m s c answer = some (s', ret))
    (httl : s.leases.ttl = m.cfg.proxyLeaseTTLOrDefault) :
    s'.leases.ttl = m.cfg.proxyLeaseTTLOrDefault ∧
      ∀ leaseID record, s'.leases.leases.lookup leaseID = some record →
        s.leases.leases.lookup leaseID = some record ∨
          ∃ l ∈ c.issues m.cfg, l.leaseID = leaseID ∧ l.record = record := by
  cases access_of_exec hexec with
  | issueLease now newID secret acq url =>
      refine ⟨httl, fun leaseID record hrecord => ?_⟩
      have hrecord := LeaseRegistry.lookup_insertLocked.mp hrecord
      split at hrecord
      · next hid =>
          rw [httl] at hrecord
          exact .inr ⟨_, rfl, hid.symm, hrecord⟩
      · exact .inl hrecord.1
  | lookupLease now id secret =>
      exact ⟨httl, fun leaseID record hrecord =>
        .inl (LeaseRegistry.lookup_pruneExpiredLocked.mp hrecord).1⟩
  | _ => exact ⟨httl, fun leaseID record hrecord => .inl hrecord⟩

def Pc.isGateway : Pc → Bool
  | .gateway _ _ _ => true
  | _ => false

@[simp]
theorem isGateway_assign (acq : Acquisition) : (assign acq).isGateway = false := by
  unfold assign
  split <;> rfl

@[simp]
theorem isGateway_fail (a : Attempt) (err : CtxError) : (a.fail m err).isGateway = false := by
  unfold Attempt.fail
  split <;> rfl

/-- Where a user of a lease can go, and what it has seen when it goes there. -/
inductive GatewayNext (s : Shared) (u p : String) : GatewayStage → Pc → Prop
  | clock (use : LeaseUse) :
      GatewayNext s u p (.lookupClock use) (.gateway u p (.lookup use s.now))
  | found (now : Int) (record : ProxyLeaseRecord)
      (hfound : (s.leases.lookup now u p).1 = some record) :
      GatewayNext s u p (.lookup .connect now) (.gateway u p (.reserve now record))
  | reserved (now : Int) (record : ProxyLeaseRecord) (t : Tunnel)
      (hid : t.containerID = record.containerID) :
      GatewayNext s u p (.reserve now record) (.gateway u p (.dial ⟨t.use s.now, record.pool⟩))
  | connected (acq : Acquisition) :
      GatewayNext s u p (.dial acq) (.gateway u p (.connected acq))
  | hangUp (acq : Acquisition) : GatewayNext s u p (.dial acq) (.gateway u p (.hangUp acq))

theorem gatewayNext_of_exec {stage : GatewayStage} {ret : (Pc.gateway u p stage).call.Ret}
    (hexec : exec m s (Pc.gateway u p stage).call answer = some (s', ret)) :
    (resume m (.gateway u p stage) ret).isGateway = false ∨
      GatewayNext s u p stage (resume m (.gateway u p stage) ret) := by
  cases stage with
  | lookupClock use =>
      obtain rfl : s.now = ret := congrArg Prod.snd (Option.some.inj hexec)
      exact .inr (.clock use)
  | lookup use now =>
      have hfound : (s.leases.lookup now u p).1 = ret := congrArg Prod.snd (Option.some.inj hexec)
      rcases ret with _ | record
      · exact .inl rfl
      · cases use with
        | connect => exact .inr (.found now record hfound)
        | _ => exact .inl rfl
  | reserve now record =>
      obtain ⟨t, -, -, hid, rfl⟩ | ⟨err, rfl, -⟩ := exec_acquireContainer hexec
      · exact .inr (.reserved now record t hid)
      · exact .inl rfl
  | dial acq =>
      cases ret with
      | false => exact .inr (.hangUp acq)
      | true => exact .inr (.connected acq)
  | connected acq | hangUp acq => exact .inl rfl

theorem gatewayNext_of_isGateway {ret : pc.call.Ret}
    (hexec : exec m s pc.call answer = some (s', ret))
    (hgateway : (resume m pc ret).isGateway = true) :
    ∃ u p stage, pc = .gateway u p stage ∧ GatewayNext s u p stage (resume m pc ret) := by
  cases pc with
  | gateway u p stage =>
      refine ⟨u, p, stage, rfl, (gatewayNext_of_exec hexec).resolve_left ?_⟩
      rw [hgateway]
      exact Bool.false_ne_true.symm
  | acquire a stage =>
      cases stage with
      | tryHot =>
          rcases ret with err | t
          · simp only [resume] at hgateway
            split at hgateway <;> cases hgateway
          · simp [resume] at hgateway
      | pickClock mu =>
          simp only [resume] at hgateway
          split at hgateway <;> cases hgateway
      | recheck mu | pickConf mu now exclude | create mu conf | waitReady mu conf containerID =>
          rcases ret with _ | _ <;> cases hgateway
      | unlockOk mu acq | unlockFail mu err => simp [resume] at hgateway
      | _ => cases hgateway
  | assign acq stage =>
      cases stage with
      | leaseParts url => rcases ret with _ | ⟨leaseID, secret⟩ <;> cases hgateway
      | _ => cases hgateway
  | _ =>
      have hbackground := isBackground_resume hexec rfl
      generalize resume m _ ret = pc' at hgateway hbackground
      cases pc' with
      | gateway u p stage => cases hbackground
      | _ => cases hgateway

end Exec

/-- What never changes about a container that became a tunnel. -/
structure Cell where
  confName : String
  proxyURL : Option Encoding.URL
  gatewayAddr : String

def Tunnel.cell (t : Tunnel) : Cell := ⟨t.confName, t.proxyURL, t.gatewayAddr⟩

theorem Tunnel.SameCell.cell {t t' : Tunnel} (h : t.SameCell t') : t'.cell = t.cell := by
  simp [Tunnel.cell, h.confName, h.proxyURL, h.gatewayAddr]

/-- One cell for each container, wherever it is written down: in the slots, in the acquisitions and
in the leases. -/
structure CellBook (book : String → Cell) (leases : List Issued) (s : State) : Prop where
  slot : ∀ pool t, s.shared.slot pool = some t → book t.containerID = t.cell
  held : ∀ pc ∈ s.threads, ∀ acq, pc.held = some acq →
    book acq.tunnel.containerID = acq.tunnel.cell
  issued : ∀ l ∈ leases, book l.acq.tunnel.containerID = l.acq.tunnel.cell

theorem cellBook_turn {book : String → Cell} {leases : List Issued} {shared : Shared} {pc pc' : Pc}
    (hwf : WellFormed s) (hsettled : ∀ l ∈ leases, s.Settled l.acq.tunnel.containerID l.acq.pool)
    (hbook : CellBook book leases s) (hpc : s.threads[i]? = some pc)
    (hturn : Turn s.shared pc shared pc') :
    ∃ book', CellBook book' leases ⟨shared, s.threads.set i pc'⟩ := by
  have hmem := List.mem_of_getElem? hpc
  -- a container that is published now enters the book under what its goroutine then holds
  let book' := fun containerID =>
    if pc.readies containerID then (pc'.held.map fun acq => acq.tunnel.cell).getD ⟨"", none, ""⟩
    else book containerID
  have hold : ∀ {containerID pool}, s.Settled containerID pool →
      book' containerID = book containerID := by
    intro containerID pool h
    simp [book', h.ready pc hmem]
  refine ⟨book', fun pool t' ht' => ?_, fun q hq acq hacq => ?_, fun l hl => ?_⟩
  · obtain ⟨t, hslot, hcell⟩ | ⟨-, hreadies, -, hheld⟩ := hturn.slot_cases ht'
    · rw [hcell.containerID, hcell.cell, hold (hwf.slot pool t hslot)]
      exact hbook.slot pool t hslot
    · simp [book', Pc.readies_eq_true_iff.mpr ⟨pool, hreadies⟩, hheld]
  · rcases List.mem_or_eq_of_mem_set hq with hq | rfl
    · rw [hold (hwf.held q hq acq hacq)]
      exact hbook.held q hq acq hacq
    · obtain hheld | ⟨t, hslot, hcell⟩ | ⟨hreadies, -⟩ := hturn.held_cases hacq
      · rw [hold (hwf.held pc hmem acq hheld)]
        exact hbook.held pc hmem acq hheld
      · rw [hcell.containerID, hcell.cell, hold (hwf.slot acq.pool t hslot)]
        exact hbook.slot acq.pool t hslot
      · simp [book', Pc.readies_eq_true_iff.mpr ⟨acq.pool, hreadies⟩, hacq]
  · rw [hold (hsettled l hl)]
    exact hbook.issued l hl

theorem cellBook_step {book : String → Cell} {leases : List Issued} (hwf : WellFormed s)
    (hsettled : ∀ l ∈ leases, s.Settled l.acq.tunnel.containerID l.acq.pool)
    (hbook : CellBook book leases s) (hstep : step m s a = some t) :
    ∃ book', CellBook book' leases t := by
  cases step_cases hstep with
  | tick d => exact ⟨book, hbook.slot, hbook.held, hbook.issued⟩
  | start entry hvisits =>
      refine ⟨book, hbook.slot, fun pc hpc acq hacq => ?_, hbook.issued⟩
      rcases List.mem_append.mp hpc with hpc | hpc
      · exact hbook.held pc hpc acq hacq
      · obtain rfl := List.mem_singleton.mp hpc
        simp at hacq
  | turn i answer pc shared ret hpc hexec =>
      exact cellBook_turn hwf hsettled hbook hpc (turn_of_exec hexec)

/-- What the registry holds was issued, for containers that are settled and are one cell each. -/
structure Issuance (m : Setup) (es : List (Edge State Action)) (s : State) : Prop where
  wellFormed : WellFormed s
  ttl : s.shared.leases.ttl = m.cfg.proxyLeaseTTLOrDefault
  registry : ∀ leaseID record, s.shared.leases.leases.lookup leaseID = some record →
    ∃ l ∈ leasesOf m es, l.leaseID = leaseID ∧ l.record = record
  settled : ∀ l ∈ leasesOf m es, s.Settled l.acq.tunnel.containerID l.acq.pool
  cells : ∃ book, CellBook book (leasesOf m es) s

theorem issuance_step (h : Issuance m es s) (hstep : step m s a = some t) :
    Issuance m (es ++ [⟨s, a, t⟩]) t := by
  have hissuer : ∀ {pc l}, pc ∈ actor ⟨s, a, t⟩ → pc.call.issues m.cfg = some l →
      pc ∈ s.threads ∧ pc.held = some l.acq :=
    fun hpc hl => ⟨mem_threads_of_actor hpc, held_of_issues hl⟩
  -- the leases of this step are of acquisitions somebody holds already
  have hsettled : ∀ l ∈ leasesOf m (es ++ [⟨s, a, t⟩]),
      s.Settled l.acq.tunnel.containerID l.acq.pool := by
    intro l hl
    obtain hl | ⟨pc, hpc, hl⟩ := mem_leasesOf_append_iff.mp hl
    · exact h.settled l hl
    · obtain ⟨hmem, hheld⟩ := hissuer hpc hl
      exact h.wellFormed.held pc hmem l.acq hheld
  have hregistry : t.shared.leases.ttl = m.cfg.proxyLeaseTTLOrDefault ∧
      ∀ leaseID record, t.shared.leases.leases.lookup leaseID = some record →
        ∃ l ∈ leasesOf m (es ++ [⟨s, a, t⟩]), l.leaseID = leaseID ∧ l.record = record := by
    have hkeep : ∀ leaseID record, s.shared.leases.leases.lookup leaseID = some record →
        ∃ l ∈ leasesOf m (es ++ [⟨s, a, t⟩]), l.leaseID = leaseID ∧ l.record = record := by
      intro leaseID record hrecord
      obtain ⟨l, hl, hid⟩ := h.registry leaseID record hrecord
      exact ⟨l, mem_leasesOf_append _ hl, hid⟩
    cases step_cases hstep with
    | tick d => exact ⟨h.ttl, hkeep⟩
    | start entry hvisits => exact ⟨h.ttl, hkeep⟩
    | turn i answer pc shared ret hpc hexec =>
        obtain ⟨httl, hleases⟩ := leases_exec hexec h.ttl
        refine ⟨httl, fun leaseID record hrecord => ?_⟩
        obtain hbefore | ⟨l, hl, hid⟩ := hleases leaseID record hrecord
        · exact hkeep leaseID record hbefore
        · exact ⟨l, mem_leasesOf_append_iff.mpr (.inr ⟨pc, hpc, hl⟩), hid⟩
  refine ⟨wellFormed_step h.wellFormed hstep, hregistry.1, hregistry.2,
    fun l hl => (hsettled l hl).step hstep, ?_⟩
  obtain ⟨book, hbook⟩ := h.cells
  have hbook' : CellBook book (leasesOf m (es ++ [⟨s, a, t⟩])) s := by
    refine ⟨hbook.slot, hbook.held, fun l hl => ?_⟩
    obtain hl | ⟨pc, hpc, hl⟩ := mem_leasesOf_append_iff.mp hl
    · exact hbook.issued l hl
    · obtain ⟨hmem, hheld⟩ := hissuer hpc hl
      exact hbook.held pc hmem l.acq hheld
  exact cellBook_step h.wellFormed hsettled hbook' hstep

theorem issuance_init : Issuance m [] (init m) where
  wellFormed := wellFormed_init
  ttl := rfl
  registry leaseID record hrecord := by
    simp [init, Shared.initial, newLeaseRegistry] at hrecord
  settled l hl := by simp [leasesOf] at hl
  cells := by
    refine ⟨fun _ => ⟨"", none, ""⟩, fun pool t ht => ?_, fun pc hpc => ?_, fun l hl => ?_⟩
    · rw [slot_init] at ht
      cases ht
    · simp [init] at hpc
    · simp [leasesOf] at hl

theorem issuance_of_path (hpath : Path (step m) (init m) es s) : Issuance m es s :=
  hpath.history (Issuance m) issuance_init fun _ _ _ _ h hstep _ => issuance_step h hstep

def ReadsClock (es : List (Edge State Action)) (i : Nat) (u p : String) (now : Int) : Prop :=
  ∃ e ∈ es, e.action.thread = some i ∧ e.source.shared.now = now ∧
    ∃ use, e.source.threads[i]? = some (.gateway u p (.lookupClock use))

/-- What the users of a lease know of it, from the clock reading to the connection. -/
def Pc.Justified (m : Setup) (es : List (Edge State Action)) (i : Nat) : Pc → Prop
  | .gateway u p (.lookup _ now) => ReadsClock es i u p now
  | .gateway u p (.reserve now record) =>
      ReadsClock es i u p now ∧ ∃ l ∈ leasesOf m es, l.leaseID = u ∧ l.secret = p ∧
        l.record = record ∧ now < l.expiresAt
  | .gateway u p (.dial acq) =>
      ∃ l ∈ leasesOf m es, l.leaseID = u ∧ l.secret = p ∧ acq.pool = l.acq.pool ∧
        acq.tunnel.containerID = l.acq.tunnel.containerID
  | _ => True

/-- Besides, every user of a lease is justified. -/
structure LeaseHistory (m : Setup) (es : List (Edge State Action)) (s : State) : Prop
    extends Issuance m es s where
  justified : ∀ i (pc : Pc), s.threads[i]? = some pc → pc.Justified m es i

theorem ReadsClock.append (e : Edge State Action) {now : Int} (h : ReadsClock es i u p now) :
    ReadsClock (es ++ [e]) i u p now := by
  obtain ⟨f, hf, hrest⟩ := h
  exact ⟨f, List.mem_append_left _ hf, hrest⟩

theorem Pc.Justified.append (e : Edge State Action) (h : pc.Justified m es i) :
    pc.Justified m (es ++ [e]) i := by
  unfold Pc.Justified at h ⊢
  split at h
  · exact h.append e
  · obtain ⟨hclock, l, hl, hrest⟩ := h
    exact ⟨hclock.append e, l, mem_leasesOf_append e hl, hrest⟩
  · obtain ⟨l, hl, hrest⟩ := h
    exact ⟨l, mem_leasesOf_append e hl, hrest⟩
  · trivial

theorem justified_of_isGateway (h : pc.isGateway = false) : pc.Justified m es i := by
  cases pc with
  | gateway u p stage => cases h
  | _ => trivial

theorem justified_start (i : Nat) (entry : Entry) : entry.start.Justified m es i := by
  cases entry with
  | reapOrphans names | close names => cases names <;> trivial
  | _ => trivial

/-- The goroutine that moves stays justified, if it presents no secret that collides with another
one issued before. -/
theorem justified_resume {e : Edge State Action} {answer : Answer} {ret : pc.call.Ret}
    {shared : Shared} (h : LeaseHistory m es s) (hsource : e.source = s)
    (haction : e.action = .step i answer) (hpc : s.threads[i]? = some pc)
    (hexec : exec m s.shared pc.call answer = some (shared, ret))
    (hcollision : ∀ secret ∈ pc.call.presents, ∀ l ∈ leasesOf m es,
      secretDigest l.secret = secretDigest secret → l.secret = secret) :
    (resume m pc ret).Justified m (es ++ [e]) i := by
  cases hgateway : (resume m pc ret).isGateway with
  | false => exact justified_of_isGateway hgateway
  | true =>
      obtain ⟨u, p, stage, rfl, hnext⟩ := gatewayNext_of_isGateway hexec hgateway
      have hbefore := h.justified i _ hpc
      generalize resume m _ ret = pc' at hnext
      cases hnext with
      | clock use =>
          refine ⟨e, by simp, by rw [haction]; rfl, by rw [hsource], use, ?_⟩
          rw [hsource]
          exact hpc
      | found now record hfound =>
          have hclock : ReadsClock es i u p now := hbefore
          obtain ⟨hlookup, hlive, hdigest⟩ := LeaseRegistry.lookup_eq_some_iff.mp hfound
          obtain ⟨l, hl, hid, hrecord⟩ := h.registry u record hlookup
          subst hrecord
          have hsecret := hcollision p rfl l hl hdigest
          exact ⟨hclock.append e, l, mem_leasesOf_append e hl, hid, hsecret, rfl, hlive⟩
      | reserved now record t hid =>
          obtain ⟨-, l, hl, hleaseID, hsecret, rfl, -⟩ := hbefore
          exact ⟨l, mem_leasesOf_append e hl, hleaseID, hsecret, rfl, hid⟩
      | connected acq => trivial
      | hangUp acq => trivial

theorem leaseHistory_step (h : LeaseHistory m es s) (hstep : step m s a = some t)
    (hcollision : ∀ pc ∈ actor ⟨s, a, t⟩, ∀ secret ∈ pc.call.presents, ∀ l ∈ leasesOf m es,
      secretDigest l.secret = secretDigest secret → l.secret = secret) :
    LeaseHistory m (es ++ [⟨s, a, t⟩]) t := by
  refine ⟨issuance_step h.toIssuance hstep, ?_⟩
  refine forall_threads_of_step hstep h.justified (fun i pc hpc => hpc.append _)
    (fun i entry _ _ => justified_start i entry) fun i answer pc ret haction hpc hexec => ?_
  refine justified_resume h rfl haction hpc hexec (hcollision pc ?_)
  subst haction
  exact hpc

theorem leaseHistory_init : LeaseHistory m [] (init m) :=
  ⟨issuance_init, fun i pc hpc => by simp [init] at hpc⟩

theorem leasesOf_subset {es fs : List (Edge State Action)} (h : es ⊆ fs) (hl : l ∈ leasesOf m es) :
    l ∈ leasesOf m fs := by
  obtain ⟨e, he, hissue⟩ := List.mem_filterMap.mp hl
  exact List.mem_filterMap.mpr ⟨e, h he, hissue⟩

theorem leaseHistory_of_path (hpath : Path (step m) (init m) es s)
    (hcollision : ∀ l ∈ leasesOf m es, ∀ e ∈ es, ∀ pc ∈ actor e, ∀ secret ∈ pc.call.presents,
      secretDigest l.secret = secretDigest secret → l.secret = secret) : LeaseHistory m es s := by
  refine (hpath.history (fun fs s => fs ⊆ es ∧ LeaseHistory m fs s) ⟨by simp, leaseHistory_init⟩
    fun fs u a v hist hstep hmem => ⟨?_, ?_⟩).2
  · rw [List.append_subset]
    exact ⟨hist.1, by simpa using hmem⟩
  · exact leaseHistory_step hist.2 hstep fun pc hpc secret hsecret l hl =>
      hcollision l (leasesOf_subset hist.1 hl) _ hmem pc hpc secret hsecret

/-- A connection of goroutine `i` reserves an acquisition, having read the clock at `now`. -/
def Reserves (e : Edge State Action) (i : Nat) (u p : String) (now : Int) (acq : Acquisition) :
    Prop :=
  e.action.thread = some i ∧
    (∃ pc ∈ e.source.threads[i]?, ∃ record, pc.reserves = some (u, p, now, record)) ∧
    ∃ pc ∈ e.target.threads[i]?, pc.dials = some (u, p, acq)

/-- The one lease issued with these credentials, and it was issued for the cell of the
acquisition. -/
structure LeasedTo (m : Setup) (front : List (Edge State Action)) (u p : String)
    (acq : Acquisition) (l : Issued) : Prop where
  issued : l ∈ leasesOf m front
  leaseID : l.leaseID = u
  secret : l.secret = p
  unique : ∀ l' ∈ leasesOf m front, l'.leaseID = u → l' = l
  pool : acq.pool = l.acq.pool
  containerID : acq.tunnel.containerID = l.acq.tunnel.containerID
  gatewayAddr : acq.tunnel.gatewayAddr = l.acq.tunnel.gatewayAddr

/-- What a connection reserves is the hot tunnel in the slot, and the cell that its lease was issued
for; the lease had not expired when `Lookup` read the clock. -/
def ReservesLeased (m : Setup) (front : List (Edge State Action)) (e : Edge State Action) : Prop :=
  ∀ i u p now acq, Reserves e i u p now acq →
    ReadsClock front i u p now ∧
    (∃ t, e.source.shared.slot acq.pool = some t ∧ t.state = .hot ∧
      acq.tunnel = t.use e.source.shared.now) ∧
    ∃ l, LeasedTo m front u p acq l ∧ now < l.expiresAt

/-- A connection is opened to the gateway address of the cell its lease was issued for. -/
def DialsLeased (m : Setup) (front : List (Edge State Action)) (e : Edge State Action) : Prop :=
  ∀ pc ∈ actor e, ∀ u p acq, pc.dials = some (u, p, acq) →
    ∃ l, LeasedTo m front u p acq l ∧ pc.call = .dial l.acq.tunnel.gatewayAddr

theorem Pc.reserves_eq_some_iff {now : Int} {record : ProxyLeaseRecord} :
    pc.reserves = some (u, p, now, record) ↔ pc = .gateway u p (.reserve now record) := by
  constructor
  · intro h
    unfold Pc.reserves at h
    split at h <;> cases h
    rfl
  · rintro rfl
    rfl

theorem Pc.dials_eq_some_iff {acq : Acquisition} :
    pc.dials = some (u, p, acq) ↔ pc = .gateway u p (.dial acq) := by
  constructor
  · intro h
    unfold Pc.dials at h
    split at h <;> cases h
    rfl
  · rintro rfl
    rfl

theorem leasedTo_of_mem {es front : List (Edge State Action)} {acq : Acquisition}
    (h : LeaseHistory m front s) (hsub : front ⊆ es)
    (hdistinct : ((leasesOf m es).map Issued.leaseID).Nodup) (hl : l ∈ leasesOf m front)
    (hpool : acq.pool = l.acq.pool) (hid : acq.tunnel.containerID = l.acq.tunnel.containerID)
    (hcell : ∀ book, CellBook book (leasesOf m front) s →
      book acq.tunnel.containerID = acq.tunnel.cell) :
    LeasedTo m front l.leaseID l.secret acq l := by
  refine ⟨hl, rfl, rfl, fun l' hl' hsame => ?_, hpool, hid, ?_⟩
  · exact List.inj_on_of_nodup_map hdistinct (leasesOf_subset hsub hl') (leasesOf_subset hsub hl)
      hsame
  · obtain ⟨book, hbook⟩ := h.cells
    have hsame : acq.tunnel.cell = l.acq.tunnel.cell := by
      rw [← hcell book hbook, hid, hbook.issued l hl]
    exact congrArg Cell.gatewayAddr hsame

/-- In every run whose lease identifiers are distinct and whose secrets have no digest in common, a
connection reserves and dials the cell its lease was issued for, which is hot when it is reserved;
the lease had not expired when the connection's `Lookup` read the clock. -/
theorem lease_reaches_issued_cell (m : Setup) (actions : List Action)
    (hdistinct : ((leasesOf m (run m actions)).map Issued.leaseID).Nodup)
    (hcollision : ∀ l ∈ leasesOf m (run m actions), ∀ e ∈ run m actions, ∀ pc ∈ actor e,
      ∀ secret ∈ pc.call.presents, secretDigest l.secret = secretDigest secret → l.secret = secret) :
    ∀ front e back, run m actions = front ++ e :: back →
      ReservesLeased m front e ∧ DialsLeased m front e := by
  intro front e back hrun
  obtain ⟨s, hpath⟩ := exists_path_run m actions
  rw [hrun] at hpath hdistinct hcollision
  obtain ⟨hfront, hstep, -⟩ := hpath.split
  have hsub : front ⊆ front ++ e :: back := List.subset_append_left _ _
  have hist : LeaseHistory m front e.source := leaseHistory_of_path hfront fun l hl f hf =>
    hcollision l (leasesOf_subset hsub hl) f (hsub hf)
  constructor
  · rintro i u p now acq ⟨hi, ⟨pc, hpc, record, hreserves⟩, pc', hpc', hdials⟩
    obtain rfl := Pc.reserves_eq_some_iff.mp hreserves
    obtain rfl := Pc.dials_eq_some_iff.mp hdials
    obtain ⟨hclock, l, hl, rfl, rfl, rfl, hlive⟩ := hist.justified i _ hpc
    obtain ⟨answer, ret, hexec, -, hresume⟩ := turn_of_step hstep hi hpc
    rw [Option.mem_def.mp hpc'] at hresume
    obtain ⟨t, hslot, hhot, hid, rfl⟩ | ⟨err, rfl, -⟩ := exec_acquireContainer hexec
    · cases hresume
      exact ⟨hclock, ⟨t, hslot, hhot, rfl⟩, l, leasedTo_of_mem hist hsub hdistinct hl rfl hid
        fun book hbook => hbook.slot _ t hslot, hlive⟩
    · cases hresume
  · intro pc hpc u p acq hdials
    obtain rfl := Pc.dials_eq_some_iff.mp hdials
    have hmem := mem_threads_of_actor hpc
    obtain ⟨i, hi⟩ := List.mem_iff_getElem?.mp hmem
    obtain ⟨l, hl, rfl, rfl, hpool, hid⟩ := hist.justified i _ hi
    have hleased := leasedTo_of_mem hist hsub hdistinct hl hpool hid
      fun book hbook => hbook.held _ hmem acq rfl
    exact ⟨l, hleased, congrArg Call.dial hleased.gatewayAddr⟩

open Schedule in
/-- A request leases a cell, another one rotates it out, and two connections of the first lease come
before and after. -/
theorem lease_reaches_issued_cell_rotated :
    let actions := .start (.proxy "de" none false) :: ready 0 0 "x" ++ go 0 2 ++ lease 0 1 2 ++
      .start (.lease (leasePart 1) (leasePart 2) .connect) :: go 1 5 ++
      .start (.proxy "de" (some (proxyURL "x")) false) :: go 2 6 ++ spawn 2 0 "y" ++ go 2 2 ++
      lease 2 3 4 ++ .start (.lease (leasePart 1) (leasePart 2) .connect) :: go 3 3
    ∀ front e back, run setup actions = front ++ e :: back →
      ReservesLeased setup front e ∧ DialsLeased setup front e := by
  intro actions
  exact lease_reaches_issued_cell setup actions (by decide +kernel) (by decide +kernel)

def ReservesUnexpired (m : Setup) (front : List (Edge State Action)) (e : Edge State Action) :
    Prop :=
  ∀ i u p now acq, Reserves e i u p now acq →
    ∃ l ∈ leasesOf m front, l.leaseID = u ∧ l.secret = p ∧ e.source.shared.now < l.expiresAt

open Schedule in
/-- The lease expires between the `Lookup` of a connection and the reservation, which goes
through. -/
theorem not_reservesUnexpired :
    let actions := .start (.proxy "de" none false) :: ready 0 0 "x" ++ go 0 2 ++ lease 0 1 2 ++
      .start (.lease (leasePart 1) (leasePart 2) .connect) :: go 1 2 ++
      .tick 900000000000 :: go 1 1
    ¬∀ front e back, run setup actions = front ++ e :: back → ReservesUnexpired setup front e := by
  intro actions hunexpired
  have hlate : ∃ e ∈ (run setup actions).getLast?, e.action.thread = some 1 ∧
      (∀ l ∈ leasesOf setup (run setup actions), ¬e.source.shared.now < l.expiresAt) ∧
      ∃ pc ∈ e.source.threads[1]?, ∃ k ∈ pc.reserves, ∃ pc' ∈ e.target.threads[1]?,
        ∃ d ∈ pc'.dials, d.1 = k.1 ∧ d.2.1 = k.2.1 := by
    decide +kernel
  obtain ⟨e, he, hi, hexpired, pc, hpc, ⟨u, p, now, record⟩, hk, pc', hpc', ⟨u', p', acq⟩, hd, rfl,
    rfl⟩ := hlate
  obtain ⟨front, hrun⟩ := List.getLast?_eq_some_iff.mp he
  obtain ⟨l, hl, -, -, hlive⟩ := hunexpired front e [] hrun 1 _ _ now acq
    ⟨hi, ⟨pc, hpc, record, hk⟩, pc', hpc', hd⟩
  exact hexpired l (leasesOf_subset (by simp [hrun]) hl) hlive

end Pr0xteus
