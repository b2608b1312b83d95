import Mathlib.Data.List.Induction
import Pr0xteus.Ownership

/-!
# A lease registry under a clock

Sequences of `Issue` and `Lookup` calls on one registry. What a registry holds is described by the
leases issued so far: everything it holds was issued, and everything issued and not expired by the
time of the last call is held. The two directions meet in `Lookup`.
-/

namespace Pr0xteus

open Encoding GoTime

variable {cfg : Config}

namespace LeaseRegistry

variable {r : LeaseRegistry} {now : Int} {leaseID secret : String} {record : ProxyLeaseRecord}

theorem lookup_pruneExpiredLocked :
    (r.pruneExpiredLocked now).leases.lookup leaseID = some record ↔
      r.leases.lookup leaseID = some record ∧ now < record.expiresAt := by
  rw [pruneExpiredLocked, FinMap.lookup_keep, Option.filter_eq_some_iff, decide_eq_true_eq]

theorem lookup_insertLocked {newID : String} {new : ProxyLeaseRecord} :
    (r.insertLocked now newID new).leases.lookup leaseID = some record ↔
      if leaseID = newID then new = record
      else r.leases.lookup leaseID = some record ∧ now < record.expiresAt := by
  unfold insertLocked
  split
  · next h =>
      subst h
      rw [AList.lookup_insert, Option.some.injEq]
  · next h => rw [AList.lookup_insert_ne h, lookup_pruneExpiredLocked]

theorem lookup_eq_some_iff :
    (r.lookup now leaseID secret).1 = some record ↔
      r.leases.lookup leaseID = some record ∧ now < record.expiresAt ∧
        record.secretDigest = secretDigest secret := by
  rw [lookup, lookupLocked, Option.filter_eq_some_iff, lookup_pruneExpiredLocked,
    decide_eq_true_eq, and_assoc]

end LeaseRegistry

/-- One call on the registry, with the time it reads and the bytes it draws. -/
inductive LeaseOp where
  | issue (now : Int) (draw : LeaseRegistry.Draw) (tunnel : Option Tunnel) (pool : String)
  | lookup (now : Int) (leaseID secret : String)

def LeaseOp.now : LeaseOp → Int
  | .issue now _ _ _ | .lookup now _ _ => now

def LeaseOp.presented : LeaseOp → Option String
  | .issue _ _ _ _ => none
  | .lookup _ _ secret => some secret

def LeaseRegistry.apply (r : LeaseRegistry) : LeaseOp → LeaseRegistry
  | .issue now draw tunnel pool => (r.issue now draw tunnel pool).2
  | .lookup now leaseID secret => (r.lookup now leaseID secret).2

def replay (cfg : Config) (ops : List LeaseOp) : LeaseRegistry :=
  ops.foldl LeaseRegistry.apply (newLeaseRegistry cfg)

/-- A lease, with the credentials its `Issue` returned and what it was issued for. -/
structure Issued where
  leaseID : String
  secret : String
  acq : Acquisition
  url : URL
  expiresAt : Int

def Issued.record (i : Issued) : ProxyLeaseRecord := leaseRecord i.acq i.url i.secret i.expiresAt

def LeaseOp.issued (cfg : Config) : LeaseOp → Option Issued
  | .issue now draw tunnel pool =>
      match leasable tunnel pool, draw.leaseID, draw.secret with
      | .ok (t, url), some leaseID, some secret =>
          some ⟨newLeasePart leaseID, newLeasePart secret, ⟨t, pool⟩, url,
            add now cfg.proxyLeaseTTLOrDefault⟩
      | _, _, _ => none
  | .lookup _ _ _ => none

def issued (cfg : Config) (ops : List LeaseOp) : List Issued := ops.filterMap (LeaseOp.issued cfg)

section Apply

variable {cfg : Config} {r : LeaseRegistry} {op : LeaseOp}

theorem issue_of_issued {now : Int} {draw : LeaseRegistry.Draw} {tunnel : Option Tunnel}
    {pool : String} {i : Issued} (httl : r.ttl = cfg.proxyLeaseTTLOrDefault)
    (hi : LeaseOp.issued cfg (.issue now draw tunnel pool) = some i) :
    r.issue now draw tunnel pool =
      (.ok ⟨r.leaseURLs i.leaseID i.secret, i.expiresAt⟩,
        r.insertLocked now i.leaseID i.record) ∧ i.expiresAt = add now r.ttl := by
  simp only [LeaseOp.issued] at hi
  split at hi
  · next t url leaseID secret hleasable hid hsecret =>
      cases hi
      simp [LeaseRegistry.issue, hleasable, hid, hsecret, LeaseRegistry.issueLocked, httl,
        Issued.record]
  · cases hi

theorem issue_of_not_issued {now : Int} {draw : LeaseRegistry.Draw} {tunnel : Option Tunnel}
    {pool : String} (hi : LeaseOp.issued cfg (.issue now draw tunnel pool) = none) :
    ∃ err, r.issue now draw tunnel pool = (.error err, r) := by
  simp only [LeaseOp.issued] at hi
  unfold LeaseRegistry.issue
  cases hleasable : leasable tunnel pool with
  | error err => exact ⟨_, rfl⟩
  | ok result =>
      cases hid : draw.leaseID with
      | none => exact ⟨_, rfl⟩
      | some leaseID =>
          cases hsecret : draw.secret with
          | none => exact ⟨_, rfl⟩
          | some secret => simp [hleasable, hid, hsecret] at hi

end Apply

/-- A registry holds only what was issued, and all of it that no call came too late for. -/
structure Describes (cfg : Config) (ops : List LeaseOp) (r : LeaseRegistry) : Prop where
  ttl : r.ttl = cfg.proxyLeaseTTLOrDefault
  sound : ∀ leaseID record, r.leases.lookup leaseID = some record →
    ∃ i ∈ issued cfg ops, i.leaseID = leaseID ∧ i.record = record
  complete : ∀ i ∈ issued cfg ops, (∀ op ∈ ops, op.now < i.expiresAt) →
    r.leases.lookup i.leaseID = some i.record

theorem issued_append_singleton (cfg : Config) (ops : List LeaseOp) (op : LeaseOp) :
    issued cfg (ops ++ [op]) = issued cfg ops ++ (op.issued cfg).toList := by
  cases h : op.issued cfg <;> simp [issued, h]

theorem describes_apply {ops : List LeaseOp} {r : LeaseRegistry} {op : LeaseOp}
    (h : Describes cfg ops r) (hdistinct : ((issued cfg (ops ++ [op])).map Issued.leaseID).Nodup) :
    Describes cfg (ops ++ [op]) (r.apply op) := by
  rw [issued_append_singleton] at hdistinct
  cases op with
  | lookup now leaseID secret =>
      refine ⟨h.ttl, fun id record hrecord => ?_, fun i hi hlate => ?_⟩
      · rw [issued_append_singleton]
        obtain ⟨i, hi, hid⟩ := h.sound id record (LeaseRegistry.lookup_pruneExpiredLocked.mp hrecord).1
        exact ⟨i, List.mem_append_left _ hi, hid⟩
      · rw [issued_append_singleton] at hi
        have hi : i ∈ issued cfg ops := by simpa [LeaseOp.issued] using hi
        refine LeaseRegistry.lookup_pruneExpiredLocked.mpr ⟨h.complete i hi fun op hop => ?_, ?_⟩
        · exact hlate op (List.mem_append_left _ hop)
        · exact hlate (.lookup now leaseID secret) (by simp)
  | issue now draw tunnel pool =>
      cases hop : LeaseOp.issued cfg (.issue now draw tunnel pool) with
      | none =>
          obtain ⟨err, herr⟩ := issue_of_not_issued (r := r) hop
          have hsame : r.apply (.issue now draw tunnel pool) = r := congrArg Prod.snd herr
          have hissued : issued cfg (ops ++ [.issue now draw tunnel pool]) = issued cfg ops := by
            rw [issued_append_singleton, hop, Option.toList_none, List.append_nil]
          rw [hsame]
          refine ⟨h.ttl, fun id record hrecord => hissued ▸ h.sound id record hrecord,
            fun i hi hlate => ?_⟩
          exact h.complete i (hissued ▸ hi) fun op hop => hlate op (List.mem_append_left _ hop)
      | some new =>
          have happly : r.apply (.issue now draw tunnel pool) =
              r.insertLocked now new.leaseID new.record :=
            congrArg Prod.snd (issue_of_issued h.ttl hop).1
          rw [happly]
          rw [hop, Option.toList_some, List.map_append, List.nodup_append] at hdistinct
          refine ⟨h.ttl, fun id record hrecord => ?_, fun i hi hlate => ?_⟩
          · rw [issued_append_singleton, hop]
            have hrecord := LeaseRegistry.lookup_insertLocked.mp hrecord
            split at hrecord
            · next hid => exact ⟨new, by simp, hid.symm, hrecord⟩
            · obtain ⟨i, hi, hid⟩ := h.sound id record hrecord.1
              exact ⟨i, List.mem_append_left _ hi, hid⟩
          · rw [issued_append_singleton, hop] at hi
            rw [LeaseRegistry.lookup_insertLocked]
            rcases List.mem_append.mp hi with hi | hi
            · have hne : i.leaseID ≠ new.leaseID :=
                hdistinct.2.2 _ (List.mem_map_of_mem hi) _ (by simp)
              rw [if_neg hne]
              refine ⟨h.complete i hi fun op hop => hlate op (List.mem_append_left _ hop), ?_⟩
              exact hlate (.issue now draw tunnel pool) (by simp)
            · obtain rfl : i = new := by simpa using hi
              rw [if_pos rfl]

theorem describes_replay (cfg : Config) (ops : List LeaseOp)
    (hdistinct : ((issued cfg ops).map Issued.leaseID).Nodup) :
    Describes cfg ops (replay cfg ops) := by
  induction ops using List.reverseRecOn with
  | nil => exact ⟨rfl, fun _ _ h => by simp [replay, newLeaseRegistry] at h, by simp [issued]⟩
  | append_singleton ops op ih =>
      have hfront : ((issued cfg ops).map Issued.leaseID).Nodup := by
        rw [issued_append_singleton, List.map_append] at hdistinct
        exact hdistinct.of_append_left
      have happly := describes_apply (ih hfront) hdistinct
      simpa [replay, List.foldl_append] using happly

def LeaseOp.fails (r : LeaseRegistry) : LeaseOp → Bool
  | .issue now draw tunnel pool => (r.issue now draw tunnel pool).1.toOption.isNone
  | .lookup _ _ _ => false

/-- A `Lookup` finds exactly the leases issued before with these credentials and not expired. -/
def LookupExact (cfg : Config) (front : List LeaseOp) : LeaseOp → Prop
  | .issue _ _ _ _ => True
  | .lookup now leaseID secret => ∀ record,
      ((replay cfg front).lookup now leaseID secret).1 = some record ↔
        ∃ i ∈ issued cfg front, i.leaseID = leaseID ∧ i.secret = secret ∧ now < i.expiresAt ∧
          i.record = record

/-- An `Issue` returns the credentials and the expiry of the lease it issues. -/
def IssueReturns (cfg : Config) (front : List LeaseOp) : LeaseOp → Prop
  | .issue now draw tunnel pool => ∀ lease,
      ((replay cfg front).issue now draw tunnel pool).1 = .ok lease ↔
        ∃ i, LeaseOp.issued cfg (.issue now draw tunnel pool) = some i ∧
          lease = ⟨(replay cfg front).leaseURLs i.leaseID i.secret, i.expiresAt⟩
  | .lookup _ _ _ => True

/-- After the call no lease is held that has expired by the time of the call. -/
def NoneExpired (cfg : Config) (front : List LeaseOp) (op : LeaseOp) : Prop :=
  ∀ leaseID record, (replay cfg (front ++ [op])).leases.lookup leaseID = some record →
    op.now < record.expiresAt

theorem replay_append_singleton (cfg : Config) (ops : List LeaseOp) (op : LeaseOp) :
    replay cfg (ops ++ [op]) = (replay cfg ops).apply op := by
  simp [replay, List.foldl_append]

theorem issueReturns {front : List LeaseOp} (h : Describes cfg front (replay cfg front))
    (op : LeaseOp) : IssueReturns cfg front op := by
  cases op with
  | lookup now leaseID secret => trivial
  | issue now draw tunnel pool =>
      intro lease
      cases hop : LeaseOp.issued cfg (.issue now draw tunnel pool) with
      | none =>
          obtain ⟨err, herr⟩ := issue_of_not_issued (r := replay cfg front) hop
          simp [herr]
      | some i => simp [(issue_of_issued h.ttl hop).1, eq_comm]

theorem noneExpired_of_not_fails {front : List LeaseOp} {op : LeaseOp}
    (h : Describes cfg front (replay cfg front)) (hfails : op.fails (replay cfg front) = false) :
    NoneExpired cfg front op := by
  intro id record hrecord
  rw [replay_append_singleton] at hrecord
  cases op with
  | lookup now leaseID secret => exact (LeaseRegistry.lookup_pruneExpiredLocked.mp hrecord).2
  | issue now draw tunnel pool =>
      cases hop : LeaseOp.issued cfg (.issue now draw tunnel pool) with
      | none =>
          obtain ⟨err, herr⟩ := issue_of_not_issued (r := replay cfg front) hop
          simp [LeaseOp.fails, herr, Except.toOption] at hfails
      | some i =>
          obtain ⟨hissue, hexpires⟩ := issue_of_issued h.ttl hop
          rw [LeaseRegistry.apply, hissue] at hrecord
          have hrecord := LeaseRegistry.lookup_insertLocked.mp hrecord
          split at hrecord
          · -- the lease issued now lives for a positive time
            have hpos := Int64.lt_iff_toInt_lt.mp cfg.proxyLeaseTTLOrDefault_pos
            rw [← hrecord]
            simp only [Issued.record, leaseRecord, hexpires, add, h.ttl, LeaseOp.now]
            exact Int.lt_add_of_pos_right now hpos
          · exact hrecord.2

theorem apply_of_fails {r : LeaseRegistry} {op : LeaseOp}
    (httl : r.ttl = cfg.proxyLeaseTTLOrDefault) (hfails : op.fails r = true) : r.apply op = r := by
  cases op with
  | lookup now leaseID secret => cases hfails
  | issue now draw tunnel pool =>
      cases hop : LeaseOp.issued cfg (.issue now draw tunnel pool) with
      | none =>
          obtain ⟨err, herr⟩ := issue_of_not_issued (r := r) hop
          exact congrArg Prod.snd herr
      | some i => simp [LeaseOp.fails, (issue_of_issued httl hop).1, Except.toOption] at hfails

/-- Under a clock that never goes back, with distinct identifiers and no collision of the digests of
the secrets in play, every `Lookup` finds exactly what was issued with its credentials and has not
expired, no call that succeeds leaves an expired lease, and an `Issue` that fails changes nothing. -/
theorem lookup_iff_issued (cfg : Config) (ops : List LeaseOp)
    (hclock : ops.Pairwise fun a b => a.now ≤ b.now)
    (hdistinct : ((issued cfg ops).map Issued.leaseID).Nodup)
    (hcollision : ∀ i ∈ issued cfg ops, ∀ op ∈ ops, ∀ secret ∈ op.presented,
      secretDigest i.secret = secretDigest secret → i.secret = secret) :
    ∀ front op back, ops = front ++ op :: back →
      LookupExact cfg front op ∧ IssueReturns cfg front op ∧
        (op.fails (replay cfg front) = false → NoneExpired cfg front op) ∧
        (op.fails (replay cfg front) = true → replay cfg (front ++ [op]) = replay cfg front) := by
  intro front op back hops
  subst hops
  have hsub : ∀ i ∈ issued cfg front, i ∈ issued cfg (front ++ op :: back) := fun i hi => by
    simp only [issued, List.filterMap_append]
    exact List.mem_append_left _ hi
  have hfront : ((issued cfg front).map Issued.leaseID).Nodup := by
    simp only [issued, List.filterMap_append, List.map_append] at hdistinct
    exact hdistinct.of_append_left
  have hdescribes := describes_replay cfg front hfront
  refine ⟨?_, issueReturns hdescribes op, noneExpired_of_not_fails hdescribes, fun hfails => ?_⟩
  · cases op with
    | issue now draw tunnel pool => trivial
    | lookup now leaseID secret =>
        intro record
        rw [LeaseRegistry.lookup_eq_some_iff]
        constructor
        · rintro ⟨hheld, hlive, hdigest⟩
          obtain ⟨i, hi, hid, rfl⟩ := hdescribes.sound leaseID record hheld
          have hsecret := hcollision i (hsub i hi) (.lookup now leaseID secret) (by simp) secret rfl
            hdigest
          exact ⟨i, hi, hid, hsecret, hlive, rfl⟩
        · rintro ⟨i, hi, rfl, rfl, hlive, rfl⟩
          refine ⟨hdescribes.complete i hi fun op hop => ?_, hlive, rfl⟩
          have hbefore := (List.pairwise_append.mp hclock).2.2 op hop _ (List.mem_cons_self ..)
          exact Int.lt_of_le_of_lt hbefore hlive
  · rw [replay_append_singleton, apply_of_fails hdescribes.ttl hfails]

/-- A lease for a fresh cell, issued at `now` with credentials of one repeated byte each. -/
def LeaseOp.demo (now : Int) (leaseID secret : UInt8) : LeaseOp :=
  .issue now ⟨some (.replicate _ leaseID), some (.replicate _ secret)⟩
    (some (readyTunnel ⟨"de", "a.conf"⟩ "x" "x:1080" "x:9050" now)) "de"

/-- A lease looked up while it lives and at the instant it expires. -/
theorem lookup_iff_issued_twice :
    let cfg := Schedule.setup.cfg
    let ops : List LeaseOp := [.demo 0 1 2, .lookup 1 (Schedule.leasePart 1) (Schedule.leasePart 2),
      .lookup 900000000000 (Schedule.leasePart 1) (Schedule.leasePart 2)]
    ∀ front op back, ops = front ++ op :: back →
      LookupExact cfg front op ∧ IssueReturns cfg front op ∧
        (op.fails (replay cfg front) = false → NoneExpired cfg front op) ∧
        (op.fails (replay cfg front) = true → replay cfg (front ++ [op]) = replay cfg front) := by
  intro cfg ops
  exact lookup_iff_issued cfg ops (by decide +kernel) (by decide +kernel) (by decide +kernel)

/-- An `Issue` that fails at the instant a lease expires leaves that lease in the registry. -/
theorem not_noneExpired :
    ¬∀ front op back, ([.demo 0 1 2, .issue 900000000000 ⟨none, none⟩ none "de"] : List LeaseOp) =
      front ++ op :: back → NoneExpired Schedule.setup.cfg front op := by
  intro hnone
  have hheld : ∃ record ∈ (replay Schedule.setup.cfg
      [.demo 0 1 2, .issue 900000000000 ⟨none, none⟩ none "de"]).leases.lookup
        (Schedule.leasePart 1), ¬900000000000 < record.expiresAt := by
    decide +kernel
  obtain ⟨record, hrecord, hexpired⟩ := hheld
  exact hexpired (hnone [.demo 0 1 2] _ [] rfl (Schedule.leasePart 1) record hrecord)

end Pr0xteus
