import Pr0xteus.Proof.Preflight

/-!
# What the echo services make of the check

The results of the endpoints are a multiset: they arrive in any order, and the map of counts is gone
through in any order. `Tally` says which entries the map has, whatever the order of arrival; the error
that is kept is the one that arrived last.
-/

namespace Pr0xteus.ClientLib

open Encoding

variable {ip : List UInt8} {err : Err}

/-! ## The map of counts and the last error -/

section Collect

variable {results : List (Except Err (List UInt8))} {counts : Counts} {lastErr : Option Err}

theorem increment_eq (ip : List UInt8) (counts : Counts) :
    ip ∉ counts.map Prod.fst ∧ increment ip counts = counts ++ [(ip, 1)] ∨
      ∃ before n after, counts = before ++ (ip, n) :: after ∧
        increment ip counts = before ++ (ip, n + 1) :: after := by
  induction counts with
  | nil => exact .inl ⟨List.not_mem_nil, rfl⟩
  | cons entry counts ih =>
      obtain ⟨key, n⟩ := entry
      rw [increment]
      split
      · next heq =>
          subst heq
          exact .inr ⟨[], n, counts, rfl, rfl⟩
      · next hne =>
          rcases ih with ⟨hnew, heq⟩ | ⟨before, m, after, hcounts, heq⟩
          · refine .inl ⟨?_, by rw [heq, List.cons_append]⟩
            simpa [Ne.symm hne] using hnew
          · exact .inr ⟨(key, n) :: before, m, after, by rw [hcounts, List.cons_append],
              by rw [heq, List.cons_append]⟩

/-- The entries of a map of counts are the texts of these results. -/
structure Tally (results : List (Except Err (List UInt8))) (counts : Counts) : Prop where
  nodup : (counts.map Prod.fst).Nodup
  mem_iff : ∀ ip n, (ip, n) ∈ counts ↔ n = reports ip results ∧ 0 < n

theorem reports_append (ip : List UInt8) (results more : List (Except Err (List UInt8))) :
    reports ip (results ++ more) = reports ip results + reports ip more :=
  List.countP_append

theorem reports_ok (ip text : List UInt8) :
    reports ip [.ok text] = if text = ip then 1 else 0 := by
  simp [reports, List.countP_singleton]

theorem reports_error (ip : List UInt8) (err : Err) : reports ip [.error err] = 0 := by
  simp [reports]

namespace Tally

theorem nil : Tally [] [] := ⟨List.nodup_nil, fun ip n => by simp [reports]⟩

theorem error (h : Tally results counts) (err : Err) : Tally (results ++ [.error err]) counts where
  nodup := h.nodup
  mem_iff ip n := by
    rw [reports_append, reports_error, Nat.add_zero]
    exact h.mem_iff ip n

theorem reports_of_not_mem (h : Tally results counts) (hnew : ip ∉ counts.map Prod.fst) :
    reports ip results = 0 := by
  by_contra hpos
  have hmem := (h.mem_iff ip _).mpr ⟨rfl, Nat.pos_of_ne_zero hpos⟩
  exact hnew (List.mem_map_of_mem hmem)

theorem ok (h : Tally results counts) (text : List UInt8) :
    Tally (results ++ [.ok text]) (increment text counts) := by
  rcases increment_eq text counts with ⟨hnew, heq⟩ | ⟨before, m, after, rfl, heq⟩
  · rw [heq]
    constructor
    · rw [List.map_append, List.nodup_append_comm]
      exact List.nodup_cons.mpr ⟨hnew, h.nodup⟩
    · intro ip n
      rw [List.mem_append, List.mem_singleton, h.mem_iff, reports_append, reports_ok]
      by_cases hip : text = ip
      · subst hip
        rw [h.reports_of_not_mem hnew, if_pos rfl, Prod.mk.injEq, eq_self_iff_true, true_and]
        omega
      · rw [if_neg hip, Prod.mk.injEq]
        have : ip ≠ text := Ne.symm hip
        tauto
  · have hm := (h.mem_iff text m).mp (List.mem_append_right _ List.mem_cons_self)
    have hkeys : (before ++ (text, m + 1) :: after).map Prod.fst =
        (before ++ (text, m) :: after).map Prod.fst := by
      simp
    rw [heq]
    constructor
    · rw [hkeys]
      exact h.nodup
    · intro ip n
      rw [reports_append, reports_ok]
      have hold := h.mem_iff ip n
      have hnodup := h.nodup
      rw [List.map_append, List.map_cons, List.nodup_middle, List.nodup_cons, List.mem_append,
        not_or] at hnodup
      obtain ⟨⟨hbefore, hafter⟩, -⟩ := hnodup
      rw [List.mem_append, List.mem_cons, Prod.mk.injEq] at hold ⊢
      by_cases hip : text = ip
      · subst hip
        have hb : (text, n) ∉ before := fun hmem => hbefore (List.mem_map.mpr ⟨_, hmem, rfl⟩)
        have ha : (text, n) ∉ after := fun hmem => hafter (List.mem_map.mpr ⟨_, hmem, rfl⟩)
        simp only [hb, ha, true_and, or_false, false_or, if_true]
        omega
      · have hne : ip ≠ text := Ne.symm hip
        simp only [hne, false_and, false_or, hip, if_false, Nat.add_zero] at hold ⊢
        exact hold

end Tally

/-- After any of the results, the map has counted those that have arrived. -/
theorem tally_collect {before : List (Except Err (List UInt8))} (h : Tally before counts) :
    Tally (before ++ results) (collect results counts lastErr).1 := by
  induction results generalizing counts lastErr before with
  | nil => simpa [collect] using h
  | cons r results ih =>
      rw [List.append_cons]
      cases r with
      | error err => exact ih (h.error err)
      | ok text => exact ih (h.ok text)

def errorOf : Except Err (List UInt8) → Option Err
  | .ok _ => none
  | .error err => some err

/-- The error that arrived last. -/
def lastError (arrivals : List (Except Err (List UInt8))) : Option Err :=
  (arrivals.filterMap errorOf).getLast?

theorem collect_snd :
    (collect results counts lastErr).2 = (lastError results).or lastErr := by
  induction results generalizing counts lastErr with
  | nil => rfl
  | cons r results ih =>
      cases r with
      | ok text => exact ih
      | error err =>
          have hcons : (Except.error err :: results).filterMap errorOf =
              err :: results.filterMap errorOf := rfl
          rw [collect, ih, lastError, lastError, hcons, List.getLast?_cons]
          cases (results.filterMap errorOf).getLast? <;> rfl

end Collect

/-! ## The order of the results -/

section Order

variable {endpoints endpoints' : List String} {f : Fetch endpoints} {g : Fetch endpoints'}

theorem tally_ranged (f : Fetch endpoints) (ip : List UInt8) (n : Nat) :
    (ip, n) ∈ f.ranged ↔ n = reports ip f.results ∧ 0 < n := by
  have htally : Tally f.arrivals (collect f.arrivals [] none).1 := tally_collect Tally.nil
  rw [f.ranged_perm.mem_iff, htally.mem_iff]
  exact and_congr_left fun _ => by rw [reports, f.arrivals_perm.countP_eq]; rfl

/-- A value is agreed on. -/
def HasQuorum (results : List (Except Err (List UInt8))) (ip : List UInt8) : Prop :=
  quorum ≤ reports ip results

theorem exists_ranged_iff (f : Fetch endpoints) (ip : List UInt8) :
    (∃ n, (ip, n) ∈ f.ranged ∧ quorum ≤ n) ↔ HasQuorum f.results ip := by
  constructor
  · rintro ⟨n, hmem, hn⟩
    obtain ⟨rfl, -⟩ := (tally_ranged f ip n).mp hmem
    exact hn
  · intro h
    exact ⟨_, (tally_ranged f ip _).mpr ⟨rfl, Nat.lt_of_lt_of_le (by decide) h⟩, h⟩

/-- What `fetchAgreedPublicIP` returns: a value that is agreed on, or else what became of the error
that arrived last. -/
inductive Outcome (f : Fetch endpoints) : Except Err (List UInt8) → Prop
  | agreed (ip : List UInt8) (hquorum : HasQuorum f.results ip) : Outcome f (.ok ip)
  | failed (err : Err) (hnone : ∀ ip, ¬ HasQuorum f.results ip)
      (hlast : lastError f.arrivals = some err) :
      Outcome f (.error (.wrap err (utf8 "no quorum + endpoint errors")))
  | disagreed (hnone : ∀ ip, ¬ HasQuorum f.results ip) (hlast : lastError f.arrivals = none) :
      Outcome f (.error (wrap .preflightFailed "no quorum across IP-echo endpoints"))

theorem outcome_fetchAgreedPublicIP (f : Fetch endpoints) : Outcome f (fetchAgreedPublicIP f) := by
  unfold fetchAgreedPublicIP
  cases hfind : f.ranged.find? fun entry => quorum ≤ entry.2 with
  | some entry =>
      obtain ⟨ip, n⟩ := entry
      refine .agreed ip ((exists_ranged_iff f ip).mp ⟨n, List.mem_of_find?_eq_some hfind, ?_⟩)
      simpa using List.find?_some hfind
  | none =>
      have hnone : ∀ ip, ¬ HasQuorum f.results ip := by
        intro ip hquorum
        obtain ⟨n, hmem, hn⟩ := (exists_ranged_iff f ip).mpr hquorum
        simpa [hn] using List.find?_eq_none.mp hfind _ hmem
      have hlast : (collect f.arrivals [] none).2 = lastError f.arrivals := by
        rw [collect_snd, Option.or_none]
      rw [hlast]
      cases hcases : lastError f.arrivals with
      | some err => exact .failed err hnone hcases
      | none => exact .disagreed hnone hcases

/-- The same address, or errors of the same class. -/
def SameOutcome : Except Err (List UInt8) → Except Err (List UInt8) → Prop
  | .ok ip, .ok ip' => ip = ip'
  | .error err, .error err' => err.is .preflightFailed = err'.is .preflightFailed
  | _, _ => False

theorem sameOutcome_of_same {r a b : Except Err (List UInt8)} (ha : SameOutcome r a)
    (hb : SameOutcome r b) : SameOutcome a b := by
  cases r with
  | ok ip =>
      cases a with
      | error err => exact ha.elim
      | ok ip' =>
          cases b with
          | error err => exact hb.elim
          | ok ip'' => exact Eq.trans (Eq.symm ha) hb
  | error err =>
      cases a with
      | ok ip => exact ha.elim
      | error err' =>
          cases b with
          | ok ip => exact hb.elim
          | error err'' => exact Eq.trans (Eq.symm ha) hb

/-- No two values are agreed on. -/
def UniqueQuorum (results : List (Except Err (List UInt8))) : Prop :=
  ∀ ip ip', HasQuorum results ip → HasQuorum results ip' → ip = ip'

/-- The errors are all of one class. -/
def OneClass (results : List (Except Err (List UInt8))) : Prop :=
  ∀ err err', .error err ∈ results → .error err' ∈ results →
    err.is .preflightFailed = err'.is .preflightFailed

theorem hasQuorum_congr {results results' : List (Except Err (List UInt8))}
    (h : results.Perm results') (ip : List UInt8) :
    HasQuorum results ip ↔ HasQuorum results' ip := by
  rw [HasQuorum, HasQuorum, reports, reports, h.countP_eq]

theorem mem_results_of_lastError (hlast : lastError f.arrivals = some err) :
    .error err ∈ f.results := by
  have hmem := List.mem_of_getLast? hlast
  obtain ⟨r, hr, herr⟩ := List.mem_filterMap.mp hmem
  cases r with
  | ok text => cases herr
  | error err' =>
      cases herr
      exact f.arrivals_perm.mem_iff.mp hr

theorem lastError_ne_none (hmem : .error err ∈ f.results) : lastError f.arrivals ≠ none := by
  intro hlast
  have hnil := List.getLast?_eq_none_iff.mp hlast
  have herr : err ∈ f.arrivals.filterMap errorOf :=
    List.mem_filterMap.mpr ⟨_, f.arrivals_perm.mem_iff.mpr hmem, rfl⟩
  rw [hnil] at herr
  cases herr

theorem sameOutcome_of_uniqueQuorum (hperm : g.results.Perm f.results)
    (hunique : UniqueQuorum f.results)
    (hclass : (∃ ip, HasQuorum f.results ip) ∨ OneClass f.results) :
    SameOutcome (fetchAgreedPublicIP f) (fetchAgreedPublicIP g) := by
  have hiff := hasQuorum_congr hperm
  have hf := outcome_fetchAgreedPublicIP f
  have hg := outcome_fetchAgreedPublicIP g
  generalize fetchAgreedPublicIP f = r at hf
  generalize fetchAgreedPublicIP g = r' at hg
  cases hf with
  | agreed ip hip =>
      cases hg with
      | agreed ip' hip' => exact hunique ip ip' hip ((hiff ip').mp hip')
      | failed err hnone _ => exact absurd ((hiff ip).mpr hip) (hnone ip)
      | disagreed hnone _ => exact absurd ((hiff ip).mpr hip) (hnone ip)
  | failed err hnone hlast =>
      have hone : OneClass f.results := hclass.resolve_left fun ⟨ip, hip⟩ => hnone ip hip
      have hmem := mem_results_of_lastError hlast
      cases hg with
      | agreed ip hip => exact absurd ((hiff ip).mp hip) (hnone ip)
      | failed err' _ hlast' =>
          exact hone err err' hmem (hperm.mem_iff.mp (mem_results_of_lastError hlast'))
      | disagreed _ hlast' =>
          exact absurd hlast' (lastError_ne_none (hperm.mem_iff.mpr hmem))
  | disagreed hnone hlast =>
      cases hg with
      | agreed ip hip => exact absurd ((hiff ip).mp hip) (hnone ip)
      | failed err' _ hlast' =>
          have hmem := hperm.mem_iff.mp (mem_results_of_lastError hlast')
          exact absurd hlast (lastError_ne_none hmem)
      | disagreed _ _ => rfl

/-- The same answers, with the map gone through from one entry on. -/
def Fetch.rangedFrom (f : Fetch endpoints) (entry : List UInt8 × Nat) (h : entry ∈ f.ranged) :
    Fetch endpoints :=
  { f with
    ranged := entry :: f.ranged.erase entry
    ranged_perm := (List.perm_cons_erase h).symm.trans f.ranged_perm }

/-- The same answers, arriving in another order. -/
def Fetch.arrivingIn (f : Fetch endpoints) (arrivals : List (Except Err (List UInt8)))
    (h : arrivals.Perm f.results) : Fetch endpoints :=
  { f with
    arrivals
    arrivals_perm := h
    ranged := (collect arrivals [] none).1
    ranged_perm := .refl _ }

theorem exists_agreed (hquorum : HasQuorum f.results ip) :
    ∃ g : Fetch endpoints, g.results = f.results ∧ fetchAgreedPublicIP g = .ok ip := by
  obtain ⟨n, hmem, hn⟩ := (exists_ranged_iff f ip).mpr hquorum
  refine ⟨f.rangedFrom (ip, n) hmem, rfl, ?_⟩
  have hfind : (f.rangedFrom (ip, n) hmem).ranged.find? (fun entry => quorum ≤ entry.2) =
      some (ip, n) := List.find?_cons_of_pos (by simpa using hn)
  rw [fetchAgreedPublicIP, hfind]

theorem exists_failed (hnone : ∀ ip, ¬ HasQuorum f.results ip) (hmem : .error err ∈ f.results) :
    ∃ g : Fetch endpoints, g.results = f.results ∧
      fetchAgreedPublicIP g = .error (.wrap err (utf8 "no quorum + endpoint errors")) := by
  obtain ⟨before, after, hsplit⟩ := List.append_of_mem hmem
  have hperm : (before ++ after ++ [Except.error err]).Perm f.results := by
    rw [hsplit]
    exact (List.perm_append_singleton _ _).trans List.perm_middle.symm
  refine ⟨f.arrivingIn _ hperm, rfl, ?_⟩
  have hlast : lastError (f.arrivingIn _ hperm).arrivals = some err := by
    have happend : (before ++ after ++ [Except.error err]).filterMap errorOf =
        (before ++ after).filterMap errorOf ++ [err] := List.filterMap_append
    rw [lastError, Fetch.arrivingIn, happend, List.getLast?_concat]
  have hg := outcome_fetchAgreedPublicIP (f.arrivingIn _ hperm)
  generalize fetchAgreedPublicIP (f.arrivingIn _ hperm) = r at hg
  cases hg with
  | agreed ip hip => exact absurd hip (hnone ip)
  | failed err' _ hlast' =>
      cases hlast.symm.trans hlast'
      rfl
  | disagreed _ hlast' => cases hlast.symm.trans hlast'

/-- **When the order does not matter.** For given results, every order of arrival and every order of
the map gives the same address or an error of the same class exactly where at most one value is
agreed on, and where without one all the errors are of one class; an address is returned only if no
other one is agreed on exactly where at most one is. -/
theorem fetchAgreedPublicIP_orders_iff (f : Fetch endpoints) :
    ((∀ (endpoints' : List String) (g : Fetch endpoints'), g.results.Perm f.results →
        SameOutcome (fetchAgreedPublicIP f) (fetchAgreedPublicIP g)) ↔
      UniqueQuorum f.results ∧ ((∃ ip, HasQuorum f.results ip) ∨ OneClass f.results)) ∧
    ((∀ (endpoints' : List String) (g : Fetch endpoints'), g.results.Perm f.results →
        ∀ ip, fetchAgreedPublicIP g = .ok ip → ∀ ip', HasQuorum g.results ip' → ip' = ip) ↔
      UniqueQuorum f.results) := by
  refine ⟨⟨fun hsame => ⟨fun ip ip' hip hip' => ?_, ?_⟩, fun ⟨hunique, hclass⟩ _ g hperm =>
    sameOutcome_of_uniqueQuorum hperm hunique hclass⟩, ⟨fun honly ip ip' hip hip' => ?_,
      fun hunique _ g hperm ip hfetch ip' hip' => ?_⟩⟩
  · obtain ⟨g, hg, hfetch⟩ := exists_agreed hip
    obtain ⟨g', hg', hfetch'⟩ := exists_agreed hip'
    have hgg' := sameOutcome_of_same (hsame _ g (.of_eq hg)) (hsame _ g' (.of_eq hg'))
    rwa [hfetch, hfetch'] at hgg'
  · by_cases hquorum : ∃ ip, HasQuorum f.results ip
    · exact .inl hquorum
    · refine .inr fun err err' hmem hmem' => ?_
      have hnone : ∀ ip, ¬ HasQuorum f.results ip := not_exists.mp hquorum
      obtain ⟨g, hg, hfetch⟩ := exists_failed hnone hmem
      obtain ⟨g', hg', hfetch'⟩ := exists_failed hnone hmem'
      have hgg' := sameOutcome_of_same (hsame _ g (.of_eq hg)) (hsame _ g' (.of_eq hg'))
      rwa [hfetch, hfetch'] at hgg'
  · obtain ⟨g, hg, hfetch⟩ := exists_agreed hip
    exact (honly _ g (.of_eq hg) ip hfetch ip' (hg ▸ hip')).symm
  · have hiff := hasQuorum_congr hperm
    have hquorum : HasQuorum g.results ip := quorum_of_fetchAgreedPublicIP hfetch
    exact hunique ip' ip ((hiff ip').mp hip') ((hiff ip).mp hquorum)

/-- The results arrive in the order of the endpoints. -/
def Fetch.inOrder (answers : List (String × HttpAnswer)) : Fetch (answers.map Prod.fst) where
  answers
  answers_endpoints := rfl
  arrivals := answers.map fun a => fetchPublicIPFromEndpoint a.1 a.2
  arrivals_perm := .refl _
  ranged := (collect (answers.map fun a => fetchPublicIPFromEndpoint a.1 a.2) [] none).1
  ranged_perm := .refl _

theorem results_inOrder_reverse (answers : List (String × HttpAnswer)) :
    (Fetch.inOrder answers.reverse).results.Perm (Fetch.inOrder answers).results :=
  (List.reverse_perm answers).map _

def twoAgainstTwo : List (String × HttpAnswer) :=
  [("http://a.example", .responded 200 (utf8 "192.0.2.1")),
    ("http://b.example", .responded 200 (utf8 "192.0.2.1")),
    ("http://c.example", .responded 200 (utf8 "192.0.2.2")),
    ("http://d.example", .responded 200 (utf8 "192.0.2.2"))]

def statusAndRefusal : List (String × HttpAnswer) :=
  [("http://a.example", .responded 503 []),
    ("http://b.example", .failed (.other (utf8 "connection refused")))]

/-- Two endpoints against two, where each value has a quorum; and one that answers with a status
beside one that cannot be reached. Each in two orders. -/
theorem not_fetchAgreedPublicIP_orders :
    (∃ (endpoints endpoints' : List String) (f : Fetch endpoints) (g : Fetch endpoints'),
      g.results.Perm f.results ∧ fetchAgreedPublicIP f = .ok (utf8 "192.0.2.1") ∧
        fetchAgreedPublicIP g = .ok (utf8 "192.0.2.2")) ∧
    ∃ (endpoints endpoints' : List String) (f : Fetch endpoints) (g : Fetch endpoints')
      (err err' : Err), g.results.Perm f.results ∧
        fetchAgreedPublicIP f = .error err ∧ err.is .preflightFailed = false ∧
        fetchAgreedPublicIP g = .error err' ∧ err'.is .preflightFailed = true :=
  ⟨⟨_, _, .inOrder twoAgainstTwo, .inOrder twoAgainstTwo.reverse, results_inOrder_reverse _,
      by decide +kernel, by decide +kernel⟩,
    ⟨_, _, .inOrder statusAndRefusal, .inOrder statusAndRefusal.reverse,
      .wrap (.wrap (.other (utf8 "connection refused")) (utf8 "GET http://b.example"))
        (utf8 "no quorum + endpoint errors"),
      .wrap (wrap .preflightFailed "http://a.example returned 503")
        (utf8 "no quorum + endpoint errors"),
      results_inOrder_reverse _, by decide +kernel, by decide +kernel, by decide +kernel,
      by decide +kernel⟩⟩

end Order

/-! ## The class of a failed check -/

section Class

variable {endpoints : List String} {f : Fetch endpoints} {p : Preflight} {err : Err}

def HttpAnswer.networkError : HttpAnswer → Option Err
  | .failed err | .unreadable _ err => some err
  | .responded _ _ => none

/-- What the network returns is no leak that was found. -/
def PlainAnswers (answers : List (String × HttpAnswer)) : Prop :=
  ∀ a ∈ answers, ∀ err ∈ a.2.networkError, err.is .preflightLeaked = false

/-- A value is agreed on, or the error that arrived last, if there is one, is that of a status. -/
def Fetch.Classified (f : Fetch endpoints) : Prop :=
  (∃ ip, HasQuorum f.results ip) ∨
    ∀ err, lastError f.arrivals = some err → err.is .preflightFailed = true

theorem not_leaked_of_mem_results (hplain : PlainAnswers f.answers) (hmem : .error err ∈ f.results) :
    err.is .preflightLeaked = false := by
  obtain ⟨⟨target, answer⟩, ha, herr⟩ := List.mem_map.mp hmem
  have hanswer := hplain _ ha
  dsimp only at herr hanswer
  unfold fetchPublicIPFromEndpoint at herr
  split at herr
  · cases herr
    rfl
  · cases answer with
    | failed err' =>
        cases herr
        exact hanswer err' rfl
    | unreadable status err' =>
        dsimp only at herr
        split at herr <;> cases herr
        · exact hanswer err' rfl
        · rfl
    | responded status body =>
        dsimp only at herr
        split at herr <;> cases herr
        rfl

theorem class_of_fetchAgreedPublicIP (hplain : PlainAnswers f.answers)
    (hfetch : fetchAgreedPublicIP f = .error err) :
    err.is .preflightLeaked = false ∧ (err.is .preflightFailed = true ↔ f.Classified) := by
  have hf := outcome_fetchAgreedPublicIP f
  rw [hfetch] at hf
  cases hf with
  | failed err hnone hlast =>
      have hleaked := not_leaked_of_mem_results hplain (mem_results_of_lastError hlast)
      refine ⟨hleaked, ?_, ?_⟩
      · intro his
        refine .inr fun err' hlast' => ?_
        cases hlast.symm.trans hlast'
        exact his
      · rintro (⟨ip, hip⟩ | hall)
        · exact absurd hip (hnone ip)
        · exact hall err hlast
  | disagreed hnone hlast =>
      refine ⟨rfl, fun _ => .inr fun err hlast' => ?_, fun _ => rfl⟩
      cases hlast.symm.trans hlast'

theorem class_of_determineIP {which : String} (hplain : PlainAnswers f.answers)
    (hfetch : determineIP which f = .error err) :
    err.is .preflightLeaked = false ∧ (err.is .preflightFailed = true ↔ f.Classified) := by
  unfold determineIP at hfetch
  split at hfetch
  · next err' hagreed =>
      cases hfetch
      have hclass := class_of_fetchAgreedPublicIP hplain hagreed
      exact hclass
  · next ip hagreed =>
      split at hfetch <;> cases hfetch
      exact ⟨rfl, fun _ => .inl ⟨ip, quorum_of_fetchAgreedPublicIP hagreed⟩, fun _ => rfl⟩

theorem classified_of_determineIP {which : String} (hfetch : determineIP which f = .ok ip) :
    f.Classified :=
  .inl ⟨ip, quorum_of_fetchAgreedPublicIP (determineIP_eq_ok_iff.mp hfetch).1⟩

/-- What a check that has a proxy comes to. -/
inductive Checked (p : Preflight) : Except Err Unit → Prop
  | direct (err : Err) (hdirect : determineIP "direct" p.direct = .error err) : Checked p (.error err)
  | proxied (ip : List UInt8) (err : Err) (hdirect : determineIP "direct" p.direct = .ok ip)
      (hproxied : determineIP "proxied" p.proxied = .error err) : Checked p (.error err)
  | leaked (ip : List UInt8) (err : Err) (hdirect : determineIP "direct" p.direct = .ok ip)
      (hproxied : determineIP "proxied" p.proxied = .ok ip)
      (hleaked : err.is .preflightLeaked = true) : Checked p (.error err)
  | passed (ip ip' : List UInt8) (hdirect : determineIP "direct" p.direct = .ok ip)
      (hproxied : determineIP "proxied" p.proxied = .ok ip') : Checked p (.ok ())

theorem fetchProxiedIP_of_pool {proxyURL : ParsedURL} (hpool : p.pool = .ok (some proxyURL)) :
    p.fetchProxiedIP = determineIP "proxied" p.proxied := by
  rw [Preflight.fetchProxiedIP, hpool]

theorem checked_of_pool {proxyURL : ParsedURL} (hpool : p.pool = .ok (some proxyURL)) :
    Checked p p.preflightSanityCheck := by
  unfold Preflight.preflightSanityCheck
  rw [fetchProxiedIP_of_pool hpool, Preflight.fetchDirectIP]
  cases hdirect : determineIP "direct" p.direct with
  | error err => exact .direct err hdirect
  | ok ip =>
      cases hproxied : determineIP "proxied" p.proxied with
      | error err => exact .proxied ip err hdirect hproxied
      | ok ip' =>
          simp only [bind, Except.bind]
          split
          · next heq =>
              subst heq
              exact .leaked ip _ hdirect hproxied rfl
          · exact .passed ip ip' hdirect hproxied

/-- **The class of a failed check.** With a proxy from the pool, a failed check has one of the two
sentinels exactly where every side that was asked is classified; and it reports a leak only where
the two values are equal. -/
theorem preflight_classified_iff (p : Preflight) (hdirect : PlainAnswers p.direct.answers)
    (hproxied : PlainAnswers p.proxied.answers)
    (hpool : ∃ proxyURL, p.pool = .ok (some proxyURL)) :
    ((∀ err, p.preflightSanityCheck = .error err →
        err.is .preflightLeaked = true ∨ err.is .preflightFailed = true) ↔
      p.direct.Classified ∧ ((∃ ip, p.fetchDirectIP = .ok ip) → p.proxied.Classified)) ∧
    ∀ err, p.preflightSanityCheck = .error err → err.is .preflightLeaked = true →
      ∃ ip, p.fetchDirectIP = .ok ip ∧ p.fetchProxiedIP = .ok ip := by
  obtain ⟨proxyURL, hpool⟩ := hpool
  have hchecked := checked_of_pool hpool
  rw [fetchProxiedIP_of_pool hpool, Preflight.fetchDirectIP]
  generalize p.preflightSanityCheck = result at hchecked
  cases hchecked with
  | direct err hfetch =>
      obtain ⟨hleaked, hiff⟩ := class_of_determineIP hdirect hfetch
      have hnone : ¬ ∃ ip, determineIP "direct" p.direct = .ok ip := by
        rintro ⟨ip, hip⟩
        cases hfetch.symm.trans hip
      simp only [Except.error.injEq, forall_eq', hleaked, Bool.false_eq_true, false_or, hiff, hnone,
        false_imp_iff, and_true]
  | proxied ip err hfetch hfetch' =>
      obtain ⟨hleaked, hiff⟩ := class_of_determineIP hproxied hfetch'
      have hclassified := classified_of_determineIP hfetch
      simp only [Except.error.injEq, forall_eq', hleaked, Bool.false_eq_true, false_or, hiff,
        hclassified, true_and, hfetch, Except.ok.injEq, exists_eq', true_imp_iff, false_imp_iff,
        and_true]
  | leaked ip err hfetch hfetch' hleaked =>
      have hclassified := classified_of_determineIP hfetch
      have hclassified' := classified_of_determineIP hfetch'
      refine ⟨⟨fun _ => ⟨hclassified, fun _ => hclassified'⟩, ?_⟩, fun _ _ _ => ⟨ip, hfetch, hfetch'⟩⟩
      rintro - err' herr
      cases herr
      exact .inl hleaked
  | passed ip ip' hfetch hfetch' =>
      have hclassified := classified_of_determineIP hfetch
      have hclassified' := classified_of_determineIP hfetch'
      refine ⟨⟨fun _ => ⟨hclassified, fun _ => hclassified'⟩, fun _ err herr => ?_⟩,
        fun err herr => ?_⟩
      · cases herr
      · cases herr

theorem plainAnswers_agreeing (body : List UInt8) : PlainAnswers (agreeing body).answers := by
  intro a ha err herr
  rcases List.mem_pair.mp ha with rfl | rfl <;> cases herr

/-- The endpoints see one address on both sides. -/
theorem preflight_classified_iff_leak :
    (∀ err, (agreeingPreflight (utf8 "192.0.2.1") (utf8 "192.0.2.1")).preflightSanityCheck =
        .error err → err.is .preflightLeaked = true ∨ err.is .preflightFailed = true) ∧
      ∃ err, (agreeingPreflight (utf8 "192.0.2.1") (utf8 "192.0.2.1")).preflightSanityCheck =
        .error err ∧ err.is .preflightLeaked = true :=
  ⟨(preflight_classified_iff _ (plainAnswers_agreeing _) (plainAnswers_agreeing _) ⟨_, rfl⟩).1.mpr
    ⟨.inl ⟨_, quorum_of_fetchAgreedPublicIP (fetchAgreedPublicIP_agreeing _)⟩,
      fun _ => .inl ⟨_, quorum_of_fetchAgreedPublicIP (fetchAgreedPublicIP_agreeing _)⟩⟩,
    _, rfl, rfl⟩

def oneRefused : List (String × HttpAnswer) :=
  [("http://one.example", .failed (.other (utf8 "connection refused"))),
    ("http://two.example", .responded 200 (utf8 "192.0.2.1"))]

/-- One of the two endpoints cannot be reached directly: the error has neither sentinel, nor the one
that would have the check repeated. -/
theorem not_preflight_classified :
    ∃ p : Preflight, PlainAnswers p.direct.answers ∧ PlainAnswers p.proxied.answers ∧
      (∃ proxyURL, p.pool = .ok (some proxyURL)) ∧
      ∃ err, p.preflightSanityCheck = .error err ∧ err.is .preflightLeaked = false ∧
        err.is .preflightFailed = false ∧ err.is .egressUnavailable = false := by
  let err : Err := .wrap (.wrap (.wrap (.other (utf8 "connection refused"))
    (utf8 "GET http://one.example")) (utf8 "no quorum + endpoint errors"))
    (utf8 "preflight: fetch direct public IP")
  let p : Preflight :=
    { endpoints := oneRefused.map Prod.fst
      direct := .inOrder oneRefused
      pool := .ok (some { host := utf8 "127.0.0.1:1080" })
      proxied := agreeing (utf8 "192.0.2.2") }
  refine ⟨p, ?_, plainAnswers_agreeing _, ⟨_, rfl⟩, err, ?_, rfl, rfl, rfl⟩
  · intro a ha err herr
    rcases List.mem_pair.mp ha with rfl | rfl <;> cases herr
    rfl
  · have hdirect : p.fetchDirectIP = .error err := by decide +kernel
    rw [Preflight.preflightSanityCheck, hdirect]
    rfl

end Class

end Pr0xteus.ClientLib
