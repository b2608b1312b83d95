import Pr0xteus.Preflight

/-!
# What a passed preflight check says

A value passes because two endpoints reported the same text; `le_reports_of_mem_collect` follows the
map of counts through the loop. What the texts are depends on the bodies alone, and the check is as
good as these are.
-/

namespace Pr0xteus.ClientLib

open Encoding Net

variable {body ip other : List UInt8} {f : Fetch endpoints} {p : Preflight}

/-! ## The quorum -/

/-- How many results are this text. -/
def reports (ip : List UInt8) (results : List (Except Err (List UInt8))) : Nat :=
  results.countP fun r => match r with
    | .ok text => text = ip
    | .error _ => false

theorem mem_increment {ip key : List UInt8} {n : Nat} {counts : Counts}
    (hmem : (key, n) ∈ increment ip counts) :
    (key, n) ∈ counts ∨ key = ip ∧ (n = 1 ∨ ∃ m, n = m + 1 ∧ (key, m) ∈ counts) := by
  induction counts with
  | nil =>
      simp only [increment, List.mem_singleton, Prod.mk.injEq] at hmem
      exact .inr ⟨hmem.1, .inl hmem.2⟩
  | cons entry counts ih =>
      obtain ⟨key', m⟩ := entry
      rw [increment] at hmem
      split at hmem
      · next heq =>
          rcases List.mem_cons.mp hmem with heq' | hmem
          · cases heq'
            exact .inr ⟨heq, .inr ⟨m, rfl, List.mem_cons_self⟩⟩
          · exact .inl (List.mem_cons_of_mem _ hmem)
      · rcases List.mem_cons.mp hmem with heq' | hmem
        · exact .inl (heq' ▸ List.mem_cons_self)
        · rcases ih hmem with hold | ⟨hkey, hone | ⟨k, hk, hold⟩⟩
          · exact .inl (List.mem_cons_of_mem _ hold)
          · exact .inr ⟨hkey, .inl hone⟩
          · exact .inr ⟨hkey, .inr ⟨k, hk, List.mem_cons_of_mem _ hold⟩⟩

/-- The loop counts no text more often than it was reported. -/
theorem le_reports_of_mem_collect {results : List (Except Err (List UInt8))} {counts : Counts}
    {lastErr : Option Err} {before : List (Except Err (List UInt8))}
    (hcounts : ∀ key n, (key, n) ∈ counts → n ≤ reports key before) {key : List UInt8} {n : Nat}
    (hmem : (key, n) ∈ (collect results counts lastErr).1) :
    n ≤ reports key (before ++ results) := by
  induction results generalizing counts lastErr before with
  | nil => simpa using hcounts key n hmem
  | cons r results ih =>
      rw [List.append_cons]
      cases r with
      | error err =>
          refine ih (fun key n h => ?_) hmem
          exact (hcounts key n h).trans (by simp [reports])
      | ok ip =>
          refine ih (fun key n h => ?_) hmem
          rcases mem_increment h with hold | ⟨rfl, rfl | ⟨m, rfl, hold⟩⟩
          · exact (hcounts key n hold).trans (by simp [reports])
          · simp [reports]
          · have := hcounts key m hold
            simp [reports] at this ⊢
            omega

variable {endpoints : List String}

def Fetch.results (f : Fetch endpoints) : List (Except Err (List UInt8)) :=
  f.answers.map fun a => fetchPublicIPFromEndpoint a.1 a.2

theorem quorum_of_fetchAgreedPublicIP (hfetch : fetchAgreedPublicIP f = .ok ip) :
    quorum ≤ reports ip f.results := by
  unfold fetchAgreedPublicIP at hfetch
  split at hfetch
  · next ip' n hfind =>
      cases hfetch
      have hmem := f.ranged_perm.mem_iff.mp (List.mem_of_find?_eq_some hfind)
      have hquorum : quorum ≤ n := by simpa using List.find?_some hfind
      have hcount : n ≤ reports ip ([] ++ f.arrivals) :=
        le_reports_of_mem_collect (by simp) hmem
      exact (hquorum.trans hcount).trans_eq (f.arrivals_perm.countP_eq _)
  · split at hfetch <;> cases hfetch

theorem exists_body_of_fetch {target : String} {answer : HttpAnswer}
    (hfetch : fetchPublicIPFromEndpoint target answer = .ok ip) :
    ∃ status body, answer = .responded status body ∧ ip = echoText body := by
  unfold fetchPublicIPFromEndpoint at hfetch
  split at hfetch
  · cases hfetch
  · split at hfetch
    · cases hfetch
    · split at hfetch <;> cases hfetch
    · next status body =>
        split at hfetch
        · cases hfetch
          exact ⟨status, body, rfl, rfl⟩
        · cases hfetch

theorem exists_body_of_quorum (hquorum : quorum ≤ reports ip f.results) :
    ∃ a ∈ f.answers, ∃ status body, a.2 = .responded status body ∧ ip = echoText body := by
  have hpos : 0 < reports ip f.results := Nat.lt_of_lt_of_le (by decide) hquorum
  obtain ⟨r, hr, hip⟩ := List.countP_pos_iff.mp hpos
  obtain ⟨a, ha, rfl⟩ := List.mem_map.mp hr
  cases hfetch : fetchPublicIPFromEndpoint a.1 a.2 with
  | error err => simp [hfetch] at hip
  | ok text =>
      obtain rfl : text = ip := by simpa [hfetch] using hip
      exact ⟨a, ha, exists_body_of_fetch hfetch⟩

theorem determineIP_eq_ok_iff {which : String} :
    determineIP which f = .ok ip ↔ fetchAgreedPublicIP f = .ok ip ∧ ip ≠ [] := by
  unfold determineIP
  cases fetchAgreedPublicIP f with
  | error err => simp
  | ok ip' =>
      by_cases hempty : ip' = []
      · simp only [hempty, if_true, Except.ok.injEq]
        constructor
        · intro h
          cases h
        · rintro ⟨rfl, hne⟩
          exact absurd rfl hne
      · simp only [hempty, if_false, Except.ok.injEq]
        constructor
        · rintro rfl
          exact ⟨rfl, hempty⟩
        · exact fun h => h.1

/-! ## The check -/

/-- The two values compared are addresses, each reported by two endpoints at least, and they denote
different ones. -/
def Preflight.Sound (p : Preflight) : Prop :=
  ∃ directIP proxiedIP, p.fetchDirectIP = .ok directIP ∧ p.fetchProxiedIP = .ok proxiedIP ∧
    2 ≤ reports directIP p.direct.results ∧ 2 ≤ reports proxiedIP p.proxied.results ∧
      ∃ a b, parseIP directIP = some a ∧ parseIP proxiedIP = some b ∧ a ≠ b

/-- Every body that was read, directly or through the proxy, is one of these. -/
def Preflight.BodiesIn (p : Preflight) (bodies : Set (List UInt8)) : Prop :=
  ∀ a ∈ p.direct.answers ++ p.proxied.answers, ∀ status body,
    a.2 = .responded status body → body ∈ bodies

/-- Bodies with different texts hold different addresses. -/
def TellApart (bodies : Set (List UInt8)) : Prop :=
  ∀ body ∈ bodies, ∀ other ∈ bodies, echoText body ≠ [] → echoText other ≠ [] →
    echoText body ≠ echoText other →
      ∃ a b, parseIP (echoText body) = some a ∧ parseIP (echoText other) = some b ∧ a ≠ b

theorem preflightSanityCheck_eq_ok_iff :
    p.preflightSanityCheck = .ok () ↔ ∃ directIP proxiedIP, p.fetchDirectIP = .ok directIP ∧
      p.fetchProxiedIP = .ok proxiedIP ∧ directIP ≠ proxiedIP := by
  unfold Preflight.preflightSanityCheck
  cases p.fetchDirectIP with
  | error err => simp [bind, Except.bind]
  | ok directIP =>
      cases p.fetchProxiedIP with
      | error err => simp [bind, Except.bind]
      | ok proxiedIP =>
          by_cases heq : directIP = proxiedIP
          · simp [bind, Except.bind, heq]
          · simp [bind, Except.bind, heq]

theorem fetchProxiedIP_eq_ok (h : p.fetchProxiedIP = .ok ip) :
    determineIP "proxied" p.proxied = .ok ip := by
  unfold Preflight.fetchProxiedIP at h
  split at h
  · cases h
  · cases h
  · exact h

theorem sound_of_tellApart {bodies : Set (List UInt8)} (hbodies : TellApart bodies)
    (hin : p.BodiesIn bodies) (hpass : p.preflightSanityCheck = .ok ()) : p.Sound := by
  obtain ⟨directIP, proxiedIP, hdirect, hproxied, hne⟩ := preflightSanityCheck_eq_ok_iff.mp hpass
  obtain ⟨hd, hdne⟩ := determineIP_eq_ok_iff.mp hdirect
  obtain ⟨hp, hpne⟩ := determineIP_eq_ok_iff.mp (fetchProxiedIP_eq_ok hproxied)
  have hdquorum := quorum_of_fetchAgreedPublicIP hd
  have hpquorum := quorum_of_fetchAgreedPublicIP hp
  refine ⟨directIP, proxiedIP, hdirect, hproxied, hdquorum, hpquorum, ?_⟩
  obtain ⟨a, ha, status, body, hbody, rfl⟩ := exists_body_of_quorum hdquorum
  obtain ⟨b, hb, status', other, hother, rfl⟩ := exists_body_of_quorum hpquorum
  exact hbodies body (hin a (List.mem_append_left _ ha) status body hbody)
    other (hin b (List.mem_append_right _ hb) status' other hother) hdne hpne hne

/-- Two endpoints that both answer with the same body. -/
def agreeing (body : List UInt8) : Fetch ["http://one.example", "http://two.example"] where
  answers := [("http://one.example", .responded 200 body),
    ("http://two.example", .responded 200 body)]
  answers_endpoints := rfl
  arrivals := [.ok (echoText body), .ok (echoText body)]
  arrivals_perm := .of_eq (by
    have hone : (parse (utf8 "http://one.example")).isSome := by decide +kernel
    have htwo : (parse (utf8 "http://two.example")).isSome := by decide +kernel
    obtain ⟨one, hone⟩ := Option.isSome_iff_exists.mp hone
    obtain ⟨two, htwo⟩ := Option.isSome_iff_exists.mp htwo
    simp [fetchPublicIPFromEndpoint, hone, htwo, isSuccess])
  ranged := [(echoText body, 2)]
  ranged_perm := .of_eq (by simp [collect, increment])

def agreeingPreflight (body other : List UInt8) : Preflight where
  endpoints := ["http://one.example", "http://two.example"]
  direct := agreeing body
  pool := .ok (some { host := utf8 "127.0.0.1:1080" })
  proxied := agreeing other

theorem fetchAgreedPublicIP_agreeing (body : List UInt8) :
    fetchAgreedPublicIP (agreeing body) = .ok (echoText body) := rfl

theorem agreeingPreflight_values (hbody : echoText body ≠ []) (hother : echoText other ≠ []) :
    (agreeingPreflight body other).fetchDirectIP = .ok (echoText body) ∧
      (agreeingPreflight body other).fetchProxiedIP = .ok (echoText other) :=
  ⟨determineIP_eq_ok_iff.mpr ⟨fetchAgreedPublicIP_agreeing body, hbody⟩,
    determineIP_eq_ok_iff.mpr ⟨fetchAgreedPublicIP_agreeing other, hother⟩⟩

theorem bodiesIn_agreeingPreflight {bodies : Set (List UInt8)} (hbody : body ∈ bodies)
    (hother : other ∈ bodies) : (agreeingPreflight body other).BodiesIn bodies := by
  intro a ha status text htext
  have hcases : a.2 = .responded 200 body ∨ a.2 = .responded 200 other := by
    rcases List.mem_append.mp ha with ha | ha <;>
      rcases List.mem_pair.mp ha with rfl | rfl <;> simp
  rcases hcases with h | h
  · cases h.symm.trans htext
    exact hbody
  · cases h.symm.trans htext
    exact hother

theorem agreeingPreflight_passes (hbody : echoText body ≠ []) (hother : echoText other ≠ [])
    (hdiffer : echoText body ≠ echoText other) :
    (agreeingPreflight body other).preflightSanityCheck = .ok () := by
  obtain ⟨hdirect, hproxied⟩ := agreeingPreflight_values hbody hother
  exact preflightSanityCheck_eq_ok_iff.mpr ⟨_, _, hdirect, hproxied, hdiffer⟩

theorem addresses_of_sound_agreeingPreflight (hbody : echoText body ≠ [])
    (hother : echoText other ≠ []) (hsound : (agreeingPreflight body other).Sound) :
    ∃ a b, parseIP (echoText body) = some a ∧ parseIP (echoText other) = some b ∧ a ≠ b := by
  obtain ⟨hdirect, hproxied⟩ := agreeingPreflight_values hbody hother
  obtain ⟨directIP, proxiedIP, hd, hp, -, -, haddresses⟩ := hsound
  cases hdirect.symm.trans hd
  cases hproxied.symm.trans hp
  exact haddresses

theorem exists_unsound (body other : List UInt8) (hbody : echoText body ≠ [])
    (hother : echoText other ≠ []) (hdiffer : echoText body ≠ echoText other)
    (haddresses : ¬ ∃ a b, parseIP (echoText body) = some a ∧ parseIP (echoText other) = some b ∧
      a ≠ b) :
    ∃ p : Preflight, p.BodiesIn {body, other} ∧ p.preflightSanityCheck = .ok () ∧ ¬ p.Sound :=
  ⟨agreeingPreflight body other, bodiesIn_agreeingPreflight (.inl rfl) (.inr rfl),
    agreeingPreflight_passes hbody hother hdiffer,
    fun hsound => haddresses (addresses_of_sound_agreeingPreflight hbody hother hsound)⟩

/-- **What the check is worth.** For a set of bodies that the echo services may answer with, every
check that passes has compared two different addresses exactly where the set tells addresses
apart. -/
theorem preflight_sound_iff (bodies : Set (List UInt8)) :
    (∀ p : Preflight, p.BodiesIn bodies → p.preflightSanityCheck = .ok () → p.Sound) ↔
      TellApart bodies := by
  constructor
  · intro hsound body hbody other hother hne hne' hdiffer
    have hpass := agreeingPreflight_passes hne hne' hdiffer
    have hp := hsound _ (bodiesIn_agreeingPreflight hbody hother) hpass
    exact addresses_of_sound_agreeingPreflight hne hne' hp
  · intro hbodies p hin hpass
    exact sound_of_tellApart hbodies hin hpass

/-- A page that both services answer directly, another one that they answer through the proxy; and
one address in two spellings. Both checks pass. -/
theorem not_preflight_sound :
    (∃ p : Preflight, p.BodiesIn {utf8 "<html>rate limited</html>", utf8 "<html>blocked</html>"} ∧
      p.preflightSanityCheck = .ok () ∧ ¬ p.Sound) ∧
    ∃ p : Preflight, p.BodiesIn {utf8 "2001:db8::1", utf8 "2001:DB8:0::1"} ∧
      p.preflightSanityCheck = .ok () ∧ ¬ p.Sound := by
  constructor
  · have hnone : parseIP (echoText (utf8 "<html>blocked</html>")) = none := by decide +kernel
    refine exists_unsound (utf8 "<html>rate limited</html>") (utf8 "<html>blocked</html>")
      (by decide +kernel) (by decide +kernel) (by decide +kernel) ?_
    rintro ⟨a, b, -, hb, -⟩
    cases hnone.symm.trans hb
  · have hsame : parseIP (echoText (utf8 "2001:db8::1")) =
        parseIP (echoText (utf8 "2001:DB8:0::1")) := by decide +kernel
    refine exists_unsound (utf8 "2001:db8::1") (utf8 "2001:DB8:0::1") (by decide +kernel)
      (by decide +kernel) (by decide +kernel) ?_
    rintro ⟨a, b, ha, hb, hne⟩
    exact hne (Option.some.inj (ha.symm.trans (hsame.trans hb)))

end Pr0xteus.ClientLib
