import Pr0xteus.ClientEvents
import Pr0xteus.Proof.Fallback

/-!
# The requests of the retry loop

`do` sends the pool one request for each attempt. Whether a request allows the fallback pool, and
whether it excludes a proxy, is decided by the number of its attempt alone; which number the last
attempt has is decided by the policy.
-/

namespace Pr0xteus.ClientLib

open Encoding

/-- The proxy of the latest of these attempts that got one. -/
def lastObtained (past : List PoolAttempt) : Option ParsedURL :=
  past.reverse.findSome? PoolAttempt.proxy

/-- The request of the last attempt that the policy allows has `FallbackOK`, and no other one. -/
def FallbackOnLast (c : Client) (w : World) : Prop :=
  ∀ made ∈ c.poolAttempts w, made.request.fallbackOK = true ↔ (made.attempt : Int) = c.maxAttempts

/-- From the third attempt on, a request excludes the proxy that was obtained last. -/
def ExcludesLastObtained (c : Client) (w : World) : Prop :=
  ∀ (j : Nat) (made : PoolAttempt), (c.poolAttempts w)[j]? = some made → 3 ≤ made.attempt →
    made.request.excludeProxy = lastObtained ((c.poolAttempts w).take j)

section Traced

variable {c : Client} {w : World} {attempt left : Nat} {lastProxy : Option ParsedURL}
  {lastErr : Option Err}

theorem tracedAttempts_snd :
    (c.tracedAttempts w left attempt lastProxy lastErr).2 =
      c.attempts w left attempt lastProxy lastErr := by
  induction left generalizing attempt lastProxy lastErr with
  | zero => rfl
  | succ left ih =>
      rw [Client.tracedAttempts, Client.attempts]
      cases waitBackoff w attempt with
      | error err => rfl
      | ok _ =>
          cases c.tryOnce w lastProxy attempt with
          | halt err | resp resp => rfl
          | retry err proxy => exact ih

theorem obtained_of_retry {err : Err} {proxy : Option ParsedURL}
    (h : c.tryOnce w lastProxy attempt = .retry err proxy) :
    w.obtained attempt (c.poolRequest lastProxy attempt) = proxy := by
  unfold Client.tryOnce at h
  unfold World.obtained
  cases hpool : w.pool attempt (c.poolRequest lastProxy attempt) with
  | error err =>
      rw [hpool] at h
      dsimp only at h
      split at h <;> cases h
      rfl
  | ok lease =>
      rw [hpool] at h
      dsimp only at h
      split at h <;> split at h <;> cases h <;> rfl

theorem lastObtained_cons (made : PoolAttempt) (past : List PoolAttempt) :
    lastObtained (made :: past) = (lastObtained past).or made.proxy := by
  rw [lastObtained, List.reverse_cons, List.findSome?_append, List.findSome?_singleton]
  rfl

theorem getElem?_tracedAttempts {j : Nat} {made : PoolAttempt}
    (h : (c.tracedAttempts w left attempt lastProxy lastErr).1[j]? = some made) :
    made.attempt = attempt + j ∧ j < left ∧
      made.request = c.poolRequest
        ((lastObtained ((c.tracedAttempts w left attempt lastProxy lastErr).1.take j)).or lastProxy)
        made.attempt := by
  induction left generalizing attempt lastProxy lastErr j with
  | zero => cases h
  | succ left ih =>
      rw [Client.tracedAttempts] at h ⊢
      cases hwait : waitBackoff w attempt with
      | error err =>
          rw [hwait] at h
          cases h
      | ok _ =>
          rw [hwait] at h
          dsimp only at h ⊢
          -- the first request is made whatever comes of it
          cases j with
          | zero =>
              cases htry : c.tryOnce w lastProxy attempt <;> rw [htry] at h <;> cases h <;>
                exact ⟨rfl, by omega, rfl⟩
          | succ j =>
              cases htry : c.tryOnce w lastProxy attempt with
              | halt err | resp resp =>
                  rw [htry] at h
                  cases h
              | retry err proxy =>
                  rw [htry] at h
                  obtain ⟨hattempt, hj, hrequest⟩ := ih h
                  refine ⟨by omega, by omega, ?_⟩
                  rw [List.take_succ_cons, lastObtained_cons, obtained_of_retry htry,
                    Option.or_assoc]
                  exact hrequest

end Traced

theorem poolRequest_fallbackOK (c : Client) (lastProxy : Option ParsedURL) (attempt : Nat) :
    (c.poolRequest lastProxy attempt).fallbackOK = (decide (5 ≤ attempt) && c.useFallbackPool) := by
  by_cases hearly : attempt ≤ 4
  · rw [poolRequest_fallbackOK_of_le c lastProxy hearly, decide_eq_false (by omega)]
    rfl
  · have hstrategy : (strategyFor attempt).allowFallback = true := by
      rw [strategyFor, if_neg (by omega), if_neg (by omega), if_neg hearly]
    rw [Client.poolRequest, hstrategy, decide_eq_true (by omega)]

theorem poolRequest_excludeProxy (c : Client) (lastProxy : Option ParsedURL) {attempt : Nat}
    (hattempt : 3 ≤ attempt) : (c.poolRequest lastProxy attempt).excludeProxy = lastProxy := by
  have hstrategy : (strategyFor attempt).excludePrev = true := by
    rw [strategyFor, if_neg (by omega), if_neg (by omega)]
    split <;> rfl
  rw [Client.poolRequest, hstrategy]
  rfl

theorem excludesLastObtained (c : Client) (w : World) : ExcludesLastObtained c w := by
  intro j made hmade hthree
  obtain ⟨-, -, hrequest⟩ := getElem?_tracedAttempts hmade
  rw [hrequest, poolRequest_excludeProxy _ _ hthree, Option.or_none]
  rfl

/-- A request allows the fallback pool from the fifth attempt on. -/
theorem fallbackOK_iff {c : Client} {w : World} (hfallback : c.useFallbackPool = true)
    {made : PoolAttempt} (hmade : made ∈ c.poolAttempts w) :
    made.request.fallbackOK = true ↔ 5 ≤ made.attempt := by
  obtain ⟨j, hj⟩ := List.getElem?_of_mem hmade
  obtain ⟨-, -, hrequest⟩ := getElem?_tracedAttempts hj
  rw [hrequest, poolRequest_fallbackOK, hfallback, Bool.and_true, decide_eq_true_iff]

/-! ## A target that is never reached -/

/-- The pool has a proxy for every attempt, and the target answers 503 through each of them. -/
def busyWorld : World where
  body := .absent
  getBody := fun _ => none
  backoff := fun _ => none
  pool := fun _ _ => .ok ⟨{ host := utf8 "10.0.0.2:1080" }, [], [], []⟩
  upstream := fun _ _ _ => .ok 503
  direct := .ok 503

theorem exists_mem_tracedAttempts_busy (c : Client) {left attempt : Nat}
    (lastProxy : Option ParsedURL) (lastErr : Option Err) {n : Nat} (hle : attempt ≤ n)
    (hlt : n < attempt + left) :
    ∃ made ∈ (c.tracedAttempts busyWorld left attempt lastProxy lastErr).1, made.attempt = n := by
  induction left generalizing attempt lastProxy lastErr with
  | zero => omega
  | succ left ih =>
      have hwait : waitBackoff busyWorld attempt = .ok () := waitBackoff_eq_ok (fun _ => rfl) attempt
      obtain ⟨err, proxy, htry⟩ :
          ∃ err proxy, c.tryOnce busyWorld lastProxy attempt = .retry err proxy := ⟨_, _, rfl⟩
      rw [Client.tracedAttempts, hwait, htry]
      rcases Nat.eq_or_lt_of_le hle with rfl | hlater
      · exact ⟨_, List.mem_cons_self, rfl⟩
      · obtain ⟨made, hmade, hattempt⟩ := ih (proxy.or lastProxy) (some err) hlater (by omega)
        exact ⟨made, List.mem_cons_of_mem _ hmade, hattempt⟩

/-- **The staircase.** Every request from the third attempt on excludes the proxy that was obtained
last. That it is the last attempt, and only that one, which allows the fallback pool, holds of the
policy with five attempts and of no other. -/
theorem fallbackOnLast_iff (c : Client) (hfallback : c.useFallbackPool = true)
    (hattempts : 1 ≤ c.maxAttempts) :
    (∀ w, ExcludesLastObtained c w) ∧ ((∀ w, FallbackOnLast c w) ↔ c.maxAttempts = 5) := by
  refine ⟨excludesLastObtained c, fun hlast => ?_, fun hfive w made hmade => ?_⟩
  · have hreached : ∀ n : Nat, 1 ≤ n → (n : Int) ≤ c.maxAttempts →
        ∃ made ∈ c.poolAttempts busyWorld, made.attempt = n := fun n hone hle =>
      exists_mem_tracedAttempts_busy c none none hone (by omega)
    by_contra hne
    rcases lt_or_gt_of_ne hne with hfew | hmany
    · -- the last attempt comes before the fifth
      obtain ⟨made, hmade, hattempt⟩ := hreached c.maxAttempts.toNat (by omega) (by omega)
      have hfifth := (fallbackOK_iff hfallback hmade).mp
        ((hlast busyWorld made hmade).mpr (by omega))
      omega
    · -- the fifth attempt is not the last one
      obtain ⟨made, hmade, hattempt⟩ := hreached 5 (by omega) (by omega)
      have hfinal := (hlast busyWorld made hmade).mp
        ((fallbackOK_iff hfallback hmade).mpr (by omega))
      omega
  · obtain ⟨j, hj⟩ := List.getElem?_of_mem hmade
    obtain ⟨hattempt, hbound, -⟩ := getElem?_tracedAttempts hj
    rw [fallbackOK_iff hfallback hmade, hfive]
    rw [hfive] at hbound
    omega

/-- The theorem at the default policy, on the target that is never reached. -/
theorem fallbackOnLast_iff_fiveAttempts :
    fiveAttempts.useFallbackPool = true ∧ 1 ≤ fiveAttempts.maxAttempts ∧
      ExcludesLastObtained fiveAttempts busyWorld ∧ FallbackOnLast fiveAttempts busyWorld := by
  have hlaw := fallbackOnLast_iff fiveAttempts rfl (by decide)
  exact ⟨rfl, by decide, hlaw.1 busyWorld, hlaw.2.mpr rfl busyWorld⟩

def threeAttempts : Client := ⟨"DE", .vpnOnly, 3, true⟩

/-- Of three attempts, the last one does not allow the fallback pool. -/
theorem not_fallbackOnLast : ¬FallbackOnLast threeAttempts busyWorld := by
  intro hlast
  obtain ⟨made, hmade, hattempt⟩ :=
    exists_mem_tracedAttempts_busy threeAttempts none none (show 1 ≤ 3 by decide)
      (show 3 < 1 + threeAttempts.maxAttempts.toNat by decide)
  have hfifth := (fallbackOK_iff rfl hmade).mp
    ((hlast made hmade).mpr (by rw [hattempt]; rfl))
  omega

end Pr0xteus.ClientLib
