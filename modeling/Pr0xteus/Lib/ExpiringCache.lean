import Pr0xteus.Lib.FinMap
import Mathlib.Data.List.Induction
import Mathlib.Order.Defs.PartialOrder

/-!
# A cache whose entries expire

A map from keys to the time they were last recorded, which is trimmed of what has expired by the
time of the trim. As long as the times that it is given do not go back, trimming is invisible: after
a trim, the keys of the cache are those with a record that has not expired, however often a key was
recorded and whatever was trimmed in between.
-/

namespace ExpiringCache

variable {κ τ : Type}

inductive Event (κ τ : Type) where
  | record (key : κ) (time : τ)
  | trim (now : τ)

def Event.clock : Event κ τ → τ
  | .record _ time => time
  | .trim now => now

/-- Delete what has expired by now. -/
def trim (expired : τ → τ → Bool) (now : τ) (cache : AList fun _ : κ => τ) : AList fun _ : κ => τ :=
  FinMap.keep (fun time => !expired now time) cache

variable [DecidableEq κ]

def apply (expired : τ → τ → Bool) (cache : AList fun _ : κ => τ) : Event κ τ → AList fun _ : κ => τ
  | .record key time => cache.insert key time
  | .trim now => trim expired now cache

def replay (expired : τ → τ → Bool) (events : List (Event κ τ)) : AList fun _ : κ => τ :=
  events.foldl (apply expired) ∅

/-- What has expired stays so, and what is older has expired before. -/
structure Expiry [LE τ] (expired : τ → τ → Bool) : Prop where
  later : ∀ {now now' time}, now ≤ now' → expired now time = true → expired now' time = true
  older : ∀ {now time time'}, time ≤ time' → expired now time' = true → expired now time = true

/-- What the cache says of the events so far. A record that has been forgotten had expired. -/
structure Sound [LE τ] (expired : τ → τ → Bool) (events : List (Event κ τ))
    (cache : AList fun _ : κ => τ) : Prop where
  recorded : ∀ key time, cache.lookup key = some time → .record key time ∈ events
  kept : ∀ key time, .record key time ∈ events →
    (∃ time', time ≤ time' ∧ cache.lookup key = some time') ∨
      ∃ e ∈ events, expired e.clock time = true

variable [Preorder τ] {expired : τ → τ → Bool} {events : List (Event κ τ)}
  {cache : AList fun _ : κ => τ} {now : τ} {key : κ}

omit [Preorder τ] in
theorem lookup_trim (key : κ) :
    (trim expired now cache).lookup key = (cache.lookup key).filter fun time => !expired now time :=
  FinMap.lookup_keep key

theorem Sound.record (h : Sound expired events cache) {time : τ}
    (hclock : ∀ e ∈ events, e.clock ≤ time) :
    Sound expired (events ++ [.record key time]) (cache.insert key time) where
  recorded := by
    intro key' time' hlookup
    by_cases hkey : key' = key
    · subst hkey
      rw [AList.lookup_insert] at hlookup
      cases hlookup
      simp
    · rw [AList.lookup_insert_ne hkey] at hlookup
      exact List.mem_append_left _ (h.recorded key' time' hlookup)
  kept := by
    intro key' time' hmem
    have hold : key' = key ∨ .record key' time' ∈ events := by
      rcases List.mem_append.mp hmem with hmem | hmem
      · exact .inr hmem
      · cases List.mem_singleton.mp hmem
        exact .inl rfl
    by_cases hkey : key' = key
    · -- the key is recorded anew, with a time that is no older
      subst hkey
      have hle : time' ≤ time := by
        rcases List.mem_append.mp hmem with hmem | hmem
        · exact hclock _ hmem
        · cases List.mem_singleton.mp hmem
          exact le_rfl
      exact .inl ⟨time, hle, AList.lookup_insert cache⟩
    · rcases h.kept key' time' (hold.resolve_left hkey) with hcached | ⟨e, he, hexpired⟩
      · rw [AList.lookup_insert_ne hkey]
        exact .inl hcached
      · exact .inr ⟨e, List.mem_append_left _ he, hexpired⟩

theorem Sound.trim (h : Sound expired events cache) (hexpiry : Expiry expired) :
    Sound expired (events ++ [.trim now]) (trim expired now cache) where
  recorded := by
    intro key time hlookup
    rw [lookup_trim, Option.filter_eq_some_iff] at hlookup
    exact List.mem_append_left _ (h.recorded key time hlookup.1)
  kept := by
    intro key time hmem
    have hold : .record key time ∈ events := by simpa using hmem
    rcases h.kept key time hold with ⟨time', hle, hlookup⟩ | ⟨e, he, hexpired⟩
    · by_cases hexpired : expired now time' = true
      · exact .inr ⟨.trim now, by simp, hexpiry.older hle hexpired⟩
      · refine .inl ⟨time', hle, ?_⟩
        rw [lookup_trim, Option.filter_eq_some_iff]
        exact ⟨hlookup, by simpa using hexpired⟩
    · exact .inr ⟨e, List.mem_append_left _ he, hexpired⟩

theorem sound_replay (hexpiry : Expiry expired)
    (hclock : (events.map Event.clock).Pairwise (· ≤ ·)) :
    Sound expired events (replay expired events) := by
  induction events using List.reverseRecOn with
  | nil => exact ⟨by simp [replay], by simp⟩
  | append_singleton events e ih =>
      rw [List.map_append, List.pairwise_append] at hclock
      obtain ⟨hpast, -, hlast⟩ := hclock
      have hsound := ih hpast
      rw [replay, List.foldl_append]
      cases e with
      | record key time =>
          refine hsound.record fun e he => ?_
          exact hlast _ (List.mem_map_of_mem he) _ (List.mem_singleton_self _)
      | trim now => exact hsound.trim hexpiry

/-- **Trimming forgets nothing that counts.** -/
theorem isSome_lookup_trim_iff (hexpiry : Expiry expired)
    (hclock : (events.map Event.clock ++ [now]).Pairwise (· ≤ ·)) :
    ((trim expired now (replay expired events)).lookup key).isSome = true ↔
      ∃ time, .record key time ∈ events ∧ expired now time = false := by
  obtain ⟨hpast, -, hnow⟩ := List.pairwise_append.mp hclock
  have hsound := sound_replay hexpiry hpast
  rw [lookup_trim, Option.isSome_iff_exists]
  simp only [Option.filter_eq_some_iff, Bool.not_eq_true']
  constructor
  · rintro ⟨time, hlookup, hfresh⟩
    exact ⟨time, hsound.recorded key time hlookup, hfresh⟩
  · rintro ⟨time, hmem, hfresh⟩
    rcases hsound.kept key time hmem with ⟨time', hle, hlookup⟩ | ⟨e, he, hexpired⟩
    · refine ⟨time', hlookup, ?_⟩
      by_contra hstale
      rw [hexpiry.older hle (by simpa using hstale)] at hfresh
      cases hfresh
    · have hle : e.clock ≤ now := hnow _ (List.mem_map_of_mem he) _ (List.mem_singleton_self _)
      rw [hexpiry.later hle hexpired] at hfresh
      cases hfresh

end ExpiringCache
