import Mathlib.Algebra.BigOperators.Group.List.Basic
import Mathlib.Data.List.AList
import Mathlib.Tactic.Abel

/-!
# Finite maps

A `map[K]V` is Mathlib's `AList`, whose entries carry the proof that no key is repeated. What is
added here are the loop that deletes the entries failing a test, the loop that fills a map, where of
two entries for one key the later one stays, `range` loops in any order, and sums over all entries.
-/

namespace FinMap

variable {α : Type} {β : Type}

/-- Delete every entry whose value fails the test. -/
def keep (p : β → Bool) (m : AList fun _ : α => β) : AList fun _ : α => β :=
  ⟨m.entries.filter fun entry => p entry.2,
    m.nodupKeys.sublist List.filter_sublist⟩

variable [DecidableEq α] {p : β → Bool} {m : AList fun _ : α => β}

theorem lookup_keep (key : α) : (keep p m).lookup key = (m.lookup key).filter p := by
  have hmem : ∀ value, value ∈ (keep p m).lookup key ↔ value ∈ (m.lookup key).filter p := by
    intro value
    rw [AList.mem_lookup_iff, Option.mem_filter_iff, AList.mem_lookup_iff]
    simp [keep, List.mem_filter]
  ext value
  exact hmem value

section Fill

variable {γ : Type} {key : γ → α} {value : γ → β} {k : α} {v : β}

/-- Insert an entry for each element, in order. -/
def fill (key : γ → α) (value : γ → β) (l : List γ) : AList fun _ : α => β :=
  l.foldl (fun m x => m.insert (key x) (value x)) ∅

theorem lookup_foldl_insert (l : List γ) (m : AList fun _ : α => β) :
    (l.foldl (fun m x => m.insert (key x) (value x)) m).lookup k =
      ((l.reverse.find? fun x => key x = k).map value).or (m.lookup k) := by
  induction l generalizing m with
  | nil => rfl
  | cons x l ih =>
      rw [List.foldl_cons, ih, List.reverse_cons, List.find?_append]
      by_cases hkey : key x = k
      · cases l.reverse.find? fun x => key x = k <;> simp [hkey, AList.lookup_insert]
      · simp [hkey, AList.lookup_insert_ne (Ne.symm hkey)]

theorem exists_of_lookup_fill {l : List γ} (h : (fill key value l).lookup k = some v) :
    ∃ x ∈ l, key x = k ∧ value x = v := by
  rw [fill, lookup_foldl_insert, AList.lookup_empty, Option.or_none] at h
  obtain ⟨x, hfound, hvalue⟩ := Option.map_eq_some_iff.mp h
  exact ⟨x, List.mem_reverse.mp (List.mem_of_find?_eq_some hfound),
    by simpa using List.find?_some hfound, hvalue⟩

theorem isSome_lookup_fill_iff {l : List γ} :
    ((fill key value l).lookup k).isSome ↔ ∃ x ∈ l, key x = k := by
  rw [fill, lookup_foldl_insert, AList.lookup_empty, Option.or_none, Option.isSome_map,
    List.find?_isSome]
  simp

end Fill

section Range

/-- The orders in which successive `range` loops over a map reach its keys. -/
structure RangeOrders (α β : Type) where
  order : Nat → (AList fun _ : α => β) → List α
  perm : ∀ n m, (order n m).Perm m.keys

/-- A `range` loop over the map in the state, whose body may delete entries: a key that is gone when
its turn comes is not reached. -/
def range {σ : Type} (view : σ → AList fun _ : α => β) (body : σ → α → β → σ) (order : List α)
    (s : σ) : σ :=
  order.foldl (fun s key =>
    match (view s).lookup key with
    | none => s
    | some value => body s key value) s

section

variable {σ : Type} {view : σ → AList fun _ : α => β} {body : σ → α → β → σ} {s : σ} {k : α} {v : β}
  {order : List α}

theorem range_cons_none (h : (view s).lookup k = none) :
    range view body (k :: order) s = range view body order s := by
  rw [range, List.foldl_cons, h]
  rfl

theorem range_cons_some (h : (view s).lookup k = some v) :
    range view body (k :: order) s = range view body order (body s k v) := by
  rw [range, List.foldl_cons, h]
  rfl

end

variable (p : α → Bool)

/-- A loop that deletes the entry it has reached, where the key passes a test. -/
theorem lookup_range_erase (order : List α) (m : AList fun _ : α => β) (k : α) :
    (range id (fun m key _ => if p key then m.erase key else m) order m).lookup k =
      if k ∈ order ∧ p k = true then none else m.lookup k := by
  induction order generalizing m with
  | nil => simp [range]
  | cons key order ih =>
      by_cases hk : k = key
      · subst hk
        cases hkey : m.lookup k with
        | none =>
            rw [range_cons_none hkey, ih, hkey]
            simp
        | some value =>
            rw [range_cons_some hkey, ih]
            by_cases hp : p k = true
            · simp [hp]
            · simp [hp, hkey]
      · cases hkey : m.lookup key with
        | none =>
            rw [range_cons_none hkey, ih]
            simp [hk]
        | some value =>
            rw [range_cons_some hkey, ih]
            by_cases hp : p key = true
            · simp [hk, hp, AList.lookup_erase_ne hk]
            · simp [hk, hp]

/-- So in any order it deletes every such entry. -/
theorem lookup_range_erase_of_perm {order : List α} {m : AList fun _ : α => β}
    (h : order.Perm m.keys) (k : α) :
    (range id (fun m key _ => if p key then m.erase key else m) order m).lookup k =
      if p k = true then none else m.lookup k := by
  rw [lookup_range_erase]
  by_cases hk : k ∈ order
  · simp [hk]
  · have hnone : m.lookup k = none := AList.lookup_eq_none.mpr (mt h.mem_iff.mpr hk)
    simp [hk, hnone]

end Range

section Sum

variable {M : Type} [AddCommMonoid M] (f : β → M)

def sum (f : β → M) (m : AList fun _ : α => β) : M := (m.entries.map fun entry => f entry.2).sum

/-- An insertion adds the new value, in place of the one that was there. -/
theorem sum_insert (m : AList fun _ : α => β) (k : α) (v : β) :
    sum f (m.insert k v) + ((m.lookup k).map f).getD 0 = sum f m + f v := by
  have hinsert : sum f (m.insert k v) =
      f v + ((List.kerase k m.entries).map fun entry => f entry.2).sum := by
    rw [sum, AList.entries_insert, List.map_cons, List.sum_cons]
  rw [hinsert]
  by_cases hmem : k ∈ m
  · obtain ⟨old, front, back, hfront, hentries, herase⟩ := List.exists_of_kerase hmem
    have hlookup : m.lookup k = some old := by
      rw [← Option.mem_def, AList.mem_lookup_iff, hentries]
      simp
    rw [hlookup, Option.map_some, Option.getD_some, herase, sum, hentries]
    simp only [List.map_append, List.map_cons, List.sum_append, List.sum_cons]
    abel
  · rw [AList.lookup_eq_none.mpr hmem, Option.map_none, Option.getD_none, add_zero,
      List.kerase_of_notMem_keys hmem, add_comm]
    rfl

/-- Counting the entries is summing ones. -/
theorem length_insert (m : AList fun _ : α => β) (k : α) (v : β) :
    (m.insert k v).entries.length + (if (m.lookup k).isSome then 1 else 0) =
      m.entries.length + 1 := by
  have hones : ∀ m : AList fun _ : α => β, sum (fun _ => 1) m = m.entries.length := fun m => by
    simp [sum]
  have hsum := sum_insert (fun _ => 1) m k v
  rw [hones, hones] at hsum
  rw [← hsum]
  cases m.lookup k <;> rfl

end Sum

end FinMap
