import Pr0xteus.Collections

/-!
# Pages

A page that `collectionPage` accepts has a limit between one and a thousand and an offset that is not
negative. The offset is clamped to the length of the snapshot before the limit is added to it, so the
sum does not wrap and the slice is within the snapshot. The pages of one limit, each at the end of the
one before, are the snapshot.
-/

namespace Pr0xteus

open Encoding

variable {α : Type} {r : CollectionRequest} {limit offset : Int64}

/-! ## What is accepted -/

/-- What `collectionPage` accepts. -/
structure AcceptedPage (limit offset : Int64) : Prop where
  limit_pos : 0 < limit.toInt
  limit_le : limit.toInt ≤ 1000
  offset_nonneg : 0 ≤ offset.toInt

/-- A value of the query is the default or within its bounds. -/
theorem boundedQueryInt_eq_ok {name : String} {defaultValue maximum value : Int64}
    (h : boundedQueryInt r name defaultValue maximum = .ok value) :
    value = defaultValue ∨
      ¬(value < 0 ∨ (0 < maximum ∧ maximum < value) ∨ (name = "limit" ∧ value = 0)) := by
  unfold boundedQueryInt at h
  dsimp only at h
  split at h
  · cases h
    exact .inl rfl
  · split at h
    · cases h
    · split at h
      · cases h
      · next hbounds =>
          cases h
          exact .inr hbounds

theorem collectionPage_eq_ok (h : collectionPage r = .ok (limit, offset)) :
    boundedQueryInt r "limit" defaultProxyLimit maxProxyLimit = .ok limit ∧
      boundedQueryInt r "offset" 0 0 = .ok offset := by
  unfold collectionPage at h
  split at h
  · cases h
  · next hlimit =>
      split at h
      · cases h
      · next hoffset =>
          cases h
          exact ⟨hlimit, hoffset⟩

theorem acceptedPage (h : collectionPage r = .ok (limit, offset)) : AcceptedPage limit offset := by
  obtain ⟨hlimit, hoffset⟩ := collectionPage_eq_ok h
  have hzero : (0 : Int64).toInt = 0 := by decide
  have hmaximum : maxProxyLimit.toInt = 1000 := by decide
  have hlimit : 0 < limit.toInt ∧ limit.toInt ≤ 1000 := by
    obtain rfl | hbounds := boundedQueryInt_eq_ok hlimit
    · decide
    · simp only [Int64.lt_iff_toInt_lt, ← Int64.toInt_inj, hzero, hmaximum, true_and] at hbounds
      omega
  have hoffset : 0 ≤ offset.toInt := by
    obtain rfl | hbounds := boundedQueryInt_eq_ok hoffset
    · decide
    · simp only [Int64.lt_iff_toInt_lt, ← Int64.toInt_inj, hzero] at hbounds
      omega
  exact ⟨hlimit.1, hlimit.2, hoffset⟩

/-! ## One page -/

theorem Snapshot.toInt_len (snapshot : Snapshot α) :
    snapshot.len.toInt = snapshot.items.length := by
  have hbound : snapshot.items.length < 2 ^ 63 :=
    lt_of_le_of_lt snapshot.bounded (by decide)
  exact Int64.toInt_ofNat_of_lt hbound

theorem toInt_min (a b : Int64) : (min a b).toInt = min a.toInt b.toInt := by
  change (if a ≤ b then a else b).toInt = _
  split
  · next hle =>
      rw [min_eq_left (Int64.le_iff_toInt_le.mp hle)]
  · next hlt =>
      rw [Int64.le_iff_toInt_le, Int.not_le] at hlt
      rw [min_eq_right (Int.le_of_lt hlt)]

/-- The elements from an offset on, as many as the limit where there are that many. -/
def Snapshot.pageAt (snapshot : Snapshot α) (limit offset : Nat) : List α :=
  (snapshot.items.drop offset).take limit

/-- The offset that `pageItems` returns: one beyond the end is the end. -/
def Snapshot.clamp (snapshot : Snapshot α) (offset : Int64) : Int64 :=
  if offset > snapshot.len then snapshot.len else offset

theorem Snapshot.toInt_clamp (snapshot : Snapshot α) (offset : Int64) :
    (snapshot.clamp offset).toInt = min offset.toInt snapshot.items.length := by
  rw [clamp]
  split
  · next hgt =>
      rw [gt_iff_lt, Int64.lt_iff_toInt_lt, toInt_len] at hgt
      rw [toInt_len, min_eq_right (Int.le_of_lt hgt)]
  · next hle =>
      rw [gt_iff_lt, Int64.lt_iff_toInt_lt, toInt_len, Int.not_lt] at hle
      rw [min_eq_left hle]

/-- The end of an accepted page is computed without overflow. -/
theorem AcceptedPage.toInt_end (h : AcceptedPage limit offset) (snapshot : Snapshot α) :
    (snapshot.clamp offset + limit).toInt = (snapshot.clamp offset).toInt + limit.toInt := by
  obtain ⟨hpos, hle, hoffset⟩ := h
  have hclamp := snapshot.toInt_clamp offset
  have hbounded : snapshot.items.length ≤ 2 ^ 48 := snapshot.bounded
  -- the offset is clamped first, so it is the length that bounds the sum and not the query
  exact GoTime.toInt_add_of_lt (by omega) (by omega)

/-- A slice between two clamped bounds. -/
theorem drop_take_clamped (items : List α) (limit offset : Nat) :
    (items.take (min (min offset items.length + limit) items.length)).drop
      (min offset items.length) = (items.drop offset).take limit := by
  rw [List.drop_take]
  rcases Nat.le_total items.length offset with hend | hinside
  · rw [min_eq_right hend, List.drop_length, List.drop_eq_nil_of_le hend, List.take_nil,
      List.take_nil]
  · rw [min_eq_left hinside, List.take_eq_take_iff, List.length_drop]
    omega

theorem AcceptedPage.slice (h : AcceptedPage limit offset) (snapshot : Snapshot α) :
    snapshot.slice (snapshot.clamp offset) (min (snapshot.clamp offset + limit) snapshot.len) =
      some (snapshot.pageAt limit.toInt.toNat offset.toInt.toNat) := by
  have hclamp := snapshot.toInt_clamp offset
  have hend := toInt_min (snapshot.clamp offset + limit) snapshot.len
  rw [h.toInt_end, snapshot.toInt_len, hclamp] at hend
  obtain ⟨hpos, hle, hoffset⟩ := h
  have hzero : (0 : Int64).toInt = 0 := by decide
  rw [Snapshot.slice, if_pos, hend, hclamp, Snapshot.pageAt, ← drop_take_clamped]
  · congr 3
    · omega
    · omega
  · rw [Int64.le_iff_toInt_le, Int64.le_iff_toInt_le, Int64.le_iff_toInt_le, hend, hclamp, hzero,
      snapshot.toInt_len]
    omega

theorem AcceptedPage.pageItems (h : AcceptedPage limit offset) (snapshot : Snapshot α) :
    pageItems snapshot limit offset = some
      (snapshot.pageAt limit.toInt.toNat offset.toInt.toNat, snapshot.clamp offset, snapshot.len) := by
  change Option.map _ (snapshot.slice (snapshot.clamp offset)
    (min (snapshot.clamp offset + limit) snapshot.len)) = _
  rw [h.slice]
  rfl

/-- No request panics a handler, whatever it lists. -/
theorem isSome_handleCollection (snapshot : Except String (Snapshot α)) (r : CollectionRequest) :
    (APIServer.handleCollection snapshot r).isSome = true := by
  unfold APIServer.handleCollection
  split
  · rfl
  · next hpage =>
      split
      · rfl
      · rw [(acceptedPage hpage).pageItems]
        rfl

/-! ## All pages -/

/-- The first pages of one limit are the first elements. -/
theorem Snapshot.flatten_pages (snapshot : Snapshot α) (limit count : Nat) :
    ((List.range count).map fun k => snapshot.pageAt limit (k * limit)).flatten =
      snapshot.items.take (count * limit) := by
  induction count with
  | zero => rw [Nat.zero_mul, List.take_zero]; rfl
  | succ count ih =>
      rw [List.range_succ, List.map_append, List.flatten_append, ih, Nat.succ_mul, List.take_add]
      simp [Snapshot.pageAt]

/-- An offset is read as it was written. -/
theorem boundedQueryInt_atOffset (r : CollectionRequest) {start : Nat} (h : start < 2 ^ 63) :
    boundedQueryInt (r.atOffset start) "offset" 0 0 = .ok (.ofNat start) := by
  have hraw : (r.atOffset start).query "offset" = utf8 (toString start) := rfl
  have hvalue : (Int64.ofInt ↑start).toInt = start :=
    Int64.toInt_ofInt_of_le (by omega) (by omega)
  have hbounds : ¬(Int64.ofInt ↑start < 0 ∨ ((0 : Int64) < 0 ∧ 0 < Int64.ofInt ↑start) ∨
      ("offset" = "limit" ∧ Int64.ofInt ↑start = 0)) := by
    rintro (hneg | ⟨hmaximum, -⟩ | ⟨hname, -⟩)
    · rw [Int64.lt_iff_toInt_lt, hvalue] at hneg
      exact absurd hneg (Int.not_lt.mpr (Int.natCast_nonneg start))
    · exact absurd hmaximum (by decide)
    · exact absurd hname (by decide)
  rw [boundedQueryInt, hraw]
  dsimp only
  rw [if_neg (Net.toString_ne_nil start), Net.atoi_toString h]
  dsimp only
  rw [if_neg hbounds, Int64.ofInt_eq_ofNat]

theorem collectionPage_atOffset {start : Nat} (h : collectionPage r = .ok (limit, offset))
    (hstart : start < 2 ^ 63) : collectionPage (r.atOffset start) = .ok (limit, .ofNat start) := by
  have hlimit : boundedQueryInt (r.atOffset start) "limit" defaultProxyLimit maxProxyLimit =
      .ok limit := (collectionPage_eq_ok h).1
  rw [collectionPage, hlimit, boundedQueryInt_atOffset r hstart]

/-- An offset within the snapshot is answered with its page. -/
theorem handleCollection_atOffset (h : collectionPage r = .ok (limit, offset))
    (snapshot : Snapshot α) {start : Nat} (hstart : start ≤ snapshot.items.length) :
    APIServer.handleCollection (.ok snapshot) (r.atOffset start) =
      some (.page (snapshot.pageAt limit.toInt.toNat start) limit (.ofNat start) snapshot.len) := by
  have hbounded : snapshot.items.length ≤ 2 ^ 48 := snapshot.bounded
  have hpage : collectionPage (r.atOffset start) = .ok (limit, .ofNat start) :=
    collectionPage_atOffset h (by omega)
  have hvalue : (Int64.ofNat start).toInt = start := Int64.toInt_ofNat_of_lt (by omega)
  have hclamp : snapshot.clamp (.ofNat start) = .ofNat start := by
    rw [← Int64.toInt_inj, snapshot.toInt_clamp, hvalue]
    omega
  rw [APIServer.handleCollection, hpage]
  dsimp only
  rw [(acceptedPage hpage).pageItems, hclamp, hvalue]
  rfl

/-- What is accepted is answered with the page at its offset, which is within the snapshot; the end of
the page is the sum of its offset and its limit. An offset that is not before the end is answered with
no element. The pages of the limit, one for each of its multiples up to the total, are the snapshot. -/
theorem collectionPage_pages (snapshot : Snapshot α) (r : CollectionRequest) (limit offset : Int64)
    (h : collectionPage r = .ok (limit, offset)) :
    (pageItems snapshot limit offset = some (snapshot.pageAt limit.toInt.toNat offset.toInt.toNat,
        snapshot.clamp offset, snapshot.len) ∧
      snapshot.len.toInt = snapshot.items.length ∧
      (snapshot.clamp offset).toInt = min offset.toInt snapshot.items.length ∧
      (snapshot.clamp offset + limit).toInt = (snapshot.clamp offset).toInt + limit.toInt) ∧
    (snapshot.items.length ≤ offset.toInt →
      pageItems snapshot limit offset = some ([], snapshot.len, snapshot.len)) ∧
    ((List.range (snapshot.items.length / limit.toInt.toNat + 1)).map fun k =>
      snapshot.pageAt limit.toInt.toNat (k * limit.toInt.toNat)).flatten = snapshot.items ∧
    ∀ handler ∈ [APIServer.handlePools snapshot, APIServer.handleProxies snapshot,
        APIServer.handleCells (.ok snapshot)],
      ∀ k ≤ snapshot.items.length / limit.toInt.toNat,
        handler (r.atOffset (k * limit.toInt.toNat)) =
          some (.page (snapshot.pageAt limit.toInt.toNat (k * limit.toInt.toNat)) limit
            (.ofNat (k * limit.toInt.toNat)) snapshot.len) := by
  have haccepted := acceptedPage h
  have hpos : 0 < limit.toInt.toNat := by
    have := haccepted.limit_pos
    omega
  refine ⟨⟨haccepted.pageItems snapshot, snapshot.toInt_len, snapshot.toInt_clamp offset,
    haccepted.toInt_end snapshot⟩, ?_, ?_, ?_⟩
  · intro hend
    have hclamp : snapshot.clamp offset = snapshot.len := by
      rw [← Int64.toInt_inj, snapshot.toInt_clamp, snapshot.toInt_len, min_eq_right hend]
    rw [haccepted.pageItems, hclamp, Snapshot.pageAt, List.drop_eq_nil_of_le (by omega),
      List.take_nil]
  · rw [snapshot.flatten_pages, List.take_of_length_le]
    exact Nat.le_of_lt (Nat.lt_mul_of_div_lt (Nat.lt_succ_self _) hpos)
  · intro handler hhandler k hk
    have hcollection : handler = APIServer.handleCollection (.ok snapshot) := by
      simp only [List.mem_cons, List.not_mem_nil, or_false] at hhandler
      obtain rfl | rfl | rfl := hhandler
      · rfl
      · rfl
      · rfl
    rw [hcollection]
    exact handleCollection_atOffset h snapshot ((Nat.le_div_iff_mul_le hpos).mp hk)

/-- A snapshot of three, and the largest offset that there is. -/
def Schedule.beyondTheEnd : Snapshot String × CollectionRequest :=
  (⟨["de", "fr", "nl"], by decide⟩,
    ⟨fun name => if name = "limit" then utf8 "2" else utf8 "9223372036854775807"⟩)

open Schedule in
theorem collectionPage_pages_beyond :
    pageItems beyondTheEnd.1 2 9223372036854775807 = some ([], 3, 3) ∧
    APIServer.handlePools beyondTheEnd.1 (beyondTheEnd.2.atOffset 2) =
      some (.page ["nl"] 2 2 3) := by
  have hpages := collectionPage_pages beyondTheEnd.1 beyondTheEnd.2 2 9223372036854775807 rfl
  refine ⟨hpages.2.1 (by decide), ?_⟩
  exact hpages.2.2.2 _ List.mem_cons_self 1 (by decide)

end Pr0xteus
