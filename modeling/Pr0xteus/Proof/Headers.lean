import Pr0xteus.HttpProxy

/-!
# The headers of one hop

Deleting a name does not depend on the order of the loop that looks for it. Going over the
`Connection` headers does: a value may nominate `Connection` itself, and then the loop does not reach
the other keys of that name, nor what they nominate. The headers that are stripped alike in every
order are characterised exactly.
-/

namespace Pr0xteus

open Encoding Utf8

variable {fold : CaseFold}

section Nominations

variable {name name' : List UInt8} {header header' : Header}

def isConnection (fold : CaseFold) (name : List UInt8) : Bool :=
  equalFold fold name (utf8 "Connection")

/-- One of the values has the name among its comma-separated parts. -/
def nominates (fold : CaseFold) (values : List (List UInt8)) (name : List UInt8) : Bool :=
  values.any fun value =>
    (value.splitOn ','.toUInt8).any fun target => equalFold fold name (trimSpace target)

theorem equalFold_congr (h : equalFold fold name name' = true) (target : List UInt8) :
    equalFold fold name target = equalFold fold name' target := by
  rw [equalFold, beq_iff_eq] at h
  rw [equalFold, equalFold, h]

theorem nominates_congr (h : equalFold fold name name' = true) (values : List (List UInt8)) :
    nominates fold values name = nominates fold values name' := by
  have hsame : equalFold fold name = equalFold fold name' := by
    funext target
    exact equalFold_congr h target
  rw [nominates, nominates, hsame]

/-- What a loop over the keys in this order gets to strip by: the values of the `Connection` keys, up
to the first that nominate `Connection`. -/
def reached (fold : CaseFold) (header : Header) : List (List UInt8) → List (List (List UInt8))
  | [] => []
  | key :: order =>
      match header.lookup key with
      | none => reached fold header order
      | some values =>
          if !isConnection fold key then reached fold header order
          else if nominates fold values (utf8 "Connection") then [values]
          else values :: reached fold header order

variable {key : List UInt8} {values : List (List UInt8)} {order : List (List UInt8)}

theorem reached_cons_none (hkey : header.lookup key = none) :
    reached fold header (key :: order) = reached fold header order := by
  rw [reached, hkey]

theorem reached_cons_other (hkey : header.lookup key = some values)
    (hconn : isConnection fold key = false) :
    reached fold header (key :: order) = reached fold header order := by
  rw [reached, hkey]
  simp [hconn]

theorem reached_cons_last (hkey : header.lookup key = some values)
    (hconn : isConnection fold key = true)
    (hself : nominates fold values (utf8 "Connection") = true) :
    reached fold header (key :: order) = [values] := by
  rw [reached, hkey]
  simp [hconn, hself]

theorem reached_cons_more (hkey : header.lookup key = some values)
    (hconn : isConnection fold key = true)
    (hself : nominates fold values (utf8 "Connection") = false) :
    reached fold header (key :: order) = values :: reached fold header order := by
  rw [reached, hkey]
  simp [hconn, hself]

/-- It depends on the `Connection` keys only. -/
theorem reached_congr
    (h : ∀ key, isConnection fold key = true → header.lookup key = header'.lookup key) :
    reached fold header order = reached fold header' order := by
  induction order with
  | nil => rfl
  | cons key order ih =>
      cases hconn : isConnection fold key with
      | true => rw [reached, reached, h key hconn, ih]
      | false =>
          simp only [reached, hconn, ih]
          cases header.lookup key <;> cases header'.lookup key <;> simp

theorem reached_eq_nil (h : ∀ key, isConnection fold key = true → header.lookup key = none) :
    reached fold header order = [] := by
  have hempty : reached fold header order = reached fold ∅ order := reached_congr h
  rw [hempty]
  induction order with
  | nil => rfl
  | cons key order ih => exact ih (reached_congr h)

theorem exists_of_mem_reached (h : values ∈ reached fold header order) :
    ∃ key, header.lookup key = some values ∧ isConnection fold key = true := by
  induction order with
  | nil => cases h
  | cons key order ih =>
      cases hkey : header.lookup key with
      | none => exact ih (reached_cons_none hkey ▸ h)
      | some found =>
          cases hconn : isConnection fold key with
          | false => exact ih (reached_cons_other hkey hconn ▸ h)
          | true =>
              cases hself : nominates fold found (utf8 "Connection") with
              | true =>
                  rw [reached_cons_last hkey hconn hself, List.mem_singleton] at h
                  exact ⟨key, h ▸ hkey, hconn⟩
              | false =>
                  rw [reached_cons_more hkey hconn hself] at h
                  cases h with
                  | head => exact ⟨key, hkey, hconn⟩
                  | tail _ h => exact ih h

/-- A `Connection` key is reached, unless one that nominates `Connection` is. -/
theorem mem_reached (hmem : key ∈ order) (hlookup : header.lookup key = some values)
    (hconnection : isConnection fold key = true) :
    values ∈ reached fold header order ∨
      ∃ shadowing ∈ reached fold header order, nominates fold shadowing (utf8 "Connection") = true := by
  induction order with
  | nil => cases hmem
  | cons first order ih =>
      cases hfirst : header.lookup first with
      | none =>
          rw [reached_cons_none hfirst]
          cases hmem with
          | head => rw [hlookup] at hfirst; cases hfirst
          | tail _ hmem => exact ih hmem
      | some found =>
          cases hconn : isConnection fold first with
          | false =>
              rw [reached_cons_other hfirst hconn]
              cases hmem with
              | head => rw [hconnection] at hconn; cases hconn
              | tail _ hmem => exact ih hmem
          | true =>
              cases hself : nominates fold found (utf8 "Connection") with
              | true =>
                  rw [reached_cons_last hfirst hconn hself]
                  exact .inr ⟨found, List.mem_singleton_self _, hself⟩
              | false =>
                  rw [reached_cons_more hfirst hconn hself]
                  cases hmem with
                  | head =>
                      cases hlookup.symm.trans hfirst
                      exact .inl List.mem_cons_self
                  | tail _ hmem =>
                      obtain h | ⟨shadowing, h, hshadows⟩ := ih hmem
                      · exact .inl (List.mem_cons_of_mem _ h)
                      · exact .inr ⟨shadowing, List.mem_cons_of_mem _ h, hshadows⟩

end Nominations

section Deletions

variable (orders : HeaderOrders) (s : HeaderState) (name : List UInt8)

theorem lookup_deleteHTTPHeader (target : List UInt8) :
    (deleteHTTPHeader fold orders s target).header.lookup name =
      if equalFold fold name target = true then none else s.header.lookup name :=
  FinMap.lookup_range_erase_of_perm (fun name => equalFold fold name target) (orders.perm _ _) name

/-- Steps that each delete the names passing a test of their own. -/
theorem lookup_foldl_delete {γ : Type} {step : HeaderState → γ → HeaderState}
    {deletes : γ → List UInt8 → Bool}
    (hstep : ∀ s x, (step s x).header.lookup name =
      if deletes x name = true then none else s.header.lookup name) (l : List γ) :
    (l.foldl step s).header.lookup name =
      if l.any (deletes · name) = true then none else s.header.lookup name := by
  induction l generalizing s with
  | nil => simp
  | cons x l ih =>
      rw [List.foldl_cons, ih, hstep, List.any_cons]
      cases deletes x name <;> simp

theorem lookup_stripNominatedBy {key : List UInt8} (values : List (List UInt8))
    (hconn : isConnection fold key = true) :
    (stripNominatedBy fold orders s key values).header.lookup name =
      if nominates fold values name = true then none else s.header.lookup name := by
  rw [isConnection] at hconn
  rw [stripNominatedBy, hconn, Bool.not_true, if_neg Bool.false_ne_true]
  apply lookup_foldl_delete
  intro s value
  apply lookup_foldl_delete
  intro s target
  exact lookup_deleteHTTPHeader orders s name (trimSpace target)

theorem stripNominatedBy_other {key : List UInt8} {values : List (List UInt8)}
    (hconn : isConnection fold key = false) : stripNominatedBy fold orders s key values = s := by
  rw [isConnection] at hconn
  rw [stripNominatedBy, hconn, Bool.not_false, if_pos rfl]

/-- The loop over the `Connection` keys, in any order. -/
theorem lookup_range_strip (order : List (List UInt8)) :
    (FinMap.range HeaderState.header (stripNominatedBy fold orders) order s).header.lookup name =
      if (reached fold s.header order).any (nominates fold · name) = true then none
      else s.header.lookup name := by
  induction order generalizing s with
  | nil => simp [FinMap.range, reached]
  | cons key order ih =>
      cases hkey : s.header.lookup key with
      | none => rw [FinMap.range_cons_none hkey, reached_cons_none hkey, ih]
      | some values =>
          rw [FinMap.range_cons_some hkey]
          cases hconn : isConnection fold key with
          | false => rw [stripNominatedBy_other orders s hconn, reached_cons_other hkey hconn, ih]
          | true =>
              have hstrip := fun name => lookup_stripNominatedBy orders s name values hconn
              cases hself : nominates fold values (utf8 "Connection") with
              | true =>
                  -- no `Connection` key is left, so the rest of the loop does nothing
                  have hrest : reached fold (stripNominatedBy fold orders s key values).header
                      order = [] := by
                    apply reached_eq_nil
                    intro other hother
                    rw [hstrip, nominates_congr hother, if_pos hself]
                  rw [ih, hrest, reached_cons_last hkey hconn hself, hstrip]
                  simp
              | false =>
                  have hrest : reached fold (stripNominatedBy fold orders s key values).header
                      order = reached fold s.header order := by
                    apply reached_congr
                    intro other hother
                    rw [hstrip, nominates_congr hother, hself, if_neg Bool.false_ne_true]
                  rw [ih, hrest, reached_cons_more hkey hconn hself, hstrip, List.any_cons]
                  cases nominates fold values name <;> simp

def listed (fold : CaseFold) (names : List String) (name : List UInt8) : Bool :=
  names.any fun listedName => equalFold fold name (utf8 listedName)

theorem lookup_stripHeaders (names : List String) (header : Header) :
    (stripHeaders fold orders names header).lookup name =
      if listed fold names name = true ∨
          (reached fold header (orders.order 0 header)).any (nominates fold · name) = true then none
      else header.lookup name := by
  have hnames : (stripHeaders fold orders names header).lookup name =
      if listed fold names name = true then none
      else (stripConnectionNominatedHeaders fold orders ⟨header, 0⟩).header.lookup name := by
    unfold stripHeaders listed
    apply lookup_foldl_delete
    intro s listedName
    exact lookup_deleteHTTPHeader orders s name (utf8 listedName)
  have hnominated : (stripConnectionNominatedHeaders fold orders ⟨header, 0⟩).header.lookup name =
      if (reached fold header (orders.order 0 header)).any (nominates fold · name) = true then none
      else header.lookup name :=
    lookup_range_strip orders ⟨header, 1⟩ name (orders.order 0 header)
  rw [hnames, hnominated]
  cases listed fold names name <;> simp

end Deletions

section Stripping

variable {names : List String} {header : Header}

/-- A key of the map equal to `Connection` has a value that nominates the name. -/
def Nominated (fold : CaseFold) (header : Header) (name : List UInt8) : Prop :=
  ∃ key values, header.lookup key = some values ∧ isConnection fold key = true ∧
    nominates fold values name = true

/-- The names that are listed or nominated are gone, and every other has the values it had. -/
def Stripped (fold : CaseFold) (names : List String) (before after : Header) : Prop :=
  ∀ name,
    (listed fold names name = true ∨ Nominated fold before name → after.lookup name = none) ∧
    (¬(listed fold names name = true ∨ Nominated fold before name) →
      after.lookup name = before.lookup name)

/-- A `Connection` key that nominates `Connection` nominates, of the keys that are not listed, all
those that any of them does. -/
def Unshadowed (fold : CaseFold) (names : List String) (header : Header) : Prop :=
  ∀ key values, header.lookup key = some values → isConnection fold key = true →
    nominates fold values (utf8 "Connection") = true →
      ∀ name ∈ header, Nominated fold header name →
        listed fold names name = true ∨ nominates fold values name = true

/-- Loops that begin with this key, where it is there. -/
def startingAt (key : List UInt8) : HeaderOrders where
  order _ header := if key ∈ header.keys then key :: header.keys.erase key else header.keys
  perm _ header := by
    split
    · next hkey => exact (List.perm_cons_erase hkey).symm
    · exact .refl _

theorem unshadowed_of_stripped
    (h : ∀ orders, Stripped fold names header (stripHeaders fold orders names header)) :
    Unshadowed fold names header := by
  intro key values hkey hconn hself name hname hnominated
  have hmem : key ∈ header.keys := by
    apply AList.lookup_isSome.mp
    rw [hkey]
    rfl
  have hreached : reached fold header ((startingAt key).order 0 header) = [values] := by
    have horder : (startingAt key).order 0 header = key :: header.keys.erase key := if_pos hmem
    rw [horder]
    exact reached_cons_last hkey hconn hself
  have hgone := (h (startingAt key) name).1 (.inr hnominated)
  rw [lookup_stripHeaders, hreached] at hgone
  by_contra hkept
  rw [not_or] at hkept
  rw [if_neg (by simp [hkept]), AList.lookup_eq_none] at hgone
  exact hgone hname

theorem stripped_of_unshadowed (h : Unshadowed fold names header) (orders : HeaderOrders) :
    Stripped fold names header (stripHeaders fold orders names header) := by
  intro name
  rw [lookup_stripHeaders]
  constructor
  · intro hdelete
    by_cases hname : name ∈ header
    · apply if_pos
      obtain hlisted | ⟨key, values, hkey, hconn, hnominates⟩ := hdelete
      · exact .inl hlisted
      · have hmem : key ∈ orders.order 0 header := by
          rw [(orders.perm 0 header).mem_iff]
          apply AList.lookup_isSome.mp
          rw [hkey]
          rfl
        rw [List.any_eq_true]
        obtain hreached | ⟨shadowing, hreached, hself⟩ := mem_reached hmem hkey hconn
        · exact .inr ⟨values, hreached, hnominates⟩
        · obtain ⟨other, hother, hotherConn⟩ := exists_of_mem_reached hreached
          have hnominated : Nominated fold header name := ⟨key, values, hkey, hconn, hnominates⟩
          obtain hlisted | hcovers := h other shadowing hother hotherConn hself name hname hnominated
          · exact .inl hlisted
          · exact .inr ⟨shadowing, hreached, hcovers⟩
    · rw [AList.lookup_eq_none.mpr hname, ite_self]
  · intro hkept
    apply if_neg
    rintro (hlisted | hreached)
    · exact hkept (.inl hlisted)
    · obtain ⟨values, hvalues, hnominates⟩ := List.any_eq_true.mp hreached
      obtain ⟨key, hkey, hconn⟩ := exists_of_mem_reached hvalues
      exact hkept (.inr ⟨key, values, hkey, hconn, hnominates⟩)

end Stripping

/-- The headers of a request, and those of a response, are stripped as they should be in every order
of iteration exactly when no `Connection` key shadows what another nominates. -/
theorem stripProxyHeaders_iff (fold : CaseFold) (header : Header) :
    ((∀ orders, Stripped fold requestHopHeaders header
        (stripProxyRequestHeaders fold orders header)) ↔
      Unshadowed fold requestHopHeaders header) ∧
    ((∀ orders, Stripped fold responseHopHeaders header
        (stripProxyResponseHeaders fold orders header)) ↔
      Unshadowed fold responseHopHeaders header) :=
  ⟨⟨unshadowed_of_stripped, stripped_of_unshadowed⟩,
    ⟨unshadowed_of_stripped, stripped_of_unshadowed⟩⟩

/-- The first key is deleted with its own nomination, and the second is never reached. -/
theorem not_stripped_shadowed :
    let header : Header :=
      (((∅ : Header).insert (utf8 "x-secret") [utf8 "v"]).insert (utf8 "connection")
        [utf8 "x-secret"]).insert (utf8 "Connection") [utf8 "connection"]
    Nominated .ascii header (utf8 "x-secret") ∧
      (stripProxyRequestHeaders .ascii (startingAt (utf8 "Connection")) header).lookup
        (utf8 "x-secret") = some [utf8 "v"] ∧
      (stripProxyResponseHeaders .ascii (startingAt (utf8 "Connection")) header).lookup
        (utf8 "x-secret") = some [utf8 "v"] ∧
      ¬Stripped .ascii requestHopHeaders header
        (stripProxyRequestHeaders .ascii (startingAt (utf8 "Connection")) header) := by
  intro header
  have hnominated : Nominated .ascii header (utf8 "x-secret") :=
    ⟨utf8 "connection", [utf8 "x-secret"], by decide +kernel, by decide +kernel, by decide +kernel⟩
  have hkept : (stripProxyRequestHeaders .ascii (startingAt (utf8 "Connection")) header).lookup
      (utf8 "x-secret") = some [utf8 "v"] := by
    decide +kernel
  refine ⟨hnominated, hkept, by decide +kernel, fun hstripped => ?_⟩
  have hgone := (hstripped (utf8 "x-secret")).1 (.inr hnominated)
  rw [hkept] at hgone
  cases hgone

end Pr0xteus
