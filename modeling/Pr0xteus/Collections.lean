import Pr0xteus.Api

/-!
# The collections of the admin API

The pages of the pools, of the proxies and of the cells. The views that are listed are a parameter,
and so is what `Query().Get` finds under a name of the query; nothing found is an empty value. An `int`
has 64 bits and its addition wraps. A slice expression outside of the slice is a panic, which is
`none`.
-/

namespace Pr0xteus

open Encoding
open ClientLib (writeError ErrorResponse HttpAnswer)

section Snapshots

/-- The runtime allocates no more bytes than this, for one slice as for all. -/
def maxAlloc : Nat := 2 ^ 48

/-- A slice of views. Each of them takes memory, so the length is bounded as the bytes are. -/
structure Snapshot (α : Type) where
  items : List α
  bounded : items.length ≤ maxAlloc

variable {α : Type}

/-- `len(items)`. -/
def Snapshot.len (snapshot : Snapshot α) : Int64 := .ofNat snapshot.items.length

/-- `items[low:high]`, within the length. -/
def Snapshot.slice (snapshot : Snapshot α) (low high : Int64) : Option (List α) :=
  if 0 ≤ low ∧ low ≤ high ∧ high ≤ snapshot.len then
    some ((snapshot.items.take high.toInt.toNat).drop low.toInt.toNat)
  else none

/-- The page, its offset and the total. -/
def pageItems (items : Snapshot α) (limit offset : Int64) : Option (List α × Int64 × Int64) :=
  let total := items.len
  let offset := if offset > total then total else offset
  (items.slice offset (min (offset + limit) total)).map fun page => (page, offset, total)

end Snapshots

section Query

/-- The query of a request, by name. -/
structure CollectionRequest where
  query : String → List UInt8

def defaultProxyLimit : Int64 := 100

def maxProxyLimit : Int64 := 1000

def boundedQueryInt (r : CollectionRequest) (name : String) (defaultValue maximum : Int64) :
    Except String Int64 :=
  let raw := r.query name
  if raw = [] then .ok defaultValue
  else
    match Net.atoi raw with
    | none => .error "invalid pagination value"
    | some value =>
        let value := Int64.ofInt value
        if value < 0 ∨ (0 < maximum ∧ maximum < value) ∨ (name = "limit" ∧ value = 0) then
          .error "invalid pagination value"
        else .ok value

def collectionPage (r : CollectionRequest) : Except HttpAnswer (Int64 × Int64) :=
  match boundedQueryInt r "limit" defaultProxyLimit maxProxyLimit with
  | .error _ => .error (writeError 400 .validationFailed)
  | .ok limit =>
      match boundedQueryInt r "offset" 0 0 with
      | .error _ => .error (writeError 400 .validationFailed)
      | .ok offset => .ok (limit, offset)

/-- The request that differs in its offset. -/
def CollectionRequest.atOffset (r : CollectionRequest) (offset : Nat) : CollectionRequest where
  query name := if name = "offset" then utf8 (toString offset) else r.query name

end Query

namespace APIServer

/-- What is answered to a request for a collection. -/
inductive CollectionAnswer (α : Type) where
  | refuse (answer : HttpAnswer)
  | page (items : List α) (limit offset total : Int64)

variable {View : Type}

/-- A handler of a collection, given its snapshot or why there is none. -/
def handleCollection (snapshot : Except String (Snapshot View)) (r : CollectionRequest) :
    Option (CollectionAnswer View) :=
  match collectionPage r with
  | .error answer => some (.refuse answer)
  | .ok (limit, offset) =>
      match snapshot with
      | .error _ => some (.refuse (writeError 500 .internalServerError))
      | .ok items =>
          (pageItems items limit offset).map fun (page, offset, total) =>
            .page page limit offset total

def handlePools (views : Snapshot View) (r : CollectionRequest) : Option (CollectionAnswer View) :=
  handleCollection (.ok views) r

def handleProxies (proxyViews : Snapshot View) (r : CollectionRequest) :
    Option (CollectionAnswer View) :=
  handleCollection (.ok proxyViews) r

def handleCells (cells : Except String (Snapshot View)) (r : CollectionRequest) :
    Option (CollectionAnswer View) :=
  handleCollection cells r

end APIServer

end Pr0xteus
