import Pr0xteus.Lib.Base64
import Pr0xteus.Lib.FinMap
import Pr0xteus.Lib.Url
import Pr0xteus.Lib.Utf8

/-!
# Requests through the HTTP proxy

What the HTTP gateway reads from a request and what it takes out before it forwards one: the lease
credentials of `Proxy-Authorization`, and the headers that belong to one hop. A header is a map of
byte strings, its keys in any letter case, and each `range` loop over it goes in an order of its own.
-/

namespace Pr0xteus

open Encoding Bytes Utf8

/-- `http.Header`. -/
abbrev Header := AList fun _ : List UInt8 => List (List UInt8)

abbrev HeaderOrders := FinMap.RangeOrders (List UInt8) (List (List UInt8))

/-- `Header.Get`, for a name in canonical form. -/
def Header.get (header : Header) (name : String) : List UInt8 :=
  ((header.lookup (utf8 name)).bind List.head?).getD []

/-- `Header.Set`, for a name in canonical form. -/
def Header.set (header : Header) (name : String) (value : List UInt8) : Header :=
  header.insert (utf8 name) [value]

def httpProxyAuthHeader : String := "Proxy-Authorization"

def httpProxyBasicScheme : String := "Basic"

section Credentials

abbrev Credentials := List UInt8 × List UInt8

/-- `connectMethod.proxyAuth` of `net/http`: what a client sends for the credentials in its proxy
URL. -/
def proxyAuth (proxyURL : ParsedURL) : Option (List UInt8) :=
  proxyURL.user.map fun user =>
    utf8 "Basic " ++ Base64.encode (user.username ++ ':'.toUInt8 :: user.password.getD [])

def proxyBasicCredentials (fold : CaseFold) (header : Header) : Option Credentials :=
  match cut ' '.toUInt8 (header.get httpProxyAuthHeader) with
  | (_, none) => none
  | (scheme, some encoded) =>
      if !equalFold fold scheme (utf8 httpProxyBasicScheme) || encoded = [] then none
      else
        match Base64.decode encoded with
        | none => none
        | some decoded =>
            match cut ':'.toUInt8 decoded with
            | (_, none) => none
            | (username, some password) =>
                if username = [] ∨ password = [] then none else some (username, password)

end Credentials

section Headers

variable (fold : CaseFold) (orders : HeaderOrders)

/-- A header, and the number of loops over it that have been started. -/
structure HeaderState where
  header : Header
  loops : Nat

def deleteHTTPHeader (s : HeaderState) (target : List UInt8) : HeaderState :=
  { header := FinMap.range id
      (fun header name _ => if equalFold fold name target then header.erase name else header)
      (orders.order s.loops s.header) s.header
    loops := s.loops + 1 }

/-- The body of the loop of `stripConnectionNominatedHeaders`. -/
def stripNominatedBy (s : HeaderState) (name : List UInt8) (values : List (List UInt8)) :
    HeaderState :=
  if !equalFold fold name (utf8 "Connection") then s
  else
    values.foldl (fun s value =>
      (value.splitOn ','.toUInt8).foldl (fun s target =>
        deleteHTTPHeader fold orders s (trimSpace target)) s) s

def stripConnectionNominatedHeaders (s : HeaderState) : HeaderState :=
  FinMap.range HeaderState.header (stripNominatedBy fold orders) (orders.order s.loops s.header)
    { s with loops := s.loops + 1 }

def stripHeaders (names : List String) (header : Header) : Header :=
  let s := stripConnectionNominatedHeaders fold orders ⟨header, 0⟩
  (names.foldl (fun s name => deleteHTTPHeader fold orders s (utf8 name)) s).header

def requestHopHeaders : List String :=
  ["Connection", "Keep-Alive", "Proxy-Connection", httpProxyAuthHeader, "TE", "Trailer",
    "Transfer-Encoding", "Upgrade"]

def responseHopHeaders : List String :=
  ["Connection", "Keep-Alive", "Proxy-Connection", "TE", "Trailer", "Transfer-Encoding", "Upgrade"]

def stripProxyRequestHeaders (header : Header) : Header :=
  stripHeaders fold orders requestHopHeaders header

def stripProxyResponseHeaders (header : Header) : Header :=
  stripHeaders fold orders responseHopHeaders header

end Headers

end Pr0xteus
