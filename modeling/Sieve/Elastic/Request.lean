/-
Search requests: a query, and which page of the hits is wanted. Pages are counted
from one, up to a hundred, and have up to five hundred hits.
-/

import Sieve.Elastic.Query

namespace Sieve.Elastic

open Sieve.Filter (Defect Tree)

def lastPage : Nat := 100

def largestPage : Nat := 500

structure Request where
  filter : Option Tree
  page : Nat
  limit : Nat
  pageInRange : 1 ≤ page ∧ page ≤ lastPage
  limitInRange : 1 ≤ limit ∧ limit ≤ largestPage

/-- Which part of a request is out of range. -/
inductive PaginationFault where
  | page (wanted : Nat)
  | limit (wanted : Nat)
deriving DecidableEq, Repr

def PaginationFault.message : PaginationFault → String
  | .page wanted => s!"page must be between 1 and {lastPage}, got {wanted}"
  | .limit wanted => s!"limit must be between 1 and {largestPage}, got {wanted}"

namespace Request

/-- The request for a page, if there can be such a page. The page is checked before its size. -/
def of (filter : Option Tree) (page limit : Nat) : Except PaginationFault Request :=
  if pageInRange : 1 ≤ page ∧ page ≤ lastPage then
    if limitInRange : 1 ≤ limit ∧ limit ≤ largestPage then
      .ok ⟨filter, page, limit, pageInRange, limitInRange⟩
    else .error (.limit limit)
  else .error (.page page)

/-- The number of hits before the page. -/
def offset (request : Request) : Nat :=
  (request.page - 1) * request.limit

/-- Where the page starts and how long it is, as members of a document. -/
def window (request : Request) : List (String × Json) :=
  [("from", Json.ofNatural (UInt64.ofNat request.offset)),
   ("size", Json.ofNatural (UInt64.ofNat request.limit))]

/-- The request as a document; without a filter it has no query. -/
def body (limit : Nat) (request : Request) : Except Defect Json :=
  match request.filter with
  | none => .ok (.mapping request.window)
  | some tree =>
    (compileQuery limit tree).map fun query => .mapping (("query", query) :: request.window)

end Request

end Sieve.Elastic
