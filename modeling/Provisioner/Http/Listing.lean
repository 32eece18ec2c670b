import Provisioner.Error
import Provisioner.Program
import Provisioner.Resource.Label

/-!
# Listings

A list is answered whole or page by page. Pages are asked for one after the other until as many items have
come as the last page says there are, or a page is empty.
-/
namespace Provisioner

/-- An answer to a request for a list. -/
inductive Listing (α : Type) where
  | whole (items : List α)
  | part (page : Page α)
  deriving Repr

namespace Listing
variable {α : Type}

/-- Reads a list as an array, else as a page. The text has to be sound before either is tried. -/
def read (item : Shape α) (source : Source) : Except ReadError (Listing α) := do
  liftSyntax source.check
  match item.list.read .document source with
  | .ok items => return .whole items
  | .error _ =>
    match (Page.shape item).read .document source with
    | .ok page => return .part page
    | .error _ => .error (.noVariant "Listing")

/-- A list as a document. -/
def shape (item : Shape α) : Shape (Listing α) where
  read _ source := read item source
  write
    | whole items => item.list.write items
    | part page => (Page.shape item).write page

/-- How many items a page holds. -/
def itemsPerPage : Nat := 100

/-- The parameters of the request for a page. The number of a page fits 31 bits. It is counted without a bound here, so
a listing that goes on to page `2 ^ 31` is outside of what is described. -/
def parameters (pageNumber : Nat) : List (String × String) :=
  [("itemsPerPage", toString itemsPerPage), ("pageNum", toString pageNumber)]

/-- No page follows one that is empty or after which all items have come. -/
def isLast (collected : List α) (page : Page α) : Bool :=
  page.results.isEmpty || page.totalCount.toNat ≤ collected.length + page.results.length

/-- Asks for the pages from a page on. Every page but the last adds an item, and no page says that there are
`2 ^ 64` items, so there is a last one. The page numbers do not run out here (see `parameters`). -/
def collect {ι : Interface} {ε : Type} (ask : Nat → Program ι ε (Except GatewayError (Listing α)))
    (pageNumber : Nat) (collected : List α) : Program ι ε (Except GatewayError (List α)) := do
  match ← ask pageNumber with
  | .error error => return .error error
  | .ok (.whole items) => return .ok items
  | .ok (.part page) =>
    if _last : isLast collected page then return .ok (collected ++ page.results)
    else collect ask (pageNumber + 1) (collected ++ page.results)
termination_by UInt64.size - collected.length
decreasing_by
  have bound := page.totalCount.toNat_lt
  simp only [isLast, Bool.or_eq_true, List.isEmpty_iff, decide_eq_true_eq, not_or, Nat.not_le] at _last
  have some_ : 0 < page.results.length := List.length_pos_iff.2 _last.1
  have := _last.2
  simp only [UInt64.size, List.length_append]
  omega

/-- Asks for all items of a list. -/
def all {ι : Interface} {ε : Type} (ask : Nat → Program ι ε (Except GatewayError (Listing α))) :
    Program ι ε (Except GatewayError (List α)) :=
  collect ask 1 []

end Listing

end Provisioner
