import Provisioner.Json.Record

/-!
# Labels, time limits and pages

Records that resources of several families have in common.
-/
namespace Provisioner

/-- A key and a value attached to a resource. -/
structure Label where
  key : String
  value : String
  deriving DecidableEq, Repr

namespace Label

/-- How labels are read and written. -/
def record : Record Label where
  name := "Label"
  fields := .cons (.required "key" .string) <| .cons (.required "value" .string) .none
  ofRow := fun (key, value, ()) => { key, value }
  toRow := fun label => (label.key, label.value, ())

/-- A label as a document. -/
def shape : Shape Label := record.shape

end Label

/-- How long operations may take. -/
structure Timeouts where
  create : Option String := none
  deriving DecidableEq, Repr

namespace Timeouts

/-- How time limits are read and written. -/
def record : Record Timeouts where
  name := "Timeouts"
  fields := .cons (.optional "create" .string) .none
  ofRow := fun (create, ()) => { create }
  toRow := fun timeouts => (timeouts.create, ())

/-- Time limits as a document. -/
def shape : Shape Timeouts := record.shape

end Timeouts

/-- A part of a list, and how long the whole list is said to be. -/
structure Page (α : Type) where
  results : List α
  totalCount : UInt64
  deriving Repr

namespace Page
variable {α : Type}

/-- How pages are read and written. -/
def record (item : Shape α) : Record (Page α) where
  name := "Page"
  fields :=
    .cons (.listed "results" item) <|
    .cons { name := "totalCount", shape := .uint64, presence := .defaulted 0 } .none
  ofRow := fun (results, totalCount, ()) => { results, totalCount }
  toRow := fun page => (page.results, page.totalCount, ())

/-- A page as a document. -/
def shape (item : Shape α) : Shape (Page α) := (record item).shape

end Page

end Provisioner
