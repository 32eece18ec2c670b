import Provisioner.Tag

/-!
# Operations and families

A resource of one of four families can be created, updated and deleted. Each of these operations may take
many steps. Contexts and callers name families and operations by their tags.
-/
namespace Provisioner

/-- An operation that can be resumed. -/
inductive Operation where
  | create
  | update
  | delete
  deriving DecidableEq, Repr

namespace Operation

instance : Tagged Operation where
  variants := [create, update, delete]
  tag
    | create => "create"
    | update => "update"
    | delete => "delete"

/-- The operation with a tag. -/
def ofTag? (text : String) : Option Operation := Tagged.ofTag? text

/-- The tag of an operation. -/
def tag (operation : Operation) : String := Tagged.tag operation

/-- What messages call the operation. -/
def noun : Operation → String
  | create => "creation"
  | update => "update"
  | delete => "deletion"

end Operation

/-- A tag that no operation has. -/
structure UnknownOperation where
  text : String
  deriving DecidableEq, Repr

/-- The wording of an unknown operation. -/
def UnknownOperation.message (unknown : UnknownOperation) : String :=
  s!"unknown operation: {unknown.text}"

/-- The operation with a tag, or what is wrong with the tag. -/
def Operation.parse (text : String) : Except UnknownOperation Operation :=
  match ofTag? text with
  | some operation => .ok operation
  | none => .error ⟨text⟩

/-- A kind of resource. -/
inductive Family where
  | cluster
  | streamProcessor
  | privateEndpoint
  | exportJob
  deriving DecidableEq, Repr

namespace Family

instance : Tagged Family where
  variants := [cluster, streamProcessor, privateEndpoint, exportJob]
  tag
    | cluster => "cluster"
    | streamProcessor => "stream-processor"
    | privateEndpoint => "private-endpoint"
    | exportJob => "export-job"

/-- The family with a tag. -/
def ofTag? (text : String) : Option Family := Tagged.ofTag? text

/-- The tag of a family. -/
def tag (family : Family) : String := Tagged.tag family

/-- What messages call a resource of the family. -/
def label : Family → String
  | cluster => "cluster"
  | streamProcessor => "stream processor"
  | privateEndpoint => "private endpoint"
  | exportJob => "export job"

end Family

end Provisioner
