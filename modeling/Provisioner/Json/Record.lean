import Provisioner.Json.Shape

/-!
# Records

A record is a list of named fields, and its fields say how it is read and written. From a map, fields may
come in any order; a missing one takes its default or is refused, and a repeated one is refused. From a
list, fields come in their own order. A strict record refuses other keys, any other record skips them.
-/
namespace Provisioner

/-- What stands for a field that is not there. -/
inductive Presence (α : Type) where
  /-- The field must be there. -/
  | required
  /-- A map may leave the field out, a list may not. -/
  | optional (absent : α)
  /-- A map may leave the field out, and so may a list at its end. -/
  | defaulted (absent : α)

/-- A field of a record. -/
structure Field (α : Type) where
  name : String
  shape : Shape α
  presence : Presence α := .required
  /-- Other keys under which the field is read. -/
  aliases : List String := []
  /-- The values that are not written. -/
  omitted : α → Bool := fun _ => false

/-- The fields of a record. Their values are the components of one product, and what was read of each so far
the components of another. -/
inductive Fieldset : (ρ σ : Type) → Type 1 where
  | none : Fieldset Unit Unit
  | cons {α ρ σ : Type} (field : Field α) (rest : Fieldset ρ σ) : Fieldset (α × ρ) (Option α × σ)

namespace Fieldset

/-- Nothing was read so far. -/
def empty : {ρ σ : Type} → Fieldset ρ σ → σ
  | _, _, .none => ()
  | _, _, .cons _ rest => (Option.none, rest.empty)

/-- The names of the fields. -/
def names : {ρ σ : Type} → Fieldset ρ σ → List String
  | _, _, .none => []
  | _, _, .cons field rest => field.name :: rest.names

/-- Reads the value under a key into the slot of its field; `none` where no field has the key. -/
def store (origin : Origin) (key : String) (source : Source) :
    {ρ σ : Type} → Fieldset ρ σ → σ → Option (Except ReadError σ)
  | _, _, .none, _ => Option.none
  | _, _, .cons field rest, (slot, slots) =>
    if key = field.name ∨ key ∈ field.aliases then
      match slot with
      | some _ => some (.error (.duplicateField field.name))
      | Option.none => some ((field.shape.read origin source).map fun value => (some value, slots))
    else
      (store origin key source rest slots).map fun result => result.map fun slots => (slot, slots)

/-- Reads the fields of a map one after the other. -/
def readFields {ρ σ : Type} (strict : Bool) (origin : Origin) (fields : Fieldset ρ σ) :
    σ → List (String × Source) → Except ReadError σ
  | slots, [] => .ok slots
  | slots, (key, source) :: rest =>
    match fields.store origin key source slots with
    | some result => do fields.readFields strict origin (← result) rest
    | Option.none => do
      if strict then .error (.unknownField key fields.names)
      liftSyntax source.skip
      fields.readFields strict origin slots rest

/-- The values of the fields, with defaults for those that were not read. -/
def complete : {ρ σ : Type} → Fieldset ρ σ → σ → Except ReadError ρ
  | _, _, .none, _ => .ok ()
  | _, _, .cons field rest, (slot, slots) => do
    let value ←
      match slot, field.presence with
      | some value, _ => .ok value
      | Option.none, .required => .error (.missingField field.name)
      | Option.none, .optional absent => .ok absent
      | Option.none, .defaulted absent => .ok absent
    return (value, ← complete rest slots)

/-- Reads fields from the items of a list, from an index on; what is left over is returned. -/
def readItems (origin : Origin) (expected : String) (fault : Option Fault) :
    {ρ σ : Type} → Fieldset ρ σ → (index : Nat) → List Source → Except ReadError (ρ × List Source)
  | _, _, .none, _, items => .ok ((), items)
  | _, _, .cons field rest, index, source :: items => do
    let value ← field.shape.read origin source
    let (values, left) ← readItems origin expected fault rest (index + 1) items
    return ((value, values), left)
  | _, _, .cons field rest, index, [] => do
    liftSyntax (Source.readFault fault)
    match field.presence with
    | .defaulted absent =>
      let (values, left) ← readItems origin expected fault rest (index + 1) []
      return ((absent, values), left)
    | _ => .error (.invalidLength index expected)

/-- The fields as they are written. -/
def write : {ρ σ : Type} → Fieldset ρ σ → ρ → List (String × Json)
  | _, _, .none, _ => []
  | _, _, .cons field rest, (value, values) =>
    if field.omitted value then rest.write values
    else (field.name, field.shape.write value) :: rest.write values

end Fieldset

/-- A record type: its name in messages, its fields, and how its values are made of theirs. -/
structure Record (α : Type) where
  name : String
  strict : Bool := false
  {Row Slots : Type}
  fields : Fieldset Row Slots
  ofRow : Row → α
  toRow : α → Row

namespace Record
variable {α : Type} (record : Record α)

/-- What messages say was expected. -/
def expected : String :=
  s!"struct {record.name}"

/-- What messages say was expected of a list in place of the record. -/
def expectedLength : String :=
  let count := record.fields.names.length
  s!"struct {record.name} with {count} " ++ if count = 1 then "element" else "elements"

/-- What is wrong with a list that is too long or does not end. -/
def overlong (origin : Origin) (length : Nat) (left : List Source) (fault : Option Fault) :
    Except ReadError Unit :=
  match origin, left, fault with
  | _, [], none => .ok ()
  | .document, _, _ => .error (.invalidLength length "fewer elements in array")
  | .text, [], some { whenRead := .endOfList, .. } => .error (.malformed .endOfList)
  | .text, [], some { whenRead := .trailingComma, .. } => .error (.malformed .trailingComma)
  | .text, _, _ => .error (.malformed .trailingCharacters)

/-- Reads a record. -/
def read (origin : Origin) (source : Source) : Except ReadError α :=
  match source with
  | .object fields fault => do
    let slots ← record.fields.readFields record.strict origin record.fields.empty fields
    liftSyntax (Source.readFault fault)
    return record.ofRow (← record.fields.complete slots)
  | .array items fault => do
    let (row, left) ← record.fields.readItems origin record.expectedLength fault 0 items
    overlong origin items.length left fault
    return record.ofRow row
  | source => .error (source.unexpected record.expected)

/-- The shape of a record. -/
def shape : Shape α where
  read := record.read
  write value := .object (record.fields.write (record.toRow value))

end Record

namespace Field
variable {α : Type}

/-- A field that must be there. -/
def required (name : String) (shape : Shape α) : Field α where
  name := name
  shape := shape

/-- A field that may be missing or `null`, and is written as `null` then. -/
def nullable (name : String) (shape : Shape α) : Field (Option α) where
  name := name
  shape := shape.option
  presence := .optional none

/-- A field that may be missing or `null`, and is not written then. -/
def optional (name : String) (shape : Shape α) : Field (Option α) where
  name := name
  shape := shape.option
  presence := .optional none
  omitted := Option.isNone

/-- A list that may be missing. -/
def listed (name : String) (shape : Shape α) : Field (List α) where
  name := name
  shape := shape.list
  presence := .defaulted []

/-- A list that may be missing, and is not written where it is empty. -/
def unlessEmpty (name : String) (shape : Shape (List α)) : Field (List α) where
  name := name
  shape := shape
  presence := .defaulted []
  omitted := List.isEmpty

end Field

end Provisioner
