import Provisioner.Json.Reader
import Provisioner.Json.Printer
import Provisioner.Text.Quoted

/-!
# Shapes

A shape reads values of a type from a source and writes them as documents. The reader stops at the first
value that does not fit and says what it found and what it expected there. Two rules differ with the
origin of a source: how too long a list in place of a record is refused, and how a tag is.
-/
namespace Provisioner

/-- Where a source comes from: a document that was read before, or a text that is being read. -/
inductive Origin where
  | document
  | text
  deriving DecidableEq, Repr

/-- What a reader found. -/
inductive Found where
  | null
  | bool (value : Bool)
  | integer (value : Int)
  | double (value : Double)
  | string (value : String)
  | list
  | map
  deriving DecidableEq, Repr

/-- The wording of what was found. -/
def Found.message : Found → String
  | null => "null"
  | bool value => s!"boolean `{value}`"
  | integer value => s!"integer `{value}`"
  | double value => s!"floating point `{String.ofList value.text}`"
  | string value => s!"string {Text.quoted value}"
  | list => "sequence"
  | map => "map"

/-- A choice among names, as messages word it. -/
def oneOf (names : List String) : String :=
  let names := names.map fun name => s!"`{name}`"
  match names with
  | [one] => one
  | [one, other] => s!"{one} or {other}"
  | names => "one of " ++ String.intercalate ", " names

/-- Why a value does not fit a shape. -/
inductive ReadError where
  | malformed (error : SyntaxError)
  | invalidType (found : Found) (expected : String)
  | invalidValue (found : Found) (expected : String)
  | invalidLength (length : Nat) (expected : String)
  | missingField (name : String)
  | duplicateField (name : String)
  | unknownField (name : String) (expected : List String)
  | unknownVariant (name : String) (expected : List String)
  | noVariant (name : String)
  deriving DecidableEq, Repr

/-- The wording of a misfit. -/
def ReadError.message : ReadError → String
  | malformed error => error.message
  | invalidType found expected => s!"invalid type: {found.message}, expected {expected}"
  | invalidValue found expected => s!"invalid value: {found.message}, expected {expected}"
  | invalidLength length expected => s!"invalid length {length}, expected {expected}"
  | missingField name => s!"missing field `{name}`"
  | duplicateField name => s!"duplicate field `{name}`"
  | unknownField name expected => s!"unknown field `{name}`, expected {oneOf expected}"
  | unknownVariant name expected => s!"unknown variant `{name}`, expected {oneOf expected}"
  | noVariant name => s!"data did not match any variant of untagged enum {name}"

/-- A fault met while reading. -/
def liftSyntax {α : Type} (result : Except SyntaxError α) : Except ReadError α :=
  result.mapError .malformed

/-- A source where something else was expected. -/
def Source.unexpected (source : Source) (expected : String) : ReadError :=
  match source with
  | .null => .invalidType .null expected
  | .bool value => .invalidType (.bool value) expected
  | .number (.integer value) => .invalidType (.integer value) expected
  | .number (.double value) => .invalidType (.double value) expected
  | .string value => .invalidType (.string value) expected
  | .array _ _ => .invalidType .list expected
  | .object _ _ => .invalidType .map expected
  | .faulty fault => .malformed fault.whenRead

/-- How values of a type are read and written. -/
structure Shape (α : Type) where
  read : Origin → Source → Except ReadError α
  write : α → Json

namespace Shape
variable {α : Type}

/-- The value of a document. -/
def ofJson (shape : Shape α) (value : Json) : Except ReadError α :=
  shape.read .document value.source

/-- The document of a value, with its objects in order of their keys. -/
def toJson (shape : Shape α) (value : α) : Json :=
  (shape.write value).toMaps

/-- The value of a text that holds nothing else. -/
def ofText (shape : Shape α) (text : String) : Except ReadError α := do
  let read := Json.readText text
  let value ← shape.read .text read.root
  if read.trails then .error (.malformed .trailingCharacters) else .ok value

/-! ## Scalars -/

/-- Only `null`. -/
def unit : Shape Unit where
  read _ source :=
    match source with
    | .null => .ok ()
    | source => .error (source.unexpected "unit")
  write _ := .null

/-- A flag. -/
def bool : Shape Bool where
  read _ source :=
    match source with
    | .bool value => .ok value
    | source => .error (source.unexpected "a boolean")
  write value := .bool value

/-- A string. -/
def string : Shape String where
  read _ source :=
    match source with
    | .string value => .ok value
    | source => .error (source.unexpected "a string")
  write value := .string value

/-- An integer from zero to a bound. -/
def readBounded (bound : Nat) (expected : String) (source : Source) : Except ReadError Nat :=
  match source with
  | .number (.integer value) =>
    if 0 ≤ value ∧ value ≤ bound then .ok value.toNat
    else .error (.invalidValue (.integer value) expected)
  | source => .error (source.unexpected expected)

/-- A natural number of 32 bits. -/
def uint32 : Shape UInt32 where
  read _ source := (readBounded (UInt32.size - 1) "u32" source).map UInt32.ofNat
  write value := Json.ofNat value.toNat

/-- A natural number of 64 bits. -/
def uint64 : Shape UInt64 where
  read _ source := (readBounded (UInt64.size - 1) "u64" source).map UInt64.ofNat
  write value := Json.ofNat value.toNat

/-- Any document. -/
def any : Shape Json where
  read _ source := liftSyntax source.toJson
  write value := value

/-! ## Compound shapes -/

/-- A value or `null`. -/
def option (shape : Shape α) : Shape (Option α) where
  read origin source :=
    match source with
    | .null => .ok none
    | source => (shape.read origin source).map some
  write
    | some value => shape.write value
    | none => .null

/-- A list. -/
def list (shape : Shape α) : Shape (List α) where
  read origin source :=
    match source with
    | .array items fault => do
      let values ← items.mapM (shape.read origin)
      liftSyntax (Source.readFault fault)
      return values
    | source => .error (source.unexpected "a sequence")
  write values := .array (values.map shape.write)

/-- Any map. -/
def map : Shape Fields where
  read _ source :=
    match source with
    | .object fields fault => do
      let fields ← liftSyntax (Source.fieldsToJson fields)
      liftSyntax (Source.readFault fault)
      return Fields.toMap fields
    | source => .error (source.unexpected "a map")
  write fields := .object fields

/-- The value of a tag among the names of a type. -/
def readTag (variants : List (String × α)) (name : String) : Except ReadError α :=
  match variants.lookup name with
  | some value => .ok value
  | none => .error (.unknownVariant name (variants.map (·.1)))

/-- A tag given as the one key of a map, over `null`. -/
def readTagMap (variants : List (String × α)) (origin : Origin) (fields : List (String × Source))
    (fault : Option Fault) : Except ReadError α :=
  match origin, fields, fault with
  | .document, [(name, value)], none => do
    let tag ← readTag variants name
    unit.read origin value
    return tag
  | .document, _, _ => .error (.invalidValue .map "map with a single key")
  | .text, (name, value) :: rest, fault => do
    let tag ← readTag variants name
    unit.read origin value
    match rest, fault with
    | [], none => return tag
    | [], some { whenRead := .endOfObject, .. } => .error (.malformed .endOfObject)
    | _, _ => .error (.malformed .expectedValue)
  | .text, [], none => .error (.malformed .expectedValue)
  | .text, [], some { whenRead := .endOfObject, .. } => .error (.malformed .endOfValue)
  | .text, [], some fault => .error (.malformed fault.whenRead)

/-- The fault where a tag should stand in a text: only a string is read far enough to have its own. -/
def tagFault : SyntaxError → SyntaxError
  | .endOfString => .endOfString
  | .invalidEscape => .invalidEscape
  | .loneSurrogate => .loneSurrogate
  | .unfinishedSurrogate => .unfinishedSurrogate
  | .controlCharacter => .controlCharacter
  | .endOfValue => .endOfValue
  | _ => .expectedValue

/-- One of a type's tags. -/
def tags (variants : List (String × α)) (name : α → String) : Shape α where
  read origin source :=
    match origin, source with
    | _, .string value => readTag variants value
    | origin, .object fields fault => readTagMap variants origin fields fault
    | .text, .faulty fault => .error (.malformed (tagFault fault.whenRead))
    | .text, _ => .error (.malformed .expectedValue)
    | .document, source => .error (source.unexpected "string or map")
  write value := .string (name value)

/-- A value that is written and read as a value of another type. -/
def via {β : Type} (shape : Shape β) (toValue : β → α) (ofValue : α → β) : Shape α where
  read origin source := (shape.read origin source).map toValue
  write value := shape.write (ofValue value)

end Shape

end Provisioner
