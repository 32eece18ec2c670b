import Provisioner.Json.Basic

/-!
# What a reader meets

A reader of JSON goes from left to right and stops at the first thing wrong, be it a value of another type
or a fault of the text. A `Source` is a document with its faults where the reader meets them: the fields
stand in the order of the text, with repetitions, and a fault ends the container it lies in. Some faults
keep a value from being read but not from being skipped: a number out of range, half a surrogate pair,
nesting that is too deep. `Json.source` is a document without faults.
-/
namespace Provisioner

/-- What can be wrong with a JSON text. -/
inductive SyntaxError where
  | endOfList
  | endOfObject
  | endOfString
  | endOfValue
  | expectedColon
  | expectedCommaOrBracket
  | expectedCommaOrBrace
  | expectedLiteral
  | expectedValue
  | invalidEscape
  | invalidNumber
  | numberOutOfRange
  | loneSurrogate
  | unfinishedSurrogate
  | controlCharacter
  | keyNotString
  | trailingComma
  | trailingCharacters
  | nestingTooDeep
  deriving DecidableEq, Repr

/-- The wording of a fault. -/
def SyntaxError.message : SyntaxError → String
  | endOfList => "EOF while parsing a list"
  | endOfObject => "EOF while parsing an object"
  | endOfString => "EOF while parsing a string"
  | endOfValue => "EOF while parsing a value"
  | expectedColon => "expected `:`"
  | expectedCommaOrBracket => "expected `,` or `]`"
  | expectedCommaOrBrace => "expected `,` or `\x7d`"
  | expectedLiteral => "expected ident"
  | expectedValue => "expected value"
  | invalidEscape => "invalid escape"
  | invalidNumber => "invalid number"
  | numberOutOfRange => "number out of range"
  | loneSurrogate => "lone leading surrogate in hex escape"
  | unfinishedSurrogate => "unexpected end of hex escape"
  | controlCharacter => "control character (\\u0000-\\u001F) found while parsing a string"
  | keyNotString => "key must be a string"
  | trailingComma => "trailing comma"
  | trailingCharacters => "trailing characters"
  | nestingTooDeep => "recursion limit exceeded"

/-- A fault as the reader meets it, and as someone meets it who skips the value. -/
structure Fault where
  whenRead : SyntaxError
  /-- The fault, if any, that stops whoever skips the value. -/
  whenSkipped : Option SyntaxError
  deriving DecidableEq, Repr

/-- A fault that stops everyone. -/
def Fault.hard (error : SyntaxError) : Fault := ⟨error, some error⟩

/-- A document with its faults. -/
inductive Source where
  | null
  | bool (value : Bool)
  | number (value : Number)
  | string (value : String)
  | array (items : List Source) (fault : Option Fault)
  | object (fields : List (String × Source)) (fault : Option Fault)
  | faulty (fault : Fault)
  deriving Repr, Inhabited

mutual

/-- A document as a source without faults. -/
def Json.source : Json → Source
  | .null => .null
  | .bool value => .bool value
  | .number value => .number value
  | .string value => .string value
  | .array items => .array (Json.sources items) none
  | .object fields => .object (Json.fieldSources fields) none

/-- The sources of the items of an array. -/
def Json.sources : List Json → List Source
  | [] => []
  | item :: items => item.source :: Json.sources items

/-- The sources of the fields of an object. -/
def Json.fieldSources : List (String × Json) → List (String × Source)
  | [] => []
  | (key, value) :: fields => (key, value.source) :: Json.fieldSources fields

end

theorem Json.fieldSources_eq_map (fields : List (String × Json)) :
    Json.fieldSources fields = fields.map fun field => (field.1, field.2.source) := by
  induction fields with
  | nil => rfl
  | cons field fields ih => simp [Json.fieldSources, ih]

namespace Source

/-- Whoever skips a value stops at a fault, if there is one for him. -/
def skipFault : Option Fault → Except SyntaxError Unit
  | some { whenSkipped := some error, .. } => .error error
  | _ => .ok ()

/-- The reader stops at any fault. -/
def readFault : Option Fault → Except SyntaxError Unit
  | some fault => .error fault.whenRead
  | none => .ok ()

mutual

/-- Skips a value. -/
def skip : Source → Except SyntaxError Unit
  | .array items fault => do skipItems items; skipFault fault
  | .object fields fault => do skipFields fields; skipFault fault
  | .faulty fault => skipFault (some fault)
  | _ => .ok ()

/-- Skips the items of an array. -/
def skipItems : List Source → Except SyntaxError Unit
  | [] => .ok ()
  | item :: items => do item.skip; skipItems items

/-- Skips the fields of an object. -/
def skipFields : List (String × Source) → Except SyntaxError Unit
  | [] => .ok ()
  | (_, value) :: fields => do value.skip; skipFields fields

end

mutual

/-- Reads any value; of two fields under one key the last counts. -/
def toJson : Source → Except SyntaxError Json
  | .null => .ok .null
  | .bool value => .ok (.bool value)
  | .number value => .ok (.number value)
  | .string value => .ok (.string value)
  | .array items fault => do
    let items ← itemsToJson items
    readFault fault
    return .array items
  | .object fields fault => do
    let fields ← fieldsToJson fields
    readFault fault
    return .object (Fields.toMap fields)
  | .faulty fault => .error fault.whenRead

/-- Reads any items. -/
def itemsToJson : List Source → Except SyntaxError (List Json)
  | [] => .ok []
  | item :: items => do
    let item ← item.toJson
    let items ← itemsToJson items
    return item :: items

/-- Reads any fields. -/
def fieldsToJson : List (String × Source) → Except SyntaxError (List (String × Json))
  | [] => .ok []
  | (key, value) :: fields => do
    let value ← value.toJson
    let fields ← fieldsToJson fields
    return (key, value) :: fields

end

mutual

/-- Meets every fault that keeps a value from being read, wherever it lies. -/
def check : Source → Except SyntaxError Unit
  | .array items fault => do checkItems items; readFault fault
  | .object fields fault => do checkFields fields; readFault fault
  | .faulty fault => .error fault.whenRead
  | _ => .ok ()

/-- Meets the faults in the items of an array. -/
def checkItems : List Source → Except SyntaxError Unit
  | [] => .ok ()
  | item :: items => do item.check; checkItems items

/-- Meets the faults in the fields of an object. -/
def checkFields : List (String × Source) → Except SyntaxError Unit
  | [] => .ok ()
  | (_, value) :: fields => do value.check; checkFields fields

end

end Source

end Provisioner
