import Provisioner.Error
import Provisioner.Json.Record
import Provisioner.OperationId
import Provisioner.Time.Instant

/-!
# Continuation contexts

Between two steps an operation is kept by the caller, as a flat map of strings, numbers and flags. Eight
reserved keys say what the operation is, which phase it waits in and how long it may take; all other keys are
the identifiers of its resource. `decode` reads a context back and `encode` writes one.
-/
namespace Provisioner

/-- Since when an operation runs, and what time it has. -/
structure Timing where
  startedAt : Instant
  timeout : Option String
  deleteOnTimeout : Bool
  deriving DecidableEq, Repr

/-- An operation between two steps. -/
structure Continuation (P I : Type) where
  operationId : OperationId
  phase : P
  ids : I
  timing : Option Timing

/-- The same operation in another phase. -/
def Continuation.advance {P I : Type} (continuation : Continuation P I) (phase : P) (ids : I) : Continuation P I :=
  { continuation with phase, ids }

/-- The operation on a family that a context belongs to. -/
structure Target where
  family : String
  operation : Operation
  deriving DecidableEq, Repr

namespace Context

/-- The version of the format. -/
def version : Nat := 1

/-- The keys that are not identifiers. -/
def reservedKeys : List String :=
  ["v", "family", "operation", "phase", "operationId", "startTime", "timeoutDuration", "deleteOnTimeout"]

/-- A key that is not an identifier. -/
def isReserved (key : String) : Bool :=
  reservedKeys.contains key

/-! ## Reading -/

/-- The string under a key. -/
def requireString (raw : Fields) (key : String) : Except ContextError String :=
  match raw.get? key with
  | none => .error (.missingKey key)
  | some value =>
    match value.string? with
    | some text => .ok text
    | none => .error (.wrongType key)

/-- A context holds no arrays and no objects. -/
def checkFlat (raw : Fields) : Except ContextError Unit :=
  match raw.find? fun field => !field.2.isPrimitive with
  | some (key, _) => .error (.nonPrimitive key)
  | none => .ok ()

/-- A context has the version of this format. -/
def checkVersion (raw : Fields) : Except ContextError Unit :=
  match raw.get? "v" with
  | none => .error (.missingKey "v")
  | some (.number (.integer value)) =>
    if value = version then .ok () else .error (.unsupportedVersion (Json.ofInt value).text)
  | some value => .error (.unsupportedVersion value.text)

/-- A context belongs to a target. -/
def checkTarget (target : Target) (raw : Fields) : Except ContextError Unit := do
  let family ← requireString raw "family"
  let operation ← requireString raw "operation"
  if family = target.family ∧ operation = target.operation.tag then return ()
  else .error (.wrongTarget s!"{target.family} {target.operation.tag}" s!"{family} {operation}")

/-- The phase of a context. -/
def readPhase {P : Type} [Tagged P] (raw : Fields) : Except ContextError P := do
  let tag ← requireString raw "phase"
  match Tagged.ofTag? tag with
  | some phase => return phase
  | none => .error (.unknownPhase tag)

/-- The id of the operation of a context. -/
def readOperationId (raw : Fields) : Except ContextError OperationId := do
  let text ← requireString raw "operationId"
  match OperationId.parse? text.toList with
  | some id => return id
  | none => .error (.wrongType "operationId")

/-- When the operation started. -/
def readStart : Json → Except ContextError Instant
  | .string text =>
    match Instant.parse? text.toList with
    | some start => .ok start
    | none => .error (.invalidStartTime text)
  | value => .error (.invalidStartTime value.text)

/-- How long the operation may take. -/
def readTimeout (raw : Fields) : Except ContextError (Option String) :=
  match raw.get? "timeoutDuration" with
  | none => .ok none
  | some (.string text) => .ok (some text)
  | some _ => .error (.wrongType "timeoutDuration")

/-- Whether the resource is deleted when time runs out. -/
def readDeleteOnTimeout (raw : Fields) : Except ContextError Bool :=
  match raw.get? "deleteOnTimeout" with
  | none => .ok false
  | some (.bool value) => .ok value
  | some _ => .error (.wrongType "deleteOnTimeout")

/-- The timing of a context, if it has any. -/
def readTiming (raw : Fields) : Except ContextError (Option Timing) :=
  match raw.get? "startTime" with
  | none =>
    if raw.has "timeoutDuration" ∨ raw.has "deleteOnTimeout" then .error (.missingKey "startTime") else .ok none
  | some start => do
    let startedAt ← readStart start
    let timeout ← readTimeout raw
    let deleteOnTimeout ← readDeleteOnTimeout raw
    return some { startedAt, timeout, deleteOnTimeout }

/-- The identifiers among the fields of a context. -/
def identifiers (raw : Fields) : Fields :=
  raw.filter fun (key, value) => !isReserved key && !value.isNull

/-- The identifiers of a context. -/
def readIds {I : Type} (ids : Shape I) (raw : Fields) : Except ContextError I :=
  (ids.ofJson (.object (identifiers raw))).mapError fun error => .invalidIdentifiers error.message

/-- The operation that a context stands for; the empty context stands for none. -/
def decode {P I : Type} [Tagged P] (target : Target) (ids : Shape I) (raw : Fields) :
    Except ContextError (Option (Continuation P I)) := do
  if raw.isEmpty then return none
  checkFlat raw
  checkVersion raw
  checkTarget target raw
  let phase ← readPhase raw
  let operationId ← readOperationId raw
  let timing ← readTiming raw
  let ids ← readIds ids raw
  return some { operationId, phase, ids, timing }

/-! ## Writing -/

/-- The fields for the timing of an operation. -/
def timingFields (timing : Timing) : List (String × Json) :=
  [("startTime", .string (String.ofList timing.startedAt.text)),
    ("deleteOnTimeout", .bool timing.deleteOnTimeout)] ++
    (timing.timeout.map fun text => ("timeoutDuration", Json.string text)).toList

/-- Adds identifiers to a context, except those that are `null`. -/
def writeIds : (identifiers : List (String × Json)) → (raw : Fields) → Except ContextError Fields
  | [], raw => .ok raw
  | (key, value) :: rest, raw =>
    if value.isNull then writeIds rest raw
    else if isReserved key then .error (.invalidIdentifiers s!"`{key}` is a reserved key")
    else if !value.isPrimitive then .error (.nonPrimitive key)
    else writeIds rest (raw.insert key value)

/-- The fields under reserved keys. -/
def reservedFields {P I : Type} [Tagged P] (target : Target) (continuation : Continuation P I) : Fields :=
  Fields.toMap <|
    [("v", Json.ofNat version), ("family", .string target.family),
      ("operation", .string target.operation.tag), ("phase", .string (Tagged.tag continuation.phase)),
      ("operationId", .string (String.ofList continuation.operationId.text))] ++
    (continuation.timing.map timingFields).getD []

/-- The context of an operation. -/
def encode {P I : Type} [Tagged P] (target : Target) (ids : Shape I) (continuation : Continuation P I) :
    Except ContextError Fields :=
  match ids.toJson continuation.ids with
  | .object identifiers => writeIds identifiers (reservedFields target continuation)
  | _ => .error (.invalidIdentifiers "identifiers must encode as a record")

end Context

/-! ## Lists of identifiers -/

namespace Shape

/-- The items of a list that a text holds between commas, without blanks around them; blank items do not
count. -/
def splitItems (text : String) : List String :=
  (((Text.splitOn ',' text.toList).map Text.trim).filter fun item => !item.isEmpty).map String.ofList

/-- A list of strings in one string, with commas between. -/
def commaList : Shape (List String) :=
  .via .string splitItems (String.intercalate ",")

end Shape

end Provisioner
