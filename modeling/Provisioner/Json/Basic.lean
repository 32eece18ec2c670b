import Provisioner.Number.Double

/-!
# JSON documents

A document is a tree of values. The fields of an object are a list; a *map* is such a list in order of its
keys, with every key once, and `Fields.insert` keeps that order. Keys are ordered by code points.
-/
namespace Provisioner

/-- A number: an integer, or a finite double where the text had a point, an exponent or too many digits. -/
inductive Number where
  | integer (value : Int)
  | double (value : Double)
  deriving DecidableEq, Repr

/-- A JSON value. -/
inductive Json where
  | null
  | bool (value : Bool)
  | number (value : Number)
  | string (value : String)
  | array (items : List Json)
  | object (fields : List (String × Json))
  deriving Repr, Inhabited

/-- The fields of an object. -/
abbrev Fields := List (String × Json)

namespace Fields

/-- The value under a key. -/
def get? (fields : Fields) (key : String) : Option Json :=
  fields.lookup key

/-- The key is present. -/
def has (fields : Fields) (key : String) : Bool :=
  (fields.get? key).isSome

/-- A value put under a key at the key's place in the order; it replaces an older one. -/
def insert (key : String) (value : Json) : Fields → Fields
  | [] => [(key, value)]
  | (k, v) :: rest =>
    if key = k then (key, value) :: rest
    else if key < k then (key, value) :: (k, v) :: rest
    else (k, v) :: insert key value rest

/-- The fields other than those under a key. With `insert` it is how those who keep a document change it, as they may
with a context between two steps. -/
def erase (fields : Fields) (key : String) : Fields :=
  fields.filter (·.1 ≠ key)

/-- The map of a list of fields; of two values under one key the last counts. -/
def toMap (fields : Fields) : Fields :=
  fields.foldl (fun map field => map.insert field.1 field.2) []

@[simp] theorem get?_nil (key : String) : get? [] key = none := rfl

@[simp] theorem get?_cons (k : String) (v : Json) (rest : Fields) (key : String) :
    get? ((k, v) :: rest) key = if key = k then some v else rest.get? key := by
  by_cases h : key = k
  · simp [get?, h]
  · have : (key == k) = false := by simpa using h
    simp [get?, List.lookup_cons, h, this]

end Fields

namespace Json

/-- An integer value. -/
def ofInt (value : Int) : Json := .number (.integer value)

/-- A natural number as a value. -/
def ofNat (value : Nat) : Json := ofInt value

/-- The text of a string value. -/
def string? : Json → Option String
  | .string value => some value
  | _ => none

/-- The value is neither an array nor an object. -/
def isPrimitive : Json → Bool
  | .array _ => false
  | .object _ => false
  | _ => true

/-- The value is `null`. -/
def isNull : Json → Bool
  | .null => true
  | _ => false

/-- The value under a key, where the value is an object that has it. -/
def field? (value : Json) (key : String) : Option Json :=
  match value with
  | .object fields => Fields.get? fields key
  | _ => none

mutual

/-- The same document with every object a map. -/
def toMaps : Json → Json
  | .array items => .array (itemsToMaps items)
  | .object fields => .object (Fields.toMap (fieldsToMaps fields))
  | value => value

/-- Every item with its objects maps. -/
def itemsToMaps : List Json → List Json
  | [] => []
  | item :: items => item.toMaps :: itemsToMaps items

/-- Every field with the objects in its value maps. -/
def fieldsToMaps : List (String × Json) → List (String × Json)
  | [] => []
  | (key, value) :: fields => (key, value.toMaps) :: fieldsToMaps fields

end

end Json

end Provisioner
