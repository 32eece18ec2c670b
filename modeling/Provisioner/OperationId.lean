import Provisioner.Text.Blank

/-!
# Operation ids

An operation id is 32 hexadecimal digits. It is written in groups of 8, 4, 4, 4 and 12 digits with hyphens
between; it is read in that form or without hyphens, and the grouped form also in braces or after
`urn:uuid:`, in either letter case.
-/
namespace Provisioner
open Text

/-- The identifier of one operation. -/
structure OperationId where
  digits : List (Fin 16)
  length_eq : digits.length = 32
  deriving DecidableEq

namespace OperationId

/-- The digits as lower-case characters. -/
def characters (id : OperationId) : List Char :=
  id.digits.map fun d => hexDigit d.val

/-- Characters in groups of the given sizes, with hyphens between; what remains is the last group. -/
def grouped : (sizes : List Nat) → List Char → List Char
  | [], cs => cs
  | size :: sizes, cs => cs.take size ++ '-' :: grouped sizes (cs.drop size)

/-- The grouped form. -/
def text (id : OperationId) : List Char :=
  grouped [8, 4, 4, 4] id.characters

/-- The characters without the hyphens between groups of the given sizes. -/
def ungrouped? : (sizes : List Nat) → List Char → Option (List Char)
  | [], cs => some cs
  | size :: sizes, cs =>
    match cs.drop size with
    | '-' :: rest => (ungrouped? sizes rest).map (cs.take size ++ ·)
    | _ => none

/-- A hexadecimal digit of either case. -/
def digit? (c : Char) : Option (Fin 16) :=
  (hexValue? c).bind fun n => if h : n < 16 then some ⟨n, h⟩ else none

/-- The id of 32 hexadecimal digits. -/
def ofCharacters? (cs : List Char) : Option OperationId := do
  let digits ← cs.mapM digit?
  if h : digits.length = 32 then some ⟨digits, h⟩ else none

/-- The text without braces around it, or without `urn:uuid:` in either letter case before it. -/
def bare (cs : List Char) : List Char :=
  match cs with
  | '\x7b' :: rest => if rest.getLast? = some '\x7d' then rest.dropLast else cs
  | cs => if (cs.take 9).map Char.toLower = "urn:uuid:".toList then cs.drop 9 else cs

/-- The id that a text spells. -/
def parse? (cs : List Char) : Option OperationId :=
  if cs.length = 32 then ofCharacters? cs
  else (ungrouped? [8, 4, 4, 4] (bare cs)).bind ofCharacters?

end OperationId

end Provisioner
