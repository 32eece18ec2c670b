import Provisioner.Json.Basic
import Provisioner.Number.Shortest

/-!
# JSON text

Documents are written in two layouts: on one line without blanks, and indented by two blanks a level with
a field or item to a line. Strings escape the quote, the backslash and the control characters below a
blank, and nothing else.
-/
namespace Provisioner

/-- A number as text. -/
def Number.text : Number → List Char
  | .integer value => (toString value).toList
  | .double value => value.text

namespace Json
open Text

/-- A character of a string as JSON writes it. -/
def escaped (c : Char) : List Char :=
  match c with
  | '"' => ['\\', '"']
  | '\\' => ['\\', '\\']
  | '\n' => ['\\', 'n']
  | '\r' => ['\\', 'r']
  | '\t' => ['\\', 't']
  | '\x08' => ['\\', 'b']
  | '\x0c' => ['\\', 'f']
  | c => if c.toNat < 0x20 then ['\\', 'u', '0', '0', hexDigit (c.toNat / 16), hexDigit (c.toNat % 16)] else [c]

/-- A string in its quotes. -/
def quoted (value : String) : List Char :=
  '"' :: value.toList.flatMap escaped ++ ['"']

mutual

/-- The text of a document on one line. -/
def compact : Json → List Char
  | .null => "null".toList
  | .bool true => "true".toList
  | .bool false => "false".toList
  | .number value => value.text
  | .string value => quoted value
  | .array items => '[' :: joined [','] (compactItems items) ++ [']']
  | .object fields => '{' :: joined [','] (compactFields fields) ++ ['}']

/-- The text of each item. -/
def compactItems : List Json → List (List Char)
  | [] => []
  | item :: items => item.compact :: compactItems items

/-- The text of each field. -/
def compactFields : List (String × Json) → List (List Char)
  | [] => []
  | (key, value) :: fields => (quoted key ++ ':' :: value.compact) :: compactFields fields

end

/-- The start of a line that is indented by a number of levels. -/
def newLine (level : Nat) : List Char :=
  '\n' :: List.replicate (2 * level) ' '

/-- The parts of an array or object in their brackets, one to a line. -/
def block (level : Nat) (opening closing : Char) (parts : List (List Char)) : List Char :=
  if parts.isEmpty then [opening, closing]
  else opening :: newLine (level + 1) ++ joined (',' :: newLine (level + 1)) parts ++ newLine level ++ [closing]

mutual

/-- The indented text of a document that stands at a level. -/
def indented (level : Nat) : Json → List Char
  | .array items => block level '[' ']' (indentedItems (level + 1) items)
  | .object fields => block level '{' '}' (indentedFields (level + 1) fields)
  | value => value.compact

/-- The indented text of each item. -/
def indentedItems (level : Nat) : List Json → List (List Char)
  | [] => []
  | item :: items => item.indented level :: indentedItems level items

/-- The indented text of each field. -/
def indentedFields (level : Nat) : List (String × Json) → List (List Char)
  | [] => []
  | (key, value) :: fields => (quoted key ++ ':' :: ' ' :: value.indented level) :: indentedFields level fields

end

/-- A document on one line. -/
def text (value : Json) : String :=
  String.ofList value.compact

/-- A document over several lines. -/
def pretty (value : Json) : String :=
  String.ofList (value.indented 0)

end Json

end Provisioner
