import Provisioner.Text.Blank

/-!
# Environments

Variables and their values, and the file that adds to them. The file holds a statement to a line, such as
`NAME=value`; a value in quotes may go on over several lines. A variable that is set already keeps its value,
and values may refer to variables that are set. The first statement that is not well formed ends the file.
-/
namespace Provisioner.Command
open Text

/-- The value of each variable that is set. -/
abbrev Environment := String → Option String

/-- The environment with a variable that keeps its value if it has one. -/
def Environment.define (environment : Environment) (name value : String) : Environment := fun other =>
  if other = name then some ((environment name).getD value) else environment other

/-! ## Statements of a file -/

namespace EnvFile

/-- What a character of a line lies in, as far as it matters for where the statement ends. -/
inductive Place where
  | plain
  /-- After a blank, where a number sign begins a comment. -/
  | blank
  | single
  | double
  /-- After a backslash in one of these. -/
  | escapedPlain
  | escapedSingle
  | escapedDouble
  deriving DecidableEq, Repr

/-- A blank that does not end a line. -/
def isGap (c : Char) : Bool :=
  isBlank c && c != '\n' && c != '\r'

/-- The place after a character, unless a comment begins there. -/
def Place.next? : Place → Char → Option Place
  | blank, '#' => none
  | blank, '\\' | plain, '\\' => some escapedPlain
  | blank, '"' | plain, '"' => some double
  | blank, '\'' | plain, '\'' => some single
  | blank, _ => some plain
  | plain, c => some (if isGap c then blank else plain)
  | single, '\\' => some escapedSingle
  | single, '\'' => some plain
  | single, _ => some single
  | double, '\\' => some escapedDouble
  | double, '"' => some plain
  | double, _ => some double
  | escapedPlain, _ => some plain
  | escapedSingle, _ => some single
  | escapedDouble, _ => some double

/-- A line up to a comment, and the place at its end unless it ends with a comment. -/
def scanLine (place : Place) : List Char → List Char × Option Place
  | [] => ([], some place)
  | c :: cs =>
    match place.next? c with
    | none => ([], none)
    | some place =>
      let (kept, final) := scanLine place cs
      (c :: kept, final)

/-- The lines of a text, each with its end. -/
def lines : List Char → List (List Char)
  | [] => []
  | c :: cs =>
    if c = '\n' then [c] :: lines cs
    else
      match lines cs with
      | [] => [[c]]
      | line :: rest => (c :: line) :: rest

/-- A line without its end. -/
def withoutEnd (line : List Char) : List Char :=
  match line.reverse with
  | '\n' :: '\r' :: rest => rest.reverse
  | '\n' :: rest => rest.reverse
  | _ => line

/-- The statements that lines hold, after the lines of one that has begun. A statement that the text does not
end is none. -/
def statements (begun : List Char) (place : Place) : List (List Char) → List (List Char)
  | [] => []
  | line :: rest =>
    if (trimStart (begun ++ line)).head? = some '#' then statements [] .plain rest
    else
      match scanLine place line with
      | (kept, none) => (begun ++ kept) :: statements [] .plain rest
      | (_, some .plain) => withoutEnd (begun ++ line) :: statements [] .plain rest
      | (_, some place) => statements (begun ++ line) place rest

/-! ## Values -/

/-- A part of a value. -/
inductive Piece where
  | character (c : Char)
  | reference (name : List Char)
  deriving DecidableEq, Repr

/-- What a character of a value lies in. A name and a pair of braces keep what was read of the name. -/
inductive Mode where
  | text
  | escaped
  | quoted
  | name (read : List Char)
  | braces (read : List Char)
  /-- After the value, where only a comment may follow. -/
  | ended
  deriving DecidableEq, Repr

/-- A character that names go on with after a dollar sign. -/
def isNameCharacter (c : Char) : Bool := c.isAlphanum

/-- What a character after a backslash stands for. -/
def unescape? : Char → Option Char
  | 'n' => some '\n'
  | c => if c ∈ ['\\', '\'', '"', '$', ' '] then some c else none

/-- The pieces of a value, unless it is not well formed. Inside double quotes blanks are part of the value. -/
def pieces? (mode : Mode) (inside : Bool) : List Char → Option (List Piece)
  | [] =>
    match mode with
    | .braces _ | .quoted => none
    | .name read => if inside then none else some [.reference read]
    | _ => if inside then none else some []
  | c :: cs =>
    match mode with
    | .ended =>
      if c = ' ' ∨ c = '\t' then pieces? .ended inside cs
      else if c = '#' then some []
      else none
    | .escaped => do
      let plain ← unescape? c
      return .character plain :: (← pieces? .text inside cs)
    | .quoted =>
      if c = '\'' then pieces? .text inside cs
      else do return .character c :: (← pieces? .quoted inside cs)
    | .name read =>
      if isNameCharacter c then pieces? (.name (read ++ [c])) inside cs
      else if c = '\x7b' ∧ read = [] then pieces? (.braces []) inside cs
      else if c = '$' then do return .reference read :: (← pieces? (.name []) inside cs)
      else do return .reference read :: .character c :: (← pieces? .text inside cs)
    | .braces read =>
      if c ≠ '\x7d' then pieces? (.braces (read ++ [c])) inside cs
      else do return .reference read :: (← pieces? .text inside cs)
    | .text =>
      if c = '$' then pieces? (.name []) inside cs
      else if c = '"' then pieces? .text (!inside) cs
      else if c = '\\' then pieces? .escaped inside cs
      else if inside then do return .character c :: (← pieces? .text inside cs)
      else if c = '\'' then pieces? .quoted inside cs
      else if c = ' ' ∨ c = '\t' then pieces? .ended inside cs
      else do return .character c :: (← pieces? .text inside cs)

/-- What a part of a value stands for. -/
def Piece.resolve (environment : Environment) : Piece → List Char
  | character c => [c]
  | reference name => ((environment (String.ofList name)).getD "").toList

/-! ## Statements -/

/-- What a statement says. -/
inductive Statement where
  | nothing
  | assign (name : String) (value : List Piece)
  deriving DecidableEq, Repr

/-- The name that a text begins with, and the rest. -/
def name? (cs : List Char) : Option (List Char × List Char) :=
  match cs with
  | c :: _ =>
    if c.isAlpha ∨ c = '_' then some (cs.span fun c => c.isAlphanum || c == '_' || c == '.') else none
  | [] => none

/-- The text after an equals sign and blanks. -/
def afterEquals? (cs : List Char) : Option (List Char) :=
  match cs with
  | '=' :: rest => some (trimStart rest)
  | _ => none

/-- What a statement says, unless it is not well formed. The word `export` may stand before the name. -/
def statement? (cs : List Char) : Option Statement := do
  let cs := trimStart (trim cs)
  if cs = [] ∨ cs.head? = some '#' then return .nothing
  let (name, rest) ← name? cs
  let rest := trimStart rest
  let (name, value) ←
    match afterEquals? rest with
    | some value => some (name, value)
    | none =>
      if name = "export".toList then
        (name? rest).bind fun (name, rest) => (afterEquals? (trimStart rest)).map fun value => (name, value)
      else none
  if value = [] ∨ value.head? = some '#' then return .assign (String.ofList name) []
  return .assign (String.ofList name) (← pieces? .text false value)

/-- The environment with what statements add to it, up to the first that is not well formed. -/
def obey (environment : Environment) : List (List Char) → Environment
  | [] => environment
  | cs :: rest =>
    match statement? cs with
    | none => environment
    | some .nothing => obey environment rest
    | some (.assign name value) =>
      obey (environment.define name (String.ofList (value.flatMap (Piece.resolve environment)))) rest

/-- The environment with what a file adds to it. -/
def load (environment : Environment) (text : String) : Environment :=
  let cs :=
    match text.toList with
    | '\uFEFF' :: cs => cs
    | cs => cs
  obey environment (statements [] .plain (lines cs))

end EnvFile

end Provisioner.Command
