import Provisioner.Number.Double
import Provisioner.Text.Blank

/-!
# Durations

A duration is a span of whole nanoseconds below `2 ^ 64` seconds. Its text is a sequence of components such
as `1h30m` or `1.5h`: a decimal number and a unit each, with blanks around and at most one plus sign in
front; a lone zero needs no unit. The components are added up as doubles of seconds.
-/
namespace Provisioner
open Text

/-- A span of time. -/
structure Duration where
  nanoseconds : Nat
  deriving DecidableEq, Repr

namespace Duration

/-- No time at all. -/
def zero : Duration := ⟨0⟩

/-- A span of whole seconds. -/
def ofSeconds (seconds : Nat) : Duration := ⟨seconds * 1_000_000_000⟩

/-- The whole seconds of a span. -/
def seconds (d : Duration) : Nat := d.nanoseconds / 1_000_000_000

/-- The nanoseconds that a span has beyond its whole seconds. A span is given to others as these two numbers. -/
def subsecond (d : Duration) : Nat := d.nanoseconds % 1_000_000_000

/-- The span of a double of seconds, to the nearest nanosecond, a tie to the even one. -/
def ofMagnitude? (seconds : Magnitude) : Option Duration :=
  let (num, den) := seconds.quotient
  if num < UInt64.size * den then some ⟨Magnitude.roundQuotient (num * 1_000_000_000) den⟩ else none

end Duration

/-- Why a text is no duration. -/
inductive DurationError where
  | empty
  | invalid (input : String)
  | missingUnit (input : String)
  | unknownUnit (unit input : String)
  deriving DecidableEq, Repr

/-- The wording of a rejected duration. -/
def DurationError.message : DurationError → String
  | empty => "empty duration"
  | invalid input => s!"invalid duration `{input}`"
  | missingUnit input => s!"missing unit in duration `{input}`"
  | unknownUnit unit input => s!"unknown unit `{unit}` in duration `{input}`"

namespace Duration

/-- A character of the number of a component. -/
def isNumeric (c : Char) : Bool :=
  isDigit c || c == '.'

/-- A text cut before each number that follows a unit: the number and the unit of each component. Only the
first number can be missing and only the last unit. -/
def components : List Char → List (List Char × List Char)
  | [] => []
  | c :: cs =>
    match components cs with
    | [] => if isNumeric c then [([c], [])] else [([], [c])]
    | (number, unit) :: rest =>
      if isNumeric c then (c :: number, unit) :: rest
      else if number.isEmpty then ([], c :: unit) :: rest
      else ([], [c]) :: (number, unit) :: rest

/-- The digits of a decimal number and how many of them follow the point; there is at least one digit and at
most one point. -/
def decimal? (number : List Char) : Option (Nat × Nat) :=
  match splitOn '.' number with
  | [whole] => if whole.isEmpty then none else some (digitsValue whole, 0)
  | [whole, fraction] =>
    if whole.isEmpty ∧ fraction.isEmpty then none
    else some (digitsValue (whole ++ fraction), fraction.length)
  | _ => none

/-- The seconds of each unit, as a quotient. -/
def units : List (List Char × (Nat × Nat)) :=
  [("ns".toList, (1, 1_000_000_000)), ("us".toList, (1, 1_000_000)), ("µs".toList, (1, 1_000_000)), ("ms".toList, (1, 1_000)),
    ("s".toList, (1, 1)), ("m".toList, (60, 1)), ("h".toList, (3600, 1))]

/-- A sum of seconds with a component more; too large a sum stays too large. -/
def addComponent (input : String) (sum : Option Magnitude) (component : List Char × List Char) :
    Except DurationError (Option Magnitude) := do
  let (number, unit) := component
  match decimal? number with
  | none => .error (.invalid input)
  | some (digits, places) =>
    if unit.isEmpty then .error (.missingUnit input)
    else
      match units.lookup unit with
      | none => .error (.unknownUnit (String.ofList unit) input)
      | some (num, den) => return do
        let value ← Magnitude.round digits (Nat.pow 10 places)
        let scale ← Magnitude.round num den
        (← sum).add (← value.mul scale)

/-- The text after one plus sign, if it has one in front. -/
def dropPlus : List Char → List Char
  | '+' :: cs => cs
  | cs => cs

/-- The duration that a text spells. -/
def parse (input : String) : Except DurationError Duration := do
  let trimmed := trim input.toList
  if trimmed.isEmpty then .error .empty
  else
    let body := dropPlus trimmed
    if body = ['0'] then return zero
    else
      let sum ← (components body).foldlM (addComponent input) (some .zero)
      match sum.bind ofMagnitude? with
      | some duration => return duration
      | none => .error (.invalid input)

end Duration

end Provisioner
