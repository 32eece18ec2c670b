import Provisioner.Text.Blank

/-!
# Unsigned numbers

A count is written in decimal digits, with at most one plus sign in front, and is below `2 ^ 64`. The text is
read from left to right, so of a digit too many and a character that is no digit the first one counts.
-/
namespace Provisioner
open Text

/-- Why a text is no count. -/
inductive UnsignedError where
  | empty
  | invalidDigit
  | tooLarge
  deriving DecidableEq, Repr

/-- The wording of a rejected count. -/
def UnsignedError.message : UnsignedError → String
  | empty => "cannot parse integer from empty string"
  | invalidDigit => "invalid digit found in string"
  | tooLarge => "number too large to fit in target type"

namespace Unsigned

/-- The number that a number and one more digit spell. -/
def addDigit (n : Nat) (c : Char) : Except UnsignedError Nat :=
  if !isDigit c then .error .invalidDigit
  else if n * 10 + digitValue c < UInt64.size then .ok (n * 10 + digitValue c)
  else .error .tooLarge

/-- The count that a text spells. -/
def parse : List Char → Except UnsignedError Nat
  | [] => .error .empty
  | ['+'] => .error .invalidDigit
  | '+' :: digits => digits.foldlM addDigit 0
  | digits => digits.foldlM addDigit 0

end Unsigned

end Provisioner
