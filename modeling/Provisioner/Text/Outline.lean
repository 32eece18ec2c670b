import Provisioner.Text.Quoted

/-!
# Outlines of values

Messages that show a whole value to an operator outline it: a record by its name and its fields in braces, a
list in brackets, a value that may be missing as `Some(…)` or `None`, and strings in quotes.
-/
namespace Provisioner.Text

/-- A record with its fields. -/
def outlineRecord (name : String) (fields : List (String × String)) : String :=
  name ++ " \x7b " ++ String.intercalate ", " (fields.map fun (field, value) => field ++ ": " ++ value) ++ " \x7d"

/-- A value under a name. -/
def outlineCase (name value : String) : String :=
  s!"{name}({value})"

/-- A list. -/
def outlineList {α : Type} (outline : α → String) (items : List α) : String :=
  "[" ++ String.intercalate ", " (items.map outline) ++ "]"

/-- A value that may be missing. -/
def outlineOption {α : Type} (outline : α → String) : Option α → String
  | some value => outlineCase "Some" (outline value)
  | none => "None"

/-- A flag. -/
def outlineBool (flag : Bool) : String :=
  toString flag

end Provisioner.Text
