import Provisioner.Json.Shape

/-!
# Tags

The values of a small type are known to other programs by tags. A type gives its values in the order in which
messages list them, and the tag of each; reading a tag finds the first value that has it.
-/
namespace Provisioner

/-- A type whose values have tags. -/
class Tagged (α : Type) where
  variants : List α
  tag : α → String

namespace Tagged
variable {α : Type} [Tagged α]

/-- The value with a tag. -/
def ofTag? (text : String) : Option α :=
  variants.find? fun value => tag value = text

/-- A value found by a tag has that tag. -/
theorem tag_of_ofTag? {text : String} {value : α} (found : ofTag? text = some value) : tag value = text := by
  simpa using List.find?_some found

/-- The tags of a type, in the order of its values. -/
def tags (α : Type) [Tagged α] : List String :=
  (variants : List α).map tag

end Tagged

/-- Values written as their tags. -/
def Shape.tagged (α : Type) [Tagged α] : Shape α :=
  .tags (Tagged.variants.map fun value => (Tagged.tag value, value)) Tagged.tag

end Provisioner
