import Provisioner.OperationId
import Mathlib.Algebra.GroupWithZero.Nat
import Mathlib.Data.List.Basic

/-!
# Operation ids read back

Reading the text of an operation id gives the id (`parse?_text`).
-/
namespace Provisioner.OperationId
open Text

/-- The id whose digits are all zero. -/
def nil : OperationId :=
  ⟨List.replicate 32 0, rfl⟩

theorem digit?_hexDigit : ∀ d : Fin 16, digit? (hexDigit d.val) = some d := by
  decide

theorem mapM_digit? (digits : List (Fin 16)) :
    (digits.map fun d => hexDigit d.val).mapM digit? = some digits := by
  induction digits with
  | nil => rfl
  | cons d digits ih => simp [digit?_hexDigit, ih]

theorem length_characters (id : OperationId) : id.characters.length = 32 := by
  simp [characters, id.length_eq]

theorem ofCharacters?_characters (id : OperationId) : ofCharacters? id.characters = some id := by
  have digits : id.characters.mapM digit? = some id.digits := mapM_digit? id.digits
  simp [ofCharacters?, digits, id.length_eq]

/-! ## Groups -/

theorem ungrouped?_grouped {sizes : List Nat} {cs : List Char} (fits : sizes.sum ≤ cs.length) :
    ungrouped? sizes (grouped sizes cs) = some cs := by
  induction sizes generalizing cs with
  | nil => rfl
  | cons size sizes ih =>
    simp only [List.sum_cons] at fits
    have taken : (cs.take size).length = size := by simp; omega
    have rest : ungrouped? sizes (grouped sizes (cs.drop size)) = some (cs.drop size) := ih (by simp; omega)
    simp only [grouped, ungrouped?, List.drop_left' taken, List.take_left' taken, rest, Option.map_some,
      List.take_append_drop]

theorem length_grouped {sizes : List Nat} {cs : List Char} (fits : sizes.sum ≤ cs.length) :
    (grouped sizes cs).length = cs.length + sizes.length := by
  induction sizes generalizing cs with
  | nil => rfl
  | cons size sizes ih =>
    simp only [List.sum_cons] at fits
    have rest : (grouped sizes (cs.drop size)).length = (cs.drop size).length + sizes.length := ih (by simp; omega)
    simp only [grouped, List.length_append, List.length_take, List.length_cons, rest, List.length_drop]
    omega

theorem exists_first_digit (id : OperationId) : ∃ d rest, id.text = hexDigit d :: rest ∧ d < 16 := by
  obtain ⟨digits, length_eq⟩ := id
  cases digits with
  | nil => simp at length_eq
  | cons d digits => exact ⟨d.val, _, rfl, d.isLt⟩

/-- A hexadecimal digit is no brace and begins no prefix. -/
theorem hexDigit_plain : ∀ d < 16, hexDigit d ≠ '\x7b' ∧ (hexDigit d).toLower ≠ 'u' := by
  decide

theorem bare_text (id : OperationId) : bare id.text = id.text := by
  obtain ⟨d, rest, split, small⟩ := id.exists_first_digit
  obtain ⟨brace, letter⟩ := hexDigit_plain d small
  rw [split]
  unfold bare
  split
  · next h => exact absurd (List.cons.inj h).1 brace
  · have : (List.take 9 (hexDigit d :: rest)).map Char.toLower ≠ "urn:uuid:".toList := by
      intro h
      exact letter (List.cons.inj h).1
    rw [if_neg this]

theorem parse?_text (id : OperationId) : parse? id.text = some id := by
  have fits : [8, 4, 4, 4].sum ≤ id.characters.length := by simp [length_characters]
  have length : id.text.length ≠ 32 := by
    rw [text, length_grouped fits, length_characters]
    decide
  have groups : ungrouped? [8, 4, 4, 4] id.text = some id.characters := ungrouped?_grouped fits
  simp [parse?, length, bare_text, groups, ofCharacters?_characters]

end Provisioner.OperationId
