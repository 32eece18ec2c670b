import Provisioner.Context
import Mathlib.Data.List.DropRight

/-!
# Lists of items

A list of strings in one string with commas between is read back item by item (`splitItems_intercalate`). So exactly
the lists of items that hold no comma and have no blanks around them are read back as they are
(`flatMap_splitItems_eq_self_iff`).
-/
namespace Provisioner

/-- A text that can stand between commas: it is not empty, holds no comma and has no blanks around it. -/
def IsItem (text : String) : Prop :=
  text ≠ "" ∧ ',' ∉ text.toList ∧ Text.trim text.toList = text.toList

instance (text : String) : Decidable (IsItem text) :=
  inferInstanceAs (Decidable (_ ∧ _))

/-- Texts that can stand in a list between commas. -/
def AllItems (texts : List String) : Prop :=
  ∀ text ∈ texts, IsItem text

instance (texts : List String) : Decidable (AllItems texts) :=
  inferInstanceAs (Decidable (∀ text ∈ texts, IsItem text))

@[simp] theorem allItems_nil : AllItems [] := by
  simp [AllItems]

@[simp] theorem allItems_cons {text : String} {texts : List String} :
    AllItems (text :: texts) ↔ IsItem text ∧ AllItems texts := by
  simp [AllItems]

namespace Text

theorem splitOn_of_not_mem {separator : Char} {cs : List Char} (free : separator ∉ cs) :
    splitOn separator cs = [cs] := by
  induction cs with
  | nil => rfl
  | cons c cs ih =>
    obtain ⟨other, free⟩ := not_or.mp (mt List.mem_cons.mpr free)
    rw [splitOn, if_neg (Ne.symm other), ih free]

theorem splitOn_append (separator : Char) (one other : List Char) :
    splitOn separator (one ++ separator :: other) = splitOn separator one ++ splitOn separator other := by
  induction one with
  | nil => simp [splitOn]
  | cons c one ih =>
    by_cases same : c = separator
    · simp [splitOn, same, ih]
    · rw [List.cons_append, splitOn, if_neg same, ih, splitOn, if_neg same]
      cases parts : splitOn separator one with
      | nil => exact absurd parts (splitOn_ne_nil separator one)
      | cons part parts => rfl

/-- A part of a text holds no separator. -/
theorem not_mem_of_mem_splitOn {separator : Char} {cs part : List Char} (member : part ∈ splitOn separator cs) :
    separator ∉ part := by
  induction cs generalizing part with
  | nil =>
    obtain rfl := List.mem_singleton.mp member
    exact List.not_mem_nil
  | cons c cs ih =>
    rw [splitOn] at member
    by_cases same : c = separator
    · rw [if_pos same] at member
      rcases List.mem_cons.mp member with rfl | later
      · exact List.not_mem_nil
      · exact ih later
    · rw [if_neg same] at member
      cases parts : splitOn separator cs with
      | nil => exact absurd parts (splitOn_ne_nil separator cs)
      | cons first rest =>
        rw [parts] at member ih
        rcases List.mem_cons.mp member with rfl | later
        · rw [List.mem_cons, not_or]
          exact ⟨Ne.symm same, ih List.mem_cons_self⟩
        · exact ih (List.mem_cons_of_mem _ later)

/-- Trimming at the end leaves a beginning. -/
theorem trim_isPrefix (cs : List Char) : trim cs <+: trimStart cs := by
  have kept := List.rdropWhile_prefix isBlank (trimStart cs)
  exact kept

theorem mem_of_mem_trim {cs : List Char} {c : Char} (member : c ∈ trim cs) : c ∈ cs :=
  List.dropWhile_subset _ ((trim_isPrefix cs).subset member)

/-- A text without blanks around it has no blanks before it. -/
theorem trimStart_trim (cs : List Char) : trimStart (trim cs) = trim cs := by
  cases trimmed : trim cs with
  | nil => rfl
  | cons c rest =>
    obtain ⟨_, whole⟩ := trim_isPrefix cs
    rw [trimmed, List.cons_append] at whole
    have bare := List.head?_dropWhile_not isBlank cs
    rw [← trimStart, ← whole] at bare
    exact List.dropWhile_cons_of_neg (by simpa using bare)

theorem trim_trim (cs : List Char) : trim (trim cs) = trim cs := by
  have ends : trim (trim cs) = List.rdropWhile isBlank (trimStart (trim cs)) := rfl
  rw [ends, trimStart_trim]
  exact List.rdropWhile_idempotent isBlank (trimStart cs)

end Text

namespace Shape

theorem toList_intercalate_cons_cons (text next : String) (texts : List String) :
    (String.intercalate "," (text :: next :: texts)).toList =
      text.toList ++ ',' :: (String.intercalate "," (next :: texts)).toList := by
  simp [String.intercalate_cons_cons]

/-- The string of a list holds what its texts hold. -/
theorem splitItems_intercalate (texts : List String) :
    splitItems (String.intercalate "," texts) = texts.flatMap splitItems := by
  induction texts with
  | nil => rfl
  | cons text texts ih =>
    cases texts with
    | nil => simp
    | cons next texts =>
      rw [List.flatMap_cons, ← ih]
      simp only [splitItems, toList_intercalate_cons_cons, Text.splitOn_append, List.map_append, List.filter_append]

theorem splitItems_of_item {text : String} (item : IsItem text) : splitItems text = [text] := by
  obtain ⟨something, whole, bare⟩ := item
  have nonempty : text.toList ≠ [] := by simpa using something
  simp [splitItems, Text.splitOn_of_not_mem whole, bare, nonempty]

theorem flatMap_splitItems {texts : List String} (items : AllItems texts) : texts.flatMap splitItems = texts := by
  induction texts with
  | nil => rfl
  | cons text texts ih =>
    obtain ⟨item, items⟩ := allItems_cons.mp items
    rw [List.flatMap_cons, splitItems_of_item item, ih items]
    rfl

/-- What is read between commas are items. -/
theorem allItems_splitItems (text : String) : AllItems (splitItems text) := by
  intro item member
  obtain ⟨chars, kept, rfl⟩ := List.mem_map.mp member
  obtain ⟨trimmed, something⟩ := List.mem_filter.mp kept
  obtain ⟨part, split, rfl⟩ := List.mem_map.mp trimmed
  refine ⟨by simpa using something, ?_, by simpa using Text.trim_trim part⟩
  intro comma
  rw [String.toList_ofList] at comma
  exact Text.not_mem_of_mem_splitOn split (Text.mem_of_mem_trim comma)

/-- Exactly the lists of items are read back as they are. -/
theorem flatMap_splitItems_eq_self_iff {texts : List String} : texts.flatMap splitItems = texts ↔ AllItems texts := by
  constructor
  · intro same text member
    rw [← same] at member
    obtain ⟨origin, _, read⟩ := List.mem_flatMap.mp member
    exact allItems_splitItems origin text read
  · exact flatMap_splitItems

end Shape
end Provisioner
