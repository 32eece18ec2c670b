import Provisioner.Proofs.Json.Stability
import Mathlib.Tactic.IntervalCases

/-!
# Flat maps as texts

A map of strings, flags and natural numbers is read back from its text (`Json.ofText_text`): every value is one token
(`tokensFrom_compact`), and the tokens are put together to the same fields (`readTokens_fields`).
-/
namespace Provisioner.Json
open Text

/-! ## Strings -/

/-- The scanner in a string that it could read so far, outside any escape. -/
def inString (seen : List Char) : Place :=
  .string { read := .ok seen, place := .plain, half := none }

theorem tokensFrom_control {n : Nat} (control : n < 0x20) (seen rest : List Char) :
    tokensFrom (inString seen) (['\\', 'u', '0', '0', hexDigit (n / 16), hexDigit (n % 16)] ++ rest) =
      tokensFrom (inString (Char.ofNat n :: seen)) rest := by
  interval_cases n <;> rfl

theorem step_inString {c : Char} (quote : c ≠ '"') (backslash : c ≠ '\\') (printable : ¬ c.toNat < 0x20)
    (seen : List Char) : Json.step (inString seen) c = ⟨[], some (inString (c :: seen))⟩ := by
  have next : StringScan.next { read := .ok seen, place := .plain, half := none } c =
      .inside { read := .ok (c :: seen), place := .plain, half := none } := by
    rw [StringScan.next]
    simp only [if_neg backslash, if_neg quote, if_neg printable]
    rfl
  simp only [Json.step, inString, next]

/-- A character is read from what stands for it in a string. -/
theorem tokensFrom_escaped (c : Char) (seen rest : List Char) :
    tokensFrom (inString seen) (escaped c ++ rest) = tokensFrom (inString (c :: seen)) rest := by
  unfold escaped
  split
  case h_8 quote backslash _ _ _ _ _ =>
    split
    · next control => rw [tokensFrom_control control, Char.ofNat_toNat]
    · next printable =>
      rw [List.singleton_append, tokensFrom, step_inString quote backslash printable]
      rfl
  all_goals rfl

theorem tokensFrom_flatMap_escaped (cs seen rest : List Char) :
    tokensFrom (inString seen) (cs.flatMap escaped ++ rest) = tokensFrom (inString (cs.reverse ++ seen)) rest := by
  induction cs generalizing seen with
  | nil => rfl
  | cons c cs ih =>
    rw [List.flatMap_cons, List.append_assoc, tokensFrom_escaped, ih, List.reverse_cons, List.append_assoc,
      List.singleton_append]

/-- A string in its quotes is one token. -/
theorem tokensFrom_quoted (value : String) (rest : List Char) :
    tokensFrom .between (quoted value ++ rest) = .string (.ok value) :: tokensFrom .between rest := by
  have opened : tokensFrom .between (quoted value ++ rest) =
      tokensFrom (inString []) (value.toList.flatMap escaped ++ '"' :: rest) := by
    rw [quoted, List.append_assoc]
    rfl
  have closed (seen : List Char) :
      Json.step (inString seen) '"' = ⟨[.string (.ok (String.ofList seen.reverse))], some .between⟩ := rfl
  have whole : String.ofList (value.toList.reverse ++ []).reverse = value := by simp
  rw [opened, tokensFrom_flatMap_escaped, tokensFrom, closed, whole]
  rfl

/-! ## Numbers -/

/-- The scanner in the digits of a whole number. -/
def inDigits (seen : List Char) : Place :=
  .number { negative := false, place := .whole, whole := seen }

theorem isDigit_digitChar {n : Nat} (digit : n < 10) : isDigit n.digitChar = true := by
  interval_cases n <;> rfl

theorem digitValue_digitChar {n : Nat} (digit : n < 10) : digitValue n.digitChar = n := by
  interval_cases n <;> rfl

theorem tokensFrom_inDigits {c : Char} (digit : isDigit c = true) (seen rest : List Char) :
    tokensFrom (inDigits seen) (c :: rest) = tokensFrom (inDigits (c :: seen)) rest := by
  have next : NumberScan.next? { negative := false, place := .whole, whole := seen } c =
      some { negative := false, place := .whole, whole := c :: seen } := by
    simp only [NumberScan.next?, digit, if_true]
  rw [tokensFrom]
  simp only [Json.step, inDigits, next]
  rfl

/-- The digits of a number other than zero are read as far as they go. -/
theorem tokensFrom_toDigits {n : Nat} (positive : 0 < n) (rest : List Char) :
    tokensFrom .between (Nat.toDigits 10 n ++ rest) = tokensFrom (inDigits (Nat.toDigits 10 n).reverse) rest := by
  induction n using Nat.strongRecOn generalizing rest with
  | ind n ih =>
    by_cases small : n < 10
    · rw [Nat.toDigits_of_lt_base small]
      interval_cases n <;> rfl
    · -- All digits but the last are those of the tenth part.
      rw [Nat.toDigits_of_base_le (by decide) (by omega), List.append_assoc, ih (n / 10) (by omega) (by omega),
        List.singleton_append, tokensFrom_inDigits (isDigit_digitChar (by omega)), List.reverse_append]
      rfl

theorem take_append (cs ds : List Char) (taken left : Nat) :
    NumberScan.take (cs ++ ds) taken left =
      NumberScan.take ds (NumberScan.take cs taken left).1 (NumberScan.take cs taken left).2 := by
  induction cs generalizing taken left with
  | nil => rfl
  | cons c cs ih =>
    simp only [List.cons_append, NumberScan.take]
    split <;> exact ih ..

/-- All digits of a number below the bound are taken on. -/
theorem take_toDigits {n : Nat} (small : n ≤ NumberScan.greatest) :
    NumberScan.take (Nat.toDigits 10 n) 0 0 = (n, 0) := by
  induction n using Nat.strongRecOn with
  | ind n ih =>
    by_cases digit : n < 10
    · rw [Nat.toDigits_of_lt_base digit]
      interval_cases n <;> rfl
    · have value : n / 10 * 10 + digitValue (n % 10).digitChar = n := by
        rw [digitValue_digitChar (by omega)]
        omega
      rw [Nat.toDigits_of_base_le (by decide) (by omega), take_append, ih (n / 10) (by omega) (by omega)]
      simp only [NumberScan.take, value, small, and_self, if_true]

/-- A character that neither goes on with a number nor is a digit. -/
def EndsNumber (c : Char) : Prop :=
  isDigit c = false ∧ c ≠ '.' ∧ c ≠ 'e' ∧ c ≠ 'E'

instance (c : Char) : Decidable (EndsNumber c) :=
  inferInstanceAs (Decidable (_ ∧ _))

/-- A number that is complete ends before such a character. -/
theorem step_number {scan : NumberScan} {c : Char} (complete : scan.place = .whole ∨ scan.place = .zero)
    (ends : EndsNumber c) {value : Source} (read : scan.value = .ok value) :
    Json.step (.number scan) c = ⟨.scalar (.ok value) :: (begin c).tokens, (begin c).place⟩ := by
  obtain ⟨digit, point, mark, mark'⟩ := ends
  rcases complete with place | place <;>
    simp [Json.step, NumberScan.next?, NumberScan.token, NumberScan.mayEnd, place, digit, point, mark, mark', read]

theorem tokensFrom_number {scan : NumberScan} {c : Char} (complete : scan.place = .whole ∨ scan.place = .zero)
    (ends : EndsNumber c) {value : Source} (read : scan.value = .ok value) (rest : List Char) :
    tokensFrom (.number scan) (c :: rest) = .scalar (.ok value) :: tokensFrom .between (c :: rest) := by
  -- The character ends the number and begins a token of its own in the same step.
  rw [tokensFrom, tokensFrom, step_number complete ends read]
  cases place : (begin c).place <;> simp [Json.step, place]

/-- A natural number is one token before a character that ends it. -/
theorem tokensFrom_ofNat {n : Nat} (small : n ≤ NumberScan.greatest) {c : Char} (ends : EndsNumber c)
    (rest : List Char) :
    tokensFrom .between ((Json.ofNat n).compact ++ c :: rest) =
      .scalar (.ok (Json.ofNat n).source) :: tokensFrom .between (c :: rest) := by
  have text : (Json.ofNat n).compact = Nat.toDigits 10 n := by
    have same : (Json.ofNat n).compact = (toString n).toList := rfl
    rw [same, Nat.toString_eq_ofList_toDigits, String.toList_ofList]
  rw [text]
  by_cases positive : 0 < n
  · rw [tokensFrom_toDigits positive, inDigits, tokensFrom_number (.inl rfl) ends]
    rw [NumberScan.value, List.reverse_reverse, take_toDigits small]
    rfl
  · obtain rfl : n = 0 := by omega
    have start : tokensFrom .between (Nat.toDigits 10 0 ++ c :: rest) =
        tokensFrom (.number { negative := false, place := .zero }) (c :: rest) := rfl
    rw [start, tokensFrom_number (.inr rfl) ends]
    rfl

/-! ## Values and fields -/

/-- A string, a flag, or a natural number that is kept as an integer. -/
inductive IsScalar : Json → Prop where
  | string (value : String) : IsScalar (.string value)
  | bool (value : Bool) : IsScalar (.bool value)
  | ofNat (n : Nat) (small : n ≤ NumberScan.greatest) : IsScalar (.ofNat n)

theorem IsScalar.isPrimitive {value : Json} (scalar : value.IsScalar) : value.isPrimitive = true := by
  cases scalar <;> rfl

/-- The token of such a value. -/
def scalarToken : Json → Token
  | .string value => .string (.ok value)
  | value => .scalar (.ok value.source)

/-- Such a value is one token. -/
theorem tokensFrom_compact {value : Json} (scalar : value.IsScalar) {c : Char} (ends : EndsNumber c)
    (rest : List Char) :
    tokensFrom .between (value.compact ++ c :: rest) = scalarToken value :: tokensFrom .between (c :: rest) := by
  cases scalar with
  | string value => exact tokensFrom_quoted value _
  | bool value => cases value <;> rfl
  | ofNat n small => exact tokensFrom_ofNat small ends rest

/-- The object that is read, with the fields so far, last first. -/
def inFields (fields : List (String × Source)) (key : String) : Frame :=
  { contents := .fields fields key, barrier := none }

theorem move_scalar {value : Json} (scalar : value.IsScalar) (fields : List (String × Source)) (key : String) :
    move [inFields fields key] .value (scalarToken value) =
      .next [inFields ((key, value.source) :: fields) key] .afterField := by
  cases scalar <;> rfl

/-- A field is read up to what follows it, whether it is the first one or follows a comma. -/
theorem readTokens_field {expected : Expected} (begins : expected = .firstKey ∨ expected = .nextKey) {value : Json}
    (scalar : value.IsScalar) (fields : List (String × Source)) (before key : String) {c : Char} (ends : EndsNumber c)
    (rest : List Char) :
    readTokens [inFields fields before] expected
        (tokensFrom .between (quoted key ++ ':' :: value.compact ++ c :: rest)) =
      readTokens [inFields ((key, value.source) :: fields) key] .afterField (tokensFrom .between (c :: rest)) := by
  have colon : tokensFrom .between (':' :: (value.compact ++ c :: rest)) =
      .colon :: scalarToken value :: tokensFrom .between (c :: rest) := by
    rw [← tokensFrom_compact scalar ends]
    rfl
  rw [List.append_assoc, List.cons_append, tokensFrom_quoted, colon]
  have keyed : move [inFields fields before] expected (.string (.ok key)) = .next [inFields fields key] .colon := by
    rcases begins with rfl | rfl <;> rfl
  have valued : move [inFields fields key] .colon .colon = .next [inFields fields key] .value := rfl
  simp only [readTokens, keyed, valued, move_scalar scalar]

/-- All fields are read up to the brace that closes the object. -/
theorem readTokens_fields {fields : Fields} (something : fields ≠ []) (scalar : ∀ field ∈ fields, field.2.IsScalar)
    {expected : Expected} (begins : expected = .firstKey ∨ expected = .nextKey) (earlier : List (String × Source))
    (before : String) :
    readTokens [inFields earlier before] expected
        (tokensFrom .between (joined [','] (compactFields fields) ++ ['\x7d'])) =
      ⟨.object (earlier.reverse ++ fieldSources fields) none, false⟩ := by
  induction fields generalizing expected earlier before with
  | nil => exact absurd rfl something
  | cons field fields ih =>
    obtain ⟨key, value⟩ := field
    obtain ⟨first, later⟩ := List.forall_mem_cons.mp scalar
    -- After the last field comes the brace, after any other a comma and the next key.
    cases fields with
    | nil =>
      have brace : EndsNumber '\x7d' := by decide
      have closed : readTokens [inFields ((key, value.source) :: earlier) key] .afterField
          (tokensFrom .between ['\x7d']) = ⟨.object ((key, value.source) :: earlier).reverse none, false⟩ := rfl
      rw [compactFields, compactFields, joined, readTokens_field begins first _ _ _ brace, closed, List.reverse_cons]
      rfl
    | cons next fields =>
      have comma : EndsNumber ',' := by decide
      have parts : joined [','] (compactFields ((key, value) :: next :: fields)) =
          quoted key ++ ':' :: value.compact ++ ',' :: joined [','] (compactFields (next :: fields)) := by
        rw [compactFields, compactFields, joined, List.append_assoc, List.singleton_append]
        simp
      have follows (rest : List Char) : readTokens [inFields ((key, value.source) :: earlier) key] .afterField
          (tokensFrom .between (',' :: rest)) =
            readTokens [inFields ((key, value.source) :: earlier) key] .nextKey (tokensFrom .between rest) := rfl
      rw [parts, List.append_assoc, List.cons_append, readTokens_field begins first _ _ _ comma, follows,
        ih (by simp) later (.inr rfl), List.reverse_cons, List.append_assoc]
      rfl

/-- A flat map is read back from its text. -/
theorem ofText_text {fields : Fields} (sorted : fields.IsMap) (scalar : ∀ field ∈ fields, field.2.IsScalar) :
    ofText (Json.object fields).text = .ok (.object fields) := by
  have tokenized : tokens (Json.object fields).text.toList =
      .openBrace :: tokensFrom .between (joined [','] (compactFields fields) ++ ['\x7d']) := by
    rw [text, String.toList_ofList, compact, List.cons_append]
    rfl
  have read : readText (Json.object fields).text = ⟨.object (fieldSources fields) none, false⟩ := by
    rw [readText, tokenized]
    cases fields with
    | nil => rfl
    | cons field fields => exact readTokens_fields (by simp) scalar (.inl rfl) [] ""
  have whole : Source.toJson (.object (fieldSources fields) none) = .ok (.object fields) := by
    have fixed : ∀ field ∈ fields, field.2.toMaps = field.2 :=
      fun field member => toMaps_of_isPrimitive (scalar field member).isPrimitive
    have same := Fields.toMaps_toMap fixed
    rw [Fields.toMap_of_isMap sorted] at same
    exact (toJson_source (.object fields)).trans (congrArg Except.ok same)
  rw [ofText, read, whole]
  rfl

end Provisioner.Json
