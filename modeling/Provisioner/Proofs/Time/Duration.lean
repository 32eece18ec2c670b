import Provisioner.Budget
import Provisioner.Proofs.Text.Items
import Mathlib.Algebra.Order.Field.Rat
import Mathlib.Algebra.Order.Field.Power

/-!
# The texts of durations

What follows the blanks and the sign of a duration is a lone zero or a sequence of components, a decimal number and a
unit each; it spells one number of seconds (`Duration.Derives.unique`). A text is read exactly if it is of that form
(`parse_of_spells`, `spells_of_parse`) and its seconds are not too many; a budget of any other text is the fallback.
The one text besides is a sign with nothing behind it (`parse_lone_sign`).
-/
namespace Provisioner

namespace Text

/-- There is one more part than separators. -/
theorem length_splitOn (separator : Char) (cs : List Char) :
    (splitOn separator cs).length = cs.count separator + 1 := by
  induction cs with
  | nil => rfl
  | cons c cs ih =>
    by_cases same : c = separator
    · simp [splitOn, same, ih]
    · rw [splitOn, if_neg same, List.count_cons_of_ne same]
      cases parts : splitOn separator cs with
      | nil => exact absurd parts (splitOn_ne_nil separator cs)
      | cons part parts => rw [← ih, parts, List.length_cons, List.length_cons]

end Text

namespace Magnitude

/-- The number that a magnitude stands for. -/
def value (x : Magnitude) : ℚ := x.mantissa * (2 : ℚ) ^ x.exponent

theorem quotient_den_pos (x : Magnitude) : 0 < x.quotient.2 := by
  simp [quotient, inUnits, Nat.pow_eq]

theorem value_mul_den (x : Magnitude) : x.value * x.quotient.2 = x.quotient.1 := by
  have split : x.exponent + (-x.exponent).toNat = x.exponent.toNat := by omega
  simp only [value, quotient, inUnits, neg_neg, Nat.pow_eq, one_mul, Nat.cast_mul, Nat.cast_pow, Nat.cast_ofNat]
  rw [mul_assoc, ← zpow_natCast (2 : ℚ) (-x.exponent).toNat, ← zpow_add₀ two_ne_zero, split, zpow_natCast]

end Magnitude

namespace Duration
open Text

/-! ## The grammar -/

/-- The number of a component: decimal digits, at least one, and at most one point. -/
structure IsNumber (number : List Char) : Prop where
  numeric : ∀ c ∈ number, isDigit c = true ∨ c = '.'
  digit : ∃ c ∈ number, isDigit c = true
  point : number.count '.' ≤ 1

/-- The names of the units. -/
def unitNames : List (List Char) :=
  ["ns".toList, "us".toList, "µs".toList, "ms".toList, "s".toList, "m".toList, "h".toList]

/-- A number that is followed by its unit. -/
structure IsComponent (part : List Char × List Char) : Prop where
  number : IsNumber part.1
  unit : part.2 ∈ unitNames

/-- The text of a sequence of components. -/
def spelled (parts : List (List Char × List Char)) : List Char :=
  parts.flatMap fun part => part.1 ++ part.2

/-- The seconds of a component, as a double. -/
def componentSeconds (part : List Char × List Char) : Option Magnitude := do
  let (digits, places) ← decimal? part.1
  let (num, den) ← units.lookup part.2
  let value ← Magnitude.round digits (Nat.pow 10 places)
  let scale ← Magnitude.round num den
  value.mul scale

/-- A sum of seconds with those of a component more. -/
def addSeconds (sum : Option Magnitude) (part : List Char × List Char) : Option Magnitude := do
  (← sum).add (← componentSeconds part)

/-- The seconds of a sequence of components, added up as doubles from the first on. -/
def totalSeconds (parts : List (List Char × List Char)) : Option Magnitude :=
  parts.foldl addSeconds (some .zero)

/-- What stands behind the sign of a duration, and how many seconds it spells. -/
inductive Derives : List Char → Option Magnitude → Prop where
  | zero : Derives ['0'] (some .zero)
  | components {parts : List (List Char × List Char)} (something : parts ≠ [])
      (proper : ∀ part ∈ parts, IsComponent part) : Derives (spelled parts) (totalSeconds parts)

/-- A text spells a number of seconds, with blanks around it and at most one plus sign in front. -/
def Spells (input : String) (sum : Option Magnitude) : Prop :=
  ∃ body, (trim input.toList = body ∨ trim input.toList = '+' :: body) ∧ Derives body sum

/-! ## Cutting a text into components -/

theorem spelled_components (cs : List Char) : spelled (components cs) = cs := by
  induction cs with
  | nil => rfl
  | cons c cs ih =>
    rw [components]
    cases rest : components cs with
    | nil =>
      obtain rfl : cs = [] := by rw [← ih, rest]; rfl
      by_cases numeric : isNumeric c = true <;> simp [numeric, spelled]
    | cons part rest' =>
      obtain ⟨number, unit⟩ := part
      rw [rest] at ih
      by_cases numeric : isNumeric c = true
      · simpa [numeric, spelled] using ih
      · cases number <;> simpa [numeric, spelled] using ih

/-- What stands before the units of a text holds digits and points only. -/
theorem isNumeric_of_mem_components (cs : List Char) :
    ∀ part ∈ components cs, ∀ c ∈ part.1, isNumeric c = true := by
  induction cs with
  | nil => simp [components]
  | cons c cs ih =>
    rw [components]
    cases rest : components cs with
    | nil => by_cases numeric : isNumeric c = true <;> simp [numeric]
    | cons part parts =>
      obtain ⟨number, unit⟩ := part
      rw [rest] at ih
      obtain ⟨first, later⟩ := List.forall_mem_cons.mp ih
      by_cases numeric : isNumeric c = true
      · simpa [numeric] using And.intro first later
      · cases number with
        | nil => simpa [numeric] using later
        | cons d number => simpa [numeric] using And.intro first later

/-- A unit in front of nothing or of a number is cut off as it is. -/
theorem components_unit_append {unit rest : List Char} (something : unit ≠ [])
    (bare : ∀ c ∈ unit, isNumeric c = false)
    (next : ∀ part ∈ (components rest).head?, part.1 ≠ []) :
    components (unit ++ rest) = ([], unit) :: components rest := by
  induction unit with
  | nil => exact absurd rfl something
  | cons c unit ih =>
    obtain ⟨first, later⟩ := List.forall_mem_cons.mp bare
    cases unit with
    | nil =>
      rw [List.singleton_append, components]
      cases parts : components rest with
      | nil => simp [first]
      | cons part parts' =>
        have numbered : part.1 ≠ [] := next part (by simp [parts])
        simp [first, numbered]
    | cons d unit =>
      rw [List.cons_append, components, ih (List.cons_ne_nil d unit) later]
      simp [first]

/-- A number in front of its unit is cut off with it. -/
theorem components_number_append {number unit cs : List Char} {parts : List (List Char × List Char)}
    (numeric : ∀ c ∈ number, isNumeric c = true) (follows : components cs = ([], unit) :: parts) :
    components (number ++ cs) = (number, unit) :: parts := by
  induction number with
  | nil => exact follows
  | cons c number ih =>
    obtain ⟨first, later⟩ := List.forall_mem_cons.mp numeric
    rw [List.cons_append, components, ih later]
    simp [first]

/-- A unit is some text without digits and points. -/
theorem unit_of_mem_unitNames {unit : List Char} (known : unit ∈ unitNames) :
    unit ≠ [] ∧ ∀ c ∈ unit, isNumeric c = false := by
  have each : ∀ unit ∈ unitNames, unit ≠ [] ∧ ∀ c ∈ unit, isNumeric c = false := by decide
  exact each unit known

theorem IsNumber.isNumeric {number : List Char} (proper : IsNumber number) :
    ∀ c ∈ number, isNumeric c = true := by
  intro c member
  simpa [Duration.isNumeric] using proper.numeric c member

theorem IsNumber.ne_nil {number : List Char} (proper : IsNumber number) : number ≠ [] := by
  obtain ⟨c, member, _⟩ := proper.digit
  exact List.ne_nil_of_mem member

/-- A sequence of components is cut into these components. -/
theorem components_spelled {parts : List (List Char × List Char)} (proper : ∀ part ∈ parts, IsComponent part) :
    components (spelled parts) = parts := by
  induction parts with
  | nil => rfl
  | cons part parts ih =>
    obtain ⟨first, later⟩ := List.forall_mem_cons.mp proper
    obtain ⟨something, bare⟩ := unit_of_mem_unitNames first.unit
    have next : ∀ part ∈ (components (spelled parts)).head?, part.1 ≠ [] := by
      intro part member
      rw [ih later] at member
      exact (later part (List.mem_of_mem_head? member)).number.ne_nil
    have unit := components_unit_append something bare next
    rw [ih later] at unit
    -- The rest is cut first, so the unit is put in front of it and then the number in front of the unit.
    rw [spelled, List.flatMap_cons, List.append_assoc]
    exact components_number_append first.number.isNumeric unit

/-! ## Numbers and units -/

theorem isSome_decimal?_of_not_mem {number : List Char} (whole : '.' ∉ number) :
    (decimal? number).isSome ↔ number ≠ [] := by
  rw [decimal?, splitOn_of_not_mem whole]
  cases number <;> simp

theorem isSome_decimal?_append {whole fraction : List Char} (before : '.' ∉ whole) :
    (decimal? (whole ++ '.' :: fraction)).isSome ↔ '.' ∉ fraction ∧ (whole ≠ [] ∨ fraction ≠ []) := by
  rw [decimal?, splitOn_append, splitOn_of_not_mem before, List.singleton_append]
  by_cases after : '.' ∈ fraction
  · -- Two points make at least three parts.
    obtain ⟨one, other, rfl⟩ := List.append_of_mem after
    have parts := length_splitOn '.' (one ++ '.' :: other)
    rw [List.count_append, List.count_cons_self] at parts
    cases split : splitOn '.' (one ++ '.' :: other) with
    | nil => simp [split] at parts
    | cons first rest =>
      cases rest with
      | nil => rw [split, List.length_singleton] at parts; omega
      | cons second rest => simp
  · rw [splitOn_of_not_mem after]
    cases whole <;> cases fraction <;> simp_all

/-- Digits and points are read as a number exactly if they are one. -/
theorem isSome_decimal?_iff {number : List Char} (numeric : ∀ c ∈ number, isNumeric c = true) :
    (decimal? number).isSome ↔ IsNumber number := by
  have digits : ∀ c ∈ number, isDigit c = true ∨ c = '.' := by
    intro c member
    simpa [isNumeric] using numeric c member
  have digit : ∀ {part : List Char}, part ⊆ number → '.' ∉ part → part ≠ [] → ∃ c ∈ number, isDigit c = true := by
    intro part within bare something
    obtain ⟨c, member⟩ := List.exists_mem_of_ne_nil part something
    rcases digits c (within member) with digit | rfl
    · exact ⟨c, within member, digit⟩
    · exact absurd member bare
  by_cases pointed : '.' ∈ number
  · obtain ⟨whole, fraction, rfl, before⟩ := List.eq_append_cons_of_mem pointed
    have count : (whole ++ '.' :: fraction).count '.' = fraction.count '.' + 1 := by
      rw [List.count_append, List.count_cons_self, List.count_eq_zero.mpr before, Nat.zero_add]
    rw [isSome_decimal?_append before]
    constructor
    · rintro ⟨after, something⟩
      refine ⟨digits, ?_, by rw [count, List.count_eq_zero.mpr after]⟩
      rcases something with something | something
      · exact digit (by simp) before something
      · exact digit (by simp) after something
    · rintro ⟨_, ⟨c, member, isOne⟩, point⟩
      refine ⟨List.count_eq_zero.mp (by omega), ?_⟩
      by_contra nothing
      obtain ⟨rfl, rfl⟩ : whole = [] ∧ fraction = [] := by simpa using nothing
      obtain rfl : c = '.' := by simpa using member
      exact absurd isOne (by decide)
  · rw [isSome_decimal?_of_not_mem pointed]
    constructor
    · intro something
      exact ⟨digits, digit (List.Subset.refl _) pointed something, by simp [List.count_eq_zero.mpr pointed]⟩
    · intro proper
      exact proper.ne_nil

/-- A unit is looked up exactly if it has one of the names. -/
theorem isSome_lookup_units_iff (unit : List Char) : (units.lookup unit).isSome ↔ unit ∈ unitNames := by
  have names : unitNames = units.map Prod.fst := rfl
  rw [List.lookup_isSome_iff, names, List.mem_map]
  constructor
  · rintro ⟨known, member, same⟩
    exact ⟨known, member, (eq_of_beq same).symm⟩
  · rintro ⟨known, member, same⟩
    exact ⟨known, member, beq_iff_eq.mpr same.symm⟩

/-! ## Adding up components -/

theorem addComponent_of_isComponent {part : List Char × List Char} (proper : IsComponent part) (input : String)
    (sum : Option Magnitude) :
    addComponent input sum part = .ok (addSeconds sum part) := by
  obtain ⟨⟨digits, places⟩, number⟩ :=
    Option.isSome_iff_exists.mp ((isSome_decimal?_iff proper.number.isNumeric).mpr proper.number)
  obtain ⟨⟨num, den⟩, unit⟩ := Option.isSome_iff_exists.mp ((isSome_lookup_units_iff part.2).mpr proper.unit)
  obtain ⟨something, _⟩ := unit_of_mem_unitNames proper.unit
  simp only [addComponent, addSeconds, componentSeconds, number, unit, List.isEmpty_iff, something, if_false,
    Option.bind_eq_bind, Option.bind_some]
  cases Magnitude.round digits (Nat.pow 10 places) <;> cases Magnitude.round num den <;> cases sum <;> rfl

theorem isComponent_of_addComponent {input : String} {sum sum' : Option Magnitude} {part : List Char × List Char}
    (numeric : ∀ c ∈ part.1, isNumeric c = true) (added : addComponent input sum part = .ok sum') :
    IsComponent part := by
  obtain ⟨number, unit⟩ := part
  rw [addComponent] at added
  split at added
  case h_1 => simp at added
  case h_2 digits places read =>
    split_ifs at added with bare
    split at added
    case h_1 => simp at added
    case h_2 num den known =>
      exact ⟨(isSome_decimal?_iff numeric).mp (by simp [read]), (isSome_lookup_units_iff unit).mp (by simp [known])⟩

/-- Components are added up from the first on. -/
theorem foldlM_addComponent {parts : List (List Char × List Char)} (proper : ∀ part ∈ parts, IsComponent part)
    (input : String) (sum : Option Magnitude) :
    parts.foldlM (addComponent input) sum = .ok (parts.foldl addSeconds sum) := by
  induction parts generalizing sum with
  | nil => rfl
  | cons part parts ih =>
    obtain ⟨first, later⟩ := List.forall_mem_cons.mp proper
    rw [List.foldlM_cons, addComponent_of_isComponent first, List.foldl_cons]
    exact ih later _

/-- What is added up are components. -/
theorem isComponent_of_foldlM {parts : List (List Char × List Char)} {input : String} {sum sum' : Option Magnitude}
    (numeric : ∀ part ∈ parts, ∀ c ∈ part.1, isNumeric c = true)
    (added : parts.foldlM (addComponent input) sum = .ok sum') : ∀ part ∈ parts, IsComponent part := by
  induction parts generalizing sum with
  | nil => simp
  | cons part parts ih =>
    obtain ⟨first, later⟩ := List.forall_mem_cons.mp numeric
    rw [List.foldlM_cons] at added
    cases once : addComponent input sum part with
    | error error =>
      rw [once] at added
      cases added
    | ok next =>
      rw [once] at added
      exact List.forall_mem_cons.mpr ⟨isComponent_of_addComponent first once, ih later added⟩

/-! ## Whole texts -/

/-- A number comes first. -/
theorem Derives.exists_cons {body : List Char} {sum : Option Magnitude} (derived : Derives body sum) :
    ∃ c rest, body = c :: rest ∧ isNumeric c = true := by
  cases derived with
  | zero => exact ⟨'0', [], rfl, by decide⟩
  | @components parts something proper =>
    obtain ⟨part, rest, rfl⟩ := List.exists_cons_of_ne_nil something
    have number := (proper part List.mem_cons_self).number
    obtain ⟨c, number', head⟩ := List.exists_cons_of_ne_nil number.ne_nil
    exact ⟨c, number' ++ part.2 ++ spelled rest, by simp [spelled, head], number.isNumeric c (by simp [head])⟩

theorem Derives.dropPlus_eq {body : List Char} {sum : Option Magnitude} (derived : Derives body sum) :
    dropPlus body = body := by
  obtain ⟨c, rest, rfl, numeric⟩ := derived.exists_cons
  have unsigned : c ≠ '+' := by
    rintro rfl
    exact absurd numeric (by decide)
  simp [dropPlus, unsigned]

theorem eq_or_eq_dropPlus (cs : List Char) : cs = dropPlus cs ∨ cs = '+' :: dropPlus cs := by
  unfold dropPlus
  split
  case h_1 cs => exact .inr rfl
  case h_2 => exact .inl rfl

/-- The sign is what is dropped before the components are read. -/
theorem spells_iff {input : String} {sum : Option Magnitude} :
    Spells input sum ↔ Derives (dropPlus (trim input.toList)) sum := by
  constructor
  · rintro ⟨body, bare | signed, derived⟩
    · rwa [bare, derived.dropPlus_eq]
    · rwa [signed]
  · intro derived
    exact ⟨_, eq_or_eq_dropPlus _, derived⟩

/-- A lone zero has no unit. -/
theorem spelled_ne_zero {parts : List (List Char × List Char)} (proper : ∀ part ∈ parts, IsComponent part) :
    spelled parts ≠ ['0'] := by
  intro zero
  have single : parts = [(['0'], [])] := by rw [← components_spelled proper, zero]; rfl
  have unit := (proper (['0'], []) (by simp [single])).unit
  exact absurd unit (by decide)

/-- A text spells one number of seconds. -/
theorem Derives.unique {body : List Char} {sum sum' : Option Magnitude} (derived : Derives body sum)
    (derived' : Derives body sum') : sum = sum' := by
  generalize same : body = body' at derived'
  cases derived with
  | zero =>
    cases derived' with
    | zero => rfl
    | components _ proper' => exact absurd same.symm (spelled_ne_zero proper')
  | components _ proper =>
    cases derived' with
    | zero => exact absurd same (spelled_ne_zero proper)
    | components _ proper' => rw [← components_spelled proper, ← components_spelled proper', same]

theorem ofMagnitude?_zero : ofMagnitude? .zero = some zero := by
  decide +kernel

/-- The span of a number of seconds, or the refusal of a text that spells too many. -/
def ofSum (input : String) (sum : Option Magnitude) : Except DurationError Duration :=
  match sum.bind ofMagnitude? with
  | some span => .ok span
  | none => .error (.invalid input)

theorem parse_eq {input : String} (something : trim input.toList ≠ []) :
    parse input =
      if dropPlus (trim input.toList) = ['0'] then .ok zero
      else (components (dropPlus (trim input.toList))).foldlM (addComponent input) (some .zero) >>= ofSum input := by
  simp only [parse, List.isEmpty_iff, something, if_false]
  rfl

theorem parse_of_spells {input : String} {sum : Option Magnitude} (spells : Spells input sum) :
    parse input = ofSum input sum := by
  have derived := spells_iff.mp spells
  have something : trim input.toList ≠ [] := by
    intro nothing
    obtain ⟨c, rest, cut, _⟩ := derived.exists_cons
    rw [nothing] at cut
    cases cut
  rw [parse_eq something]
  generalize dropPlus (trim input.toList) = body at derived
  cases derived with
  | zero => rw [if_pos rfl, ofSum, Option.bind_some, ofMagnitude?_zero]
  | @components parts _ proper =>
    rw [if_neg (spelled_ne_zero proper), components_spelled proper, foldlM_addComponent proper]
    rfl

theorem spells_of_parse {input : String} {span : Duration} (behind : trim input.toList ≠ ['+'])
    (read : parse input = .ok span) : ∃ sum, Spells input sum := by
  by_cases nothing : trim input.toList = []
  · rw [parse, nothing] at read
    cases read
  simp only [spells_iff]
  rw [parse_eq nothing] at read
  have something : dropPlus (trim input.toList) ≠ [] := by
    intro bare
    rcases eq_or_eq_dropPlus (trim input.toList) with same | signed
    · exact nothing (same.trans bare)
    · exact behind (by rw [signed, bare])
  generalize dropPlus (trim input.toList) = body at read something
  split_ifs at read with lone
  · subst lone
    exact ⟨_, .zero⟩
  · cases added : (components body).foldlM (addComponent input) (some .zero) with
    | error error =>
      rw [added] at read
      cases read
    | ok sum =>
      have whole := spelled_components body
      have proper := isComponent_of_foldlM (isNumeric_of_mem_components body) added
      have parts : components body ≠ [] := by
        intro none
        rw [none] at whole
        exact something whole.symm
      have derived := Derives.components parts proper
      rw [whole] at derived
      exact ⟨_, derived⟩

/-- Nothing behind the sign counts as no time. -/
theorem parse_lone_sign {input : String} (lone : trim input.toList = ['+']) : parse input = .ok zero := by
  have added : (components []).foldlM (addComponent input) (some .zero) = pure (some .zero) := rfl
  rw [parse_eq (by simp [lone]), lone, dropPlus, if_neg (List.cons_ne_nil _ _).symm, added, pure_bind, ofSum,
    Option.bind_some, ofMagnitude?_zero]

/-! ## Seconds that fit -/

/-- Seconds beyond every double or at least `2 ^ 64`. -/
def TooMany (sum : Option Magnitude) : Prop :=
  ∀ seconds ∈ sum, 2 ^ 64 ≤ seconds.value

theorem ofMagnitude?_eq_none_iff {seconds : Magnitude} : ofMagnitude? seconds = none ↔ 2 ^ 64 ≤ seconds.value := by
  have positive : (0 : ℚ) < seconds.quotient.2 := by exact_mod_cast seconds.quotient_den_pos
  rw [ofMagnitude?, ← mul_le_mul_iff_left₀ positive, seconds.value_mul_den]
  simp
  norm_cast

theorem bind_ofMagnitude?_eq_none_iff {sum : Option Magnitude} : sum.bind ofMagnitude? = none ↔ TooMany sum := by
  cases sum <;> simp [TooMany, ofMagnitude?_eq_none_iff]

/-- A text that is not a lone sign is read exactly if it is of the form of durations and spells no more seconds than
a span can have. Any other text leaves a budget at the fallback. -/
theorem parsed_by_grammar (fallback : Duration) {input : String} (behind : trim input.toList ≠ ['+']) :
    (∀ span, parse input = .ok span → ∃ sum, Spells input sum) ∧
      (∀ sum, Spells input sum → TooMany sum → parse input = .error (.invalid input)) ∧
      (∀ sum, Spells input sum → ¬ TooMany sum → ∃ span, sum.bind ofMagnitude? = some span ∧ parse input = .ok span) ∧
      ((∀ sum, ¬ Spells input sum) → Budget.ofText fallback input = fallback) := by
  refine ⟨fun span read => spells_of_parse behind read, ?tooMany, ?fits, ?other⟩
  case tooMany =>
    intro sum spells tooMany
    rw [parse_of_spells spells, ofSum, bind_ofMagnitude?_eq_none_iff.mpr tooMany]
  case fits =>
    intro sum spells fits
    obtain ⟨span, within⟩ := Option.ne_none_iff_exists'.mp (mt bind_ofMagnitude?_eq_none_iff.mp fits)
    exact ⟨span, within, by rw [parse_of_spells spells, ofSum, within]⟩
  case other =>
    intro other
    cases read : parse input with
    | ok span =>
      obtain ⟨sum, spells⟩ := spells_of_parse behind read
      exact absurd spells (other sum)
    | error error => rw [Budget.ofText, read]

/-- An hour and a half and a quarter of a minute, with blanks around and a sign. -/
theorem signed_parsed_by_grammar :
    parse " +1.5h.25m " = .ok (.ofSeconds 5415) ∧ ∃ sum, Spells " +1.5h.25m " sum := by
  have read : parse " +1.5h.25m " = .ok (.ofSeconds 5415) := by decide +kernel
  exact ⟨read, (parsed_by_grammar zero (by decide)).1 _ read⟩

/-- A lone sign is of no such form and is read as no time, which is then the budget. -/
theorem lone_sign_parsed :
    (∀ sum, ¬ Spells "+" sum) ∧ parse "+" = .ok zero ∧ ∀ fallback, Budget.ofText fallback "+" = zero := by
  have read : parse "+" = .ok zero := parse_lone_sign (by decide)
  refine ⟨?_, read, fun fallback => by rw [Budget.ofText, read]⟩
  intro sum spells
  obtain ⟨c, rest, cut, _⟩ := (spells_iff.mp spells).exists_cons
  cases cut

end Duration
end Provisioner
