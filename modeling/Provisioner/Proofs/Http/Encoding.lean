import Provisioner.Http.Url
import Mathlib.Tactic.IntervalCases

/-!
# Percent-encoding

Encoding a text changes no character that may stand for itself, and escapes stay as they are. So texts with the same
encoding are the same, but for escapes in them that encoding would write (`encoded_injective`): what is escaped can be
read back byte by byte (`unescaped_encoded`).
-/
namespace Provisioner.Url

/-- What holds of all characters in a list is decided for these alone, not for every character there is. -/
instance (priority := high) decidableForallCharacters {p : Char → Prop} [DecidablePred p] (characters : List Char) :
    Decidable (∀ c ∈ characters, p c) :=
  List.decidableBAll p characters

instance (priority := high) decidableForallCharacter? {p : Char → Prop} [DecidablePred p] (character : Option Char) :
    Decidable (∀ c ∈ character, p c) :=
  Option.decidableForallMem character

/-- The escape of a byte: a percent sign and two digits. -/
def escape (byte : UInt8) : List Char :=
  ['%', upperHex (byte.toNat / 16), upperHex (byte.toNat % 16)]

/-- The text holds an escape. -/
def HasEscape (cs : List Char) : Prop :=
  ∃ byte, escape byte <:+: cs

theorem HasEscape.cons {c : Char} {cs : List Char} (has : HasEscape cs) : HasEscape (c :: cs) := by
  obtain ⟨byte, inside⟩ := has
  exact ⟨byte, inside.trans (List.suffix_cons c cs).isInfix⟩

theorem not_hasEscape_of_not_mem {cs : List Char} (free : '%' ∉ cs) : ¬ HasEscape cs := by
  rintro ⟨byte, inside⟩
  exact free (inside.subset List.mem_cons_self)

theorem percentEncoded_eq (c : Char) : percentEncoded c = (String.utf8EncodeChar c).flatMap escape := rfl

theorem encoded_append (reserved one other : List Char) :
    encoded reserved (one ++ other) = encoded reserved one ++ encoded reserved other :=
  List.flatMap_append

/-- A character that stands for itself. -/
def IsPlain (reserved : List Char) (c : Char) : Prop :=
  0x20 ≤ c.toNat ∧ c.toNat ≤ 0x7E ∧ c ∉ reserved

instance (reserved : List Char) (c : Char) : Decidable (IsPlain reserved c) :=
  inferInstanceAs (Decidable (_ ∧ _))

theorem encoded_cons (reserved : List Char) (c : Char) (cs : List Char) :
    encoded reserved (c :: cs) =
      (if IsPlain reserved c then [c] else percentEncoded c) ++ encoded reserved cs := by
  rw [encoded, List.flatMap_cons, ← encoded]
  have stands : IsPlain reserved c ↔ ¬ (c.toNat < 0x20 ∨ 0x7E < c.toNat ∨ c ∈ reserved) := by
    simp only [IsPlain, not_or, Nat.not_lt]
  by_cases plain : IsPlain reserved c
  · rw [if_pos plain, if_neg (stands.mp plain)]
  · rw [if_neg plain, if_pos (not_not.mp (mt stands.mpr plain))]

theorem encoded_of_plain {reserved cs : List Char} (plain : ∀ c ∈ cs, IsPlain reserved c) :
    encoded reserved cs = cs := by
  induction cs with
  | nil => rfl
  | cons c cs ih =>
    obtain ⟨here, later⟩ := List.forall_mem_cons.mp plain
    rw [encoded_cons, if_pos here, ih later]
    rfl

/-! ## Digits -/

/-- The value of a digit. -/
def upperHexValue? (c : Char) : Option Nat :=
  (List.range 16).find? fun n => upperHex n = c

theorem upperHexValue?_upperHex {n : Nat} (small : n < 16) : upperHexValue? (upperHex n) = some n := by
  interval_cases n <;> decide

theorem upperHex_of_upperHexValue? {c : Char} {n : Nat} (read : upperHexValue? c = some n) : n < 16 ∧ upperHex n = c := by
  obtain ⟨is, member⟩ := And.intro (List.find?_some read) (List.mem_of_find?_eq_some read)
  exact ⟨List.mem_range.mp member, of_decide_eq_true is⟩

theorem upperHex_ne {n : Nat} (small : n < 16) : upperHex n ≠ '%' ∧ upperHex n ≠ '/' := by
  interval_cases n <;> decide

/-- Encoding makes no slashes. -/
theorem slash_not_mem_encoded {reserved cs : List Char} (free : '/' ∉ cs) : '/' ∉ encoded reserved cs := by
  intro member
  obtain ⟨c, inside, member⟩ := List.mem_flatMap.mp member
  split at member
  · obtain ⟨byte, _, member⟩ := List.mem_flatMap.mp member
    have bound := byte.toNat_lt
    have high : upperHex (byte.toNat / 16) ≠ '/' := (upperHex_ne (by omega)).2
    have low : upperHex (byte.toNat % 16) ≠ '/' := (upperHex_ne (by omega)).2
    simp [high.symm, low.symm] at member
  · obtain rfl := List.mem_singleton.mp member
    exact free inside

/-! ## Reading back -/

/-- The bytes that a text spells, where an escape stands for its byte. -/
def unescaped : List Char → List UInt8
  | [] => []
  | '%' :: high :: low :: rest =>
    match upperHexValue? high, upperHexValue? low with
    | some high, some low => UInt8.ofNat (16 * high + low) :: unescaped rest
    | _, _ => String.utf8EncodeChar '%' ++ unescaped (high :: low :: rest)
  | c :: rest => String.utf8EncodeChar c ++ unescaped rest

theorem unescaped_escape (byte : UInt8) (cs : List Char) : unescaped (escape byte ++ cs) = byte :: unescaped cs := by
  have bound := byte.toNat_lt
  simp only [escape, List.cons_append, List.nil_append, unescaped, upperHexValue?_upperHex (n := byte.toNat / 16) (by omega),
    upperHexValue?_upperHex (n := byte.toNat % 16) (by omega)]
  rw [Nat.div_add_mod, UInt8.ofNat_toNat]

theorem unescaped_escapes (bytes : List UInt8) (cs : List Char) :
    unescaped (bytes.flatMap escape ++ cs) = bytes ++ unescaped cs := by
  induction bytes with
  | nil => rfl
  | cons byte bytes ih => rw [List.flatMap_cons, List.append_assoc, unescaped_escape, ih, List.cons_append]

theorem unescaped_cons_of_ne {c : Char} (other : c ≠ '%') (cs : List Char) :
    unescaped (c :: cs) = String.utf8EncodeChar c ++ unescaped cs := by
  rcases cs with _ | ⟨high, _ | ⟨low, rest⟩⟩ <;> simp [unescaped, other]

/-- A digit at the start of an encoded text stands for itself. -/
theorem encoded_eq_cons {reserved cs rest : List Char} {digit : Char} (other : digit ≠ '%')
    (whole : encoded reserved cs = digit :: rest) : ∃ rest', cs = digit :: rest' ∧ rest = encoded reserved rest' := by
  cases cs with
  | nil => cases whole
  | cons c cs =>
    rw [encoded_cons] at whole
    split at whole
    · obtain ⟨rfl, rfl⟩ := List.cons.inj whole
      exact ⟨cs, rfl, rfl⟩
    · rw [percentEncoded_eq] at whole
      cases bytes : String.utf8EncodeChar c with
      | nil => exact absurd bytes String.utf8EncodeChar_ne_nil
      | cons byte bytes' =>
        rw [bytes] at whole
        exact absurd (List.cons.inj whole).1.symm other

/-- A percent sign that starts no escape does not start one once the rest is encoded. -/
theorem unescaped_percent {reserved cs : List Char} (free : ¬ HasEscape ('%' :: cs)) :
    unescaped ('%' :: encoded reserved cs) = String.utf8EncodeChar '%' ++ unescaped (encoded reserved cs) := by
  match whole : encoded reserved cs with
  | [] => rfl
  | [c] => rfl
  | high :: low :: rest =>
    rw [unescaped]
    split
    · next h l readHigh readLow =>
      exfalso
      obtain ⟨smallHigh, rfl⟩ := upperHex_of_upperHexValue? readHigh
      obtain ⟨smallLow, rfl⟩ := upperHex_of_upperHexValue? readLow
      obtain ⟨_, rfl, later⟩ := encoded_eq_cons (upperHex_ne smallHigh).1 whole
      obtain ⟨rest', rfl, _⟩ := encoded_eq_cons (upperHex_ne smallLow).1 later.symm
      apply free
      have value : (UInt8.ofNat (16 * h + l)).toNat = 16 * h + l := by
        rw [UInt8.toNat_ofNat']
        omega
      refine ⟨UInt8.ofNat (16 * h + l), [], rest', ?_⟩
      rw [escape, value, Nat.mul_add_div (by decide), Nat.div_eq_of_lt smallLow, Nat.mul_add_mod, Nat.mod_eq_of_lt smallLow]
      rfl
    · rfl

/-- What was encoded is read back, if nothing was escaped before. -/
theorem unescaped_encoded {reserved cs : List Char} (free : ¬ HasEscape cs) :
    unescaped (encoded reserved cs) = cs.flatMap String.utf8EncodeChar := by
  induction cs with
  | nil => rfl
  | cons c cs ih =>
    have later := ih fun has => free has.cons
    rw [encoded_cons, List.flatMap_cons]
    split
    · by_cases percent : c = '%'
      · subst percent
        rw [List.singleton_append, unescaped_percent free, later]
      · rw [List.singleton_append, unescaped_cons_of_ne percent, later]
    · rw [percentEncoded_eq, unescaped_escapes, later]

/-- Texts without escapes that are encoded in the same way are the same. -/
theorem encoded_injective {reserved one other : List Char} (free : ¬ HasEscape one) (free' : ¬ HasEscape other)
    (same : encoded reserved one = encoded reserved other) : one = other := by
  have bytes : one.utf8Encode = other.utf8Encode := by
    rw [List.utf8Encode, List.utf8Encode, ← unescaped_encoded free, ← unescaped_encoded free', same]
  rw [← String.toByteArray_ofList, ← String.toByteArray_ofList, String.toByteArray_inj] at bytes
  exact String.ofList_inj.mp bytes

/-- Names without escapes that are encoded in the same way are the same. -/
theorem encoded_names_injective {reserved : List Char} {names names' : List String}
    (free : ∀ name ∈ names, ¬ HasEscape name.toList) (free' : ∀ name ∈ names', ¬ HasEscape name.toList)
    (same : names.map (fun name => encoded reserved name.toList) =
      names'.map (fun name => encoded reserved name.toList)) : names = names' := by
  induction names generalizing names' with
  | nil => exact (List.map_eq_nil_iff.mp same.symm).symm
  | cons name names ih =>
    cases names' with
    | nil => cases same
    | cons name' names' =>
      obtain ⟨here, later⟩ := List.cons.inj same
      obtain ⟨bare, others⟩ := List.forall_mem_cons.mp free
      obtain ⟨bare', others'⟩ := List.forall_mem_cons.mp free'
      rw [String.toList_inj.mp (encoded_injective bare bare' here), ih others others' later]

end Provisioner.Url
