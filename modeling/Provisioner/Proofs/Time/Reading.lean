import Provisioner.Proofs.Text.Digits
import Provisioner.Proofs.Time.Calendar

/-!
# Instants read back

The text of an instant is read back exactly if its year has four digits (`parse?_text`, `parse?_text_eq_none`).
What is read back is the instant cut to the millisecond (`isCutOf_reread`), and its text is the same again
(`text_reread`).
-/
namespace Provisioner.Instant
open Text

/-- The instant from which days are counted. -/
def epoch : Instant :=
  ⟨0, 0, 0⟩

/-- The year of an instant, in UTC. -/
def year (t : Instant) : Int :=
  (Date.ofDays t.day).year

/-- The year of an instant is one that four digits spell. -/
def HasPlainYear (t : Instant) : Prop :=
  0 ≤ t.year ∧ t.year ≤ 9999

instance (t : Instant) : Decidable t.HasPlainYear :=
  inferInstanceAs (Decidable (_ ∧ _))

/-- What the text of an instant spells: the instant cut to the millisecond. A leap second that does not end a
minute is written like the second after it, and read as that one. -/
def reread (t : Instant) : Instant :=
  if h : t.isLeap ∧ t.second.val % 60 ≠ 59 then
    { day := t.day
      second := ⟨t.second.val + 1, by omega⟩
      nanos := ⟨(t.nanos.val - 1_000_000_000) / 1_000_000 * 1_000_000, by omega⟩ }
  else t.truncated

@[simp] theorem day_reread (t : Instant) : t.reread.day = t.day := by
  unfold reread
  split <;> rfl

theorem HasPlainYear.reread {t : Instant} (plain : t.HasPlainYear) : t.reread.HasPlainYear := by
  simpa only [HasPlainYear, year, day_reread] using plain

/-- An odd leap second is read as the second after it. -/
theorem reread_of_odd {t : Instant} (odd : t.isLeap ∧ t.second.val % 60 ≠ 59) :
    t.reread = { day := t.day
                 second := ⟨t.second.val + 1, by omega⟩
                 nanos := ⟨(t.nanos.val - 1_000_000_000) / 1_000_000 * 1_000_000, by omega⟩ } :=
  dif_pos odd

/-- Nothing but the time below a millisecond is lost of any other instant. -/
theorem reread_of_usual {t : Instant} (usual : ¬ (t.isLeap ∧ t.second.val % 60 ≠ 59)) : t.reread = t.truncated :=
  dif_neg usual

/-! ## Parts of the text -/

theorem number?_padded (width n : Nat) (rest : List Char) :
    number? width (padded width n ++ rest) = some (n % 10 ^ width, rest) := by
  have all : (padded width n).all isDigit = true :=
    List.all_eq_true.mpr fun c member => isDigit_of_mem_padded member
  simp [number?, all, digitsValue_padded]

theorem number?_of_lt {width n : Nat} (small : n < 10 ^ width) (rest : List Char) :
    number? width (padded width n ++ rest) = some (n, rest) := by
  rw [number?_padded, Nat.mod_eq_of_lt small]

theorem fraction?_padded {n : Nat} (small : n < 1000) {c : Char} (stop : isDigit c = false) (rest : List Char) :
    fraction? ('.' :: (padded 3 n ++ c :: rest)) = some (⟨n * 1_000_000, by omega⟩, c :: rest) := by
  have digits : (padded 3 n ++ c :: rest).takeWhile isDigit = padded 3 n := by
    rw [List.takeWhile_append_of_pos (fun _ => isDigit_of_mem_padded)]
    simp [stop]
  have after : (padded 3 n ++ c :: rest).dropWhile isDigit = c :: rest := by
    rw [List.dropWhile_append_of_pos (fun _ => isDigit_of_mem_padded)]
    simp [stop]
  have nonempty : (padded 3 n).isEmpty = false := rfl
  have value : digitsValue ((padded 3 n ++ List.replicate 9 '0').take 9) = n * 1_000_000 := by
    have : (padded 3 n ++ List.replicate 9 '0').take 9 = padded 3 n ++ List.replicate 6 '0' := rfl
    rw [this, digitsValue_append, digitsValue_padded, digitsValue_zeros]
    simp [Nat.mod_eq_of_lt small]
  simp only [fraction?, digits, after, nonempty, value]
  simp only [Bool.false_eq_true, ↓reduceIte, Option.some.injEq, Prod.mk.injEq, and_true]
  exact Fin.ext (Nat.mod_eq_of_lt (by omega))

/-- The month and the day of a date of the calendar have two digits. -/
theorem date_bounds {d : Date} (valid : d.isValid = true) : d.month < 10 ^ 2 ∧ d.day < 10 ^ 2 := by
  simp only [Date.isValid, Bool.and_eq_true, decide_eq_true_eq] at valid
  have : Date.monthLength d.year d.month ≤ 31 := by
    unfold Date.monthLength
    split <;> try split
    all_goals omega
  omega

theorem yearText_plain {year : Int} (plain : 0 ≤ year ∧ year ≤ 9999) : Date.yearText year = padded 4 year.toNat := by
  simp [Date.yearText, plain]

/-- A year that is not plain is written with a sign. -/
theorem exists_sign_of_not_plain {year : Int} (odd : ¬ (0 ≤ year ∧ year ≤ 9999)) :
    ∃ sign digits, Date.yearText year = sign :: digits ∧ isDigit sign = false := by
  simp only [Date.yearText, odd, ↓reduceIte]
  split
  · exact ⟨'-', _, rfl, rfl⟩
  · exact ⟨'+', _, rfl, rfl⟩

/-! ## The whole text -/

/-- A part that is read, and what is read after it. -/
theorem read_part {α β : Type} {part : Option α} {value : α} {next : α → Option β} {result : β}
    (first : part = some value) (after : next value = some result) : (part >>= next) = some result := by
  rw [first]
  exact after

theorem parse?_parts {date : Date} (valid : date.isValid = true) (plain : 0 ≤ date.year ∧ date.year ≤ 9999)
    {hour minute second milli : Nat} (h : hour ≤ 23) (m : minute ≤ 59) (s : second ≤ 60) (f : milli < 1000) :
    parse? (date.text ++ 'T' :: padded 2 hour ++ ':' :: padded 2 minute ++ ':' :: padded 2 second ++
      '.' :: padded 3 milli ++ ['Z']) = some (ofLocal date hour minute second ⟨milli * 1_000_000, by omega⟩ 0) := by
  obtain ⟨months, days⟩ := date_bounds valid
  have same : (date.year.toNat : Int) = date.year := by omega
  simp only [Date.text, yearText_plain plain, List.append_assoc, List.cons_append]
  refine read_part (number?_of_lt (by omega) _) (read_part rfl ?_)
  refine read_part (number?_of_lt months _) (read_part rfl ?_)
  refine read_part (number?_of_lt days _) (read_part rfl ?_)
  refine read_part (number?_of_lt (by omega) _) (read_part rfl ?_)
  refine read_part (number?_of_lt (by omega) _) (read_part rfl ?_)
  refine read_part (number?_of_lt (by omega) _) ?_
  refine read_part (fraction?_padded f rfl _) (read_part rfl ?_)
  simp [same, valid, h, m, s]

theorem isLeap_iff (t : Instant) : t.isLeap = true ↔ 1_000_000_000 ≤ t.nanos.val := by
  simp [isLeap]

/-- A time of day in UTC, by its parts. -/
theorem ofLocal_utc (date : Date) {hour minute second : Nat} (h : hour ≤ 23) (m : minute ≤ 59) (s : second ≤ 60)
    (nanos : Fin (1_000_000_000)) :
    ofLocal date hour minute second nanos 0 =
      { day := date.toDays
        second := ⟨hour * 3600 + minute * 60 + (if second = 60 then 59 else second), by split <;> omega⟩
        nanos := ⟨nanos.val + (if second = 60 then 1_000_000_000 else 0), by split <;> omega⟩ } := by
  simp only [ofLocal, Instant.mk.injEq, Fin.mk.injEq, and_true]
  split <;> omega

theorem eq_of_parts {t u : Instant} (day : t.day = u.day) (second : t.second.val = u.second.val)
    (nanos : t.nanos.val = u.nanos.val) : t = u := by
  cases t
  cases u
  simp_all [Fin.ext_iff]

/-- The hour, the minute, the second and the millisecond of an instant make the instant that is read back. -/
theorem ofLocal_parts (t : Instant) (f : t.nanos.val / 1_000_000 % 1000 * 1_000_000 < 1_000_000_000) :
    ofLocal (Date.ofDays t.day) (t.second.val / 3600) (t.second.val / 60 % 60)
      (t.second.val % 60 + if t.isLeap then 1 else 0) ⟨t.nanos.val / 1_000_000 % 1000 * 1_000_000, f⟩ 0 = t.reread := by
  have second := t.second.isLt
  have nanos := t.nanos.isLt
  have leaps := t.isLeap_iff
  rw [ofLocal_utc _ (by omega) (by omega) (by split <;> omega), Date.toDays_ofDays]
  by_cases leap : t.isLeap = true
  · have large : 1_000_000_000 ≤ t.nanos.val := leaps.mp leap
    by_cases last : t.second.val % 60 = 59
    · rw [reread_of_usual fun odd => odd.2 last]
      apply eq_of_parts <;> simp only [truncated, leap, last, ↓reduceIte] <;> omega
    · have within : t.second.val % 60 + 1 ≠ 60 := by omega
      rw [reread_of_odd ⟨leap, last⟩]
      apply eq_of_parts <;> simp only [leap, within, ↓reduceIte] <;> omega
  · have small : ¬ 1_000_000_000 ≤ t.nanos.val := fun large => leap (leaps.mpr large)
    have within : t.second.val % 60 + 0 ≠ 60 := by omega
    rw [reread_of_usual fun odd => leap odd.1]
    apply eq_of_parts <;> simp only [truncated, leap, within, ↓reduceIte, Bool.false_eq_true] <;> omega

theorem parse?_text {t : Instant} (plain : t.HasPlainYear) : parse? t.text = some t.reread := by
  rw [← ofLocal_parts t (by omega)]
  exact parse?_parts (Date.isValid_ofDays t.day) plain (by omega) (by omega) (by split <;> omega) (by omega)

theorem parse?_text_eq_none {t : Instant} (odd : ¬ t.HasPlainYear) : parse? t.text = none := by
  obtain ⟨sign, digits, written, other⟩ := @exists_sign_of_not_plain (Date.ofDays t.day).year odd
  have first : number? 4 t.text = none := by
    simp [text, Date.text, written, number?, other]
  rw [parse?, first]
  rfl

theorem text_reread (t : Instant) : t.reread.text = t.text := by
  have second := t.second.isLt
  have nanos := t.nanos.isLt
  by_cases odd : t.isLeap ∧ t.second.val % 60 ≠ 59
  · have large : 1_000_000_000 ≤ t.nanos.val := t.isLeap_iff.mp odd.1
    have common : ¬ 1_000_000_000 ≤ (t.nanos.val - 1_000_000_000) / 1_000_000 * 1_000_000 := by omega
    have hour : (t.second.val + 1) / 3600 = t.second.val / 3600 := by omega
    have minute : (t.second.val + 1) / 60 = t.second.val / 60 := by omega
    have next : (t.second.val + 1) % 60 = t.second.val % 60 + 1 := by omega
    have milli : (t.nanos.val - 1_000_000_000) / 1_000_000 * 1_000_000 / 1_000_000 % 1000 =
        t.nanos.val / 1_000_000 % 1000 := by omega
    rw [reread_of_odd odd]
    simp only [text, isLeap, common, large, decide_true, decide_false, hour, minute, next, milli]
    rfl
  · have leap : t.truncated.isLeap = t.isLeap := decide_eq_decide.mpr (by dsimp only [truncated]; omega)
    have milli : t.nanos.val / 1_000_000 * 1_000_000 / 1_000_000 = t.nanos.val / 1_000_000 := by omega
    rw [reread_of_usual odd]
    simp only [text, leap]
    simp only [truncated, milli]

/-- What is read back is read back as it is. -/
@[simp] theorem reread_reread (t : Instant) : t.reread.reread = t.reread := by
  have nanos := t.nanos.isLt
  have usual : ¬ (t.reread.isLeap ∧ t.reread.second.val % 60 ≠ 59) := by
    by_cases odd : t.isLeap ∧ t.second.val % 60 ≠ 59
    · rw [reread_of_odd odd, isLeap_iff]
      dsimp only
      omega
    · rw [reread_of_usual odd]
      rw [isLeap_iff] at odd ⊢
      dsimp only [truncated]
      omega
  rw [reread_of_usual usual]
  apply eq_of_parts
  · rfl
  · rfl
  · by_cases odd : t.isLeap ∧ t.second.val % 60 ≠ 59
    · simp only [truncated, reread_of_odd odd]
      omega
    · simp only [truncated, reread_of_usual odd]
      omega

/-! ## What is lost -/

/-- The milliseconds from the epoch to an instant. A leap second goes on counting in the second after it. -/
def milliseconds (t : Instant) : Int :=
  t.unixSeconds * 1000 + (t.nanos.val / 1_000_000 : Nat)

/-- An instant is another one cut to the millisecond: it is on time to the millisecond and holds nothing finer. A leap
second stays one where it ends a minute, as real ones do. -/
structure IsCutOf (cut t : Instant) : Prop where
  milliseconds : cut.milliseconds = t.milliseconds
  whole : cut.nanos.val % 1_000_000 = 0
  truncated : ¬ (t.isLeap ∧ t.second.val % 60 ≠ 59) → cut = t.truncated

theorem isCutOf_reread (t : Instant) : t.reread.IsCutOf t where
  milliseconds := by
    by_cases odd : t.isLeap ∧ t.second.val % 60 ≠ 59
    · have large : 1_000_000_000 ≤ t.nanos.val := t.isLeap_iff.mp odd.1
      rw [reread_of_odd odd]
      simp only [Instant.milliseconds, unixSeconds]
      omega
    · rw [reread_of_usual odd]
      simp only [Instant.milliseconds, unixSeconds, Instant.truncated]
      omega
  whole := by
    by_cases odd : t.isLeap ∧ t.second.val % 60 ≠ 59
    · rw [reread_of_odd odd]
      exact Nat.mul_mod_left _ _
    · rw [reread_of_usual odd]
      exact Nat.mul_mod_left _ _
  truncated usual := reread_of_usual usual

end Provisioner.Instant
