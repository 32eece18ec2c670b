import Provisioner.Time.Instant
import Mathlib.Algebra.Group.Basic
import Mathlib.Algebra.Ring.Int.Defs

/-!
# The calendar

Every number of days names a date that the calendar has (`isValid_ofDays`), and the date names the number of days
again (`toDays_ofDays`). Both follow from where a day lies in its era of 400 years (`Place`): years are counted
from March, so that the leap day is the last one of four years, of a century and of the era.
-/
namespace Provisioner.Date

/-- A place in an era: a century, four years of it, a year of these and a day of that. Only the last of four
years has a leap day, and the last of a century only in the last century. -/
structure Place (dayOfEra : Int) where
  century : Int
  cycle : Int
  year : Int
  day : Int
  century_range : 0 ≤ century ∧ century ≤ 3
  cycle_range : 0 ≤ cycle ∧ cycle ≤ 24
  year_range : 0 ≤ year ∧ year ≤ 3
  day_range : 0 ≤ day ∧ day ≤ 365
  leap : day = 365 → year = 3 ∧ (cycle = 24 → century = 3)
  dayOfEra_eq : dayOfEra = 36524 * century + 1461 * cycle + 365 * year + day

theorem exists_place {d : Int} (low : 0 ≤ d) (high : d ≤ 146096) : Nonempty (Place d) := by
  -- The last day of the era and the last day of four years would begin a century and a year too many.
  obtain ⟨century, rest, c, r, rfl⟩ : ∃ century rest : Int, (0 ≤ century ∧ century ≤ 3) ∧
      (0 ≤ rest ∧ (rest ≤ 36523 ∨ century = 3 ∧ rest = 36524)) ∧ d = 36524 * century + rest := by
    by_cases last : d = 146096
    · exact ⟨3, 36524, by omega⟩
    · exact ⟨d / 36524, d % 36524, by omega⟩
  obtain ⟨year, day, y, t, split⟩ : ∃ year day : Int, (0 ≤ year ∧ year ≤ 3) ∧
      (0 ≤ day ∧ (day ≤ 364 ∨ year = 3 ∧ day = 365)) ∧ rest % 1461 = 365 * year + day := by
    by_cases last : rest % 1461 = 1460
    · exact ⟨3, 365, by omega⟩
    · exact ⟨rest % 1461 / 365, rest % 1461 % 365, by omega⟩
  exact ⟨⟨century, rest / 1461, year, day, c, by omega, y, by omega, by omega, by omega⟩⟩

namespace Place
variable {d : Int} (p : Place d)

/-- The year of the era. -/
def yearOfEra : Int := 100 * p.century + 4 * p.cycle + p.year

theorem yearOfEra_eq : (d - d / 1460 + d / 36524 - d / 146096) / 365 = p.yearOfEra := by
  obtain ⟨c, q, y, t, c', q', y', t', leap, split⟩ := p
  dsimp only [yearOfEra]
  have centuries : d / 36524 - d / 146096 = c := by
    by_cases last : d = 146096
    · omega
    · have : 1461 * q + 365 * y + t ≤ 36523 := by omega
      omega
  have fours : d / 1460 = 25 * c + q + (24 * c + q + 365 * y + t) / 1460 := by omega
  have carry : (24 * c + q + 365 * y + t) / 1460 =
      if t = 365 then 1 else if 1460 ≤ 24 * c + q + 365 * y + t then 1 else 0 := by
    split <;> omega
  omega

theorem yearOfEra_range : 0 ≤ p.yearOfEra ∧ p.yearOfEra ≤ 399 := by
  obtain ⟨c, q, y, t, c', q', y', t', leap, split⟩ := p
  dsimp only [yearOfEra]
  omega

theorem day_eq : d - (365 * p.yearOfEra + p.yearOfEra / 4 - p.yearOfEra / 100) = p.day := by
  obtain ⟨c, q, y, t, c', q', y', t', leap, split⟩ := p
  dsimp only [yearOfEra]
  omega

/-- A leap day lies in the February of a leap year, which began in January. -/
theorem isLeap_succ (era : Int) (last : p.day = 365) : isLeap (p.yearOfEra + era * 400 + 1) = true := by
  obtain ⟨c, q, y, t, c', q', y', t', leap, split⟩ := p
  dsimp only [yearOfEra] at last ⊢
  obtain ⟨rfl, full⟩ := leap last
  simp only [isLeap, Bool.and_eq_true, Bool.or_eq_true, decide_eq_true_eq]
  omega

end Place

/-- The month of a day of a year that begins in March, and the day of that month. -/
theorem month_of_day {t : Int} (range : 0 ≤ t ∧ t ≤ 365) :
    ∃ m : Int, (5 * t + 2) / 153 = m ∧ (0 ≤ m ∧ m ≤ 11) ∧ 1 ≤ t - (153 * m + 2) / 5 + 1 ∧
      t - (153 * m + 2) / 5 + 1 ≤ 31 ∧ (m = 1 ∨ m = 3 ∨ m = 6 ∨ m = 8 → t - (153 * m + 2) / 5 + 1 ≤ 30) ∧
      (m = 11 → t - (153 * m + 2) / 5 + 1 ≤ 29 ∧ (t ≠ 365 → t - (153 * m + 2) / 5 + 1 ≤ 28)) := by
  refine ⟨_, rfl, by omega, ?_⟩
  omega

theorem toDays_ofDays (days : Int) : (ofDays days).toDays = days := by
  obtain ⟨p⟩ := exists_place (d := (days + 719468) % 146097) (by omega) (by omega)
  have years := p.yearOfEra_range
  have day := p.day_eq
  obtain ⟨m, month_eq, months, first, _⟩ := month_of_day p.day_range
  have era : (p.yearOfEra + (days + 719468) / 146097 * 400) / 400 = (days + 719468) / 146097 := by omega
  have year : (p.yearOfEra + (days + 719468) / 146097 * 400) % 400 = p.yearOfEra := by omega
  simp only [ofDays, toDays, p.yearOfEra_eq, p.day_eq, month_eq]
  by_cases spring : m < 10
  · have month : ((((m + 3).toNat : Int) + 9) % 12) = m := by omega
    simp only [spring, ↓reduceIte, month, show ¬ (m + 3).toNat ≤ 2 by omega, show ¬ m + 3 ≤ 2 by omega, era, year]
    omega
  · have month : ((((m - 9).toNat : Int) + 9) % 12) = m := by omega
    simp only [spring, ↓reduceIte, month, show (m - 9).toNat ≤ 2 by omega, show m - 9 ≤ 2 by omega,
      add_sub_cancel_right, era, year]
    omega

theorem isValid_ofDays (days : Int) : (ofDays days).isValid = true := by
  obtain ⟨p⟩ := exists_place (d := (days + 719468) % 146097) (by omega) (by omega)
  obtain ⟨m, month_eq, months, first, last, short, february⟩ := month_of_day p.day_range
  have leap := p.isLeap_succ ((days + 719468) / 146097)
  simp only [ofDays, p.yearOfEra_eq, p.day_eq, month_eq, isValid, Bool.and_eq_true, decide_eq_true_eq]
  by_cases spring : m < 10
  · simp only [spring, ↓reduceIte, show ¬ m + 3 ≤ 2 by omega]
    refine ⟨⟨⟨by omega, by omega⟩, by omega⟩, ?_⟩
    unfold monthLength
    split <;> omega
  · simp only [spring, ↓reduceIte, show m - 9 ≤ 2 by omega]
    refine ⟨⟨⟨by omega, by omega⟩, by omega⟩, ?_⟩
    unfold monthLength
    split
    · split
      · omega
      · next common =>
        have : p.day ≠ 365 := fun last => common (leap last)
        omega
    all_goals omega

end Provisioner.Date
