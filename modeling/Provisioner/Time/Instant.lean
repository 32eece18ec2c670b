import Provisioner.Time.Duration

/-!
# Instants

An instant is a UTC day, a second of that day, and nanoseconds; the nanoseconds of a leap second go on from
`10 ^ 9` while its second stays. Days are counted from 1970-01-01 in the proleptic Gregorian calendar. The
text of an instant is a date, a time and an offset as in RFC 3339; it is written in UTC, to the millisecond.
-/
namespace Provisioner
open Text

/-- A date of the Gregorian calendar. -/
structure Date where
  year : Int
  month : Nat
  day : Nat
  deriving DecidableEq, Repr

namespace Date

/-- A leap year. -/
def isLeap (year : Int) : Bool :=
  year % 4 = 0 && (year % 100 ≠ 0 || year % 400 = 0)

/-- The number of days of a month. -/
def monthLength (year : Int) (month : Nat) : Nat :=
  match month with
  | 2 => if isLeap year then 29 else 28
  | 4 | 6 | 9 | 11 => 30
  | _ => 31

/-- A date that the calendar has. -/
def isValid (d : Date) : Bool :=
  1 ≤ d.month && d.month ≤ 12 && 1 ≤ d.day && d.day ≤ monthLength d.year d.month

/-- The days from 1970-01-01 to a date. Years are counted from March, so that a leap day is the last. -/
def toDays (d : Date) : Int :=
  let year := if d.month ≤ 2 then d.year - 1 else d.year
  let era := year / 400
  let yearOfEra := year % 400
  let monthFromMarch : Int := (d.month + 9) % 12
  let dayOfYear := (153 * monthFromMarch + 2) / 5 + d.day - 1
  let dayOfEra := yearOfEra * 365 + yearOfEra / 4 - yearOfEra / 100 + dayOfYear
  era * 146097 + dayOfEra - 719468

/-- The date that is a number of days after 1970-01-01. -/
def ofDays (days : Int) : Date :=
  let shifted := days + 719468
  let era := shifted / 146097
  let dayOfEra := shifted % 146097
  let yearOfEra := (dayOfEra - dayOfEra / 1460 + dayOfEra / 36524 - dayOfEra / 146096) / 365
  let dayOfYear := dayOfEra - (365 * yearOfEra + yearOfEra / 4 - yearOfEra / 100)
  let monthFromMarch := (5 * dayOfYear + 2) / 153
  let day := dayOfYear - (153 * monthFromMarch + 2) / 5 + 1
  let month := if monthFromMarch < 10 then monthFromMarch + 3 else monthFromMarch - 9
  let year := yearOfEra + era * 400
  ⟨if month ≤ 2 then year + 1 else year, month.toNat, day.toNat⟩

/-- Years that four digits spell are written so, others with a sign and at least four digits. -/
def yearText (year : Int) : List Char :=
  if 0 ≤ year ∧ year ≤ 9999 then padded 4 year.toNat
  else
    let size := year.natAbs
    (if year < 0 then '-' else '+') :: (if size ≤ 9999 then padded 4 size else Nat.toDigits 10 size)

/-- A date as text. -/
def text (d : Date) : List Char :=
  yearText d.year ++ '-' :: padded 2 d.month ++ '-' :: padded 2 d.day

end Date

/-- A point in time. -/
structure Instant where
  /-- Days since 1970-01-01. -/
  day : Int
  /-- The second of the day. -/
  second : Fin 86400
  /-- Nanoseconds of the second; `10 ^ 9` and more in a leap second. -/
  nanos : Fin 2_000_000_000
  deriving DecidableEq, Repr

namespace Instant

/-- The seconds since 1970, without leap seconds. -/
def unixSeconds (t : Instant) : Int :=
  t.day * 86400 + t.second.val

/-- A leap second. -/
def isLeap (t : Instant) : Bool :=
  1_000_000_000 ≤ t.nanos.val

/-- The nanoseconds from an instant to a later one. A leap second between two seconds of a day counts. -/
def nanosecondsSince (later earlier : Instant) : Int :=
  let leap : Int :=
    if earlier.second < later.second ∧ earlier.isLeap then 1
    else if later.second < earlier.second ∧ later.isLeap then -1
    else 0
  (later.unixSeconds - earlier.unixSeconds + leap) * 1_000_000_000 + ((later.nanos.val : Int) - earlier.nanos.val)

/-- The time since an instant, nothing where it lies ahead. -/
def since (later earlier : Instant) : Duration :=
  ⟨(later.nanosecondsSince earlier).toNat⟩

/-- The instant without what is finer than a millisecond. -/
def truncated (t : Instant) : Instant :=
  { t with nanos := ⟨t.nanos.val / 1_000_000 * 1_000_000, by omega⟩ }

/-! ## Text -/

/-- An instant in UTC, to the millisecond. A leap second is second 60. -/
def text (t : Instant) : List Char :=
  let second := t.second.val
  (Date.ofDays t.day).text ++ 'T' :: padded 2 (second / 3600) ++ ':' :: padded 2 (second / 60 % 60) ++
    ':' :: padded 2 (second % 60 + if t.isLeap then 1 else 0) ++
    '.' :: padded 3 (t.nanos.val / 1_000_000 % 1000) ++ ['Z']

/-- A number of exactly so many digits, and the text after it. -/
def number? : (width : Nat) → List Char → Option (Nat × List Char)
  | width, cs =>
    let digits := cs.take width
    if digits.length = width ∧ digits.all isDigit then some (digitsValue digits, cs.drop width) else none

/-- The text after a character that has to be there. -/
def expect? (accepts : Char → Bool) : List Char → Option (List Char)
  | c :: cs => if accepts c then some cs else none
  | [] => none

/-- The nanoseconds of a fraction, of which nine digits count. -/
def fraction? : List Char → Option (Fin 1_000_000_000 × List Char)
  | '.' :: cs =>
    let digits := cs.takeWhile isDigit
    if digits.isEmpty then none
    else some (Fin.ofNat _ (digitsValue ((digits ++ List.replicate 9 '0').take 9)), cs.dropWhile isDigit)
  | cs => some (0, cs)

/-- The minutes of an offset from UTC. -/
def offset? : List Char → Option (Int × List Char)
  | [] => none
  | c :: cs =>
    if c = 'Z' ∨ c = 'z' then some (0, cs)
    else if c = '+' ∨ c = '-' ∨ c = '\u2212' then do
      let (hours, cs) ← number? 2 cs
      let cs ← expect? (· == ':') cs
      let (minutes, cs) ← number? 2 cs
      if hours ≤ 23 ∧ minutes ≤ 59 then
        let size : Int := hours * 60 + minutes
        some (if c = '+' then size else -size, cs)
      else none
    else none

/-- The instant of a local date and time at an offset in minutes. Second 60 is a leap second. -/
def ofLocal (date : Date) (hour minute second : Nat) (nanos : Fin 1_000_000_000) (offset : Int) : Instant :=
  let whole := if second = 60 then 59 else second
  let local_ : Int := hour * 3600 + minute * 60 + whole - offset * 60
  { day := date.toDays + local_ / 86400
    second := ⟨(local_ % 86400).toNat, by omega⟩
    nanos := ⟨nanos.val + if second = 60 then 1_000_000_000 else 0, by split <;> omega⟩ }

/-- The instant that a text spells. -/
def parse? (input : List Char) : Option Instant := do
  let (year, cs) ← number? 4 input
  let cs ← expect? (· == '-') cs
  let (month, cs) ← number? 2 cs
  let cs ← expect? (· == '-') cs
  let (day, cs) ← number? 2 cs
  let cs ← expect? (fun c => c == 'T' || c == 't' || c == ' ') cs
  let (hour, cs) ← number? 2 cs
  let cs ← expect? (· == ':') cs
  let (minute, cs) ← number? 2 cs
  let cs ← expect? (· == ':') cs
  let (second, cs) ← number? 2 cs
  let (nanos, cs) ← fraction? cs
  let (offset, cs) ← offset? cs
  let date : Date := ⟨year, month, day⟩
  if cs.isEmpty ∧ date.isValid ∧ hour ≤ 23 ∧ minute ≤ 59 ∧ second ≤ 60 then
    some (ofLocal date hour minute second nanos offset)
  else none

end Instant

end Provisioner
