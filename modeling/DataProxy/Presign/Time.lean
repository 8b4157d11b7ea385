/-
  DataProxy formalization — the expiry of a presigned URL: `SystemTime::now()`
  plus a `Duration` (`checked_add`), converted into a `chrono::DateTime<Utc>`
  and written by `to_rfc3339`.

  * `SystemTime.checkedAdd`: `None` where the sum leaves the `i64` seconds of a
    `timespec`;
  * `DateTime.fromSystemTime`: `From<SystemTime> for DateTime<Utc>`, which goes
    through `Utc.timestamp` and so has no value (the call panics) outside the
    dates `NaiveDate` holds, `-262144-01-01` to `262143-12-31`;
  * `DateTime.toRfc3339`: the date, the time, the fraction in `AutoSi` form, and
    the offset `+00:00`;
  * `toRfc3339_ascii`: that text is ASCII.

  The date of a day count is computed by the days-to-civil algorithm of the
  proleptic Gregorian calendar, which gives the same date as `NaiveDate`'s
  year-cycle tables.
-/
import DataProxy.Presign.Urlencoded
import DataProxy.Rust

namespace DataProxy

/-! ## Clock readings -/

/-- A `SystemTime` on Linux: a `timespec`, whole seconds since the epoch in an `i64` and
    the nanoseconds past them. -/
structure SystemTime where
  secs : ℤ
  nanos : ℕ
  secs_ge : -2 ^ 63 ≤ secs
  secs_lt : secs < 2 ^ 63
  nanos_lt : nanos < 1000000000

/-- A `Duration`: whole seconds in a `u64`, and nanoseconds. -/
structure Duration where
  secs : ℕ
  nanos : ℕ
  secs_lt : secs < 2 ^ 64
  nanos_lt : nanos < 1000000000

/-- `SystemTime::checked_add`: the seconds of the duration must fit an `i64`, and so must
    the sum with the carry of the nanoseconds (`(t.nanos + d.nanos) / 10⁹`, `0` or `1`). -/
def SystemTime.checkedAdd (t : SystemTime) (d : Duration) : Option SystemTime :=
  if h : d.secs < 2 ^ 63 ∧ t.secs + d.secs + ((t.nanos + d.nanos) / 1000000000 : ℕ) < 2 ^ 63 then
    some ⟨t.secs + d.secs + ((t.nanos + d.nanos) / 1000000000 : ℕ),
      (t.nanos + d.nanos) % 1000000000, by have := t.secs_ge; omega, h.2, Nat.mod_lt _ (by omega)⟩
  else none

/-! ## Dates -/

/-- A `DateTime<Utc>`: the day since 1970-01-01, the second of the day, and the
    nanosecond. -/
structure DateTime where
  days : ℤ
  secsOfDay : ℕ
  nanos : ℕ
  deriving DecidableEq, Repr

/-- The first and the last day `NaiveDate` holds, counted from 1970-01-01. -/
def minDays : ℤ := -96465658

def maxDays : ℤ := 95026601

/-- `From<SystemTime> for DateTime<Utc>` (`Utc.timestamp(secs, nanos)`): `none` where the
    day is outside what `NaiveDate` holds. -/
def DateTime.fromSystemTime (t : SystemTime) : Option DateTime :=
  let days := t.secs / 86400
  if minDays ≤ days ∧ days ≤ maxDays then some ⟨days, (t.secs % 86400).toNat, t.nanos⟩
  else none

/-- The year, month and day of a day count from 1970-01-01, in the proleptic Gregorian
    calendar (eras of 400 years from 0000-03-01). -/
def civilFromDays (days : ℤ) : ℤ × ℕ × ℕ :=
  let z := days + 719468
  let era := z / 146097
  let doe := (z - era * 146097).toNat
  let yoe := (doe - doe / 1460 + doe / 36524 - doe / 146096) / 365
  let doy := doe - (365 * yoe + yoe / 4 - yoe / 100)
  let mp := (5 * doy + 2) / 153
  let m := if mp < 10 then mp + 3 else mp - 9
  ((yoe : ℤ) + era * 400 + (if m ≤ 2 then 1 else 0), m, doy - (153 * mp + 2) / 5 + 1)

/-! ## RFC 3339 -/

/-- `n` in decimal, zero-padded to `w` digits. -/
def padDigits (w n : ℕ) : List Char := List.replicate (w - (decimal n).length) '0' ++ decimal n

/-- The year: four digits within `0..=9999`, else `{:+05}`, a sign and at least four
    digits. -/
def yearText (y : ℤ) : List Char :=
  if 0 ≤ y ∧ y ≤ 9999 then padDigits 4 y.toNat
  else (if y < 0 then '-' else '+') :: padDigits 4 y.natAbs

/-- `SecondsFormat::AutoSi`: no fraction for a whole second, else three, six or nine
    digits, the fewest that hold the nanoseconds. -/
def fractionText (nanos : ℕ) : List Char :=
  if nanos = 0 then []
  else if nanos % 1000000 = 0 then '.' :: padDigits 3 (nanos / 1000000)
  else if nanos % 1000 = 0 then '.' :: padDigits 6 (nanos / 1000)
  else '.' :: padDigits 9 nanos

/-- `DateTime::to_rfc3339`: `write_rfc3339` with `AutoSi` seconds and the offset written
    `+00:00`. -/
def DateTime.toRfc3339 (t : DateTime) : String :=
  let (y, m, d) := civilFromDays t.days
  ⟨yearText y ++ '-' :: padDigits 2 m ++ '-' :: padDigits 2 d ++
    'T' :: padDigits 2 (t.secsOfDay / 3600) ++ ':' :: padDigits 2 (t.secsOfDay / 60 % 60) ++
    ':' :: padDigits 2 (t.secsOfDay % 60) ++ fractionText t.nanos ++ "+00:00".toList⟩

theorem padDigits_ascii (w n : ℕ) : IsAscii (padDigits w n) := by
  intro c hc
  simp only [padDigits, List.mem_append, List.mem_replicate] at hc
  rcases hc with ⟨-, rfl⟩ | hc
  · decide
  · have := isDigit_of_mem_decimal n c hc
    simp only [Char.isDigit, Bool.and_eq_true, decide_eq_true_eq] at this
    exact Nat.lt_of_le_of_lt (BitVec.le_def.1 (UInt32.le_def.1 this.2)) (by decide)

theorem yearText_ascii (y : ℤ) : IsAscii (yearText y) := by
  unfold yearText
  split_ifs <;> simp [padDigits_ascii]

theorem fractionText_ascii (nanos : ℕ) : IsAscii (fractionText nanos) := by
  unfold fractionText
  split_ifs <;> simp [padDigits_ascii]

/-- The expiry text is ASCII, whatever the date. -/
theorem toRfc3339_ascii (t : DateTime) : IsAscii t.toRfc3339.data := by
  simp [DateTime.toRfc3339, yearText_ascii, padDigits_ascii, fractionText_ascii]

end DataProxy
