/-
# The date and time format of RFC 3339

A date of the calendar, `T`, a time of the day that may have a fraction of a second, and `Z` or an
offset from UTC.  Every number has a fixed number of digits.  The second 60 is a leap second, which
comes at the end of a month in UTC only.
-/
import ProfileService.Lib.Calendar
import ProfileService.Lib.Decimal

namespace Rfc3339

open Decimal (isDigit Spells)

/-- A point in time as it is written. -/
structure DateTime where
  date : Calendar.Date
  hour : ℕ
  minute : ℕ
  second : ℕ
  /-- The digits of the fraction, none if there is no fraction. -/
  fraction : Bytes
  /-- The minutes that local time is ahead of UTC; `Z` is no offset. -/
  offset : Option ℤ

/-- The minutes since 1970-01-01 in UTC. -/
def DateTime.toMinutes (d : DateTime) : ℤ :=
  d.date.toDays * 1440 + d.hour * 60 + d.minute - d.offset.getD 0

/-- The minute is the last one of a month in UTC. -/
def DateTime.EndsMonth (d : DateTime) : Prop :=
  (d.toMinutes + 1) % 1440 = 0 ∧ (Calendar.ofDays ((d.toMinutes + 1) / 1440)).day = 1

instance (d : DateTime) : Decidable d.EndsMonth := inferInstanceAs (Decidable (_ ∧ _))

/-- The date is in the calendar and the time in the day. -/
structure DateTime.IsValid (d : DateTime) : Prop where
  date : d.date.IsValid
  hour_le : d.hour ≤ 23
  minute_le : d.minute ≤ 59
  second_le : d.second ≤ 59 ∨ d.second = 60 ∧ d.EndsMonth

/-- The time is in UTC and has no fraction. -/
structure DateTime.IsPlain (d : DateTime) : Prop where
  fraction : d.fraction = []
  offset : d.offset = none

/-! ## The grammar -/

/-- The text is a number with a fixed number of digits. -/
structure Numeral (k : ℕ) (ds : Bytes) (n : ℕ) : Prop where
  spells : Spells ds n
  length : ds.length = k

instance (k : ℕ) (ds : Bytes) (n : ℕ) : Decidable (Numeral k ds n) :=
  decidable_of_iff (Spells ds n ∧ ds.length = k)
    ⟨fun ⟨h1, h2⟩ => ⟨h1, h2⟩, fun ⟨h1, h2⟩ => ⟨h1, h2⟩⟩

/-- A date, `T` and a time of the day. -/
inductive SpellsTime (d : DateTime) : Bytes → Prop
  | mk {yyyy mm dd hh mi ss : Bytes} {year month day : ℕ} {t : UInt8}
      (hyear : Numeral 4 yyyy year) (hmonth : Numeral 2 mm month) (hday : Numeral 2 dd day)
      (hdate : d.date = ⟨year, month, day⟩) (ht : t = 0x54 ∨ t = 0x74)
      (hhour : Numeral 2 hh d.hour) (hminute : Numeral 2 mi d.minute)
      (hsecond : Numeral 2 ss d.second) :
      SpellsTime d
        (yyyy ++ 0x2D :: (mm ++ 0x2D :: (dd ++ t :: (hh ++ 0x3A :: (mi ++ 0x3A :: ss)))))

/-- The fraction of a second. -/
inductive SpellsFraction : Bytes → Bytes → Prop
  | absent : SpellsFraction [] []
  | digits {ds : Bytes} (hne : ds ≠ []) (hdigit : ∀ c ∈ ds, isDigit c = true) :
      SpellsFraction ds (0x2E :: ds)

/-- The offset from UTC. -/
inductive SpellsOffset : Option ℤ → Bytes → Prop
  | utc {z : UInt8} (hz : z = 0x5A ∨ z = 0x7A) : SpellsOffset none [z]
  | ahead {hh mm : Bytes} {hour minute : ℕ} (hhour : Numeral 2 hh hour) (hhour' : hour ≤ 23)
      (hminute : Numeral 2 mm minute) (hminute' : minute ≤ 59) :
      SpellsOffset (some (hour * 60 + minute)) (0x2B :: (hh ++ 0x3A :: mm))
  | behind {hh mm : Bytes} {hour minute : ℕ} (hhour : Numeral 2 hh hour) (hhour' : hour ≤ 23)
      (hminute : Numeral 2 mm minute) (hminute' : minute ≤ 59) :
      SpellsOffset (some (-(hour * 60 + minute))) (0x2D :: (hh ++ 0x3A :: mm))

/-- The text spells the time. -/
inductive SpellsDateTime (d : DateTime) : Bytes → Prop
  | mk {time fraction offset : Bytes} (htime : SpellsTime d time)
      (hfraction : SpellsFraction d.fraction fraction) (hoffset : SpellsOffset d.offset offset) :
      SpellsDateTime d (time ++ (fraction ++ offset))

/-- A text of the format. -/
def IsDateTime (s : Bytes) : Prop := ∃ d : DateTime, d.IsValid ∧ SpellsDateTime d s

/-- A text of the format with `Z` and without a fraction. -/
def IsPlain (s : Bytes) : Prop := ∃ d : DateTime, d.IsValid ∧ d.IsPlain ∧ SpellsDateTime d s

/-! ## What follows the seconds -/

/-- The text after the seconds begins with `Z` exactly if the time is plain, and it does not begin
with a digit. -/
lemma SpellsDateTime.exists_after {d : DateTime} {s : Bytes} (h : SpellsDateTime d s) :
    ∃ time x rest, s = time ++ x :: rest ∧ SpellsTime d time ∧ isDigit x = false ∧
      (x = 0x5A ∨ x = 0x7A ↔ d.IsPlain) := by
  obtain @⟨time, fraction, offset, htime, hfraction, hoffset⟩ := h
  have hplain : d.IsPlain ↔ d.fraction = [] ∧ d.offset = none :=
    ⟨fun h => ⟨h.fraction, h.offset⟩, fun h => ⟨h.1, h.2⟩⟩
  generalize hds : d.fraction = ds at hfraction
  generalize ho : d.offset = o at hoffset
  rw [hplain, hds, ho]
  cases hfraction with
  | absent =>
    cases hoffset with
    | @utc z hz =>
      refine ⟨time, z, [], rfl, htime, ?_, by simp [hz]⟩
      rcases hz with rfl | rfl <;> decide
    | ahead => exact ⟨time, 0x2B, _, rfl, htime, by decide, by simp⟩
    | behind => exact ⟨time, 0x2D, _, rfl, htime, by decide, by simp⟩
  | digits hne _ => exact ⟨time, 0x2E, _, rfl, htime, by decide, by simp [hne]⟩

end Rfc3339
