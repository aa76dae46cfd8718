/-
# Time

The broken-down time of the C library and the conversions the service uses: `std::get_time`
and `std::mktime` on the way in, `gmtime` and `strftime` on the way out.
-/
import Mathlib.Algebra.Group.Nat.Defs
import ProfileService.Connection
import ProfileService.Domain
import ProfileService.Http

namespace ProfileService

open Bytes (str)
open Decimal (decimal readDigits)

/-- `std::tm`, without the fields the service never sets or reads. -/
structure Tm where
  year : ℤ
  mon : ℤ
  mday : ℤ
  hour : ℤ
  min : ℤ
  sec : ℤ
deriving DecidableEq

/-- `std::tm tm = {};`.  The year counts from 1900. -/
def Tm.zero : Tm := ⟨0, 0, 0, 0, 0, 0⟩

/-! ## Parsing -/

/-- `std::isspace`. -/
def isSpace (c : UInt8) : Bool := c = 0x20 || (0x09 ≤ c.toNat && c.toNat ≤ 0x0D)

/-- An element of the format of `std::get_time`. -/
inductive TimeField
  | literal (c : UInt8)
  | year | month | day | hour | minute | second

/-- `"%Y-%m-%dT%H:%M:%S"`. -/
def timestampFormat : List TimeField :=
  [.year, .literal 0x2D, .month, .literal 0x2D, .day, .literal 0x54,
    .hour, .literal 0x3A, .minute, .literal 0x3A, .second]

/-- `"%Y-%m-%dT%H:%M:%SZ"`. -/
def rfc3339Format : List TimeField := timestampFormat ++ [.literal 0x5A]

/-- Read a number of at most `width` digits between `low` and `high`. -/
def getNumber (width low high : ℕ) (s : Bytes) : Option (ℤ × Bytes) :=
  let ds := (s.take width).takeWhile fun c => 0x30 ≤ c.toNat ∧ c.toNat ≤ 0x39
  match ds, readDigits ds with
  | _ :: _, some n => if low ≤ n ∧ n ≤ high then some (n, s.drop ds.length) else none
  | _, _ => none

/-- `%d` passes one white-space character. -/
def skipBlank : Bytes → Bytes
  | [] => []
  | c :: s => if isSpace c then s else c :: s

/-- One element of the format: letters match in either case, and every number has a range
of its own. -/
def getField : TimeField → Tm → Bytes → Option (Tm × Bytes)
  | .literal c, tm, s =>
      match s with
      | d :: s => if toLower d = toLower c then some (tm, s) else none
      | [] => none
  | .year, tm, s => (getNumber 4 0 9999 s).map fun (n, s) => ({ tm with year := n - 1900 }, s)
  | .month, tm, s => (getNumber 2 1 12 s).map fun (n, s) => ({ tm with mon := n - 1 }, s)
  | .day, tm, s =>
      (getNumber 2 1 31 (skipBlank s)).map fun (n, s) => ({ tm with mday := n }, s)
  | .hour, tm, s => (getNumber 2 0 23 s).map fun (n, s) => ({ tm with hour := n }, s)
  | .minute, tm, s => (getNumber 2 0 59 s).map fun (n, s) => ({ tm with min := n }, s)
  | .second, tm, s => (getNumber 2 0 60 s).map fun (n, s) => ({ tm with sec := n }, s)

/-- A conversion, and no character that is matched. -/
def TimeField.isConversion : TimeField → Bool
  | .literal _ => false
  | .year | .month | .day | .hour | .minute | .second => true

/-- The elements of the format in turn; what is left of the input is not looked at.  A conversion
that reads up to the end of the input sets `eofbit`: the scan stops there and has not failed. -/
def getFields : List TimeField → Tm → Bytes → Option Tm
  | [], tm, _ => some tm
  | f :: fs, tm, s => do
      let (tm, s) ← getField f tm s
      if f.isConversion ∧ s = [] then some tm else getFields fs tm s

/-- `ss >> std::get_time(&tm, format)` on a fresh stream over the text, `none` when
`ss.fail()`. -/
def getTime (format : List TimeField) (s : Bytes) : Option Tm :=
  match s.dropWhile isSpace with
  | [] => none
  | s => getFields format Tm.zero s

/-! ## Time points -/

/-- `system_clock::from_time_t`: seconds to nanoseconds in a 64-bit integer. -/
def fromTimeT (t : ℤ) : TimePoint := Int.bmod (t * 1000000000) (2 ^ 64)

/-- `duration_cast<seconds>(tp.time_since_epoch()).count()`. -/
def TimePoint.toSeconds (tp : TimePoint) : ℤ := Int.tdiv tp 1000000000

/-- `gmtime`: the date and the time of the day in UTC. -/
def gmtime (t : ℤ) : Tm :=
  let days := t.fdiv 86400 + 719468
  let secs := t.fmod 86400
  let era := days.fdiv 146097
  let dayOfEra := days.fmod 146097
  let yearOfEra :=
    (dayOfEra - dayOfEra.fdiv 1460 + dayOfEra.fdiv 36524 - dayOfEra.fdiv 146096).fdiv 365
  -- years begin in March here, so that the leap day comes last
  let dayOfYear := dayOfEra - (365 * yearOfEra + yearOfEra.fdiv 4 - yearOfEra.fdiv 100)
  let month := (5 * dayOfYear + 2).fdiv 153
  { year := yearOfEra + 400 * era + (if month < 10 then 0 else 1) - 1900
    mon := if month < 10 then month + 2 else month - 10
    mday := dayOfYear - (153 * month + 2).fdiv 5 + 1
    hour := secs.fdiv 3600
    min := (secs.fmod 3600).fdiv 60
    sec := secs.fmod 60 }

/-- A number with two digits. -/
def twoDigits (n : ℤ) : Bytes := if 0 ≤ n ∧ n < 10 then 0x30 :: decimal n else decimal n

/-- `strftime` with the format `"%Y-%m-%d %H:%M:%S"`. -/
def strftime (tm : Tm) : Bytes :=
  decimal (tm.year + 1900) ++ str "-" ++ twoDigits (tm.mon + 1) ++ str "-" ++
    twoDigits tm.mday ++ str " " ++ twoDigits tm.hour ++ str ":" ++ twoDigits tm.min ++
    str ":" ++ twoDigits tm.sec

lemma decimal_ascii (n : ℤ) : ∀ c ∈ decimal n, 0 < c.toNat ∧ c.toNat < 0x80 := by
  have hdigits : ∀ (m : ℕ), ∀ c ∈ Decimal.digits m, 0 < c.toNat ∧ c.toNat < 0x80 :=
    fun m c hc => Decimal.ascii_of_isDigit (Decimal.isDigit_of_mem_digits hc)
  intro c hc
  cases n with
  | ofNat n => exact hdigits n c hc
  | negSucc n =>
    rcases List.mem_cons.mp hc with rfl | hc
    · decide
    · exact hdigits (n + 1) c hc

lemma twoDigits_ascii (n : ℤ) : ∀ c ∈ twoDigits n, 0 < c.toNat ∧ c.toNat < 0x80 := by
  intro c hc
  rw [twoDigits] at hc
  split at hc
  · rcases List.mem_cons.mp hc with rfl | hc
    · decide
    · exact decimal_ascii n c hc
  · exact decimal_ascii n c hc

/-- A formatted time is a text that the database takes as it is. -/
lemma strftime_ascii (tm : Tm) : ∀ c ∈ strftime tm, 0 < c.toNat ∧ c.toNat < 0x80 := by
  have hsep : ∀ c ∈ str "- :", 0 < c.toNat ∧ c.toNat < 0x80 := by
    intro c hc
    have hstr : str "- :" = [0x2D, 0x20, 0x3A] := rfl
    simp only [hstr, List.mem_cons, List.not_mem_nil, or_false] at hc
    rcases hc with rfl | rfl | rfl <;> decide
  have hminus : str "-" ⊆ str "- :" := by decide
  have hspace : str " " ⊆ str "- :" := by decide
  have hcolon : str ":" ⊆ str "- :" := by decide
  intro c hc
  simp only [strftime, List.mem_append] at hc
  rcases hc with (((((((((hc | hc) | hc) | hc) | hc) | hc) | hc) | hc) | hc) | hc) | hc
  · exact decimal_ascii _ c hc
  · exact hsep c (hminus hc)
  · exact twoDigits_ascii _ c hc
  · exact hsep c (hminus hc)
  · exact twoDigits_ascii _ c hc
  · exact hsep c (hspace hc)
  · exact twoDigits_ascii _ c hc
  · exact hsep c (hcolon hc)
  · exact twoDigits_ascii _ c hc
  · exact hsep c (hcolon hc)
  · exact twoDigits_ascii _ c hc

example : (getTime rfc3339Format (str "2024-02-30T12:00:05Z and more")).isSome = true := by
  decide

example : getTime rfc3339Format (str "2024-01") = some ⟨124, 0, 0, 0, 0, 0⟩ := by decide

example : getTime rfc3339Format (str "2024-01-") = none := by decide

example : strftime (gmtime 1709210096) = str "2024-02-29 12:34:56" := by decide

end ProfileService
