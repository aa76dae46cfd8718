/-
# Timestamps

`ParseTimestamp` and `FormatTimestamp` of `json_utils.hpp`, and what they rest on: `gmtime` and
its inverse are the calendar, a text that was printed is read back field by field, and a time in
nanoseconds wraps around in 64 bits.  One of the two conversions is in UTC and the other in the
time zone of the process, so they are inverse to each other only where the zone agrees with UTC.
-/
import Mathlib.Tactic.NormNum
import ProfileService.Lib.Calendar
import ProfileService.Standalone

namespace ProfileService

open Bytes (str)
open Calendar (Date)
open Decimal (decimal readDigits isDigit Spells)

/-! ## Broken-down times -/

section Calendar

/-- The date of a broken-down time. -/
def Tm.date (tm : Tm) : Date := ⟨tm.year + 1900, tm.mon + 1, tm.mday⟩

/-- The fields are those of a time of the calendar, without a leap second. -/
structure Tm.IsValid (tm : Tm) : Prop where
  date : tm.date.IsValid
  hour : 0 ≤ tm.hour ∧ tm.hour ≤ 23
  min : 0 ≤ tm.min ∧ tm.min ≤ 59
  sec : 0 ≤ tm.sec ∧ tm.sec ≤ 59

lemma Tm.ext_date {tm tm' : Tm} (hdate : tm.date = tm'.date) (hhour : tm.hour = tm'.hour)
    (hmin : tm.min = tm'.min) (hsec : tm.sec = tm'.sec) : tm = tm' := by
  obtain ⟨year, mon, mday, hour, min, sec⟩ := tm
  obtain ⟨year', mon', mday', hour', min', sec'⟩ := tm'
  simp only [Tm.date, Date.mk.injEq] at hdate hhour hmin hsec
  obtain ⟨hyear, hmon, rfl⟩ := hdate
  obtain rfl : year = year' := by omega
  obtain rfl : mon = mon' := by omega
  rw [hhour, hmin, hsec]

/-- `gmtime` gives the date of the day and splits the seconds that are left. -/
lemma gmtime_eq (t : ℤ) : (gmtime t).date = Calendar.ofDays (t / 86400) ∧
    (gmtime t).hour = t % 86400 / 3600 ∧ (gmtime t).min = t % 86400 % 3600 / 60 ∧
    (gmtime t).sec = t % 86400 % 60 := by
  have hmonth : ∀ m : ℤ, (if m < 10 then m + 2 else m - 10) + 1 =
      if m < 10 then m + 3 else m - 9 := by
    intro m
    split <;> omega
  simp only [gmtime, Tm.date, Calendar.ofDays, Calendar.marchDate, Calendar.yearOf,
    Calendar.yearStart, Calendar.monthOf, Calendar.monthStart, Int.fdiv_eq_ediv_of_nonneg,
    Int.fmod_eq_emod_of_nonneg, Int.reduceLE, hmonth, Int.sub_add_cancel]
  exact ⟨rfl, trivial, trivial, trivial⟩

/-- `timegm` counts the days of the date and the seconds. -/
lemma timegm_eq (tm : Tm) :
    timegm tm = tm.date.toDays * 86400 + tm.hour * 3600 + tm.min * 60 + tm.sec := by
  have hlow : tm.mon + 1 < 3 ↔ tm.mon < 2 := by omega
  have hmonth : (if tm.mon < 2 then tm.mon + 1 + 9 else tm.mon + 1 - 3) =
      if tm.mon < 2 then tm.mon + 10 else tm.mon - 2 := by
    split <;> omega
  simp only [timegm, Tm.date, Date.toDays, Date.marchYear, Date.dayOfYear, Calendar.yearStart,
    Calendar.monthStart, Int.fdiv_eq_ediv_of_nonneg, Int.fmod_eq_emod_of_nonneg, Int.reduceLE,
    hlow, hmonth]

/-- What `gmtime` gives is valid. -/
lemma gmtime_isValid (t : ℤ) : (gmtime t).IsValid := by
  obtain ⟨hdate, hhour, hmin, hsec⟩ := gmtime_eq t
  refine ⟨?_, ?_, ?_, ?_⟩
  · rw [hdate]
    exact Calendar.isValid_ofDays _
  · rw [hhour]
    omega
  · rw [hmin]
    omega
  · rw [hsec]
    omega

/-- `timegm` undoes `gmtime`. -/
theorem timegm_gmtime (t : ℤ) : timegm (gmtime t) = t := by
  obtain ⟨hdate, hhour, hmin, hsec⟩ := gmtime_eq t
  rw [timegm_eq, hdate, Calendar.toDays_ofDays, hhour, hmin, hsec]
  omega

/-- `gmtime` undoes `timegm` on valid fields. -/
theorem gmtime_timegm {tm : Tm} (h : tm.IsValid) : gmtime (timegm tm) = tm := by
  obtain ⟨hdate, hhour, hmin, hsec⟩ := gmtime_eq (timegm tm)
  obtain ⟨hvalid, hh, hm, hs⟩ := h
  have hdays : timegm tm / 86400 = tm.date.toDays := by
    rw [timegm_eq]
    omega
  have hrest : timegm tm % 86400 = tm.hour * 3600 + tm.min * 60 + tm.sec := by
    rw [timegm_eq]
    omega
  rw [hdays, Calendar.ofDays_toDays hvalid] at hdate
  rw [hrest] at hhour hmin hsec
  exact Tm.ext_date hdate (by omega) (by omega) (by omega)

/-- From 1970 on seconds are not negative. -/
lemma timegm_nonneg {tm : Tm} (h : tm.IsValid) (hyear : 1970 ≤ tm.year + 1900) :
    0 ≤ timegm tm := by
  have hdays : 0 ≤ tm.date.toDays :=
    (Calendar.newYear_mono (y := 1970) hyear).trans h.date.toDays_bounds.1
  obtain ⟨hhour, -⟩ := h.hour
  obtain ⟨hmin, -⟩ := h.min
  obtain ⟨hsec, -⟩ := h.sec
  rw [timegm_eq]
  omega

end Calendar

/-! ## Texts of a format -/

section Formats

/-- The text is a number of at most `width` digits in the range of a field. -/
structure IsNumber (width low high : ℕ) (ds : Bytes) (n : ℕ) : Prop where
  spells : Spells ds n
  length_le : ds.length ≤ width
  low_le : low ≤ n
  le_high : n ≤ high

lemma digits_eq_isDigit :
    (fun c : UInt8 => decide (0x30 ≤ c.toNat ∧ c.toNat ≤ 0x39)) = isDigit := by
  funext c
  rw [isDigit, Bool.decide_and]

/-- The text does not go on with a digit. -/
def NoDigit (s : Bytes) : Prop := ∀ c ∈ s.head?, isDigit c = false

lemma takeWhile_noDigit {s : Bytes} (h : NoDigit s) : s.takeWhile isDigit = [] := by
  cases s with
  | nil => rfl
  | cons c s => rw [List.takeWhile_cons, h c rfl, if_neg (by decide)]

/-- A number is read up to where its digits end. -/
lemma getNumber_of_isNumber {width low high n : ℕ} {ds s : Bytes}
    (h : IsNumber width low high ds n) (hend : ds.length = width ∨ NoDigit s) :
    getNumber width low high (ds ++ s) = some ((n : ℤ), s) := by
  have hdigits : ((ds ++ s).take width).takeWhile isDigit = ds := by
    have hlen := h.length_le
    rw [List.take_append, List.take_of_length_le hlen,
      List.takeWhile_append_of_pos h.spells.isDigit]
    rcases hend with hend | hend
    · rw [hend, Nat.sub_self, List.take_zero, List.takeWhile_nil, List.append_nil]
    · rw [takeWhile_noDigit, List.append_nil]
      intro c hc
      rw [List.head?_take] at hc
      split at hc
      · exact absurd hc (by simp)
      · exact hend c hc
  have hbounds : low ≤ n ∧ n ≤ high := ⟨h.low_le, h.le_high⟩
  obtain ⟨d, ds, rfl⟩ := List.exists_cons_of_ne_nil h.spells.ne_nil
  have hvalue := h.spells.value
  simp only [getNumber, digits_eq_isDigit, hdigits, hvalue, hbounds, and_self, if_true]
  rw [List.drop_append_of_le_length (Nat.le_refl _), List.drop_length, List.nil_append]

/-- A number that was read is in front of what is left. -/
lemma isNumber_of_getNumber {width low high : ℕ} {s t : Bytes} {m : ℤ}
    (h : getNumber width low high s = some (m, t)) :
    ∃ ds n, s = ds ++ t ∧ IsNumber width low high ds n ∧ m = n := by
  rw [getNumber] at h
  simp only [digits_eq_isDigit] at h
  rcases hds : (s.take width).takeWhile isDigit with _ | ⟨d, ds⟩
  · rw [hds] at h
    exact absurd h (by simp)
  rw [hds] at h
  rcases hn : readDigits (d :: ds) with _ | n
  · rw [hn] at h
    exact absurd h (by simp)
  simp only [hn] at h
  by_cases hbounds : low ≤ n ∧ n ≤ high
  · rw [if_pos hbounds] at h
    obtain ⟨rfl, rfl⟩ := Prod.mk.inj (Option.some.inj h)
    have hfront : d :: ds <+: s.take width := by
      rw [← hds]
      exact List.takeWhile_prefix _
    have hdigit : ∀ c ∈ d :: ds, isDigit c = true := by
      rw [← hds]
      exact fun c hc => List.mem_takeWhile_imp hc
    refine ⟨d :: ds, n, ?_, ⟨⟨List.cons_ne_nil _ _, hdigit, hn⟩, ?_, hbounds.1, hbounds.2⟩, rfl⟩
    · exact (List.prefix_iff_eq_append.mp (hfront.trans (List.take_prefix _ _))).symm
    · exact hfront.length_le.trans (List.length_take_le _ _)
  · rw [if_neg hbounds] at h
    exact absurd h (by simp)

/-- A field that is a number: its width and range, whether a blank may stand before it, and how it
is set and read. -/
structure NumberField where
  width : ℕ
  low : ℕ
  high : ℕ
  blank : Bool
  set : ℤ → Tm → Tm
  get : Tm → ℤ

/-- The number that an element of the format is, if it is not a literal. -/
def TimeField.number? : TimeField → Option NumberField
  | .literal _ => none
  | .year =>
      some ⟨4, 0, 9999, false, fun n tm => { tm with year := n - 1900 }, fun tm => tm.year + 1900⟩
  | .month => some ⟨2, 1, 12, false, fun n tm => { tm with mon := n - 1 }, fun tm => tm.mon + 1⟩
  | .day => some ⟨2, 1, 31, true, fun n tm => { tm with mday := n }, Tm.mday⟩
  | .hour => some ⟨2, 0, 23, false, fun n tm => { tm with hour := n }, Tm.hour⟩
  | .minute => some ⟨2, 0, 59, false, fun n tm => { tm with min := n }, Tm.min⟩
  | .second => some ⟨2, 0, 60, false, fun n tm => { tm with sec := n }, Tm.sec⟩

lemma TimeField.number?_eq_none {f : TimeField} (h : f.number? = none) :
    ∃ c, f = .literal c := by
  cases f with
  | literal c => exact ⟨c, rfl⟩
  | year | month | day | hour | minute | second => exact absurd h (by simp [TimeField.number?])

lemma TimeField.isConversion_of_number {f : TimeField} {r : NumberField} (h : f.number? = some r) :
    f.isConversion = true := by
  cases f with
  | literal => cases h
  | year | month | day | hour | minute | second => rfl

lemma getField_number {f : TimeField} {r : NumberField} (h : f.number? = some r) (tm : Tm)
    (s : Bytes) : getField f tm s =
      (getNumber r.width r.low r.high (if r.blank then skipBlank s else s)).map
        fun p => (r.set p.1 tm, p.2) := by
  cases f <;> cases h <;> rfl

/-- The text is one of the element of the format, and reading it turns one time into another. -/
inductive TimeField.Reads : TimeField → Tm → Bytes → Tm → Prop
  | literal {c d : UInt8} {tm : Tm} (h : toLower d = toLower c) : Reads (.literal c) tm [d] tm
  | number {f : TimeField} {r : NumberField} {tm : Tm} {ds : Bytes} {n : ℕ}
      (hf : f.number? = some r) (hn : IsNumber r.width r.low r.high ds n) :
      Reads f tm ds (r.set n tm)
  | blank {f : TimeField} {r : NumberField} {tm : Tm} {c : UInt8} {ds : Bytes} {n : ℕ}
      (hf : f.number? = some r) (hblank : r.blank = true) (hc : isSpace c = true)
      (hn : IsNumber r.width r.low r.high ds n) : Reads f tm (c :: ds) (r.set n tm)

/-- The text is one of the format. -/
inductive ReadsAll : List TimeField → Tm → Bytes → Tm → Prop
  | nil {tm : Tm} : ReadsAll [] tm [] tm
  | cons {f : TimeField} {fs : List TimeField} {tm tm₁ tm₂ : Tm} {s t : Bytes}
      (hf : f.Reads tm s tm₁) (hfs : ReadsAll fs tm₁ t tm₂) : ReadsAll (f :: fs) tm (s ++ t) tm₂

/-- The text is one of the format as far as one of its numbers. -/
inductive CutShort : List TimeField → Tm → Bytes → Tm → Prop
  | last {f : TimeField} {fs : List TimeField} {tm tm₁ : Tm} {s : Bytes}
      (hconversion : f.isConversion = true) (hf : f.Reads tm s tm₁) : CutShort (f :: fs) tm s tm₁
  | cons {f : TimeField} {fs : List TimeField} {tm tm₁ tm₂ : Tm} {s t : Bytes}
      (hf : f.Reads tm s tm₁) (hfs : CutShort fs tm₁ t tm₂) : CutShort (f :: fs) tm (s ++ t) tm₂

lemma TimeField.Reads.ne_nil {f : TimeField} {tm tm' : Tm} {s : Bytes} (h : f.Reads tm s tm') :
    s ≠ [] := by
  cases h with
  | literal | blank => simp
  | number _ hn => exact hn.spells.ne_nil

lemma CutShort.ne_nil {fs : List TimeField} {tm tm' : Tm} {s : Bytes}
    (h : CutShort fs tm s tm') : s ≠ [] := by
  cases h with
  | last _ hf => exact hf.ne_nil
  | cons hf => exact List.append_ne_nil_of_left_ne_nil hf.ne_nil _

/-- The empty text is one of the empty format only. -/
lemma ReadsAll.eq_nil {fs : List TimeField} {tm tm' : Tm} {s : Bytes}
    (h : ReadsAll fs tm s tm') (hs : s = []) : fs = [] ∧ tm = tm' := by
  cases h with
  | nil => exact ⟨rfl, rfl⟩
  | cons hf => exact absurd (List.append_eq_nil_iff.mp hs).1 hf.ne_nil

/-- The format goes on with a literal that ends a number. -/
def startsSeparated : List TimeField → Bool
  | .literal c :: _ => !isDigit (toLower c)
  | _ => false

/-- A literal stands after every number. -/
def separated : List TimeField → Bool
  | [] => true
  | f :: fs => (f.number?.isNone || startsSeparated fs) && separated fs

/-- What lower case does to a character. -/
lemma toNat_toLower (c : UInt8) : (toLower c).toNat =
    if 0x41 ≤ c.toNat ∧ c.toNat ≤ 0x5A then c.toNat + 0x20 else c.toNat := by
  rw [toLower]
  split
  · rw [UInt8.toNat_add, Nat.mod_eq_of_lt]
    · rfl
    · change c.toNat + 0x20 < 2 ^ 8
      omega
  · rfl

/-- A letter in lower case is still no digit. -/
lemma isDigit_toLower (c : UInt8) : isDigit (toLower c) = isDigit c := by
  rw [Bool.eq_iff_iff]
  simp only [isDigit, toNat_toLower, Bool.and_eq_true, decide_eq_true_eq]
  split <;> omega

lemma toLower_eq_z {c : UInt8} : toLower c = toLower 0x5A ↔ c = 0x5A ∨ c = 0x7A := by
  have hlower : (toLower 0x5A).toNat = 122 := rfl
  have hz : (0x5A : UInt8).toNat = 90 ∧ (0x7A : UInt8).toNat = 122 := ⟨rfl, rfl⟩
  simp only [← UInt8.toNat_inj, hlower, hz.1, hz.2]
  rw [toNat_toLower]
  split <;> omega

/-- A literal that ends a number is no digit. -/
lemma TimeField.Reads.noDigit {f : TimeField} {fs : List TimeField} {tm tm' : Tm} {s : Bytes}
    (h : f.Reads tm s tm') (hfs : startsSeparated (f :: fs) = true) (t : Bytes) :
    NoDigit (s ++ t) := by
  cases h with
  | literal hc =>
    rintro d ⟨⟩
    rwa [startsSeparated, ← hc, isDigit_toLower, Bool.not_eq_true'] at hfs
  | number hr | blank hr =>
    cases f with
    | literal => cases hr
    | year | month | day | hour | minute | second =>
      exact absurd hfs (by simp [startsSeparated])

lemma ReadsAll.noDigit {fs : List TimeField} {tm tm' : Tm} {s : Bytes}
    (h : ReadsAll fs tm s tm') (hfs : startsSeparated fs = true) (t : Bytes) :
    NoDigit (s ++ t) := by
  cases h with
  | nil => exact absurd hfs (by simp [startsSeparated])
  | cons hf =>
    rw [List.append_assoc]
    exact hf.noDigit hfs _

lemma CutShort.noDigit {fs : List TimeField} {tm tm' : Tm} {s : Bytes}
    (h : CutShort fs tm s tm') (hfs : startsSeparated fs = true) : NoDigit s := by
  cases h with
  | last _ hf =>
    rw [← List.append_nil s]
    exact hf.noDigit hfs []
  | cons hf => exact hf.noDigit hfs _

/-- A digit is no white space. -/
lemma isSpace_of_isDigit {c : UInt8} (h : isDigit c = true) : isSpace c = false := by
  simp only [isDigit, Bool.and_eq_true, decide_eq_true_eq] at h
  simp only [isSpace, Bool.or_eq_false_iff, Bool.and_eq_false_iff, decide_eq_false_iff_not]
  refine ⟨?_, by omega⟩
  rintro rfl
  exact absurd h.1 (by decide)

/-- The text of an element is read, up to where its number ends. -/
lemma TimeField.Reads.getField {f : TimeField} {tm tm' : Tm} {s t : Bytes}
    (h : f.Reads tm s tm') (hend : f.isConversion = true → NoDigit t) :
    getField f tm (s ++ t) = some (tm', t) := by
  cases h with
  | literal hc => exact if_pos hc
  | @number f r tm ds n hr hn =>
    obtain ⟨d, ds, rfl⟩ := List.exists_cons_of_ne_nil hn.spells.ne_nil
    have hd : isSpace d = false :=
      isSpace_of_isDigit (hn.spells.isDigit d List.mem_cons_self)
    have hskip : (if r.blank then skipBlank (d :: ds ++ t) else d :: ds ++ t) = d :: ds ++ t := by
      rw [List.cons_append, skipBlank, hd, if_neg Bool.false_ne_true, ite_self]
    rw [getField_number hr, hskip,
      getNumber_of_isNumber hn (Or.inr (hend (isConversion_of_number hr)))]
    rfl
  | @blank f r tm c ds n hr hblank hc hn =>
    have hskip : (if r.blank then skipBlank (c :: ds ++ t) else c :: ds ++ t) = ds ++ t := by
      rw [if_pos hblank, List.cons_append, skipBlank, if_pos hc]
    rw [getField_number hr, hskip,
      getNumber_of_isNumber hn (Or.inr (hend (isConversion_of_number hr)))]
    rfl

/-- What an element has read is one of its texts. -/
lemma reads_of_getField {f : TimeField} {tm tm' : Tm} {s t : Bytes}
    (h : getField f tm s = some (tm', t)) : ∃ ds, s = ds ++ t ∧ f.Reads tm ds tm' := by
  rcases hnumber : f.number? with _ | r
  · obtain ⟨c, rfl⟩ := TimeField.number?_eq_none hnumber
    cases s with
    | nil => exact absurd h (by simp [getField])
    | cons d s =>
      by_cases hc : toLower d = toLower c
      · obtain ⟨rfl, rfl⟩ := Prod.mk.inj (Option.some.inj ((if_pos hc).symm.trans h))
        exact ⟨[d], rfl, .literal hc⟩
      · exact absurd ((if_neg hc).symm.trans h) (by simp)
  · rw [getField_number hnumber] at h
    obtain ⟨⟨m, s₂⟩, hget, hset⟩ := Option.map_eq_some_iff.mp h
    obtain ⟨rfl, rfl⟩ := Prod.mk.inj hset
    obtain ⟨ds, n, hs, hn, rfl⟩ := isNumber_of_getNumber hget
    by_cases hblank : r.blank = true
    · rw [if_pos hblank] at hs
      rcases s with _ | ⟨c, s⟩
      · exact ⟨ds, hs, .number hnumber hn⟩
      · rw [skipBlank] at hs
        split_ifs at hs with hc
        · exact ⟨c :: ds, by rw [hs, List.cons_append], .blank hnumber hblank hc hn⟩
        · exact ⟨ds, hs, .number hnumber hn⟩
    · rw [if_neg hblank] at hs
      exact ⟨ds, hs, .number hnumber hn⟩

lemma startsSeparated_of_isConversion {f : TimeField} {fs : List TimeField}
    (h : separated (f :: fs) = true) (hf : f.isConversion = true) : startsSeparated fs = true := by
  rw [separated, Bool.and_eq_true, Bool.or_eq_true] at h
  refine h.1.resolve_left ?_
  cases f with
  | literal => cases hf
  | year | month | day | hour | minute | second => simp [TimeField.number?]

lemma separated_tail {f : TimeField} {fs : List TimeField} (h : separated (f :: fs) = true) :
    separated fs = true := by
  rw [separated, Bool.and_eq_true] at h
  exact h.2

/-- An element that something is left behind. -/
lemma getFields_cons {f : TimeField} {fs : List TimeField} {tm tm₁ : Tm} {s t : Bytes}
    (h : getField f tm s = some (tm₁, t)) (ht : t ≠ []) :
    getFields (f :: fs) tm s = getFields fs tm₁ t := by
  rw [getFields, h]
  exact if_neg fun hend => ht hend.2

/-- A text of the format is read, whatever is behind it. -/
lemma ReadsAll.getFields {fs : List TimeField} {tm tm' : Tm} {s : Bytes}
    (h : ReadsAll fs tm s tm') (hfs : separated fs = true) (rest : Bytes) :
    getFields fs tm (s ++ rest) = some tm' := by
  induction h with
  | nil => rfl
  | @cons f fs tm tm₁ tm₂ s t hf hall ih =>
    have hfield := hf.getField (t := t ++ rest) fun hconversion =>
      hall.noDigit (startsSeparated_of_isConversion hfs hconversion) rest
    have hread := ih (separated_tail hfs)
    rw [List.append_assoc]
    by_cases ht : t ++ rest = []
    · -- nothing is left of the format either
      obtain ⟨rfl, rfl⟩ := hall.eq_nil (List.append_eq_nil_iff.mp ht).1
      rw [ProfileService.getFields, hfield]
      exact ite_self _
    · rw [getFields_cons hfield ht]
      exact hread

/-- A text that is cut short is read. -/
lemma CutShort.getFields {fs : List TimeField} {tm tm' : Tm} {s : Bytes}
    (h : CutShort fs tm s tm') (hfs : separated fs = true) : getFields fs tm s = some tm' := by
  induction h with
  | @last f fs tm tm₁ s hconversion hf =>
    have hfield := hf.getField (t := []) fun _ => by simp [NoDigit]
    rw [List.append_nil] at hfield
    rw [ProfileService.getFields, hfield]
    exact if_pos ⟨hconversion, rfl⟩
  | @cons f fs tm tm₁ tm₂ s t hf hcut ih =>
    have hfield := hf.getField (t := t) fun hconversion =>
      hcut.noDigit (startsSeparated_of_isConversion hfs hconversion)
    rw [getFields_cons hfield hcut.ne_nil]
    exact ih (separated_tail hfs)

/-- Only the numbers count for a text that is cut short. -/
lemma CutShort.change_literal {fs : List TimeField} {c : UInt8} {tm tm' : Tm} {s : Bytes}
    (h : CutShort (fs ++ [.literal c]) tm s tm') (c' : UInt8) :
    CutShort (fs ++ [.literal c']) tm s tm' := by
  induction fs generalizing tm s with
  | nil =>
    cases h with
    | last hconversion => cases hconversion
    | cons _ hfs => cases hfs
  | cons f fs ih =>
    cases h with
    | last hconversion hf => exact .last hconversion hf
    | cons hf hfs => exact .cons hf (ih hfs)

/-- Texts of two formats make one of the formats together. -/
lemma ReadsAll.append {fs gs : List TimeField} {tm tm₁ tm₂ : Tm} {s t : Bytes}
    (h : ReadsAll fs tm s tm₁) (h' : ReadsAll gs tm₁ t tm₂) :
    ReadsAll (fs ++ gs) tm (s ++ t) tm₂ := by
  induction h with
  | nil => exact h'
  | cons hf _ ih =>
    rw [List.append_assoc]
    exact .cons hf (ih h')

/-- What was read is a text of the format, or one that is cut short. -/
lemma readsAll_of_getFields {fs : List TimeField} {tm tm' : Tm} {s : Bytes}
    (h : getFields fs tm s = some tm') :
    CutShort fs tm s tm' ∨ ∃ t rest, s = t ++ rest ∧ ReadsAll fs tm t tm' := by
  induction fs generalizing tm s with
  | nil =>
    obtain rfl := Option.some.inj h
    exact Or.inr ⟨[], s, rfl, .nil⟩
  | cons f fs ih =>
    obtain ⟨⟨tm₁, s₁⟩, hf, hfs⟩ := Option.bind_eq_some_iff.mp h
    obtain ⟨ds, rfl, hreads⟩ := reads_of_getField hf
    by_cases hend : f.isConversion = true ∧ s₁ = []
    · obtain ⟨hconversion, rfl⟩ := hend
      obtain rfl := Option.some.inj ((if_pos ⟨hconversion, rfl⟩).symm.trans hfs)
      rw [List.append_nil]
      exact Or.inl (.last hconversion hreads)
    · rcases ih ((if_neg hend).symm.trans hfs) with hcut | ⟨t, rest, rfl, hall⟩
      · exact Or.inl (.cons hreads hcut)
      · exact Or.inr ⟨ds ++ t, rest, (List.append_assoc _ _ _).symm, .cons hreads hall⟩

/-- The format is matched in front of the input and nothing else is looked at, or the input ends
with one of its numbers. -/
theorem getFields_eq_some_iff {fs : List TimeField} (hfs : separated fs = true) {tm tm' : Tm}
    {s : Bytes} :
    getFields fs tm s = some tm' ↔
      CutShort fs tm s tm' ∨ ∃ t rest, s = t ++ rest ∧ ReadsAll fs tm t tm' := by
  constructor
  · exact readsAll_of_getFields
  · rintro (h | ⟨t, rest, rfl, h⟩)
    · exact h.getFields hfs
    · exact h.getFields hfs rest

/-- A literal at the end of the format: what it reads and what follows it. -/
lemma ReadsAll.getFields_literal {fs : List TimeField} {c : UInt8} {tm tm' : Tm} {s : Bytes}
    (h : ReadsAll (fs ++ [.literal c]) tm s tm') (hfs : separated (fs ++ [.literal c]) = true)
    (rest : Bytes) (c' : UInt8) :
    ProfileService.getFields fs tm (s ++ rest) = some tm' ∧
      ProfileService.getFields (fs ++ [.literal c']) tm (s ++ rest) =
        if toLower c = toLower c' then some tm' else none := by
  induction fs generalizing tm s with
  | nil =>
    obtain _ | ⟨hf, hnil⟩ := h
    obtain _ | _ := hnil
    cases hf with
    | @literal _ d _ hd =>
      refine ⟨rfl, ?_⟩
      rw [← hd]
      by_cases hd' : toLower d = toLower c'
      · rw [if_pos hd']
        exact Option.bind_eq_some_iff.mpr ⟨_, if_pos hd', rfl⟩
      · rw [if_neg hd']
        exact Option.bind_eq_none_iff.mpr fun a ha =>
          absurd ((if_neg hd').symm.trans ha) (by simp)
    | number hr | blank hr => cases hr
  | cons f fs ih =>
    obtain _ | @⟨_, _, _, tm₁, _, s, t, hf, hall⟩ := h
    have hfield := hf.getField (t := t ++ rest) fun hconversion =>
      hall.noDigit (startsSeparated_of_isConversion hfs hconversion) rest
    have hne : t ++ rest ≠ [] := by
      intro hnil
      obtain ⟨hnil, -⟩ := hall.eq_nil (List.append_eq_nil_iff.mp hnil).1
      exact absurd hnil (by simp)
    rw [List.append_assoc, getFields_cons hfield hne, List.cons_append,
      getFields_cons hfield hne]
    exact ih hall (separated_tail hfs)

end Formats

/-! ## Printing -/

section Printing

/-- One element of the format of `std::put_time`. -/
def TimeField.print : TimeField → Tm → Bytes
  | .literal c, _ => [c]
  | .year, tm => decimal (tm.year + 1900)
  | .month, tm => twoDigits (tm.mon + 1)
  | .day, tm => twoDigits tm.mday
  | .hour, tm => twoDigits tm.hour
  | .minute, tm => twoDigits tm.min
  | .second, tm => twoDigits tm.sec

/-- `std::put_time`. -/
def putTime (format : List TimeField) (tm : Tm) : Bytes := format.flatMap fun f => f.print tm

/-- A time of the calendar in a year with four digits. -/
structure Tm.IsPrintable (tm : Tm) : Prop extends tm.IsValid where
  year_ge : 1000 ≤ tm.year + 1900
  year_le : tm.year + 1900 ≤ 9999

lemma isNumber_decimal {n : ℤ} (hlow : 1000 ≤ n) (hhigh : n ≤ 9999) :
    ∃ m : ℕ, n = m ∧ IsNumber 4 0 9999 (decimal n) m := by
  obtain ⟨m, rfl⟩ := Int.eq_ofNat_of_zero_le (show 0 ≤ n by omega)
  have hlen := Decimal.length_digits (n := m) (k := 3) (Or.inr (by omega)) (by omega)
  exact ⟨m, rfl, Decimal.spells_digits m, hlen.le, by omega, by omega⟩

lemma isNumber_twoDigits {n : ℤ} {low high : ℕ} (hlow : low ≤ n) (hhigh : n ≤ high)
    (hmax : high ≤ 99) : ∃ m : ℕ, n = m ∧ IsNumber 2 low high (twoDigits n) m := by
  obtain ⟨m, rfl⟩ := Int.eq_ofNat_of_zero_le (show 0 ≤ n by omega)
  refine ⟨m, rfl, ?_⟩
  have hspells := Decimal.spells_digits m
  by_cases hm : m < 10
  · have htext : twoDigits m = 0x30 :: Decimal.digits m := if_pos (by omega)
    have hlen := Decimal.length_digits (n := m) (k := 0) (Or.inl rfl) (by omega)
    rw [htext]
    exact ⟨hspells.zero_cons, by rw [List.length_cons, hlen], by omega, by omega⟩
  · have htext : twoDigits m = Decimal.digits m := if_neg (by omega)
    have hlen := Decimal.length_digits (n := m) (k := 1) (Or.inr (by omega)) (by omega)
    rw [htext]
    exact ⟨hspells, hlen.le, by omega, by omega⟩

/-- Set the element of the format to what it is in another time. -/
def TimeField.copy (f : TimeField) (tm acc : Tm) : Tm :=
  match f.number? with
  | none => acc
  | some r => r.set (r.get tm) acc

/-- A number that was printed is in the range of its field. -/
lemma isNumber_print {tm : Tm} (h : tm.IsPrintable) {f : TimeField} {r : NumberField}
    (hr : f.number? = some r) :
    ∃ n : ℕ, r.get tm = n ∧ IsNumber r.width r.low r.high (f.print tm) n := by
  obtain ⟨⟨⟨hmonth, hmonth', hday, hday'⟩, hhour, hmin, hsec⟩, hyear, hyear'⟩ := h
  have hlast := Calendar.daysInMonth_le_31 tm.date.year tm.date.month
  simp only [Tm.date] at hmonth hmonth' hday hday' hlast
  cases f with
  | literal => exact absurd hr (by simp [TimeField.number?])
  | year =>
    obtain rfl := Option.some.inj hr
    exact isNumber_decimal hyear hyear'
  | month =>
    obtain rfl := Option.some.inj hr
    exact isNumber_twoDigits hmonth hmonth' (by decide)
  | day =>
    obtain rfl := Option.some.inj hr
    exact isNumber_twoDigits hday (hday'.trans hlast) (by decide)
  | hour =>
    obtain rfl := Option.some.inj hr
    exact isNumber_twoDigits hhour.1 hhour.2 (by decide)
  | minute =>
    obtain rfl := Option.some.inj hr
    exact isNumber_twoDigits hmin.1 hmin.2 (by decide)
  | second =>
    obtain rfl := Option.some.inj hr
    exact isNumber_twoDigits hsec.1 (hsec.2.trans (by decide)) (by decide)

/-- What was printed is a text of the element. -/
lemma reads_print {tm : Tm} (h : tm.IsPrintable) (f : TimeField) (acc : Tm) :
    f.Reads acc (f.print tm) (f.copy tm acc) := by
  rw [TimeField.copy]
  rcases hr : f.number? with _ | r
  · obtain ⟨c, rfl⟩ := TimeField.number?_eq_none hr
    exact .literal rfl
  · obtain ⟨n, hget, hn⟩ := isNumber_print h hr
    simp only [hget]
    exact .number hr hn

/-- Set all elements of a format. -/
def copyAll (fs : List TimeField) (tm acc : Tm) : Tm := fs.foldl (fun acc f => f.copy tm acc) acc

/-- What was printed is a text of the format. -/
lemma readsAll_putTime {tm : Tm} (h : tm.IsPrintable) (fs : List TimeField) (acc : Tm) :
    ReadsAll fs acc (putTime fs tm) (copyAll fs tm acc) := by
  induction fs generalizing acc with
  | nil => exact .nil
  | cons f fs ih => exact .cons (reads_print h f acc) (ih _)

/-- A year begins with a digit. -/
lemma TimeField.Reads.exists_digit {tm tm' : Tm} {s : Bytes} (h : TimeField.year.Reads tm s tm') :
    ∃ d t, s = d :: t ∧ isDigit d = true := by
  cases h with
  | number hr hn =>
    obtain ⟨d, ds, rfl⟩ := List.exists_cons_of_ne_nil hn.spells.ne_nil
    exact ⟨d, ds, rfl, hn.spells.isDigit d List.mem_cons_self⟩
  | blank hr hblank =>
    obtain rfl := Option.some.inj hr
    cases hblank

/-- White space in front is passed. -/
lemma getTime_append {format : List TimeField} {ws s : Bytes} {d : UInt8} {t : Bytes}
    (hws : ∀ c ∈ ws, isSpace c = true) (hs : s = d :: t) (hd : isDigit d = true) :
    getTime format (ws ++ s) = getFields format Tm.zero s := by
  have hdrop : (ws ++ s).dropWhile isSpace = s := by
    rw [List.dropWhile_append_of_pos hws, hs, List.dropWhile_cons, isSpace_of_isDigit hd,
      if_neg (by decide)]
  rw [getTime, hdrop, hs]

/-- The text of a separated format that begins with the year is read past white space, also when it
is cut short. -/
theorem getTime_eq_some_iff {fs : List TimeField} (hfs : separated (.year :: fs) = true) {tm : Tm}
    {s : Bytes} :
    getTime (.year :: fs) s = some tm ↔ ∃ ws t, s = ws ++ t ∧ (∀ c ∈ ws, isSpace c = true) ∧
      (CutShort (.year :: fs) Tm.zero t tm ∨
        ∃ u rest, t = u ++ rest ∧ ReadsAll (.year :: fs) Tm.zero u tm) := by
  constructor
  · intro h
    rw [getTime] at h
    split at h
    · exact absurd h (by simp)
    · exact ⟨s.takeWhile isSpace, s.dropWhile isSpace, List.takeWhile_append_dropWhile.symm,
        fun c hc => List.mem_takeWhile_imp hc, (getFields_eq_some_iff hfs).mp h⟩
  · rintro ⟨ws, t, rfl, hws, hread⟩
    obtain ⟨d, t', ht, hd⟩ : ∃ d t', t = d :: t' ∧ isDigit d = true := by
      rcases hread with hcut | ⟨u, rest, rfl, hall⟩
      · cases hcut with
        | last _ hf => exact hf.exists_digit
        | cons hf =>
          obtain ⟨d, t', rfl, hd⟩ := hf.exists_digit
          exact ⟨d, _, rfl, hd⟩
      · obtain _ | ⟨hf, -⟩ := hall
        obtain ⟨d, t', rfl, hd⟩ := hf.exists_digit
        exact ⟨d, _, rfl, hd⟩
    rw [getTime_append hws ht hd]
    exact (getFields_eq_some_iff hfs).mpr hread

/-- What was printed in the form of RFC 3339 is a text of this form. -/
lemma readsAll_rfc3339 {tm : Tm} (h : tm.IsPrintable) :
    ReadsAll rfc3339Format Tm.zero (putTime rfc3339Format tm) tm := by
  have hread := readsAll_putTime h rfc3339Format Tm.zero
  have hcopy : copyAll rfc3339Format tm Tm.zero = tm := by
    simp [copyAll, rfc3339Format, timestampFormat, TimeField.copy, TimeField.number?]
  rwa [hcopy] at hread

/-- What was printed in the form of RFC 3339 is read back. -/
theorem getTime_putTime {tm : Tm} (h : tm.IsPrintable) :
    getTime rfc3339Format (putTime rfc3339Format tm) = some tm :=
  (getTime_eq_some_iff (by decide)).mpr
    ⟨[], _, rfl, by simp, Or.inr ⟨_, [], (List.append_nil _).symm, readsAll_rfc3339 h⟩⟩

lemma putTime_injective {tm tm' : Tm} (h : tm.IsPrintable) (h' : tm'.IsPrintable)
    (heq : putTime rfc3339Format tm = putTime rfc3339Format tm') : tm = tm' := by
  have hread := getTime_putTime h
  rw [heq, getTime_putTime h'] at hread
  exact (Option.some.inj hread).symm

/-- A literal at the end of the format. -/
lemma getTime_literal {c : UInt8} {tm : Tm} {s : Bytes}
    (h : ReadsAll (timestampFormat ++ [.literal c]) Tm.zero s tm) (hc : isDigit (toLower c) = false)
    (rest : Bytes) (c' : UInt8) :
    getTime timestampFormat (s ++ rest) = some tm ∧
      getTime (timestampFormat ++ [.literal c']) (s ++ rest) =
        if toLower c = toLower c' then some tm else none := by
  have hfs : separated (timestampFormat ++ [.literal c]) = true := by
    simp only [timestampFormat, List.cons_append, List.nil_append, separated, startsSeparated, hc]
    rfl
  have hread := fun c' => h.getFields_literal hfs rest c'
  obtain ⟨d, t, hs, hd⟩ : ∃ d t, s ++ rest = d :: t ∧ isDigit d = true := by
    obtain _ | ⟨hf, -⟩ := h
    obtain ⟨d, t, rfl, hd⟩ := hf.exists_digit
    exact ⟨d, _, rfl, hd⟩
  have hskip : ∀ format, getTime format (s ++ rest) = getFields format Tm.zero (s ++ rest) := by
    have hnone : ∀ c ∈ ([] : Bytes), isSpace c = true := by simp
    exact fun format => getTime_append hnone hs hd
  rw [hskip, hskip]
  exact hread c'

/-- The text of `strftime` is read back. -/
lemma strftime_injective {tm tm' : Tm} (h : tm.IsPrintable) (h' : tm'.IsPrintable)
    (heq : strftime tm = strftime tm') : tm = tm' := by
  have hprint : ∀ tm, putTime (timestampTextFormat ++ [.literal 0x5A]) tm =
      strftime tm ++ [0x5A] := by
    intro tm
    simp only [strftime, List.append_assoc]
    rfl
  have hread : ∀ {tm : Tm}, tm.IsPrintable →
      getFields (timestampTextFormat ++ [.literal 0x5A]) Tm.zero (strftime tm ++ [0x5A]) =
        some tm := by
    intro tm h
    have hread := readsAll_putTime h (timestampTextFormat ++ [.literal 0x5A]) Tm.zero
    have hcopy : copyAll (timestampTextFormat ++ [.literal 0x5A]) tm Tm.zero = tm := by
      simp [copyAll, timestampTextFormat, TimeField.copy, TimeField.number?]
    rw [hcopy, hprint] at hread
    exact (getFields_eq_some_iff (by decide)).mpr
      (Or.inr ⟨_, [], (List.append_nil _).symm, hread⟩)
  have hsame := hread h
  rw [heq, hread h'] at hsame
  exact (Option.some.inj hsame).symm

end Printing

/-! ## Time points -/

section TimePoints

/-- The time point of a number of seconds: the nanoseconds, up to what wraps around in 64 bits. -/
structure IsTimePoint (x tp : ℤ) : Prop where
  wraps : ∃ k : ℤ, x * 1000000000 + k * 2 ^ 64 = tp
  ge : -2 ^ 63 ≤ tp
  lt : tp < 2 ^ 63

/-- Some time point of a number of seconds is in a second. -/
def IsInSecond (x t : ℤ) : Prop := ∃ tp, IsTimePoint x tp ∧ TimePoint.toSeconds tp = t

lemma fromTimeT_eq_iff {x tp : ℤ} : fromTimeT x = tp ↔ IsTimePoint x tp := by
  have hwraps := Int.bmod_add_bdiv (x * 1000000000) (2 ^ 64)
  have hge := Int.le_bmod (x := x * 1000000000) (m := 2 ^ 64) (by decide)
  have hlt := Int.bmod_lt (x := x * 1000000000) (m := 2 ^ 64) (by decide)
  rw [fromTimeT]
  generalize (x * 1000000000).bmod (2 ^ 64) = b at *
  generalize (x * 1000000000).bdiv (2 ^ 64) = q at *
  norm_num at hwraps hge hlt
  constructor
  · rintro rfl
    exact ⟨⟨-q, by omega⟩, by omega, by omega⟩
  · rintro ⟨⟨k, hk⟩, hge', hlt'⟩
    -- two numbers in the range that differ by a multiple of its size
    have hmultiple : tp - b = 2 ^ 64 * (q + k) := by omega
    have hzero : q + k = 0 := by
      clear hk hwraps
      omega
    rw [hzero, Int.mul_zero] at hmultiple
    exact (Int.eq_of_sub_eq_zero hmultiple).symm

/-- The seconds of a time point, where the number of seconds it was made from is not far away. -/
lemma isInSecond_iff_of_near {x t : ℤ} (ht : 0 ≤ t) (hlow : t - 10000000000 ≤ x)
    (hhigh : x ≤ t + 10000000000) :
    IsInSecond x t ↔ x = t ∧ t ≤ 9223372036 := by
  have hdiv : ∀ tp : ℤ, tp.tdiv 1000000000 = t → -1000000000 < tp - t * 1000000000 ∧
      tp - t * 1000000000 < 1000000000 := by
    intro tp h
    have := Int.tmod_add_mul_tdiv tp 1000000000
    have := Int.tmod_lt_of_pos tp (b := 1000000000) (by decide)
    have := Int.lt_tmod_of_pos tp (b := 1000000000) (by decide)
    omega
  constructor
  · rintro ⟨tp, ⟨⟨k, hk⟩, hge, hlt⟩, hsec⟩
    have := hdiv tp hsec
    norm_num at hk hge hlt
    have hk0 : k = 0 := by omega
    subst hk0
    omega
  · rintro ⟨rfl, hle⟩
    refine ⟨x * 1000000000, ⟨⟨0, by omega⟩, by norm_num; omega, by norm_num; omega⟩, ?_⟩
    exact Int.mul_tdiv_cancel x (by decide)

lemma isInSecond_iff {x t : ℤ} : IsInSecond x t ↔ TimePoint.toSeconds (fromTimeT x) = t := by
  constructor
  · rintro ⟨tp, htp, hsec⟩
    rwa [fromTimeT_eq_iff.mpr htp]
  · exact fun h => ⟨_, fromTimeT_eq_iff.mp rfl, h⟩

lemma isTimePoint_iff_of_near {x t : ℤ} (ht : 0 ≤ t) (hlow : t - 10000000000 ≤ x)
    (hhigh : x ≤ t + 10000000000) :
    IsTimePoint x (t * 1000000000) ↔ x = t ∧ t ≤ 9223372036 := by
  rw [← isInSecond_iff_of_near ht hlow hhigh]
  constructor
  · exact fun h => ⟨_, h, Int.mul_tdiv_cancel t (by decide)⟩
  · intro h
    obtain ⟨rfl, hle⟩ := (isInSecond_iff_of_near ht hlow hhigh).mp h
    exact ⟨⟨0, by omega⟩, by norm_num; omega, by norm_num; omega⟩

/-- From the year 1000 to the year 9999 a time is printed with four digits for the year. -/
lemma isPrintable_gmtime {t : ℤ} (hlow : -30610224000 ≤ t) (hhigh : t < 253402300800) :
    (gmtime t).IsPrintable := by
  have hfirst : Calendar.newYear 1000 ≤ t / 86400 := by
    unfold Calendar.newYear
    omega
  have hlast : t / 86400 < Calendar.newYear 10000 := by
    unfold Calendar.newYear
    omega
  have hbounds := Calendar.year_ofDays hfirst hlast
  rw [← (gmtime_eq t).1] at hbounds
  exact ⟨gmtime_isValid t, hbounds.1, Int.le_of_lt_add_one hbounds.2⟩

/-- The years of a time point of 64 bits. -/
lemma isPrintable_toSeconds (x : ℤ) :
    (gmtime (TimePoint.toSeconds (fromTimeT x))).IsPrintable := by
  obtain ⟨-, hge, hlt⟩ := fromTimeT_eq_iff.mp (rfl : fromTimeT x = _)
  generalize fromTimeT x = tp at *
  have hsplit := Int.tmod_add_mul_tdiv tp 1000000000
  have hmod := Int.tmod_lt_of_pos tp (b := 1000000000) (by decide)
  have hmod' := Int.lt_tmod_of_pos tp (b := 1000000000) (by decide)
  rw [TimePoint.toSeconds]
  exact isPrintable_gmtime (by omega) (by omega)

/-- A local time comes back in UTC as it was exactly if its seconds are those of UTC. -/
lemma gmtime_toSeconds_eq_iff {x : ℤ} {tm : Tm} (h : tm.IsValid) :
    gmtime (TimePoint.toSeconds (fromTimeT x)) = tm ↔ IsInSecond x (timegm tm) := by
  rw [isInSecond_iff]
  constructor
  · rintro rfl
    exact (timegm_gmtime _).symm
  · intro heq
    rw [heq, gmtime_timegm h]

end TimePoints

/-! ## `ParseTimestamp` and `FormatTimestamp` -/

section Utilities

/-- `ParseTimestamp`. -/
def parseTimestamp (mktime : Tm → ℤ) (timestamp : Bytes) : Except Exn TimePoint :=
  match getTime timestampFormat timestamp with
  | none => .error ⟨str "Invalid timestamp format"⟩
  | some tm => .ok (fromTimeT (mktime tm))

/-- `FormatTimestamp`. -/
def formatTimestamp (tp : TimePoint) : Bytes :=
  putTime rfc3339Format (gmtime (TimePoint.toSeconds tp))

variable (mktime : Tm → ℤ)

/-- A text in the form of RFC 3339 is read as a local time. -/
lemma parseTimestamp_putTime {tm : Tm} (h : tm.IsPrintable) :
    parseTimestamp mktime (putTime rfc3339Format tm) = .ok (fromTimeT (mktime tm)) := by
  have hread := (getTime_literal (readsAll_rfc3339 h) (by decide) [] 0x5A).1
  rw [List.append_nil] at hread
  rw [parseTimestamp, hread]

/-- Three hours east of Greenwich. -/
def mktimeEast (tm : Tm) : ℤ := timegm tm - 10800

/-- A time point from 1970 to 9999 is given back without its fraction exactly if its second,
taken for a local time, is that second again; a text of these years is given back exactly if the
local time is in the second that it is in UTC.  Where local time and UTC are at most `10 ^ 10`
seconds apart, both say that they agree and that the nanoseconds fit into 64 bits. -/
theorem timestamps_inverse_iff :
    (∀ tp : TimePoint, 0 ≤ tp → tp < 253402300800 * 1000000000 →
      (parseTimestamp mktime (formatTimestamp tp) = .ok (tp - tp % 1000000000) ↔
        IsTimePoint (mktime (gmtime (tp / 1000000000))) (tp / 1000000000 * 1000000000))) ∧
    (∀ tm : Tm, tm.IsValid → 1970 ≤ tm.year + 1900 → tm.year + 1900 ≤ 9999 →
      ((parseTimestamp mktime (putTime rfc3339Format tm)).map formatTimestamp =
          .ok (putTime rfc3339Format tm) ↔
        IsInSecond (mktime tm) (timegm tm))) ∧
    ∀ x t : ℤ, 0 ≤ t → t - 10000000000 ≤ x → x ≤ t + 10000000000 →
      (IsTimePoint x (t * 1000000000) ↔ x = t ∧ t ≤ 9223372036) ∧
        (IsInSecond x t ↔ x = t ∧ t ≤ 9223372036) := by
  refine ⟨?_, ?_, fun x t ht hlow hhigh =>
    ⟨isTimePoint_iff_of_near ht hlow hhigh, isInSecond_iff_of_near ht hlow hhigh⟩⟩
  · intro (tp : ℤ) (h0 : (0 : ℤ) ≤ tp) (hlast : tp < (253402300800 * 1000000000 : ℤ))
    have hsec : TimePoint.toSeconds tp = tp / 1000000000 := Int.tdiv_eq_ediv_of_nonneg h0
    have hprint : (gmtime (tp / 1000000000)).IsPrintable :=
      isPrintable_gmtime (by omega) (by omega)
    have hwhole : tp - tp % 1000000000 = tp / 1000000000 * 1000000000 := by omega
    rw [formatTimestamp, hsec, parseTimestamp_putTime mktime hprint, ← fromTimeT_eq_iff]
    exact ⟨fun h => (Except.ok.inj h).trans hwhole, fun h => congrArg _ (h.trans hwhole.symm)⟩
  · intro tm hvalid hyear hyear'
    have hprint : tm.IsPrintable := ⟨hvalid, by omega, hyear'⟩
    rw [parseTimestamp_putTime mktime hprint, ← gmtime_toSeconds_eq_iff hvalid]
    constructor
    · intro h
      exact putTime_injective (isPrintable_toSeconds _) hprint (Except.ok.inj h)
    · intro h
      rw [Except.map, formatTimestamp, h]

/-- In UTC a time point of 2024 is given back. -/
theorem timestamps_inverse_iff_utc :
    parseTimestamp timegm (formatTimestamp 1709210096000000001) = .ok 1709210096000000000 :=
  ((timestamps_inverse_iff timegm).1 1709210096000000001 (by decide) (by decide)).mpr
    ⟨⟨0, by decide⟩, by decide, by decide⟩

/-- East of Greenwich neither way gives back what it started from. -/
theorem timestamps_not_inverse :
    parseTimestamp mktimeEast (formatTimestamp 0) ≠ .ok 0 ∧
      (parseTimestamp mktimeEast (str "1970-01-01T00:00:00Z")).map formatTimestamp ≠
        .ok (str "1970-01-01T00:00:00Z") := by
  have hread : getTime timestampFormat (str "1970-01-01T00:00:00Z") = some ⟨70, 0, 1, 0, 0, 0⟩ := by
    decide
  have hlocal : fromTimeT (mktimeEast ⟨70, 0, 1, 0, 0, 0⟩) = -10800000000000 := by decide
  have hformat : formatTimestamp 0 = str "1970-01-01T00:00:00Z" := by decide
  have hback : formatTimestamp (-10800000000000) = str "1969-12-31T21:00:00Z" := by decide
  have hparse : parseTimestamp mktimeEast (str "1970-01-01T00:00:00Z") =
      .ok (-10800000000000) := by
    rw [parseTimestamp, hread, ← hlocal]
  rw [hformat, hparse, Except.map, hback]
  exact ⟨fun h => absurd (Except.ok.inj h) (by decide),
    fun h => absurd (Except.ok.inj h) (by decide)⟩

end Utilities

end ProfileService
