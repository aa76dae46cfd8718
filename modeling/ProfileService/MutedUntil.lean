/-
# `mutedUntil` in the settings

The text that a `PUT` carries is read by `std::get_time`, taken for a local time, and written to
the statement in UTC.
-/
import ProfileService.Lib.Rfc3339
import ProfileService.Notifications
import ProfileService.Timestamps

namespace ProfileService

open Bytes (str)
open Decimal (isDigit)
open Rfc3339 (DateTime IsDateTime IsPlain Numeral SpellsTime SpellsOffset SpellsDateTime)

variable {σ : Type}

/-! ## Which texts are read -/

section Reading

/-- White space, then the fields with at most as many digits as they are wide and each in a range
of its own, a blank before the day if there is one, then anything. -/
def IsLoose (s : Bytes) : Prop :=
  ∃ ws t rest tm, s = ws ++ (t ++ rest) ∧ (∀ c ∈ ws, isSpace c = true) ∧
    ReadsAll rfc3339Format Tm.zero t tm

/-- White space, then such fields as far as one of the numbers, and nothing behind it. -/
def IsCutShort (s : Bytes) : Prop :=
  ∃ ws t tm, s = ws ++ t ∧ (∀ c ∈ ws, isSpace c = true) ∧ CutShort rfc3339Format Tm.zero t tm

lemma getTime_isSome_iff {s : Bytes} :
    (getTime rfc3339Format s).isSome ↔ IsCutShort s ∨ IsLoose s := by
  rw [Option.isSome_iff_exists]
  constructor
  · rintro ⟨tm, h⟩
    obtain ⟨ws, t, rfl, hws, hcut | ⟨u, rest, rfl, hall⟩⟩ :=
      (getTime_eq_some_iff (by decide)).mp h
    · exact Or.inl ⟨ws, t, tm, rfl, hws, hcut⟩
    · exact Or.inr ⟨ws, u, rest, tm, rfl, hws, hall⟩
  · rintro (⟨ws, t, tm, rfl, hws, hcut⟩ | ⟨ws, u, rest, tm, rfl, hws, hall⟩)
    · exact ⟨tm, (getTime_eq_some_iff (by decide)).mpr ⟨ws, t, rfl, hws, Or.inl hcut⟩⟩
    · exact ⟨tm, (getTime_eq_some_iff (by decide)).mpr
        ⟨ws, _, rfl, hws, Or.inr ⟨u, rest, rfl, hall⟩⟩⟩

/-- The fields of a time. -/
def tmOf (d : DateTime) : Tm :=
  ⟨d.date.year - 1900, d.date.month - 1, d.date.day, d.hour, d.minute, d.second⟩

lemma isNumber_of_numeral {k low high n : ℕ} {ds : Bytes} (h : Numeral k ds n) (hlow : low ≤ n)
    (hhigh : n ≤ high) : IsNumber k low high ds n :=
  ⟨h.spells, h.length.le, hlow, hhigh⟩

/-- The date and the time of a valid text are read field by field. -/
lemma readsAll_of_spellsTime {d : DateTime} (hd : d.IsValid) {s : Bytes} (h : SpellsTime d s) :
    ReadsAll timestampFormat Tm.zero s (tmOf d) := by
  obtain @⟨yyyy, mm, dd, hh, mi, ss, year, month, day, t, hyear, hmonth, hday, hdate, ht, hhour,
    hminute, hsecond⟩ := h
  obtain ⟨hvalid, hhour', hminute', hsecond'⟩ := hd
  have hlt := hyear.spells.lt
  rw [hyear.length] at hlt
  rw [hdate] at hvalid
  obtain ⟨hm1, hm12, hd1, hd31⟩ := hvalid
  have hlast := hd31.trans (Calendar.daysInMonth_le_31 _ _)
  simp only at hm1 hm12 hd1 hlast
  have htm : tmOf d = ⟨year - 1900, month - 1, day, d.hour, d.minute, d.second⟩ := by
    rw [tmOf, hdate]
  have hy : IsNumber 4 0 9999 yyyy year := isNumber_of_numeral hyear (by omega) (by omega)
  have hmo : IsNumber 2 1 12 mm month := isNumber_of_numeral hmonth (by omega) (by omega)
  have hda : IsNumber 2 1 31 dd day := isNumber_of_numeral hday (by omega) (by omega)
  have hho : IsNumber 2 0 23 hh d.hour := isNumber_of_numeral hhour (by omega) hhour'
  have hmi : IsNumber 2 0 59 mi d.minute := isNumber_of_numeral hminute (by omega) hminute'
  have hse : IsNumber 2 0 60 ss d.second := isNumber_of_numeral hsecond (by omega) (by omega)
  have hcase : toLower t = toLower 0x54 := by
    rcases ht with rfl | rfl <;> decide
  rw [htm, ← List.append_nil ss]
  exact .cons (.number rfl hy) (.cons (.literal rfl) (.cons (.number rfl hmo)
    (.cons (.literal rfl) (.cons (.number rfl hda) (.cons (.literal hcase)
    (.cons (.number rfl hho) (.cons (.literal rfl) (.cons (.number rfl hmi)
    (.cons (.literal rfl) (.cons (.number rfl hse) .nil))))))))))

/-- Up to the seconds a valid text is read as it is meant. -/
lemma exists_readsAll_of_spells {d : DateTime} (hd : d.IsValid) {s : Bytes}
    (h : SpellsDateTime d s) :
    ∃ t x rest, s = t ++ rest ∧ isDigit (toLower x) = false ∧
      ReadsAll (timestampFormat ++ [.literal x]) Tm.zero t (tmOf d) ∧
      (x = 0x5A ∨ x = 0x7A ↔ d.IsPlain) := by
  obtain ⟨time, x, rest, rfl, htime, hx, hplain⟩ := h.exists_after
  rw [← isDigit_toLower] at hx
  exact ⟨time ++ [x], x, rest, by simp, hx,
    (readsAll_of_spellsTime hd htime).append (.cons (.literal rfl) .nil), hplain⟩

/-- A valid text does not end with one of the numbers. -/
lemma not_isCutShort {d : DateTime} (hd : d.IsValid) {s : Bytes} (h : SpellsDateTime d s) :
    ¬ IsCutShort s := by
  obtain ⟨t, x, rest, rfl, hx, hall, -⟩ := exists_readsAll_of_spells hd h
  rintro ⟨ws, u, tm, hs, hws, hcut⟩
  -- a text that is cut short is read whatever literal the format ends in
  have hread : ∀ c, isDigit (toLower c) = false → toLower x = toLower c := by
    intro c hc
    have hfs : separated (timestampFormat ++ [.literal c]) = true := by
      simp only [timestampFormat, List.cons_append, List.nil_append, separated, startsSeparated, hc]
      rfl
    have hsome : getTime (timestampFormat ++ [.literal c]) (t ++ rest) = some tm :=
      (getTime_eq_some_iff hfs).mpr ⟨ws, u, hs, hws, Or.inl (hcut.change_literal c)⟩
    rw [(getTime_literal hall hx rest c).2] at hsome
    by_contra hne
    exact absurd ((if_neg hne).symm.trans hsome) (by simp)
  exact absurd ((hread 0x5A (by decide)).symm.trans (hread 0x2B (by decide))) (by decide)

/-- A valid text is read exactly if it is in UTC without a fraction. -/
lemma isLoose_iff_isPlain {d : DateTime} (hd : d.IsValid) {s : Bytes} (h : SpellsDateTime d s) :
    IsLoose s ↔ d.IsPlain := by
  have hcut := not_isCutShort hd h
  obtain ⟨t, x, rest, rfl, hx, hall, hplain⟩ := exists_readsAll_of_spells hd h
  have hsome : IsLoose (t ++ rest) ↔ (getTime rfc3339Format (t ++ rest)).isSome := by
    rw [getTime_isSome_iff, or_iff_right hcut]
  rw [hsome, rfc3339Format, (getTime_literal hall hx rest 0x5A).2, ← hplain, ← toLower_eq_z]
  by_cases hz : toLower x = toLower 0x5A <;> simp [hz]

/-- A valid text is not empty. -/
lemma SpellsDateTime.ne_nil {d : DateTime} {s : Bytes} (h : SpellsDateTime d s) : s ≠ [] := by
  obtain ⟨time, x, rest, rfl, -⟩ := h.exists_after
  simp

end Reading

/-! ## The two updates -/

section Updates

variable {env : Env σ} {request : Request} {chatID : Option Bytes} {j : Json} {s : Bytes}
  {muted : Bool}

/-- What is made of a text. -/
def untilOf (env : Env σ) (s : Bytes) : Option (Option TimePoint) :=
  if s = [] then some none
  else (getTime rfc3339Format s).map fun tm => some (fromTimeT (env.mktime tm))

lemma run_readMutedUntil_string (w : World σ)
    (hs : j.member? (str "mutedUntil") = some (.string s)) :
    (NotificationsHandler.readMutedUntil j).run env w = (.ok (untilOf env s), w) := by
  rw [NotificationsHandler.readMutedUntil, hs, untilOf]
  have hconv : (convert (getString (.string s)) : Svc σ Bytes).run env w = (.ok s, w) := rfl
  simp only
  rw [Prog.run_bind_ok hconv]
  by_cases hnil : s = []
  · rw [if_pos hnil, if_pos hnil]
    rfl
  · rw [if_neg hnil, if_neg hnil]
    rcases getTime rfc3339Format s with _ | tm <;> rfl

/-- The request puts settings of an identified user, with a text as `mutedUntil`. -/
structure PutsUntil (env : Env σ) (request : Request) (chatID : Option Bytes) (muted : Bool)
    (s : Bytes) : Prop where
  puts : PutsSettings request chatID
  user : extractUserID request ≠ []
  body : ∃ j, bodyJson env request = some j ∧
    value getBool j (str "muted") false = .ok muted ∧
    j.member? (str "mutedUntil") = some (.string s)

/-- The settings that are written. -/
def putSettingsOf (request : Request) (chatID : Option Bytes) (muted : Bool)
    (mutedUntil : Option TimePoint) : NotificationSettings :=
  ⟨[], extractUserID request, chatID, muted, mutedUntil⟩

/-- What the two updates do with what was made of the text. -/
def finishPut (request : Request) (chatID : Option Bytes) (muted : Bool) :
    Option (Option TimePoint) → Svc σ Response
  | none => pure (errorResponse 400 request.version
      (str "invalid mutedUntil format, expected RFC3339"))
  | some mutedUntil => do
      NotificationRepository.upsert (putSettingsOf request chatID muted mutedUntil)
      pure (jsonResponse 204 request.version [])

lemma run_putSettings_until (w : World σ) (h : PutsUntil env request chatID muted s) :
    (NotificationsHandler.putSettings request (extractUserID request) chatID).run env w =
      (finishPut request chatID muted (untilOf env s) : Svc σ Response).run env w := by
  obtain ⟨j, hj, hmuted, hs⟩ := h.body
  have hvalue : (value getBool j (str "muted") false).toOption = some muted := by
    rw [hmuted]
    rfl
  rw [NotificationsHandler.putSettings, Prog.run_bind_ok (run_parse w hj),
    Prog.run_bind_ok (run_convert env w hvalue), Prog.run_bind_ok (run_readMutedUntil_string w hs)]
  rcases untilOf env s with _ | mutedUntil <;> rfl

/-- The text decides between the error and the settings that are written. -/
lemma serve_putsUntil (h : PutsUntil env request chatID muted s) :
    ∃ id : HandlerId, ∀ w : World σ, serve env w request = (do
      enter id
      tryCatch (finishPut request chatID muted (untilOf env s))
        fun e => pure (errorResponse 400 request.version e.what) : Svc σ Response).run env w := by
  obtain ⟨id, hserve⟩ := serve_putSettings h.puts h.user
  exact ⟨id, fun w => (hserve env w).trans
    (Prog.run_tryCatch_congr (s := w.entering id) (run_putSettings_until _ h))⟩

end Updates

/-! ## The error -/

section Errors

variable {env : Env σ} {request : Request} {chatID : Option Bytes} {s : Bytes} {muted : Bool}

/-- The request is answered with the error about the format. -/
def RefusesUntil (env : Env σ) (w : World σ) (request : Request) : Prop :=
  (serve env w request).1 = .ok (errorResponse 400 request.version
    (str "invalid mutedUntil format, expected RFC3339"))

/-- No exception of the database has the text of that error. -/
structure Env.OtherTexts (env : Env σ) : Prop where
  fault : ∀ n err, env.fault n = some err →
    err.what ≠ str "invalid mutedUntil format, expected RFC3339"
  refusal : ∀ n, (env.refusal n).what ≠ str "invalid mutedUntil format, expected RFC3339"

lemma errorResponse_inj {status version : ℕ} {error error' : Bytes}
    (h : errorResponse status version error = errorResponse status version error') :
    error = error' :=
  List.append_cancel_left (List.append_cancel_right (congrArg Response.body h))

/-- A statement throws an exception of the database. -/
lemma Env.OtherTexts.executeModify (htexts : env.OtherTexts) {w w' : World σ} {query : Query}
    {params : List DbValue} {err : Exn}
    (h : (executeModify query params).run env w = (.error err, w')) :
    err.what ≠ str "invalid mutedUntil format, expected RFC3339" := by
  have hthrow : ((executeParams query params).run env w).1 = .error err := by
    rw [ProfileService.executeModify, Prog.run_bind] at h
    rcases hrun : (executeParams query params).run env w with ⟨err' | rows, w''⟩
    · rw [hrun] at h
      exact congrArg Except.error (Except.error.inj (Prod.mk.inj h).1)
    · rw [hrun] at h
      exact absurd (Prod.mk.inj h).1 (by simp)
  rw [Prog.run, executeParams] at hthrow
  split at hthrow
  · rename_i err' hfault
    obtain rfl := Except.error.inj hthrow
    exact htexts.fault _ _ hfault
  · split at hthrow
    · obtain rfl := Except.error.inj hthrow
      exact htexts.refusal _
    · exact absurd hthrow (by simp)

lemma Env.OtherTexts.upsert (htexts : env.OtherTexts) {w w' : World σ}
    {settings : NotificationSettings} {err : Exn}
    (h : (NotificationRepository.upsert settings).run env w = (.error err, w')) :
    err.what ≠ str "invalid mutedUntil format, expected RFC3339" := by
  rw [NotificationRepository.upsert] at h
  split at h <;> exact htexts.executeModify h

/-- The error is about the text only. -/
lemma refusesUntil_iff (htexts : env.OtherTexts) (w : World σ)
    (h : PutsUntil env request chatID muted s) :
    RefusesUntil env w request ↔ untilOf env s = none := by
  obtain ⟨id, hserve⟩ := serve_putsUntil h
  rcases huntil : untilOf env s with _ | mutedUntil
  · refine iff_of_true ?_ rfl
    rw [RefusesUntil, hserve, huntil]
    rfl
  · refine iff_of_false (fun hanswer => ?_) (by simp)
    rw [huntil] at hserve
    rcases hrun : (NotificationRepository.upsert
      (putSettingsOf request chatID muted mutedUntil)).run env (w.entering id) with ⟨err | u, w'⟩
    · rw [RefusesUntil, answer_of_throw (hserve w) (Prog.run_bind_error hrun)] at hanswer
      exact htexts.upsert hrun (errorResponse_inj (Except.ok.inj hanswer))
    · have hdone : serve env w request = (.ok (jsonResponse 204 request.version []), w') :=
        (hserve w).trans (Prog.run_tryCatch_ok (s := w.entering id) (Prog.run_bind_ok hrun))
      rw [RefusesUntil, hdone] at hanswer
      exact absurd (congrArg Response.status (Except.ok.inj hanswer)) (by simp)

lemma untilOf_eq_none_iff :
    untilOf env s = none ↔ s ≠ [] ∧ ¬ (IsCutShort s ∨ IsLoose s) := by
  rw [untilOf, ← getTime_isSome_iff]
  by_cases hnil : s = []
  · simp [hnil]
  · rw [if_neg hnil, Option.map_eq_none_iff, Option.not_isSome_iff_eq_none]
    simp [hnil]

/-- For a text, every `PUT` of it by an identified user with a valid flag answers as RFC 3339 has
it exactly if the text is in UTC without a fraction when it is one of the format, is of the
format when all the fields are read, and does not end with one of the numbers. -/
theorem rfc3339_accepted_iff (htexts : env.OtherTexts) (w : World σ)
    (h : PutsUntil env request chatID muted s) :
    ((s ≠ [] → ¬ IsDateTime s → RefusesUntil env w request) ∧
        (IsDateTime s → ¬ RefusesUntil env w request)) ↔
      (IsDateTime s → IsPlain s) ∧ (IsLoose s → IsDateTime s) ∧ ¬ IsCutShort s := by
  rw [refusesUntil_iff htexts w h, untilOf_eq_none_iff]
  have hread : IsCutShort s ∨ IsLoose s → s ≠ [] := by
    rintro hs rfl
    exact absurd (getTime_isSome_iff.mpr hs) (by decide)
  have hdate : IsDateTime s → s ≠ [] ∧ ¬ IsCutShort s := fun ⟨_, hd, hs⟩ =>
    ⟨SpellsDateTime.ne_nil hs, not_isCutShort hd hs⟩
  have hplain : IsDateTime s → (IsLoose s ↔ IsPlain s) := by
    rintro ⟨d, hd, hs⟩
    constructor
    · exact fun hl => ⟨d, hd, (isLoose_iff_isPlain hd hs).mp hl, hs⟩
    · rintro ⟨d', hd', hp, hs'⟩
      exact (isLoose_iff_isPlain hd' hs').mpr hp
  constructor
  · rintro ⟨hrefuse, haccept⟩
    have hvalid : IsCutShort s ∨ IsLoose s → IsDateTime s := by
      intro hs
      by_contra hnot
      exact (hrefuse (hread hs) hnot).2 hs
    refine ⟨fun hs => ?_, fun hl => hvalid (Or.inr hl),
      fun hcut => (hdate (hvalid (Or.inl hcut))).2 hcut⟩
    have hl : IsCutShort s ∨ IsLoose s := by
      by_contra hl
      exact haccept hs ⟨(hdate hs).1, hl⟩
    exact (hplain hs).mp (hl.resolve_left (hdate hs).2)
  · rintro ⟨hp, hd, hcut⟩
    exact ⟨fun hnil hs => ⟨hnil, not_or.mpr ⟨hcut, fun hl => hs (hd hl)⟩⟩,
      fun hs hrefuse => hrefuse.2 (Or.inr ((hplain hs).mpr (hp hs)))⟩

/-- A request that mutes until a time, as a text. -/
def putUntil (s : String) : Request :=
  requestBy (str "alice") .put (str "/notifications")
    (str ("\x7b\"mutedUntil\":\"" ++ s ++ "\"\x7d"))

/-- There is no 30 February. -/
lemma not_isDateTime_february : ¬ IsDateTime (str "2024-02-30T12:00:05Z and more") := by
  rintro ⟨d, hd, hs⟩
  obtain ⟨t, x, rest, hs, hx, hall, -⟩ := exists_readsAll_of_spells hd hs
  have htm : getTime timestampFormat (str "2024-02-30T12:00:05Z and more") =
      some ⟨124, 1, 30, 12, 0, 5⟩ := by decide
  rw [hs] at htm
  have htm' := Option.some.inj ((getTime_literal hall hx rest 0x5A).1.symm.trans htm)
  have hdate : d.date = ⟨2024, 2, 30⟩ := by
    obtain ⟨⟨year, month, day⟩, hour, minute, second, fraction, offset⟩ := d
    simp only [tmOf, Tm.mk.injEq] at htm'
    obtain ⟨hyear, hmonth, rfl, -⟩ := htm'
    obtain rfl : year = 2024 := by omega
    obtain rfl : month = 2 := by omega
    rfl
  have hvalid := hd.date
  rw [hdate] at hvalid
  exact absurd hvalid (by decide)

/-- A year and nothing more. -/
lemma isCutShort_year : IsCutShort (str "2024") := by
  have hyear : IsNumber 4 0 9999 (str "2024") 2024 :=
    isNumber_of_numeral (by decide) (by decide) (by decide)
  exact ⟨[], str "2024", _, rfl, by simp, .last rfl (.number rfl hyear)⟩

/-- A text with an offset. -/
lemma isDateTime_offset : IsDateTime (str "2024-01-01T00:00:00+02:00") := by
  refine ⟨⟨⟨2024, 1, 1⟩, 0, 0, 0, [], some (2 * 60 + 0)⟩,
    ⟨by decide, by decide, by decide, Or.inl (by decide)⟩, ?_⟩
  have htime : SpellsTime ⟨⟨2024, 1, 1⟩, 0, 0, 0, [], some (2 * 60 + 0)⟩
      (str "2024-01-01T00:00:00") :=
    @SpellsTime.mk _ (str "2024") (str "01") (str "01") (str "00") (str "00") (str "00") 2024 1 1
      0x54 (by decide) (by decide) (by decide) rfl (Or.inl rfl) (by decide) (by decide) (by decide)
  exact SpellsDateTime.mk htime .absent
    (@SpellsOffset.ahead (str "02") (str "00") 2 0 (by decide) (by decide) (by decide) (by decide))

/-- A body with a text. -/
lemma putUntil_putsUntil (s : String) (hbody : bodyJson (Env.standalone .migrations) (putUntil s) =
      some (.object [(str "mutedUntil", .string (str s))])) :
    PutsUntil (Env.standalone .migrations) (putUntil s) none false (str s) where
  puts := ⟨rfl, Or.inl ⟨rfl, rfl⟩⟩
  user := (by decide : str "alice" ≠ [])
  body := ⟨_, hbody, rfl, rfl⟩

lemma standalone_otherTexts : (Env.standalone .migrations).OtherTexts where
  fault := by simp [Env.standalone, Tape.quiet]
  refusal := fun _ => (by decide : str "ERROR: statement refused" ≠ _)

/-- For a date that there is not the law does not hold. -/
theorem rfc3339_accepted_iff_february : ¬
    ((str "2024-02-30T12:00:05Z and more" ≠ [] →
        ¬ IsDateTime (str "2024-02-30T12:00:05Z and more") →
        RefusesUntil (Env.standalone .migrations) ⟨Store.empty, (), 0, 0, []⟩
          (putUntil "2024-02-30T12:00:05Z and more")) ∧
      (IsDateTime (str "2024-02-30T12:00:05Z and more") →
        ¬ RefusesUntil (Env.standalone .migrations) ⟨Store.empty, (), 0, 0, []⟩
          (putUntil "2024-02-30T12:00:05Z and more"))) := by
  rw [rfc3339_accepted_iff standalone_otherTexts _ (putUntil_putsUntil _ rfl)]
  rintro ⟨-, hloose, hcut⟩
  have hread := getTime_isSome_iff.mp (by decide :
    (getTime rfc3339Format (str "2024-02-30T12:00:05Z and more")).isSome = true)
  exact not_isDateTime_february (hloose (hread.resolve_left hcut))

/-- Two texts that are not of the format are not refused, and one of the format is. -/
theorem rfc3339_misjudged :
    (¬ IsDateTime (str "2024-02-30T12:00:05Z and more") ∧
      ¬ RefusesUntil (Env.standalone .migrations) ⟨Store.empty, (), 0, 0, []⟩
        (putUntil "2024-02-30T12:00:05Z and more")) ∧
    (¬ IsDateTime (str "2024") ∧
      ¬ RefusesUntil (Env.standalone .migrations) ⟨Store.empty, (), 0, 0, []⟩
        (putUntil "2024")) ∧
    IsDateTime (str "2024-01-01T00:00:00+02:00") ∧
      RefusesUntil (Env.standalone .migrations) ⟨Store.empty, (), 0, 0, []⟩
        (putUntil "2024-01-01T00:00:00+02:00") := by
  refine ⟨⟨not_isDateTime_february, ?_⟩, ⟨?_, ?_⟩, isDateTime_offset, ?_⟩
  · rw [refusesUntil_iff standalone_otherTexts _ (putUntil_putsUntil _ rfl)]
    decide
  · rintro ⟨d, hd, hs⟩
    exact not_isCutShort hd hs isCutShort_year
  · rw [refusesUntil_iff standalone_otherTexts _ (putUntil_putsUntil _ rfl)]
    decide
  · rw [refusesUntil_iff standalone_otherTexts _ (putUntil_putsUntil _ rfl)]
    decide

end Errors

/-! ## The time that is written -/

section Bound

variable {env : Env σ} {request : Request} {chatID : Option Bytes} {muted : Bool}

/-- The parameters of the statement of `Upsert`. -/
def upsertParams (settings : NotificationSettings) : List DbValue :=
  [.string settings.userID, .string (settings.chatID.getD []), .bool settings.muted] ++
    (settings.mutedUntil.map fun mutedUntil =>
      DbValue.string (strftime (gmtime (TimePoint.toSeconds mutedUntil)))).toList

lemma upsert_eq_executeModify {settings : NotificationSettings} {t : TimePoint}
    (h : settings.mutedUntil = some t) :
    (NotificationRepository.upsert settings : Svc σ Unit) =
      executeModify .upsertNotificationsUntil (upsertParams settings) := by
  simp only [NotificationRepository.upsert, upsertParams, h]
  rfl

/-- The parameters for a time that was read. -/
def untilParams (env : Env σ) (request : Request) (chatID : Option Bytes) (muted : Bool)
    (tm : Tm) : List DbValue :=
  upsertParams (putSettingsOf request chatID muted (some (fromTimeT (env.mktime tm))))

/-- A `PUT` with a printed time runs one statement. -/
lemma serve_putsUntil_putTime {tm : Tm} (hprint : tm.IsPrintable)
    (h : PutsUntil env request chatID muted (putTime rfc3339Format tm)) :
    ∃ id : HandlerId, ∀ w : World σ, serve env w request = (do
      enter id
      tryCatch
        (do
          executeModify .upsertNotificationsUntil (untilParams env request chatID muted tm)
          pure (jsonResponse 204 request.version []))
        fun e => pure (errorResponse 400 request.version e.what) : Svc σ Response).run env w := by
  have hread := getTime_putTime hprint
  have huntil : untilOf env (putTime rfc3339Format tm) =
      some (some (fromTimeT (env.mktime tm))) := by
    have hne : putTime rfc3339Format tm ≠ [] := by
      intro hnil
      rw [hnil] at hread
      exact absurd hread (by simp [getTime])
    rw [untilOf, if_neg hne, hread]
    rfl
  obtain ⟨id, hserve⟩ := serve_putsUntil h
  refine ⟨id, fun w => ?_⟩
  rw [hserve, huntil, finishPut, upsert_eq_executeModify rfl]
  rfl

/-- The fourth parameter has the digits of the time exactly if the local time is in the second
that it is in UTC. -/
lemma untilParams_iff {tm : Tm} (hprint : tm.IsPrintable) :
    (untilParams env request chatID muted tm)[3]? = some (.string (strftime tm)) ↔
      IsInSecond (env.mktime tm) (timegm tm) := by
  have hfourth : (untilParams env request chatID muted tm)[3]? =
    some (.string (strftime (gmtime (TimePoint.toSeconds (fromTimeT (env.mktime tm)))))) := rfl
  rw [hfourth, ← gmtime_toSeconds_eq_iff hprint.toIsValid]
  constructor
  · intro h
    exact strftime_injective (isPrintable_toSeconds _) hprint
      (DbValue.string.inj (Option.some.inj h))
  · intro h
    rw [h]

/-- A `PUT` with a time of the years 1970 to 9999 in the form `YYYY-MM-DDThh:mm:ssZ` runs one
statement.  Its fourth parameter has the same digits exactly if the local time is in the second
that it is in UTC; where local time and UTC are at most `10 ^ 10` seconds apart, if they agree and
the nanoseconds fit into 64 bits. -/
theorem until_bound_iff {tm : Tm} (hvalid : tm.IsValid) (hyear : 1970 ≤ tm.year + 1900)
    (hyear' : tm.year + 1900 ≤ 9999)
    (h : PutsUntil env request chatID muted (putTime rfc3339Format tm)) :
    (∃ id : HandlerId, ∀ w : World σ, serve env w request = (do
      enter id
      tryCatch
        (do
          executeModify .upsertNotificationsUntil (untilParams env request chatID muted tm)
          pure (jsonResponse 204 request.version []))
        fun e => pure (errorResponse 400 request.version e.what) : Svc σ Response).run env w) ∧
    ((untilParams env request chatID muted tm)[3]? = some (.string (strftime tm)) ↔
      IsInSecond (env.mktime tm) (timegm tm)) ∧
    (timegm tm - 10000000000 ≤ env.mktime tm → env.mktime tm ≤ timegm tm + 10000000000 →
      ((untilParams env request chatID muted tm)[3]? = some (.string (strftime tm)) ↔
        env.mktime tm = timegm tm ∧ timegm tm ≤ 9223372036)) := by
  have hprint : tm.IsPrintable := ⟨hvalid, by omega, hyear'⟩
  refine ⟨serve_putsUntil_putTime hprint h, untilParams_iff hprint, fun hlow hhigh => ?_⟩
  rw [untilParams_iff hprint, isInSecond_iff_of_near (timegm_nonneg hvalid hyear) hlow hhigh]

/-- Noon on a leap day. -/
def leapDay : Tm := ⟨124, 1, 29, 12, 0, 0⟩

/-- A request that mutes until then. -/
def putLeapDay : Request :=
  requestBy (str "alice") .put (str "/notifications")
    (str "\x7b\"muted\":true,\"mutedUntil\":\"2024-02-29T12:00:00Z\"\x7d")

lemma putLeapDay_putsUntil {env : Env Unit} (hjson : env.json = (Env.standalone .migrations).json) :
    PutsUntil env putLeapDay none true (putTime rfc3339Format leapDay) where
  puts := ⟨rfl, Or.inl ⟨rfl, rfl⟩⟩
  user := by decide
  body := by
    have htext : putTime rfc3339Format leapDay = str "2024-02-29T12:00:00Z" := by decide
    rw [bodyJson, hjson, htext]
    exact ⟨_, rfl, rfl, rfl⟩

/-- In UTC the digits are the same. -/
theorem until_bound_iff_utc :
    (untilParams (Env.standalone .migrations) putLeapDay none true leapDay)[3]? =
      some (.string (str "2024-02-29 12:00:00")) := by
  have htext : strftime leapDay = str "2024-02-29 12:00:00" := by decide
  rw [← htext]
  refine ((until_bound_iff ⟨by decide, by decide, by decide, by decide⟩ (by decide) (by decide)
    (putLeapDay_putsUntil rfl)).2.2 (by decide) (by decide)).mpr ⟨rfl, by decide⟩

/-- East of Greenwich they are not. -/
theorem until_bound_early :
    (∃ id : HandlerId, ∀ w : World Unit,
      serve { Env.standalone .migrations with mktime := mktimeEast } w putLeapDay = (do
        enter id
        tryCatch
          (do
            executeModify .upsertNotificationsUntil
              (untilParams { Env.standalone .migrations with mktime := mktimeEast } putLeapDay none
                true leapDay)
            pure (jsonResponse 204 putLeapDay.version []))
          fun e => pure (errorResponse 400 putLeapDay.version e.what) : Svc Unit Response).run
        { Env.standalone .migrations with mktime := mktimeEast } w) ∧
    (untilParams { Env.standalone .migrations with mktime := mktimeEast } putLeapDay none true
      leapDay)[3]? = some (.string (str "2024-02-29 09:00:00")) ∧
    strftime leapDay = str "2024-02-29 12:00:00" := by
  have hprint : leapDay.IsPrintable :=
    ⟨⟨by decide, by decide, by decide, by decide⟩, by decide, by decide⟩
  exact ⟨serve_putsUntil_putTime hprint (putLeapDay_putsUntil rfl), by decide, by decide⟩

end Bound

end ProfileService
