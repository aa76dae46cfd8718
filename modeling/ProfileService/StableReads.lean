/-
# Times in the answers

The mappers do not read the columns `created_at` and `updated_at`: they read the clock.  Two
reads of the same tables give the same answer, with the times that are stored, exactly if every
reading of the clock falls into the second of the column that it stands for.
-/
import ProfileService.Listings
import ProfileService.Reachable
import ProfileService.Standalone

namespace ProfileService

open Bytes (str)

variable {σ : Type}

/-! ## Times that are stored and times that are shown -/

/-- The Unix time of a column, in seconds. -/
def unixSeconds (t : ℤ) : ℤ := t.fdiv 1000000

lemma unixSeconds_mono {t t' : ℤ} (h : t ≤ t') : unixSeconds t ≤ unixSeconds t' := by
  rw [unixSeconds, unixSeconds, Int.fdiv_eq_ediv_of_nonneg _ (by decide),
    Int.fdiv_eq_ediv_of_nonneg _ (by decide)]
  exact Int.ediv_le_ediv (by decide) h

/-- The seconds of the readings of the clock that come next. -/
def clockSeconds (env : Env σ) (w : World σ) (n : ℕ) : List ℤ :=
  (clockReadings env w n).map TimePoint.toSeconds

/-- A member of an object that is a time. -/
def timeMember (key : String) (j : Json) : Option ℤ :=
  match j.member? (str key) with
  | some (.integer t) => some t
  | _ => none

/-- The times in an answer, those of a list from its items. -/
def shownTimes : Json → List (Option ℤ)
  | .array items => items.map (timeMember "created_at")
  | j => [timeMember "created_at" j, timeMember "updated_at" j]

/-- A request that reads times from the tables, and the times in the order it reads them in;
`none` when there is nothing to be read. -/
inductive ReadsTimes (env : Env σ) (st : Store) (read : Request) : Option (List ℤ) → Prop
  | profile (u : Bytes) (h : ReadsProfile u read) :
      ReadsTimes env st read
        (((env.db.idKey u).bind st.profile).map fun r => [r.createdAt, r.updatedAt])
  | contacts (hm : read.method = .get) (ht : read.target = str "/contacts")
      (hu : extractUserID read ≠ []) :
      ReadsTimes env st read ((env.db.idKey (extractUserID read)).map fun k =>
        (st.contactsOf k).map ContactRow.createdAt)
  | favorites (hm : read.method = .get) (ht : read.target = str "/favorites")
      (hu : extractUserID read ≠ []) :
      ReadsTimes env st read ((env.db.idKey (extractUserID read)).map fun k =>
        (st.favoritesOf k).map FavoriteRow.createdAt)
  | unauthorized (hm : read.method = .get) (hu : extractUserID read = []) :
      ReadsTimes env st read none

/-- Two reads are stable: they give the same answer, with the stored times, and lists show their
times in descending order. -/
structure StableRead (env : Env σ) (w w' : World σ) (read : Request)
    (times : Option (List ℤ)) : Prop where
  same : (serve env w read).1 = (serve env w' read).1
  stored : ∀ x ∈ [w, w'], ∀ j, Shows env x read j →
    ∃ ts, times = some ts ∧ shownTimes j = ts.map fun t => some (unixSeconds t)
  descending : ∀ x ∈ [w, w'], ∀ js, Shows env x read (.array js) →
    (js.filterMap (timeMember "created_at")).Pairwise (· ≥ ·)

/-! ## Lists made of rows and readings -/

section Zip

variable {α β γ δ : Type}

lemma zipWith_right {f : β → γ} {l : List α} {l' : List β} (h : l.length = l'.length) :
    l.zipWith (fun _ b => f b) l' = l'.map f := by
  induction l generalizing l' with
  | nil => rw [List.length_eq_zero_iff.mp h.symm, List.zipWith_nil_right, List.map_nil]
  | cons a l ih =>
    cases l' with
    | nil => exact absurd h (by simp)
    | cons b l' => rw [List.zipWith_cons_cons, List.map_cons, ih (Nat.succ.inj h)]

lemma zipWith_congr_map {f : α → β → γ} {g : β → δ}
    (hf : ∀ a b b', g b = g b' → f a b = f a b') (l : List α) {l₁ l₂ : List β}
    (h : l₁.map g = l₂.map g) : l.zipWith f l₁ = l.zipWith f l₂ := by
  induction l generalizing l₁ l₂ with
  | nil => rfl
  | cons a l ih =>
    cases l₁ with
    | nil => rw [List.map_eq_nil_iff.mp h.symm]
    | cons b l₁ =>
      obtain ⟨b', l₂', rfl, hb, hl⟩ := List.map_eq_cons_iff.mp h.symm
      rw [List.zipWith_cons_cons, List.zipWith_cons_cons, hf a b b' hb.symm, ih hl.symm]

end Zip

/-! ## The answers -/

section Answers

variable {env : Env σ} {st : Store} {read : Request} {times : Option (List ℤ)}

/-- A list whose statement does not return rows gives the answer of its handler. -/
lemma list_failed {id : HandlerId} {τ : Type} {list : Svc σ (List τ)} {json : τ → Json}
    {failed : Response} {w w' : World σ} {err : Exn}
    (hserve : serve env w read = (do
      enter id
      tryCatch (do
        let items ← list
        dumpResponse 200 read (.array (items.map json)))
        fun _ => pure failed : Svc σ Response).run env w)
    (hlist : list.run env (w.entering id) = (.error err, w')) :
    (serve env w read).1 = .ok failed :=
  congrArg Prod.fst (hserve.trans
    (Prog.run_tryCatch_error (s := w.entering id) (Prog.run_bind_error hlist)))

/-- A read that finds nothing or whose statement fails gives one answer, without a time. -/
lemma ReadsTimes.failed (h : ReadsTimes env st read times) :
    ∃ failed : Response, failed.status ≠ 200 ∧ ∀ w : World σ, w.store = st →
      (env.fault w.statements = none → times = none) → (serve env w read).1 = .ok failed := by
  cases h with
  | profile u h =>
    refine ⟨errorResponse 404 read.version (str "profile not found"), by simp, ?_⟩
    rintro w rfl hnone
    refine getProfile_missing h fun hfault k hk => ?_
    simpa [hk] using hnone hfault
  | contacts hm ht hu =>
    have hid : read.method = HandlerId.getContacts.method := hm
    refine ⟨errorResponse 404 read.version (str "contacts not found"), by simp, ?_⟩
    rintro w rfl hnone
    obtain ⟨err, hrun⟩ := run_executeSelect_unread (w := w.entering .getContacts) .listContacts
      [.string (extractUserID read)] rfl fun hfault => Option.bind_eq_none_iff.mpr fun k hk =>
        absurd (hk.symm.trans (Option.map_eq_none_iff.mp (hnone hfault))) (by simp)
    exact list_failed (serve_eq_body hid ht (Or.inr hu)) (Prog.run_bind_error hrun)
  | favorites hm ht hu =>
    have hid : read.method = HandlerId.getFavorites.method := hm
    refine ⟨errorResponse 500 read.version (str "failed to get favorites"), by simp, ?_⟩
    rintro w rfl hnone
    obtain ⟨err, hrun⟩ := run_executeSelect_unread (w := w.entering .getFavorites) .listFavorites
      [.string (extractUserID read)] rfl fun hfault => Option.bind_eq_none_iff.mpr fun k hk =>
        absurd (hk.symm.trans (Option.map_eq_none_iff.mp (hnone hfault))) (by simp)
    exact list_failed (serve_eq_body hid ht (Or.inr hu)) (Prog.run_bind_error hrun)
  | unauthorized hm hu =>
    rcases serve_cases env read with ⟨response, hidle, hserve⟩ | ⟨id, hid, -, huser, -⟩
    · refine ⟨response, fun h200 => ?_, fun w _ _ => congrArg Prod.fst (hserve w)⟩
      rcases hidle with h | h
      · omega
      · exact absurd (hm.symm.trans h) (by decide)
    · -- only `POST /internal/profiles` is served without a user
      obtain rfl := huser.resolve_right (not_not_intro hu)
      exact absurd (hm.symm.trans hid) (by decide)

/-- How a read is answered that finds rows with these times. -/
structure ShowsTimes (env : Env σ) (st : Store) (read : Request) (ts : List ℤ)
    (shown : World σ → Json) : Prop where
  answer : ∀ w : World σ, w.store = st → env.fault w.statements = none →
    ∃ text, env.json.dump (shown w) = .ok text ∧
      (serve env w read).1 = .ok (jsonResponse 200 read.version text)
  utf8 : ∀ w, (shown w).Utf8
  sorted : ∀ w, (shown w).Sorted
  seconds : ∀ w, shownTimes (shown w) = (clockSeconds env w ts.length).map some
  same : ∀ w w', clockSeconds env w ts.length = clockSeconds env w' ts.length →
    shown w = shown w'
  descending : ∀ w js, shown w = .array js → ts.Pairwise (· ≥ ·)

/-- A list is answered with what is made of its rows and the readings of the clock. -/
lemma showsTimes_list {ρ τ : Type} (make : ρ → TimePoint → τ) {rows : List ρ} {json : τ → Json}
    {time : ρ → ℤ} {id : HandlerId} {list : Svc σ (List τ)} {answer : Exn → Svc σ Response}
    (hserve : ∀ w, serve env w read = (do
      enter id
      tryCatch (do
        let items ← list
        dumpResponse 200 read (.array (items.map json))) answer : Svc σ Response).run env w)
    (hlist : ∀ w : World σ, w.store = st → env.fault w.statements = none → ∃ w',
      list.run env w = (.ok (rows.zipWith make (clockReadings env w rows.length)), w'))
    (hutf8 : ∀ r ∈ rows, ∀ t, (json (make r t)).Utf8) (hsorted : ∀ item, (json item).Sorted)
    (htime : ∀ r t, timeMember "created_at" (json (make r t)) = some (TimePoint.toSeconds t))
    (hsame : ∀ r t t', TimePoint.toSeconds t = TimePoint.toSeconds t' →
      json (make r t) = json (make r t'))
    (hrows : (rows.map time).Pairwise (· ≥ ·)) :
    ShowsTimes env st read (rows.map time) fun w =>
      .array ((rows.zipWith make (clockReadings env w rows.length)).map json) := by
  have hutf8' : ∀ w : World σ,
      (Json.array ((rows.zipWith make (clockReadings env w rows.length)).map json)).Utf8 := by
    intro w
    have hmade : List.Forall₂ (fun r item => ∃ t, item = make r t) rows
        (rows.zipWith make (clockReadings env w rows.length)) :=
      forall₂_zipWith (fun r t => ⟨t, rfl⟩) (clockReadings_length _ _ _).symm
    rw [Json.Utf8, Json.utf8Items_iff, List.forall_mem_map]
    refine forall_of_forall₂ hmade fun r hr item hitem => ?_
    obtain ⟨t, rfl⟩ := hitem
    exact hutf8 r hr t
  refine ⟨fun w hw hfault => ?_, hutf8', fun w => ?_, fun w => ?_, fun w w' h => ?_,
    fun _ _ _ => hrows⟩
  · obtain ⟨w', hrun⟩ := hlist (w.entering id) hw hfault
    obtain ⟨text, htext, hanswer⟩ :=
      answer_of_run (hserve w) (Prog.run_bind_ok hrun) (hutf8' (w.entering id))
    exact ⟨text, htext, congrArg Prod.fst hanswer⟩
  · rw [Json.Sorted, Json.sortedItems_iff, List.forall_mem_map]
    exact fun item _ => hsorted item
  · have hmembers : ∀ r t, timeMember "created_at" (json (make r t)) =
        (some ∘ TimePoint.toSeconds) t := htime
    rw [shownTimes, List.map_map, List.map_zipWith]
    simp only [Function.comp_apply, hmembers]
    rw [zipWith_right (clockReadings_length _ _ _).symm, List.length_map, clockSeconds,
      List.map_map]
    rfl
  · rw [List.length_map] at h
    rw [List.map_zipWith, List.map_zipWith, zipWith_congr_map hsame rows h]

/-- A profile is answered with two readings of the clock. -/
lemma showsTimes_profile (hv : st.Valid env.db.schema) {u k : Bytes} {r : ProfileRow}
    (h : ReadsProfile u read) (hk : env.db.idKey u = some k) (hr : st.profile k = some r) :
    ShowsTimes env st read [r.createdAt, r.updatedAt] fun w =>
      ProfileHandler.profileJson (r.read env w) := by
  refine ⟨?_, profileJson_utf8 hv (Store.profile_mem hr).1 env,
    fun w => Json.ofMembers_sorted (by simp), fun w => ?_, fun w w' heq => ?_, fun w js hjs => ?_⟩
  · rintro w rfl hfault
    exact getProfile_answer hfault hv h hk hr
  · have hmember : ∀ key : String,
        (ProfileHandler.profileJson (r.read env w)).member? (str key) = _ :=
      fun key => by rw [ProfileHandler.profileJson, Json.member?_ofMembers]
    show [timeMember "created_at" _, timeMember "updated_at" _] = _
    rw [timeMember, timeMember, hmember, hmember]
    rfl
  · -- only the seconds of the two readings are shown
    have hseconds : TimePoint.toSeconds (env.clock w.readings) =
        TimePoint.toSeconds (env.clock w'.readings) ∧
        TimePoint.toSeconds (env.clock (w.readings + 1)) =
          TimePoint.toSeconds (env.clock (w'.readings + 1)) := by
      simpa [clockSeconds, clockReadings, List.range_succ] using heq
    simp only [ProfileHandler.profileJson, ProfileRow.read, hseconds]
  · exact absurd hjs (by simp [ProfileHandler.profileJson, Json.ofMembers])

/-- A read that finds rows is answered with their times as the clock has them. -/
lemma ReadsTimes.shows (hv : st.Valid env.db.schema) {ts : List ℤ}
    (h : ReadsTimes env st read (some ts)) : ∃ shown, ShowsTimes env st read ts shown := by
  generalize htimes : some ts = times at h
  cases h with
  | profile u h =>
    obtain ⟨r, hr, rfl⟩ := Option.map_eq_some_iff.mp htimes.symm
    obtain ⟨k, hk, hr⟩ := Option.bind_eq_some_iff.mp hr
    exact ⟨_, showsTimes_profile hv h hk hr⟩
  | contacts hm ht hu =>
    obtain ⟨k, hk, rfl⟩ := Option.map_eq_some_iff.mp htimes.symm
    have hid : read.method = HandlerId.getContacts.method := hm
    refine ⟨_, showsTimes_list ContactRow.read (fun w => serve_eq_body hid ht (Or.inr hu))
      ?_ ?_ ?_ ?_ ?_ (Table.orderByDesc_times _ _)⟩
    · rintro w rfl hfault
      exact ⟨_, run_listContacts hfault hk⟩
    · exact fun r hr t => contactJson_utf8 hv (Store.contactsOf_mem hr).1 (r.read_isOf t)
    · exact fun contact => Json.ofMembers_sorted (by simp)
    · intro r t
      rw [timeMember, ContactsHandler.contactJson, Json.member?_ofMembers]
      rfl
    · intro r t t' h
      rw [ContactsHandler.contactJson, ContactsHandler.contactJson]
      simp only [ContactRow.read, h]
  | favorites hm ht hu =>
    obtain ⟨k, hk, rfl⟩ := Option.map_eq_some_iff.mp htimes.symm
    have hid : read.method = HandlerId.getFavorites.method := hm
    refine ⟨_, showsTimes_list FavoriteRow.read (fun w => serve_eq_body hid ht (Or.inr hu))
      ?_ ?_ ?_ ?_ ?_ (Table.orderByDesc_times _ _)⟩
    · rintro w rfl hfault
      exact ⟨_, run_listFavorites hfault hk⟩
    · exact fun r hr t => favoriteJson_utf8 hv (Store.favoritesOf_mem hr).1 (r.read_isOf t)
    · exact fun fav => Json.ofMembers_sorted (by simp)
    · intro r t
      rw [timeMember, FavoritesHandler.favoriteJson, Json.member?_ofMembers]
      rfl
    · intro r t t' h
      rw [FavoritesHandler.favoriteJson, FavoritesHandler.favoriteJson]
      simp only [FavoriteRow.read, h]
  | unauthorized hm hu => exact absurd htimes (by simp)

lemma ShowsTimes.shows_eq {ts : List ℤ} {shown : World σ → Json}
    (h : ShowsTimes env st read ts shown) {w : World σ} (hw : w.store = st)
    (hfault : env.fault w.statements = none) {j : Json} (hj : Shows env w read j) :
    j = shown w := by
  obtain ⟨text, htext, hanswer⟩ := h.answer w hw hfault
  obtain ⟨response, w', hserve, -, hparse⟩ := hj
  rw [hserve] at hanswer
  rw [Except.ok.inj hanswer] at hparse
  exact Except.ok.inj (hparse.symm.trans (env.json.parse_dump (h.utf8 w) (h.sorted w) htext))

lemma ShowsTimes.shows {ts : List ℤ} {shown : World σ → Json}
    (h : ShowsTimes env st read ts shown) {w : World σ} (hw : w.store = st)
    (hfault : env.fault w.statements = none) : Shows env w read (shown w) := by
  obtain ⟨text, htext, hanswer⟩ := h.answer w hw hfault
  exact ⟨_, _, Prod.ext hanswer rfl, rfl,
    env.json.parse_dump (h.utf8 w) (h.sorted w) htext⟩

end Answers

/-! ## Two reads -/

section Stable

variable {env : Env σ} {w w' : World σ} {read : Request} {times : Option (List ℤ)}

/-- Times that are shown in a list as they are stored in descending order. -/
lemma descending_of_stored {ts : List ℤ} (hts : ts.Pairwise (· ≥ ·)) {js : List Json}
    (h : shownTimes (.array js) = ts.map fun t => some (unixSeconds t)) :
    (js.filterMap (timeMember "created_at")).Pairwise (· ≥ ·) := by
  have hjs : js.filterMap (timeMember "created_at") = ts.map unixSeconds :=
    calc js.filterMap (timeMember "created_at")
        = (js.map (timeMember "created_at")).filterMap id := by
          rw [List.filterMap_map, Function.id_comp]
      _ = (ts.map fun t => some (unixSeconds t)).filterMap id := congrArg _ h
      _ = ts.filterMap (some ∘ unixSeconds) := List.filterMap_map
      _ = ts.map unixSeconds := congrFun List.filterMap_eq_map ts
  rw [hjs, List.pairwise_map]
  exact hts.imp unixSeconds_mono

/-- An answer that is not a 200 shows nothing. -/
lemma not_shows_of_failed {failed : Response} (hstatus : failed.status ≠ 200)
    (h : (serve env w read).1 = .ok failed) (j : Json) : ¬ Shows env w read j := by
  rintro ⟨response, w₁, hserve, h200, -⟩
  rw [hserve] at h
  exact hstatus (Except.ok.inj h ▸ h200)

/-- Two reads that fail are stable. -/
lemma stableRead_of_failed {failed : Response} (hstatus : failed.status ≠ 200)
    (h : (serve env w read).1 = .ok failed) (h' : (serve env w' read).1 = .ok failed) :
    StableRead env w w' read times := by
  have hnone : ∀ x ∈ [w, w'], ∀ j, ¬ Shows env x read j := by
    simp only [List.forall_mem_cons]
    exact ⟨not_shows_of_failed hstatus h, not_shows_of_failed hstatus h', by simp⟩
  exact ⟨h.trans h'.symm, fun x hx j hj => absurd hj (hnone x hx j),
    fun x hx js hj => absurd hj (hnone x hx _)⟩

variable {st : Store} {ts : List ℤ} {shown : World σ → Json}

/-- The times in the answer are the stored ones exactly if the clock has them. -/
lemma ShowsTimes.stored_iff (h : ShowsTimes env st read ts shown) (w : World σ) :
    (shownTimes (shown w) = ts.map fun t => some (unixSeconds t)) ↔
      clockSeconds env w ts.length = ts.map unixSeconds := by
  have hmap : (ts.map fun t => some (unixSeconds t)) = (ts.map unixSeconds).map some := by
    rw [List.map_map]
    rfl
  rw [h.seconds, hmap]
  exact (List.map_injective_iff.mpr (Option.some_injective ℤ)).eq_iff

/-- Two reads whose readings are the stored times are stable. -/
lemma ShowsTimes.stableRead (h : ShowsTimes env st read ts shown)
    (hup : ∀ x ∈ [w, w'], x.store = st ∧ env.fault x.statements = none ∧
      clockSeconds env x ts.length = ts.map unixSeconds) :
    StableRead env w w' read (some ts) := by
  have hstored : ∀ x ∈ [w, w'], ∀ j, Shows env x read j →
      j = shown x ∧ shownTimes j = ts.map fun t => some (unixSeconds t) := by
    intro x hx j hj
    obtain ⟨hstore, hfault, hseconds⟩ := hup x hx
    obtain rfl := h.shows_eq hstore hfault hj
    exact ⟨rfl, (h.stored_iff x).mpr hseconds⟩
  refine ⟨?_, fun x hx j hj => ⟨ts, rfl, (hstored x hx j hj).2⟩, fun x hx js hj => ?_⟩
  · obtain ⟨⟨hstore, hfault, hseconds⟩, ⟨hstore', hfault', hseconds'⟩, -⟩ :=
      List.forall_mem_cons.mp hup |>.imp_right List.forall_mem_cons.mp
    obtain ⟨text, htext, hanswer⟩ := h.answer w hstore hfault
    obtain ⟨text', htext', hanswer'⟩ := h.answer w' hstore' hfault'
    rw [h.same w w' (hseconds.trans hseconds'.symm)] at htext
    rw [hanswer, hanswer', Except.ok.inj (htext.symm.trans htext')]
  · obtain ⟨heq, htimes⟩ := hstored x hx _ hj
    exact descending_of_stored (h.descending x js heq.symm) htimes

end Stable

/-- Two reads of the same tables are stable exactly if there is nothing to be read, or the
database fails both times, or it fails neither time and every reading of the clock that is
taken for a column falls into the second that is stored there. -/
theorem stableReads_iff (env : Env σ) (w w' : World σ) (hstore : w'.store = w.store)
    (hv : w.store.Valid env.db.schema) (read : Request) (times : Option (List ℤ))
    (h : ReadsTimes env w.store read times) :
    StableRead env w w' read times ↔ ∀ ts, times = some ts →
      (env.fault w.statements = none ↔ env.fault w'.statements = none) ∧
      (env.fault w.statements = none →
        clockSeconds env w ts.length = ts.map unixSeconds ∧
        clockSeconds env w' ts.length = ts.map unixSeconds) := by
  obtain ⟨failed, hstatus, hfailed⟩ := h.failed
  rcases times with _ | ts
  · exact ⟨fun _ ts hts => absurd hts (by simp), fun _ => stableRead_of_failed hstatus
      (hfailed w rfl fun _ => rfl) (hfailed w' hstore fun _ => rfl)⟩
  obtain ⟨shown, hshown⟩ := h.shows hv
  constructor
  · rintro ⟨hsame, hstored, -⟩ ts' hts'
    obtain rfl := Option.some.inj hts'
    -- when one of the two statements fails the answers differ
    have hup : ∀ x x' : World σ, x.store = w.store → x'.store = w.store →
        (serve env x read).1 = (serve env x' read).1 → env.fault x.statements = none →
        env.fault x'.statements = none := by
      intro x x' hx hx' heq hfault
      by_contra hdown
      have hanswer := hfailed x' hx' fun hnone => absurd hnone hdown
      exact not_shows_of_failed hstatus (heq.trans hanswer) _ (hshown.shows hx hfault)
    have hseconds : ∀ x ∈ [w, w'], x.store = w.store → env.fault x.statements = none →
        clockSeconds env x ts.length = ts.map unixSeconds := by
      intro x hx hxstore hfault
      obtain ⟨ts', hts', htimes⟩ := hstored x hx _ (hshown.shows hxstore hfault)
      obtain rfl := Option.some.inj hts'
      exact (hshown.stored_iff x).mp htimes
    refine ⟨⟨hup w w' rfl hstore hsame, hup w' w hstore rfl hsame.symm⟩, fun hfault => ?_⟩
    exact ⟨hseconds w (by simp) rfl hfault,
      hseconds w' (by simp) hstore (hup w w' rfl hstore hsame hfault)⟩
  · intro hcond
    obtain ⟨hfaults, hseconds⟩ := hcond ts rfl
    by_cases hfault : env.fault w.statements = none
    · obtain ⟨hw, hw'⟩ := hseconds hfault
      exact hshown.stableRead (List.forall_mem_cons.mpr ⟨⟨rfl, hfault, hw⟩,
        List.forall_mem_cons.mpr ⟨⟨hstore, hfaults.mp hfault, hw'⟩, by simp⟩⟩)
    · exact stableRead_of_failed hstatus (hfailed w rfl fun hnone => absurd hnone hfault)
        (hfailed w' hstore fun hnone => absurd (hfaults.mpr hnone) hfault)

/-- A deployment whose clock stands still at the time of the first transaction. -/
def stillEnv : Env Unit :=
  { Env.standalone .migrations with clock := fun _ => 0 }

/-- While the clock stands still her profile is read as it is stored. -/
theorem stableReads_iff_still :
    StableRead stillEnv (after stillEnv () aliceRun) (after stillEnv () aliceRun)
      (requestBy (str "alice") .get (str "/me") []) (some [0, 0]) := by
  refine (stableReads_iff stillEnv _ _ rfl (after_valid stillEnv () aliceRun) _ _ ?_).mpr ?_
  · exact ReadsTimes.profile (str "alice") ⟨rfl, by decide, Or.inl ⟨rfl, rfl⟩⟩
  · rintro ts hts
    obtain rfl := Option.some.inj hts
    exact ⟨Iff.rfl, fun _ => ⟨rfl, rfl⟩⟩

/-- The world after a first read of her profile. -/
def aliceRead : World Unit :=
  (serve (Env.standalone .migrations) (after (Env.standalone .migrations) () aliceRun)
    (requestBy (str "alice") .get (str "/me") [])).2

/-- While the clock runs two reads of her profile differ. -/
theorem reads_unstable :
    aliceRead.store = (after (Env.standalone .migrations) () aliceRun).store ∧
      ReadsTimes (Env.standalone .migrations)
        (after (Env.standalone .migrations) () aliceRun).store
        (requestBy (str "alice") .get (str "/me") []) (some [0, 0]) ∧
      ¬ StableRead (Env.standalone .migrations) (after (Env.standalone .migrations) () aliceRun)
        aliceRead (requestBy (str "alice") .get (str "/me") []) (some [0, 0]) := by
  refine ⟨rfl, ReadsTimes.profile (str "alice") ⟨rfl, by decide, Or.inl ⟨rfl, rfl⟩⟩, fun h => ?_⟩
  have hbody := congrArg (fun answer => answer.toOption.map Response.body) h.same
  exact absurd hbody (by decide)

end ProfileService
