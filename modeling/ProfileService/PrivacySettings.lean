/-
# The values of the privacy settings

`docker/init.sql` gives the three visibilities a type with three labels, and then no row and no
answer has another value.  `migrations/001_init.sql` gives them a text type, and no layer of the
service looks at them: what a PUT carries is stored as it is.  The values are the three labels in
every state of a run exactly when no PUT of the run that is taken carries another string.
-/
import ProfileService.Listings
import ProfileService.Notifications
import ProfileService.Standalone

namespace ProfileService

open Bytes (str)

variable {σ : Type}

/-- All three visibilities are labels of `visibility_type`. -/
def Visibilities.Known (v : Visibilities) : Prop :=
  v.profile ∈ visibilityLabels ∧ v.lastSeen ∈ visibilityLabels ∧ v.avatar ∈ visibilityLabels

instance (v : Visibilities) : Decidable v.Known := inferInstanceAs (Decidable (_ ∧ _ ∧ _))

/-- The keys of the three visibilities. -/
def visibilityKeys : List String :=
  ["profile_visibility", "last_seen_visibility", "avatar_visibility"]

/-- The request is a `PUT /me/privacy` with a string in its body that is no label. -/
def PutsOther (env : Env σ) (request : Request) : Prop :=
  request.method = .put ∧ request.target = str "/me/privacy" ∧
    ∃ j, bodyJson env request = some j ∧
      ∃ key ∈ visibilityKeys, ∃ s, j.member? (str key) = some (.string s) ∧ s ∉ visibilityLabels

/-- The request is a `PUT /me/privacy` whose statement does not fail by itself, of a user with a
profile and with texts that the columns take. -/
structure TakesPrivacy (env : Env σ) (w : World σ) (request : Request) : Prop where
  method : request.method = .put
  target : request.target = str "/me/privacy"
  user : extractUserID request ≠ []
  up : env.fault w.statements = none
  stored : ∃ user profileVisibility lastSeenVisibility avatarVisibility,
    privacySetEvent env request =
      some (.privacySet user profileVisibility lastSeenVisibility avatarVisibility) ∧
    w.store.HasProfile user

/-- The request is refused and changes no table. -/
def Refused (env : Env σ) (w : World σ) (request : Request) : Prop :=
  ∃ response w', serve env w request = (.ok response, w') ∧ 400 ≤ response.status ∧
    w'.store = w.store

/-! ## The column -/

section Column

variable {env : Env σ} {j : Json} {key : String} {v : Bytes}

/-- The column of either schema takes a label, as it is. -/
lemma stored_label (db : Database) {s : Bytes} (h : s ∈ visibilityLabels) :
    db.stored db.schema.visibilityType s = some s := by
  have hall : ∀ schema : Schema, ∀ s ∈ visibilityLabels, schema.visibilityType.Holds s := by
    intro schema
    cases schema <;> decide
  exact db.stored_of_holds (hall db.schema s h)

/-- A visibility that is stored is a label, if the body has no other string for it. -/
lemma storedVisibility_known (hlabels : ∀ s, j.member? (str key) = some (.string s) →
      s ∈ visibilityLabels) (h : storedVisibility env j key = some v) : v ∈ visibilityLabels := by
  obtain ⟨s, hs, hv⟩ := Option.bind_eq_some_iff.mp h
  suffices hlabel : s ∈ visibilityLabels by
    rwa [← Option.some.inj ((stored_label env.db hlabel).symm.trans hv)]
  have hvalue : value getString j (str key) (str "everyone") = .ok s := by
    cases hget : value getString j (str key) (str "everyone") with
    | error err => simp [hget, Except.toOption] at hs
    | ok s' =>
      rw [hget] at hs
      rw [Option.some.inj hs]
  unfold value at hvalue
  split at hvalue
  · split at hvalue
    · rename_i ms _ member hmember
      cases member with
      | string s' =>
        obtain rfl := Except.ok.inj hvalue
        exact hlabels s' hmember
      | null | bool | integer | float | array | object => exact absurd hvalue (by simp [getString])
    · rw [← Except.ok.inj hvalue]
      decide
  · exact absurd hvalue (by simp)

/-- Under `docker/init.sql` the labels are the only values of the columns. -/
lemma known_of_docker {st : Store} (hv : st.Valid .docker) :
    ∀ r ∈ st.privacySettings, r.visibilities.Known := by
  intro r hr
  obtain ⟨-, hprofile, hlastSeen, havatar⟩ := hv.typed.privacySettings r hr
  exact ⟨hprofile.mem_labels, hlastSeen.mem_labels, havatar.mem_labels⟩

end Column

/-! ## The PUT -/

section Put

variable {env : Env σ} {w : World σ} {request : Request}

/-- The settings of a user are written exactly when the user has a profile. -/
lemma updatePrivacy_constraints {st : Store} (hc : st.Constraints)
    (schema : Schema) (now : ℤ) (rowId : Uuid)
    (user profileVisibility lastSeenVisibility avatarVisibility : Bytes) :
    (Write.apply schema now rowId
      (.updatePrivacy user profileVisibility lastSeenVisibility avatarVisibility)
      st).Constraints ↔ st.HasProfile user := by
  constructor
  · intro h
    obtain ⟨r, hr, hhit⟩ : ∃ r ∈ (Write.apply schema now rowId (.updatePrivacy user
        profileVisibility lastSeenVisibility avatarVisibility) st).privacySettings,
        PrivacyRow.hasUser user r = true := by
      refine Table.exists_hit_insertOrUpdate ?_ ?_ st.privacySettings
      · exact fun _ hr => hr
      · exact beq_self_eq_true user
    have hprofile := h.privacy_user_id_fkey r hr
    rwa [beq_iff_eq.mp hhit] at hprofile
  · intro hprofile
    refine { hc with privacy_pkey := ?_, privacy_user_id_fkey := ?_ }
    · have hids : ∀ t : List PrivacyRow,
          t.map PrivacyRow.userId = t.filterMap fun r => some r.userId := fun t => by simp
      have hnodup := hc.privacy_pkey
      rw [hids] at hnodup ⊢
      refine Table.nodup_insertOrUpdate (fun r _ => rfl) (fun hany r hr x hx => ?_) hnodup
      rw [← Option.some.inj hx]
      intro huser
      -- a row of the user would have been updated
      rw [List.any_eq_false] at hany
      exact hany r hr (beq_iff_eq.mpr (Option.some.inj huser))
    · intro r hr
      rcases Table.mem_insertOrUpdate hr with hr | ⟨r', hr', -, rfl⟩ | rfl
      · exact hc.privacy_user_id_fkey r hr
      · exact hc.privacy_user_id_fkey r' hr'
      · exact hprofile

/-- The settings as they are when the PUT is taken. -/
def World.afterPrivacy (env : Env σ) (w : World σ)
    (user profileVisibility lastSeenVisibility avatarVisibility : Bytes) : World σ :=
  (w.entering .updatePrivacy).afterStatement
    (Write.apply env.db.schema (env.txnTime w.statements) (env.rowId w.statements)
      (.updatePrivacy user profileVisibility lastSeenVisibility avatarVisibility) w.store)

/-- A visibility of the body that is stored was read. -/
lemma visibility_of_stored {j : Json} {key : String} {v : Bytes}
    (h : storedVisibility env j key = some v) :
    ∃ s, (PrivacyHandler.visibility j key).toOption = some s ∧
      env.db.stored env.db.schema.visibilityType s = some v := by
  obtain ⟨s, hs, hv⟩ := Option.bind_eq_some_iff.mp h
  exact ⟨s, hs, hv⟩

/-- A PUT that is taken writes the settings. -/
lemma TakesPrivacy.accepted (h : TakesPrivacy env w request) (hc : w.store.Constraints) :
    ∃ user p l a, privacySetEvent env request = some (.privacySet user p l a) ∧
      serve env w request =
        (.ok (jsonResponse 204 request.version []), w.afterPrivacy env user p l a) := by
  obtain ⟨user, p, l, a, hevent, hprofile⟩ := h.stored
  refine ⟨user, p, l, a, hevent, ?_⟩
  obtain ⟨j, hj, hevent⟩ := Option.bind_eq_some_iff.mp hevent
  obtain ⟨user', huser, hevent⟩ := Option.bind_eq_some_iff.mp hevent
  obtain ⟨p', hp, hevent⟩ := Option.bind_eq_some_iff.mp hevent
  obtain ⟨l', hl, hevent⟩ := Option.bind_eq_some_iff.mp hevent
  obtain ⟨a', ha, hevent⟩ := Option.bind_eq_some_iff.mp hevent
  obtain ⟨rfl, rfl, rfl, rfl⟩ := Event.privacySet.inj (Option.some.inj hevent)
  obtain ⟨ps, hps, hp⟩ := visibility_of_stored hp
  obtain ⟨ls, hls, hl⟩ := visibility_of_stored hl
  obtain ⟨as, has, ha⟩ := visibility_of_stored ha
  have hwrite : Query.updatePrivacy.write env.db
      ([.string (extractUserID request), .string ps, .string ls, .string as].map
        convertValueToPQXX) = some (.updatePrivacy user' p' l' a') := by
    refine Option.bind_eq_some_iff.mpr ⟨user', huser, ?_⟩
    refine Option.bind_eq_some_iff.mpr ⟨p', hp, ?_⟩
    refine Option.bind_eq_some_iff.mpr ⟨l', hl, ?_⟩
    exact Option.bind_eq_some_iff.mpr ⟨a', ha, rfl⟩
  have hmodify := run_executeModify (w := w.entering .updatePrivacy) h.up hwrite
    ((updatePrivacy_constraints hc _ _ _ _ _ _ _).mpr hprofile)
  have hid : request.method = HandlerId.updatePrivacy.method := h.method
  refine (serve_eq_body hid h.target (Or.inr h.user)).trans
    (Prog.run_tryCatch_ok (s := w.entering .updatePrivacy) ?_)
  rw [Prog.run_bind_ok (run_parse _ hj), Prog.run_bind_ok (run_convert env _ hps),
    Prog.run_bind_ok (run_convert env _ hls), Prog.run_bind_ok (run_convert env _ has)]
  exact Prog.run_bind_ok hmodify

lemma exists_privacySet {event : Event} (h : privacySetEvent env request = some event) :
    ∃ user p l a, event = .privacySet user p l a := by
  simp only [privacySetEvent, Option.bind_eq_bind, Option.bind_eq_some_iff,
    Option.some.injEq] at h
  obtain ⟨_, -, user, -, p, -, l, -, a, -, rfl⟩ := h
  exact ⟨user, p, l, a, rfl⟩

/-- Any other PUT is refused. -/
lemma putPrivacy_refused (hv : w.store.Valid env.db.schema) (hm : request.method = .put)
    (ht : request.target = str "/me/privacy") (h : ¬ TakesPrivacy env w request) :
    Refused env w request := by
  obtain ⟨response, w', hserve, heffect⟩ := serve_effect env hv request
  cases heffect with
  | unchanged _ hstore hidle =>
    exact ⟨response, w', hserve, hidle.resolve_right (by simp [hm]), hstore⟩
  | written event wr n _ hlast hevent hmakes _ hstore hconstraints =>
    have hok := status_of_event hevent
    have hset : privacySetEvent env request = some event := by
      have hrequested : requestedEvent env request response = some event :=
        (if_pos hok).symm.trans hevent
      simpa only [requestedEvent, hm, ht, if_true] using hrequested
    obtain ⟨user, p, l, a, rfl⟩ := exists_privacySet hset
    obtain rfl : wr = .updatePrivacy user p l a := hmakes
    obtain ⟨id, hid, -, -, huser, -, hrun⟩ := handler_of_event hserve hevent
    obtain rfl := List.mem_singleton.mp hid
    -- the statement that wrote was the only one, and the row refers to a profile
    have hcore := core_of_ok hrun (fun e => by simp) (by omega)
    obtain ⟨hup, -⟩ := runsOneStatement_updatePrivacy _ _ _ _ _ _ hcore (by omega)
    rw [hstore] at hconstraints
    exact absurd ⟨hm, ht, huser.resolve_left (by decide), hup, user, p, l, a, hset,
      (updatePrivacy_constraints hv.constraints _ _ _ _ _ _ _).mp hconstraints⟩ h

/-- No request but a PUT that is taken makes a row with another string. -/
lemma known_step (hv : w.store.Valid env.db.schema)
    (hknown : ∀ r ∈ w.store.privacySettings, r.visibilities.Known)
    (hgood : PutsOther env request → ¬ TakesPrivacy env w request) :
    ∀ r ∈ (serve env w request).2.store.privacySettings, r.visibilities.Known := by
  by_cases hput : request.method = .put ∧ request.target = str "/me/privacy"
  · by_cases htakes : TakesPrivacy env w request
    · obtain ⟨user, p, l, a, hevent, hserve⟩ := htakes.accepted hv.constraints
      obtain ⟨j, hj, hevent⟩ := Option.bind_eq_some_iff.mp hevent
      obtain ⟨user', -, hevent⟩ := Option.bind_eq_some_iff.mp hevent
      obtain ⟨p', hp, hevent⟩ := Option.bind_eq_some_iff.mp hevent
      obtain ⟨l', hl, hevent⟩ := Option.bind_eq_some_iff.mp hevent
      obtain ⟨a', ha, hevent⟩ := Option.bind_eq_some_iff.mp hevent
      obtain ⟨rfl, rfl, rfl, rfl⟩ := Event.privacySet.inj (Option.some.inj hevent)
      have hlabels : ∀ key ∈ visibilityKeys, ∀ s, j.member? (str key) = some (.string s) →
          s ∈ visibilityLabels := by
        intro key hkey s hs
        by_contra hother
        exact hgood ⟨hput.1, hput.2, j, hj, key, hkey, s, hs, hother⟩ htakes
      have hset : (⟨p', l', a'⟩ : Visibilities).Known :=
        ⟨storedVisibility_known (hlabels _ (by simp [visibilityKeys])) hp,
          storedVisibility_known (hlabels _ (by simp [visibilityKeys])) hl,
          storedVisibility_known (hlabels _ (by simp [visibilityKeys])) ha⟩
      rw [hserve]
      intro r hr
      rcases Table.mem_insertOrUpdate hr with hr | ⟨r', -, -, rfl⟩ | rfl
      · exact hknown r hr
      · exact hset
      · exact hset
    · obtain ⟨response, w', hserve, -, hstore⟩ :=
        putPrivacy_refused hv hput.1 hput.2 htakes
      rw [hserve, hstore]
      exact hknown
  · obtain ⟨response, w', hserve, heffect⟩ := serve_effect env hv request
    rw [hserve]
    cases heffect with
    | unchanged _ hstore _ =>
      rw [hstore]
      exact hknown
    | written event wr n _ _ hevent hmakes _ hstore _ =>
      rw [hstore]
      cases event with
      | privacySet =>
        obtain ⟨id, hid, hm, ht, -⟩ := handler_of_event hserve hevent
        obtain rfl := List.mem_singleton.mp hid
        exact absurd ⟨hm, ht⟩ hput
      | patched =>
        obtain ⟨_, -, -, rfl⟩ := hmakes
        exact hknown
      | created | avatarSet | contactAdded | contactRemoved | favoriteAdded | favoriteRemoved
      | notificationsSet =>
        obtain rfl := hmakes
        exact hknown

end Put

/-! ## The GET -/

/-- A GET shows the values of a row, or the default. -/
lemma getPrivacy_known {env : Env σ} {w : World σ} {request : Request} {j : Json}
    (hknown : ∀ r ∈ w.store.privacySettings, r.visibilities.Known) (hm : request.method = .get)
    (ht : request.target = str "/me/privacy") (h : Shows env w request j) :
    ∃ v : Visibilities, ShowsVisibilities v j ∧ v.Known := by
  have hid : request.method = HandlerId.getPrivacy.method := hm
  have hu : extractUserID request ≠ [] := by
    rcases serve_cases env request with ⟨response, hidle, hserve⟩ | ⟨id, hm', -, huser, -⟩
    · obtain ⟨response', w', hserve', hstatus, -⟩ := h
      obtain rfl := Except.ok.inj (Prod.mk.inj ((hserve w).symm.trans hserve')).1
      rw [hm, hstatus] at hidle
      exact absurd hidle (by decide)
    · refine huser.resolve_left ?_
      rintro rfl
      exact absurd (hm.symm.trans hm') (by decide)
  obtain ⟨settings, w', hget, rfl⟩ := h.eq_of_dump (f := PrivacyHandler.privacyJson)
    (serve_eq_body hid ht (Or.inr hu)) (fun _ => by simp)
    (fun _ => Json.ofMembers_sorted (by simp))
  have hfails : ∀ {err : Exn} {w'' : World σ},
      (executeSelect .getPrivacy [.string (extractUserID request)] : Svc σ (List Row)).run env
        (w.entering .getPrivacy) = (.error err, w'') → False := fun hrun =>
    absurd ((Prog.run_bind_error hrun).symm.trans hget) (by simp)
  rcases hfault : env.fault (w.entering .getPrivacy).statements with _ | err
  swap
  · exact (hfails (run_executeSelect_fault hfault _ _)).elim
  rcases hk : env.db.idKey (extractUserID request) with _ | k
  · have hselect : Query.getPrivacy.select env.db (w.entering .getPrivacy).store
        ([.string (extractUserID request)].map convertValueToPQXX) = none :=
      Option.bind_eq_none_iff.mpr fun k hk' => absurd (hk.symm.trans hk') (by simp)
    exact (hfails (run_executeSelect_refused hfault rfl hselect)).elim
  obtain rfl := Except.ok.inj (Prod.mk.inj (hget.symm.trans (run_getPrivacy hfault hk))).1
  refine ⟨_, privacyJson_shows _ _, ?_⟩
  rcases hr : (w.entering .getPrivacy).store.privacyOf k with _ | r
  · decide
  · exact hknown r (List.mem_of_find?_eq_some hr)

/-! ## The result -/

/-- The tables are valid and the values are the labels. -/
structure KnownRows (env : Env σ) (w : World σ) : Prop where
  valid : w.store.Valid env.db.schema
  known : ∀ r ∈ w.store.privacySettings, r.visibilities.Known

/-- In a run of either schema, every row and every answer to `GET /me/privacy` has the three labels
in every state, and every PUT of the run with another string is refused and changes no table,
exactly when no PUT of the run with another string is taken.  Under `migrations/001_init.sql`
nothing keeps such a PUT from being taken. -/
theorem visibilities_known_iff (env : Env σ) (storage : σ) (requests : List Request) :
    ((∀ before, before <+: requests →
        (∀ r ∈ (after env storage before).store.privacySettings, r.visibilities.Known) ∧
        ∀ request j, request.method = .get → request.target = str "/me/privacy" →
          Shows env (after env storage before) request j →
            ∃ v : Visibilities, ShowsVisibilities v j ∧ v.Known) ∧
      ∀ before request, before ++ [request] <+: requests → PutsOther env request →
        Refused env (after env storage before) request) ↔
    ∀ before request, before ++ [request] <+: requests → PutsOther env request →
      ¬ TakesPrivacy env (after env storage before) request := by
  constructor
  · rintro ⟨-, hrefused⟩ before request hstep hother htakes
    obtain ⟨response, w', hserve, hstatus, -⟩ := hrefused before request hstep hother
    obtain ⟨user, p, l, a, -, haccepted⟩ :=
      htakes.accepted (after_valid env storage before).constraints
    obtain rfl := Except.ok.inj (Prod.mk.inj (haccepted.symm.trans hserve)).1
    exact absurd hstatus (by simp)
  · intro hgood
    have hinvariant : ∀ before, before <+: requests → KnownRows env (after env storage before) := by
      refine @Mealy.invariant_of_steps _ _ _ _ _
        (fun w request => PutsOther env request → ¬ TakesPrivacy env w request)
        (fun w request h hstep => ?_) _ ⟨Store.valid_empty _, ?_⟩ _ hgood
      · exact ⟨serve_valid env w request h.valid, known_step h.valid h.known hstep⟩
      · simp [World.start, Store.empty]
    refine ⟨fun before hbefore => ?_, fun before request hstep hother => ?_⟩
    · have hknown := (hinvariant before hbefore).known
      exact ⟨hknown, fun request j hm ht hshows => getPrivacy_known hknown hm ht hshows⟩
    · exact putPrivacy_refused (after_valid env storage before) hother.1 hother.2.1
        (hgood before request hstep hother)

/-- The user lets `friends` see the profile. -/
def putFriends : Request :=
  requestBy (str "alice") .put (str "/me/privacy")
    (str "\x7b\"profile_visibility\":\"friends\"\x7d")

/-- The PUT is answered with 204, and `friends` is stored and shown. -/
theorem friends_stored :
    PutsOther (Env.standalone .migrations) putFriends ∧
    AnswersWith (Env.standalone .migrations) (after (Env.standalone .migrations) () aliceRun)
      putFriends 204 ∧
    (∃ r ∈ (after (Env.standalone .migrations) () (aliceRun ++ [putFriends])).store.privacySettings,
      r.visibilities = ⟨str "friends", str "everyone", str "everyone"⟩ ∧ ¬ r.visibilities.Known) ∧
    ∃ j, Shows (Env.standalone .migrations)
        (after (Env.standalone .migrations) () (aliceRun ++ [putFriends]))
        (requestBy (str "alice") .get (str "/me/privacy") []) j ∧
      j.member? (str "profile_visibility") = some (.string (str "friends")) := by
  refine ⟨⟨rfl, rfl, ?_⟩, ⟨_, _, rfl, by decide⟩, by decide, ?_⟩
  · exact ⟨.object [(str "profile_visibility", .string (str "friends"))], rfl,
      "profile_visibility", by decide, str "friends", rfl, by decide⟩
  · have hby : IsBy (Env.standalone .migrations) (str "alice")
        (requestBy (str "alice") .get (str "/me/privacy") []) := by decide
    obtain ⟨j, hshows, hj⟩ := getPrivacy_shows rfl
      (after_valid (Env.standalone .migrations) () (aliceRun ++ [putFriends])) rfl rfl hby
    exact ⟨j, hshows, hj.profile.trans (congrArg (some ∘ Json.string) (by decide))⟩

end ProfileService
