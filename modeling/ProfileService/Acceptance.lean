/-
# When a request succeeds

For every handler that writes: when the statements do not fail by themselves, a request whose
event the directory admits succeeds.  The converse is the step lemma of the service.
-/
import ProfileService.Admission
import ProfileService.Specification

namespace ProfileService

open Bytes (str)

variable {σ : Type}

/-- The next two statements do not fail by themselves, and the id of a new row of settings is not
taken.  No request runs more statements; this is asked for whichever request comes next, also for
one that runs fewer or makes no such row. -/
structure Quiet (env : Env σ) (w : World σ) : Prop where
  first : env.fault w.statements = none
  second : env.fault (w.statements + 1) = none
  fresh : ∀ r ∈ w.store.notificationSettings, r.id ≠ (env.rowId w.statements).1

/-- The request is answered and the answer reports no failure. -/
def Succeeded (env : Env σ) (w : World σ) (request : Request) : Prop :=
  ∃ response w', serve env w request = (.ok response, w') ∧ response.status < 400

section Accepts

variable {env : Env σ} {w : World σ} {request : Request}

/-- A request succeeds whose body runs to an answer of success. -/
lemma succeeded_of_run {id : HandlerId} {core : Svc σ Response} {answer : Exn → Svc σ Response}
    (hserve : serve env w request = (do enter id; tryCatch core answer : Svc σ Response).run env w)
    (h : ∃ response w', core.run env (w.entering id) = (.ok response, w') ∧
      response.status < 400) : Succeeded env w request := by
  obtain ⟨response, w', hrun, hok⟩ := h
  exact ⟨response, w', hserve.trans (Prog.run_tryCatch_ok (s := w.entering id) hrun), hok⟩

/-- The write of an admitted event meets the constraints. -/
lemma Quiet.constraints (hq : Quiet env w) (hv : w.store.Valid env.db.schema) {event : Event}
    {wr : Write} (hadmits : w.store.directory.Admits event) (hmakes : event.Makes w.store wr) :
    (wr.apply env.db.schema (env.txnTime w.statements) (env.rowId w.statements)
      w.store).Constraints :=
  (Write.constraints_apply hv.constraints hmakes _ _ fun _ => hq.fresh).mpr hadmits

/-- A request succeeds whose body is the statement of an admitted event and an answer. -/
lemma Quiet.succeeded (hq : Quiet env w) (hv : w.store.Valid env.db.schema) {id : HandlerId}
    {query : Query} {params : List DbValue} {response : Response} {answer : Exn → Svc σ Response}
    (hserve : serve env w request =
      (do
        enter id
        tryCatch
          (do
            executeModify query params
            pure response) answer : Svc σ Response).run env w)
    (hok : response.status < 400) {event : Event} {wr : Write}
    (hwrite : query.write env.db (params.map convertValueToPQXX) = some wr)
    (hadmits : w.store.directory.Admits event) (hmakes : event.Makes w.store wr) :
    Succeeded env w request := by
  have hmodify := run_executeModify (w := w.entering id) hq.first hwrite
    (hq.constraints hv hadmits hmakes)
  exact succeeded_of_run hserve ⟨response, _, Prog.run_bind_ok hmodify, hok⟩

/-! ### Contacts and favourites -/

lemma deleteContact_succeeds (hq : Quiet env w) (hv : w.store.Valid env.db.schema)
    (hm : request.method = .delete) (ht : str "/contacts/" <+: request.target)
    (hu : extractUserID request ≠ []) {event : Event}
    (hevent : contactRemovedEvent env request = some event)
    (hadmits : w.store.directory.Admits event) : Succeeded env w request := by
  obtain ⟨owner, howner, hevent⟩ := Option.bind_eq_some_iff.mp hevent
  obtain ⟨contact, hcontact, hevent⟩ := Option.bind_eq_some_iff.mp hevent
  obtain rfl := Option.some.inj hevent
  have hwrite : Query.removeContact.write env.db
      ([DbValue.string (extractUserID request), .string (request.target.drop 10)].map
        convertValueToPQXX) = some (.removeContact owner contact) :=
    Option.bind_eq_some_iff.mpr ⟨owner, howner,
      Option.bind_eq_some_iff.mpr ⟨contact, hcontact, rfl⟩⟩
  have hid : request.method = HandlerId.deleteContact.method := hm
  have hserve : serve env w request = _ := serve_eq_body hid ht (Or.inr hu)
  simp only [HandlerId.body, ContactsHandler.handleDeleteContact, Request.find_contact ht]
    at hserve
  exact hq.succeeded hv hserve (by simp) hwrite hadmits rfl

lemma addFavorite_succeeds (hq : Quiet env w) (hv : w.store.Valid env.db.schema)
    (hm : request.method = .post) (ht : str "/favorites/" <+: request.target)
    (hu : extractUserID request ≠ []) {event : Event}
    (hevent : favoriteAddedEvent env request = some event)
    (hadmits : w.store.directory.Admits event) : Succeeded env w request := by
  obtain ⟨user, huser, hevent⟩ := Option.bind_eq_some_iff.mp hevent
  obtain ⟨chat, hchat, hevent⟩ := Option.bind_eq_some_iff.mp hevent
  obtain rfl := Option.some.inj hevent
  have hwrite : Query.addFavorite.write env.db
      ([DbValue.string (extractUserID request), .string (request.target.drop 11)].map
        convertValueToPQXX) = some (.addFavorite user chat) :=
    Option.bind_eq_some_iff.mpr ⟨user, huser, Option.bind_eq_some_iff.mpr ⟨chat, hchat, rfl⟩⟩
  have hid : request.method = HandlerId.addFavorite.method := hm
  have hserve : serve env w request = _ := serve_eq_body hid ht (Or.inr hu)
  simp only [HandlerId.body, FavoritesHandler.handleAddFavorite, Request.find_favorite ht]
    at hserve
  exact hq.succeeded hv hserve (by simp) hwrite hadmits rfl

lemma removeFavorite_succeeds (hq : Quiet env w) (hv : w.store.Valid env.db.schema)
    (hm : request.method = .delete) (ht : str "/favorites/" <+: request.target)
    (hu : extractUserID request ≠ []) {event : Event}
    (hevent : favoriteRemovedEvent env request = some event)
    (hadmits : w.store.directory.Admits event) : Succeeded env w request := by
  obtain ⟨user, huser, hevent⟩ := Option.bind_eq_some_iff.mp hevent
  obtain ⟨chat, hchat, hevent⟩ := Option.bind_eq_some_iff.mp hevent
  obtain rfl := Option.some.inj hevent
  have hwrite : Query.removeFavorite.write env.db
      ([DbValue.string (extractUserID request), .string (request.target.drop 11)].map
        convertValueToPQXX) = some (.removeFavorite user chat) :=
    Option.bind_eq_some_iff.mpr ⟨user, huser, Option.bind_eq_some_iff.mpr ⟨chat, hchat, rfl⟩⟩
  have hid : request.method = HandlerId.removeFavorite.method := hm
  have hserve : serve env w request = _ := serve_eq_body hid ht (Or.inr hu)
  simp only [HandlerId.body, FavoritesHandler.handleRemoveFavorite, Request.find_favorite ht]
    at hserve
  exact hq.succeeded hv hserve (by simp) hwrite hadmits rfl

/-- The text that is bound for a member of the body is stored as the event has it. -/
lemma stored_of_storedMember {T : ColumnType} (hT : T.Holds []) {j : Json} {key : String}
    {field m : Option Bytes} (hfield : HoldsOption T field)
    (h : storedMember env T j key = some m) :
    ∃ s, assignString j (str key) field = .ok s ∧
      env.db.stored T (s.getD []) = some (m.getD (field.getD [])) := by
  obtain ⟨t, ht, h⟩ := Option.bind_eq_some_iff.mp h
  rcases hj : j.member? (str key) with _ | v
  · have hassign : ∀ f, assignString j (str key) f = .ok f := fun f => by rw [assignString, hj]
    rw [hassign] at ht
    obtain rfl : none = t := Option.some.inj ht
    obtain rfl : none = m := Option.some.inj h
    exact ⟨field, hassign field, env.db.stored_of_holds (hfield.getD hT)⟩
  · have hassign : ∀ f, assignString j (str key) f = (getString v).map some := fun f => by
      rw [assignString, hj]
    rw [hassign] at ht
    rcases hv : getString v with err | s
    · rw [hv] at ht
      exact absurd ht (by simp [Except.map, Except.toOption])
    · rw [hv] at ht
      obtain rfl : some s = t := Option.some.inj ht
      obtain ⟨x, hx, hm⟩ := Option.map_eq_some_iff.mp h
      obtain rfl := hm
      exact ⟨some s, by rw [hassign, hv]; rfl, hx⟩

lemma addContact_succeeds (hq : Quiet env w) (hv : w.store.Valid env.db.schema)
    (hm : request.method = .post) (ht : request.target = str "/contacts")
    (hu : extractUserID request ≠ []) (htext : bodyText env request "contact_id" ≠ some [])
    {event : Event} (hevent : contactAddedEvent env request = some event)
    (hadmits : w.store.directory.Admits event) : Succeeded env w request := by
  obtain ⟨j, hj, hevent⟩ := Option.bind_eq_some_iff.mp hevent
  obtain ⟨owner, howner, hevent⟩ := Option.bind_eq_some_iff.mp hevent
  obtain ⟨contactID, hid, hevent⟩ := Option.bind_eq_some_iff.mp hevent
  obtain ⟨contact, hcontact, hevent⟩ := Option.bind_eq_some_iff.mp hevent
  obtain ⟨m, hmember, hevent⟩ := Option.bind_eq_some_iff.mp hevent
  obtain rfl := Option.some.inj hevent
  have hne : contactID ≠ [] := by
    rintro rfl
    exact htext (Option.bind_eq_some_iff.mpr ⟨j, hj, hid⟩)
  obtain ⟨contactAlias, halias, hstored⟩ := stored_of_storedMember
    (Schema.nameType_holds_nil _) (holdsOption_none _) hmember
  have hwrite : Query.addContact.write env.db
      ([DbValue.string (extractUserID request), .string contactID,
        .string (contactAlias.getD [])].map convertValueToPQXX) =
        some (.addContact owner contact (m.getD [])) := by
    refine Option.bind_eq_some_iff.mpr ⟨owner, howner, ?_⟩
    exact Option.bind_eq_some_iff.mpr ⟨contact, hcontact,
      Option.bind_eq_some_iff.mpr ⟨_, hstored, rfl⟩⟩
  obtain ⟨w₁, hmodify⟩ : ∃ w₁, (executeModify .addContact
      [.string (extractUserID request), .string contactID, .string (contactAlias.getD [])] :
      Svc σ Unit).run env (w.entering .addContact) = (.ok (), w₁) :=
    ⟨_, run_executeModify (w := w.entering .addContact) hq.first hwrite
      (hq.constraints hv hadmits rfl)⟩
  have hjson : (Json.ofMembers [(str "owner_id", .string (extractUserID request)),
      (str "contact_id", .string contactID),
      (str "alias", .string (contactAlias.getD []))]).Utf8 := by
    refine Json.ofMembers_utf8 ?_
    simp only [List.forall_mem_cons, Json.utf8_string]
    exact ⟨⟨rfl, Database.valid_of_stored howner⟩, ⟨rfl, Database.valid_of_stored hcontact⟩,
      ⟨rfl, Database.valid_of_stored hstored⟩, by simp⟩
  obtain ⟨text, -, hdump⟩ := run_dumpResponse env w₁ 201 request hjson
  have hid' : request.method = HandlerId.addContact.method := hm
  refine succeeded_of_run (serve_eq_body hid' ht (Or.inr hu))
    ⟨jsonResponse 201 request.version text, w₁, ?_, by simp⟩
  have halias' := run_convert env (w.entering .addContact) (congrArg Except.toOption halias)
  rw [Prog.run_bind_ok (run_parse _ hj), Prog.run_bind_ok (run_convert env _ hid), if_neg hne,
    Prog.run_bind_ok halias']
  exact (Prog.run_bind_ok hmodify).trans hdump

/-! ### Settings -/

lemma updatePrivacy_succeeds (hq : Quiet env w) (hv : w.store.Valid env.db.schema)
    (hm : request.method = .put) (ht : request.target = str "/me/privacy")
    (hu : extractUserID request ≠ []) {event : Event}
    (hevent : privacySetEvent env request = some event)
    (hadmits : w.store.directory.Admits event) : Succeeded env w request := by
  obtain ⟨user, p, l, a, rfl⟩ := exists_privacySet hevent
  have htakes : TakesPrivacy env w request :=
    ⟨hm, ht, hu, hq.first, user, p, l, a, hevent, Store.member_directory.mp hadmits⟩
  obtain ⟨_, _, _, _, -, hserve⟩ := htakes.accepted hv.constraints
  exact ⟨_, _, hserve, by simp⟩

lemma putSettings_succeeds (hq : Quiet env w) (hv : w.store.Valid env.db.schema)
    {chatID : Option Bytes} (hput : PutsSettings request chatID)
    (hu : extractUserID request ≠ []) {event : Event}
    (hevent : notificationsSetEvent env request (chatID.getD []) = some event)
    (hadmits : w.store.directory.Admits event) : Succeeded env w request := by
  obtain ⟨id, hserve⟩ := serve_putSettings (σ := σ) hput hu
  obtain ⟨user, chat, muted, mutedUntil, rfl⟩ : ∃ user chat muted mutedUntil,
      event = .notificationsSet user chat muted mutedUntil := by
    obtain ⟨j, -, h⟩ := Option.bind_eq_some_iff.mp hevent
    obtain ⟨user, -, h⟩ := Option.bind_eq_some_iff.mp h
    obtain ⟨chat, -, h⟩ := Option.bind_eq_some_iff.mp h
    obtain ⟨muted, -, h⟩ := Option.bind_eq_some_iff.mp h
    obtain ⟨mutedUntil, -, h⟩ := Option.bind_eq_some_iff.mp h
    exact ⟨user, chat, muted, mutedUntil, (Option.some.inj h).symm⟩
  have hrun := run_putSettings_of_event (w := w.entering id) hq.first hevent
    (hq.constraints hv hadmits rfl)
  exact succeeded_of_run (hserve env w) ⟨_, _, hrun, by simp⟩

/-! ### Profiles -/

lemma createProfile_succeeds (hq : Quiet env w) (hv : w.store.Valid env.db.schema)
    (hm : request.method = .post) (ht : request.target = str "/internal/profiles")
    (htext : bodyText env request "user_id" ≠ some []) {event : Event}
    (hevent : createdEvent env request = some event) : Succeeded env w request := by
  obtain ⟨user, huser, rfl⟩ := Option.map_eq_some_iff.mp hevent
  obtain ⟨j, hj, huser⟩ := Option.bind_eq_some_iff.mp huser
  obtain ⟨userId, hid, huser⟩ := Option.bind_eq_some_iff.mp huser
  have hne : userId ≠ [] := by
    rintro rfl
    exact htext (Option.bind_eq_some_iff.mpr ⟨j, hj, hid⟩)
  have hwrite : Query.createProfile.write env.db ([DbValue.string userId].map convertValueToPQXX) =
      some (.createProfile user) := Option.bind_eq_some_iff.mpr ⟨user, huser, rfl⟩
  have hadmits : w.store.directory.Admits (.created user) := True.intro
  obtain ⟨store, hstore⟩ : ∃ store, store = Write.apply env.db.schema
      (env.txnTime w.statements) (env.rowId w.statements) (.createProfile user) w.store :=
    ⟨_, rfl⟩
  have hc : store.Constraints := hstore ▸ hq.constraints hv hadmits rfl
  -- the statement returns the row of the user, from which the answer is made
  obtain ⟨r, rest, hrows, hrow⟩ := createProfile_filter hstore
  have hs : Succeeds env (w.entering .createProfile) .createProfile [.string userId] store
      (r.result env.db :: rest.map (ProfileRow.result env.db)) := by
    refine ⟨hq.first, (Query.exec_write hwrite).trans ?_⟩
    simp only [World.entering, ← hstore, if_pos hc, Write.returning, hrows, List.map_cons]
  have hjson : (Json.ofMembers [(str "user_id", .string r.userId),
      (str "created_at", .integer (TimePoint.toSeconds (env.clock w.readings))),
      (str "updated_at", .integer (TimePoint.toSeconds (env.clock (w.readings + 1))))]).Utf8 := by
    refine Json.ofMembers_utf8 ?_
    simp only [List.forall_mem_cons, Json.utf8_string, hrow]
    exact ⟨⟨rfl, (Database.stored_holds huser).utf8⟩, ⟨rfl, by simp⟩, ⟨rfl, by simp⟩, by simp⟩
  obtain ⟨text, -, hdump⟩ := run_dumpResponse env
    (((w.entering .createProfile).afterStatement store).afterReadings 2) 201 request hjson
  have hid' : request.method = HandlerId.createProfile.method := hm
  refine succeeded_of_run (serve_eq_body hid' ht (Or.inl rfl))
    ⟨jsonResponse 201 request.version text,
      ((w.entering .createProfile).afterStatement store).afterReadings 2, ?_, by simp⟩
  rw [Prog.run_bind_ok (run_parse _ hj), Prog.run_bind_ok (run_convert env _ hid), if_neg hne]
  exact (Prog.run_bind_ok ((Prog.run_bind_ok hs.run).trans (run_profileMapRow env _ _ r))).trans
    hdump

/-- The members of a body that are stored are strings. -/
lemma allStrings_of_stored {j : Json} {firstName lastName username bio : Option Bytes}
    (h₁ : storedMember env env.db.schema.nameType j "first_name" = some firstName)
    (h₂ : storedMember env env.db.schema.nameType j "last_name" = some lastName)
    (h₃ : storedMember env env.db.schema.usernameType j "username" = some username)
    (h₄ : storedMember env .text j "bio" = some bio) : AllStrings j := by
  have hstring : ∀ {T : ColumnType} {key : String} {m : Option Bytes} {v : Json},
      storedMember env T j key = some m → j.member? (str key) = some v → ∃ s, v = .string s := by
    intro T key m v h hv
    obtain ⟨t, ht, -⟩ := Option.bind_eq_some_iff.mp h
    rw [assignString, hv] at ht
    cases v with
    | string s => exact ⟨s, rfl⟩
    | null | bool | integer | float | array | object =>
      exact absurd ht (by simp [getString, Except.map, Except.toOption])
  intro key hkey v hv
  simp only [patchKeys, List.mem_cons, List.not_mem_nil, or_false] at hkey
  rcases hkey with rfl | rfl | rfl | rfl
  · exact hstring h₁ hv
  · exact hstring h₂ hv
  · exact hstring h₃ hv
  · exact hstring h₄ hv

lemma patch_succeeds (hq : Quiet env w) (hv : w.store.Valid env.db.schema)
    (hm : request.method = .patch) (ht : request.target = str "/me")
    (hu : extractUserID request ≠ []) {event : Event}
    (hevent : patchedEvent env request = some event)
    (hadmits : w.store.directory.Admits event) : Succeeded env w request := by
  obtain ⟨j, hj, hevent⟩ := Option.bind_eq_some_iff.mp hevent
  obtain ⟨user, huser, hevent⟩ := Option.bind_eq_some_iff.mp hevent
  obtain ⟨firstName, h₁, hevent⟩ := Option.bind_eq_some_iff.mp hevent
  obtain ⟨lastName, h₂, hevent⟩ := Option.bind_eq_some_iff.mp hevent
  obtain ⟨username, h₃, hevent⟩ := Option.bind_eq_some_iff.mp hevent
  obtain ⟨bio, h₄, hevent⟩ := Option.bind_eq_some_iff.mp hevent
  obtain rfl := Option.some.inj hevent
  obtain ⟨hmember, hfree⟩ := hadmits
  obtain ⟨r, hr, rfl⟩ := List.mem_map.mp (Store.member_directory.mp hmember)
  rw [Store.username_directory hv.constraints hr, Store.free_directory hv.constraints] at hfree
  -- the values that are bound are those of the event
  obtain ⟨-, hfirst, hlast, hname, hbio, -⟩ := hv.typed.profiles r hr
  obtain ⟨s₁, ha₁, hs₁⟩ := stored_of_storedMember (Schema.nameType_holds_nil _) hfirst h₁
  obtain ⟨s₂, ha₂, hs₂⟩ := stored_of_storedMember (Schema.nameType_holds_nil _) hlast h₂
  obtain ⟨s₃, ha₃, hs₃⟩ := stored_of_storedMember (Schema.usernameType_holds_nil _) hname h₃
  obtain ⟨s₄, ha₄, hs₄⟩ := stored_of_storedMember ColumnType.holds_nil_text hbio h₄
  have hparse : ∀ {err}, env.json.parse request.body ≠ .error err := by
    intro err herr
    rw [bodyJson, herr] at hj
    exact absurd hj (by simp [Except.toOption])
  have hjson : ∀ {j'}, env.json.parse request.body = .ok j' → j' = j := by
    intro j' hj'
    rw [bodyJson, hj'] at hj
    exact Option.some.inj hj
  cases patch_ends hv ⟨hm, ht, hu, huser, hr⟩ with
  | unparsed err parse => exact absurd parse hparse
  | unread j' err parse fault => exact absurd (hq.first.symm.trans fault) (by simp)
  | untyped j' v parse up strings =>
    rw [hjson parse] at strings
    exact absurd (allStrings_of_stored h₁ h₂ h₃ h₄) strings
  | unwritten j' profile parse up strings patched fails =>
    rw [hjson parse] at patched
    obtain ⟨_, _, _, _, hb₁, hb₂, hb₃, hb₄, rfl⟩ := patchProfile_eq_ok patched
    obtain rfl := Except.ok.inj (ha₁.symm.trans hb₁)
    obtain rfl := Except.ok.inj (ha₂.symm.trans hb₂)
    obtain rfl := Except.ok.inj (ha₃.symm.trans hb₃)
    obtain rfl := Except.ok.inj (ha₄.symm.trans hb₄)
    rcases fails with hfault | hnot
    · exact absurd hq.second hfault
    · exact absurd ⟨_, _, _, _, ⟨hs₁, hs₂, hs₃, hs₄⟩, hfree⟩ hnot
  | updated j' profile parse up strings patched f l n b stores free response w' serve status =>
    exact ⟨response, w', serve, by omega⟩

end Accepts

end ProfileService
