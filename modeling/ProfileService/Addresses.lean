/-
# Addresses of profiles and contacts

An id comes in as a string of a JSON body and is asked for as a part of a target, which is
taken as it is: nothing is decoded, a query is a part of the id, and a few words are routes of
their own.  With text ids the target that a client makes of an id by percent-encoding leads
back to it exactly if the encoding changes nothing, there is no query, and the word is not
taken.
-/
import ProfileService.Lib.PercentEncoding
import ProfileService.Listings
import ProfileService.Profiles

namespace ProfileService

open Bytes (str)
open PercentEncoding (encode isUnreserved)

variable {σ : Type}

/-- No query, or a question mark and visible characters. -/
def IsQuery (query : Bytes) : Prop :=
  query = [] ∨ ∃ rest, query = 0x3F :: rest ∧ ∀ c ∈ rest, 0x20 < c.toNat ∧ c.toNat < 0x7F

/-- The GET shows the profile of the user with the id `k`. -/
def ReturnsProfile (env : Env σ) (w : World σ) (k : Bytes) (read : Request) : Prop :=
  ∃ r, w.store.profile k = some r ∧ Shows env w read (ProfileHandler.profileJson (r.read env w))

/-- The user has the contact. -/
def Store.HasContact (st : Store) (k c : Bytes) : Prop :=
  ∃ r ∈ st.contacts, r.ownerId = k ∧ r.contactId = c

/-! ## Requests that were accepted -/

/-- The id was accepted by `POST /internal/profiles`. -/
def ProfileAccepted (env : Env σ) (history : List (Request × Except Exn Response))
    (userId : Bytes) : Prop :=
  ∃ create response j, (create, Except.ok response) ∈ history ∧ create.method = .post ∧
    create.target = str "/internal/profiles" ∧ response.status = 201 ∧
    bodyJson env create = some j ∧ value getString j (str "user_id") [] = .ok userId

/-- The id was accepted by `POST /contacts` for the user with the id `k`. -/
def ContactAccepted (env : Env σ) (history : List (Request × Except Exn Response))
    (k contactId : Bytes) : Prop :=
  ∃ add response j, (add, Except.ok response) ∈ history ∧ add.method = .post ∧
    add.target = str "/contacts" ∧ response.status = 201 ∧ storedUser env add = some k ∧
    bodyJson env add = some j ∧ value getString j (str "contact_id") [] = .ok contactId

section Accepted

variable {env : Env σ} {storage : σ} {requests : List Request}

/-- A request of a run that writes and is answered with success has its event. -/
lemma accepted_event {request : Request} {response : Response}
    (h : (request, Except.ok response) ∈ history env storage requests)
    (hm : request.method ∈ [.post, .patch, .put, .delete]) (hok : response.status < 400) :
    ∃ event, eventOf env (request, .ok response) = some event ∧
      event ∈ events env storage requests := by
  obtain ⟨before, request', rest, -, he⟩ := Mealy.mem_trace h
  obtain ⟨rfl, hserve⟩ := Prod.mk.inj he
  obtain ⟨response', w', hserve', heffect⟩ :=
    serve_effect env (after_valid env storage before) request
  have hresponse : (Except.ok response : Except Exn Response) = .ok response' :=
    hserve.trans (congrArg Prod.fst hserve')
  obtain rfl := Except.ok.inj hresponse
  obtain ⟨event, hevent⟩ := heffect.exists_event hok hm
  exact ⟨event, hevent, List.mem_filterMap.mpr ⟨_, h, hevent⟩⟩

lemma ProfileAccepted.created {userId : Bytes}
    (h : ProfileAccepted env (history env storage requests) userId) :
    ∃ k, env.db.stored env.db.schema.idType userId = some k ∧
      Event.created k ∈ events env storage requests := by
  obtain ⟨create, response, j, hmem, hm, ht, hstatus, hj, huser⟩ := h
  obtain ⟨event, hevent, hevents⟩ := accepted_event hmem (by simp [hm]) (by omega)
  rw [eventOf_of_accepts .createProfile hm ht (by omega)] at hevent
  obtain ⟨k, hk, rfl⟩ := Option.map_eq_some_iff.mp hevent
  refine ⟨k, ?_, hevents⟩
  simpa [bodyUser, hj, huser, Except.toOption] using hk

lemma ContactAccepted.stored {k contactId : Bytes}
    (h : ContactAccepted env (history env storage requests) k contactId) :
    ∃ c, env.db.stored env.db.schema.idType contactId = some c := by
  obtain ⟨add, response, j, hmem, hm, ht, hstatus, huser, hj, hcontact⟩ := h
  obtain ⟨event, hevent, -⟩ := accepted_event hmem (by simp [hm]) (by omega)
  rw [eventOf_of_accepts .addContact hm ht (by omega)] at hevent
  simp only [HandlerId.event, contactAddedEvent, hj, huser, hcontact, Except.toOption,
    Option.bind_eq_bind, Option.bind_some] at hevent
  obtain ⟨c, hc, -⟩ := Option.bind_eq_some_iff.mp hevent
  exact ⟨c, hc⟩

end Accepted

/-! ## Ids as texts -/

section Ids

variable {db : Database} (hschema : db.schema = .migrations)

include hschema

/-- A text of visible characters is compared as it is. -/
lemma idKey_of_visible {s : Bytes} (h : ∀ c ∈ s, 0x20 < c.toNat ∧ c.toNat < 0x7F) :
    db.idKey s = some s := by
  have hutf8 : s.ValidUtf8 := Bytes.validUtf8_of_ascii fun c hc => by
    have hlt := (h c hc).2
    omega
  have hnul : s.NulFree := fun h0 => absurd (h 0 h0).1 (by decide)
  rw [Database.idKey, Database.compared, db.receive_verbatim hutf8 hnul, hschema]
  rfl

/-- What is stored of a text is no longer than it, and the text itself if it has no blanks. -/
lemma stored_idType {s k : Bytes} (hnul : s.NulFree)
    (h : db.stored db.schema.idType s = some k) :
    k.length ≤ s.length ∧ ((∀ c ∈ s, c ≠ 0x20) → k = s) := by
  rw [Database.stored, db.receive_verbatim (Database.valid_of_stored h) hnul, hschema] at h
  simp only [Option.bind_some, Schema.idType, ColumnType.input] at h
  split_ifs at h with hblank
  obtain rfl := Option.some.inj h
  refine ⟨List.length_take_le' _ _, fun hs => ?_⟩
  -- only blanks are cut off, so that without any nothing is
  generalize hkept : s.length - (s.charLength - 255) = kept at hblank
  have hnil : s.drop kept = [] := by
    rw [List.eq_nil_iff_forall_not_mem]
    intro c hc
    have hall := List.all_eq_true.mp hblank c hc
    exact hs c (List.mem_of_mem_drop hc) (by simpa using hall)
  rw [List.take_of_length_le (List.drop_eq_nil_iff.mp hnil)]

end Ids

section Encoding

variable {s query : Bytes}

lemma encode_query_visible (s : Bytes) (hquery : IsQuery query) :
    ∀ c ∈ encode s ++ query, 0x20 < c.toNat ∧ c.toNat < 0x7F := by
  intro c hc
  rcases List.mem_append.mp hc with hc | hc
  · exact (PercentEncoding.mem_encode hc).1
  · rcases hquery with rfl | ⟨rest, rfl, hrest⟩
    · exact absurd hc (by simp)
    · rcases List.mem_cons.mp hc with rfl | hc
      · decide
      · exact hrest c hc

lemma unreserved_visible (h : ∀ c ∈ s, isUnreserved c = true) :
    ∀ c ∈ s, (0x20 < c.toNat ∧ c.toNat < 0x7F) ∧ c ≠ 0x2F ∧ c ≠ 0x3F := by
  rw [← PercentEncoding.encode_of_unreserved h]
  exact fun c => PercentEncoding.mem_encode

lemma unreserved_nulFree (h : ∀ c ∈ s, isUnreserved c = true) : s.NulFree :=
  fun h0 => absurd (unreserved_visible h 0 h0).1.1 (by decide)

lemma unreserved_ne_blank (h : ∀ c ∈ s, isUnreserved c = true) : ∀ c ∈ s, c ≠ 0x20 := by
  rintro c hc rfl
  exact absurd (unreserved_visible h 0x20 hc).1.1 (by decide)

/-- The encoding leads back to what is stored only if it changes nothing and there is no query. -/
lemma unreserved_of_encode_eq {db : Database} (hschema : db.schema = .migrations) {k : Bytes}
    (hnul : s.NulFree) (hstored : db.stored db.schema.idType s = some k)
    (h : encode s ++ query = k) : query = [] ∧ ∀ c ∈ s, isUnreserved c = true := by
  have hle := (stored_idType hschema hnul hstored).1
  have hlonger := PercentEncoding.length_le_encode s
  rw [← h, List.length_append] at hle
  exact ⟨List.length_eq_zero_iff.mp (by omega), PercentEncoding.unreserved_of_length (by omega)⟩

end Encoding

/-! ## Profiles -/

/-- The words that are routes of their own. -/
def reservedWords : List Bytes := [str "contacts", str "favorites", str "notifications"]

/-- The target made of the id and the query leads to the profile: the id is unreserved and not
reserved, there is no query, and only the user `me` gets the profile of `me`. -/
structure LeadsTo (env : Env σ) (k userId query : Bytes) (read : Request) : Prop where
  query : query = []
  unreserved : ∀ c ∈ userId, isUnreserved c = true
  not_reserved : userId ∉ reservedWords
  me : userId = str "me" → env.db.idKey (extractUserID read) = some k

section Profiles

variable {env : Env σ} {w : World σ} {userId query k : Bytes} {read : Request}

lemma returnsProfile_of_leadsTo (hschema : env.db.schema = .migrations)
    (hfault : env.fault w.statements = none) (hv : w.store.Valid env.db.schema)
    (hid : userId ≠ []) (hstored : env.db.stored env.db.schema.idType userId = some k)
    {r : ProfileRow} (hr : w.store.profile k = some r) (hm : read.method = .get)
    (ht : read.target = str "/" ++ (encode userId ++ query)) (huser : extractUserID read ≠ [])
    (h : LeadsTo env k userId query read) : ReturnsProfile env w k read := by
  have hnul := unreserved_nulFree h.unreserved
  obtain rfl : k = userId :=
    (stored_idType hschema hnul hstored).2 (unreserved_ne_blank h.unreserved)
  rw [h.query, List.append_nil, PercentEncoding.encode_of_unreserved h.unreserved] at ht
  have hvisible := unreserved_visible h.unreserved
  by_cases hme : k = str "me"
  · have hread : ReadsProfile (extractUserID read) read :=
      ⟨hm, huser, Or.inl ⟨by rw [ht, hme]; rfl, rfl⟩⟩
    exact ⟨r, hr, getProfile_shows hfault hv hread (h.me hme) hr⟩
  · have hword : ∀ word : Bytes, k ≠ word → str "/" ++ k ≠ str "/" ++ word := fun word hne heq =>
      hne (List.append_cancel_left heq)
    have hreserved := h.not_reserved
    simp only [reservedWords, List.mem_cons, List.not_mem_nil, or_false, not_or] at hreserved
    have haccepts : HandlerId.getProfileByID.Accepts read.target := by
      rw [ht]
      exact ⟨List.prefix_append _ _, fun hslash => (hvisible _ hslash).2.1 rfl, hword _ hme,
        hword _ hreserved.1, hword _ hreserved.2.1, hword _ hreserved.2.2⟩
    obtain ⟨info, hinfo, hroute⟩ := resolveRoute_complete haccepts
    have hread : ReadsProfile k read := ⟨hm, huser, Or.inr ⟨hid, ht, info, hroute, hinfo⟩⟩
    have hkey := idKey_of_visible hschema fun c hc => (hvisible c hc).1
    exact ⟨r, hr, getProfile_shows hfault hv hread hkey hr⟩

/-- Only a profile has a first name. -/
lemma ne_profileJson {j : Json} {profile : Profile} (h : j.member? (str "first_name") = none) :
    ProfileHandler.profileJson profile ≠ j := by
  intro heq
  have hname : (ProfileHandler.profileJson profile).member? (str "first_name") =
      some (.string (profile.firstName.getD [])) := by
    rw [ProfileHandler.profileJson, Json.member?_ofMembers]
    rfl
  rw [heq, h] at hname
  exact absurd hname (by simp)

lemma privacyJson_firstName (settings : PrivacySettings) :
    (PrivacyHandler.privacyJson settings).member? (str "first_name") = none := by
  rw [PrivacyHandler.privacyJson, Json.member?_ofMembers]
  rfl

lemma globalJson_firstName (settings : NotificationSettings) :
    (NotificationsHandler.globalJson settings).member? (str "first_name") = none := by
  rw [NotificationsHandler.globalJson, Json.member?_ofMembers]
  rcases settings with ⟨id, userID, chatID, muted, mutedUntil⟩
  cases chatID <;> cases mutedUntil <;> rfl

lemma chatJson_firstName (chatId : Bytes) (settings : NotificationSettings) :
    (NotificationsHandler.chatJson chatId settings).member? (str "first_name") = none := by
  rw [NotificationsHandler.chatJson, Json.member?_ofMembers]
  rcases settings with ⟨id, userID, chatID, muted, mutedUntil⟩
  cases mutedUntil <;> rfl

lemma sorted_array_map {τ : Type} {json : τ → Json} (h : ∀ item, (json item).Sorted)
    (items : List τ) : (Json.array (items.map json)).Sorted := by
  rw [Json.Sorted, Json.sortedItems_iff, List.forall_mem_map]
  exact fun item _ => h item

/-- A profile that is shown was read, for the user of the header or for the id of the path. -/
lemma shows_profileJson {profile : Profile} (hm : read.method = .get)
    (h : Shows env w read (ProfileHandler.profileJson profile)) :
    (read.target = str "/me" ∧ env.db.idKey (extractUserID read) = some profile.userID) ∨
      HandlerId.getProfileByID.Accepts read.target ∧
        env.db.idKey (read.target.drop 1) = some profile.userID := by
  have huserID : ∀ profile' : Profile,
      ProfileHandler.profileJson profile = ProfileHandler.profileJson profile' →
        profile.userID = profile'.userID := by
    intro profile' heq
    have hmember := congrArg (Json.member? · (str "user_id")) heq
    simp only [ProfileHandler.profileJson, Json.member?_ofMembers] at hmember
    exact Json.string.inj (Option.some.inj hmember)
  rcases serve_cases env read with ⟨response, hidle, hserve⟩ | ⟨id, hid, ht, -, hserve⟩
  · obtain ⟨response', w', hresponse, hstatus, -⟩ := h
    obtain rfl := Except.ok.inj (Prod.mk.inj ((hserve w).symm.trans hresponse)).1
    rw [hm] at hidle
    rcases hidle with hidle | hidle
    · omega
    · exact absurd hidle (by decide)
  -- the other bodies answer values that are told from a profile by a missing `first_name`
  replace hserve := hserve w
  cases id with
  | getMyProfile =>
    obtain ⟨profile', w', hrun, heq⟩ := h.eq_of_dump (f := ProfileHandler.profileJson) hserve
      (fun _ => by simp) (fun _ => Json.ofMembers_sorted (by simp))
    obtain ⟨r, -, hkey, hrow⟩ := getByID_eq_ok hrun
    refine Or.inl ⟨ht, ?_⟩
    rw [huserID _ heq, hrow]
    exact hkey
  | getProfileByID =>
    have hfind := Request.find_profile ht
    by_cases hnil : read.target.drop 1 = []
    · -- a slash alone
      rw [if_pos hnil] at hfind
      simp only [HandlerId.body, ProfileHandler.handleGetProfileByID, hfind] at hserve
      obtain ⟨response, w', hresponse, hstatus, -⟩ := h
      obtain rfl := Except.ok.inj (Prod.mk.inj (hserve.symm.trans hresponse)).1
      exact absurd hstatus (by simp)
    rw [if_neg hnil] at hfind
    simp only [HandlerId.body, ProfileHandler.handleGetProfileByID, hfind] at hserve
    obtain ⟨profile', w', hrun, heq⟩ := h.eq_of_dump (f := ProfileHandler.profileJson) hserve
      (fun _ => by simp) (fun _ => Json.ofMembers_sorted (by simp))
    obtain ⟨r, -, hkey, hrow⟩ := getByID_eq_ok hrun
    refine Or.inr ⟨ht, ?_⟩
    rw [huserID _ heq, hrow]
    exact hkey
  | getContacts =>
    obtain ⟨contacts, -, -, heq⟩ := h.eq_of_dump
      (f := fun contacts : List Contact => .array (contacts.map ContactsHandler.contactJson)) hserve
      (fun _ => by simp) (sorted_array_map fun _ => Json.ofMembers_sorted (by simp))
    exact absurd heq (ne_profileJson rfl)
  | getFavorites =>
    obtain ⟨favorites, -, -, heq⟩ := h.eq_of_dump
      (f := fun favorites : List Favorite => .array (favorites.map FavoritesHandler.favoriteJson))
      hserve (fun _ => by simp) (sorted_array_map fun _ => Json.ofMembers_sorted (by simp))
    exact absurd heq (ne_profileJson rfl)
  | getPrivacy =>
    obtain ⟨settings, -, -, heq⟩ := h.eq_of_dump (f := PrivacyHandler.privacyJson) hserve
      (fun _ => by simp) (fun _ => Json.ofMembers_sorted (by simp))
    exact absurd heq (ne_profileJson (privacyJson_firstName settings))
  | getNotifications =>
    obtain ⟨settings, -, -, heq⟩ := h.eq_of_dump (f := NotificationsHandler.globalJson) hserve
      (fun _ => by simp) globalJson_sorted
    exact absurd heq (ne_profileJson (globalJson_firstName settings))
  | getChatNotifications =>
    simp only [HandlerId.body, NotificationsHandler.handleGetChatNotifications,
      Request.find_notifications ht] at hserve
    obtain ⟨settings, -, -, heq⟩ := h.eq_of_dump (f := NotificationsHandler.chatJson _) hserve
      (fun _ => by simp) (chatJson_sorted _)
    exact absurd heq (ne_profileJson (chatJson_firstName _ settings))
  | createProfile | updateProfile | uploadAvatar | deleteAvatar | addContact | deleteContact
  | updatePrivacy | addFavorite | removeFavorite | updateNotifications
  | updateChatNotifications => exact absurd (hm.symm.trans hid) (by decide)

lemma leadsTo_of_returnsProfile (hschema : env.db.schema = .migrations)
    (hstored : env.db.stored env.db.schema.idType userId = some k) (hquery : IsQuery query)
    (hm : read.method = .get) (ht : read.target = str "/" ++ (encode userId ++ query))
    (hnul : userId.NulFree) (h : ReturnsProfile env w k read) :
    LeadsTo env k userId query read := by
  obtain ⟨r, hr, hshows⟩ := h
  obtain ⟨-, rfl⟩ := Store.profile_mem hr
  rcases shows_profileJson hm hshows with ⟨hme, hkey⟩ | ⟨haccepts, hkey⟩
  · -- the caller reads the own profile
    rw [ht] at hme
    have htext : encode userId ++ query = str "me" := List.append_cancel_left hme
    obtain rfl : query = [] := by
      rcases hquery with rfl | ⟨rest, rfl, -⟩
      · rfl
      · have hmark : 0x3F ∈ str "me" := htext ▸ List.mem_append_right _ List.mem_cons_self
        exact absurd hmark (by decide)
    rw [List.append_nil] at htext
    have hunreserved : ∀ c ∈ userId, isUnreserved c = true :=
      PercentEncoding.unreserved_of_not_mem (by rw [htext]; decide)
    rw [PercentEncoding.encode_of_unreserved hunreserved] at htext
    exact ⟨rfl, hunreserved, by rw [htext]; decide, fun _ => hkey⟩
  · have hdrop : read.target.drop 1 = encode userId ++ query := by
      rw [ht]
      rfl
    rw [hdrop, idKey_of_visible hschema (encode_query_visible userId hquery)] at hkey
    obtain ⟨rfl, hunreserved⟩ :=
      unreserved_of_encode_eq hschema hnul hstored (Option.some.inj hkey)
    rw [List.append_nil, PercentEncoding.encode_of_unreserved hunreserved] at ht
    obtain ⟨-, -, hme, hcontacts, hfavorites, hnotifications⟩ := haccepts
    rw [ht] at hme hcontacts hfavorites hnotifications
    refine ⟨rfl, hunreserved, ?_, fun heq => absurd (heq ▸ rfl) hme⟩
    simp only [reservedWords, List.mem_cons, List.not_mem_nil, or_false, not_or]
    exact ⟨fun heq => hcontacts (heq ▸ rfl), fun heq => hfavorites (heq ▸ rfl),
      fun heq => hnotifications (heq ▸ rfl)⟩

end Profiles

/-! ## Contacts -/

section Contacts

variable {env : Env σ} {w : World σ} {contactId query k c : Bytes} {remove : Request}

/-- Without some contacts the tables meet the constraints as before. -/
lemma constraints_delete_contacts {st : Store} (h : st.Constraints) (hit : ContactRow → Bool) :
    ({ st with contacts := Table.delete hit st.contacts } : Store).Constraints where
  profiles_pkey := h.profiles_pkey
  profiles_username_key := h.profiles_username_key
  contacts_pkey := h.contacts_pkey.sublist (List.filter_sublist.map _)
  contacts_owner_id_fkey := fun r hr => h.contacts_owner_id_fkey r (List.mem_of_mem_filter hr)
  contacts_contact_id_fkey := fun r hr => h.contacts_contact_id_fkey r (List.mem_of_mem_filter hr)
  privacy_pkey := h.privacy_pkey
  privacy_user_id_fkey := h.privacy_user_id_fkey
  favorites_pkey := h.favorites_pkey
  favorites_user_id_fkey := h.favorites_user_id_fkey
  notification_pkey := h.notification_pkey
  notification_user_id_chat_id_key := h.notification_user_id_chat_id_key
  notification_user_id_fkey := h.notification_user_id_fkey

/-- A DELETE of a contact removes the row of the id in the path, and no other. -/
lemma hasContact_after_remove (hfault : env.fault w.statements = none)
    (hv : w.store.Valid env.db.schema) (hm : remove.method = .delete)
    (ht : str "/contacts/" <+: remove.target) (hby : IsBy env k remove) {x : Bytes}
    (hx : env.db.idKey (remove.target.drop 10) = some x) :
    (serve env w remove).2.store.HasContact k c ↔ w.store.HasContact k c ∧ c ≠ x := by
  have hid : remove.method = HandlerId.deleteContact.method := hm
  have hwrite : Query.removeContact.write env.db
      ([DbValue.string (extractUserID remove), .string (remove.target.drop 10)].map
        convertValueToPQXX) = some (.removeContact k x) :=
    Option.bind_eq_some_iff.mpr ⟨k, hby.2, Option.bind_eq_some_iff.mpr ⟨x, hx, rfl⟩⟩
  have hrun := run_executeModify (w := w.entering .deleteContact) hfault hwrite
    (constraints_delete_contacts hv.constraints _)
  have hcore : (do
      ContactsRepository.remove (extractUserID remove) (remove.target.drop 10)
      pure (jsonResponse 204 remove.version []) : Svc σ Response).run env
        (w.entering .deleteContact) = (.ok (jsonResponse 204 remove.version []), _) :=
    Prog.run_bind_ok hrun
  have hserve : (serve env w remove).2.store =
      { w.store with contacts := Table.delete (ContactRow.hasKey k x) w.store.contacts } := by
    rw [serve_eq_body hid ht (Or.inr hby.1)]
    simp only [HandlerId.body, ContactsHandler.handleDeleteContact, Request.find_contact ht]
    exact congrArg (fun res => res.2.store)
      (Prog.run_tryCatch_ok (s := w.entering .deleteContact) hcore)
  rw [hserve]
  constructor
  · rintro ⟨r, hr, rfl, rfl⟩
    obtain ⟨hmem, hkeep⟩ := List.mem_filter.mp hr
    refine ⟨⟨r, hmem, rfl, rfl⟩, fun heq => ?_⟩
    simp [ContactRow.hasKey, heq] at hkeep
  · rintro ⟨⟨r, hr, rfl, rfl⟩, hne⟩
    exact ⟨r, List.mem_filter.mpr ⟨hr, by simp [ContactRow.hasKey, hne]⟩, rfl, rfl⟩

end Contacts

/-- With text ids, and where the statement of the GET or the DELETE does not fail by itself, a
profile that was accepted is returned by a GET for the target made of its id and a query exactly
if the target leads to it, and a contact that was accepted is removed by a DELETE for the target
made of its id and a query exactly if the id is unreserved and there is no query. -/
theorem addresses_iff (env : Env σ) (hschema : env.db.schema = .migrations)
    (storage : σ) (requests : List Request)
    (hfault : env.fault (after env storage requests).statements = none) :
    (∀ userId : Bytes, userId ≠ [] → ProfileAccepted env (history env storage requests) userId →
      ∃ k, env.db.stored env.db.schema.idType userId = some k ∧
        ∀ (read : Request) (query : Bytes), IsQuery query → read.method = .get →
          read.target = str "/" ++ (encode userId ++ query) → extractUserID read ≠ [] →
          (LeadsTo env k userId query read →
            ReturnsProfile env (after env storage requests) k read) ∧
          (userId.NulFree → ReturnsProfile env (after env storage requests) k read →
            LeadsTo env k userId query read)) ∧
    ∀ k contactId : Bytes, ContactAccepted env (history env storage requests) k contactId →
      ∃ c, env.db.stored env.db.schema.idType contactId = some c ∧
        ∀ (remove : Request) (query : Bytes), IsQuery query → remove.method = .delete →
          remove.target = str "/contacts/" ++ (encode contactId ++ query) →
          IsBy env k remove →
          (query = [] ∧ (∀ b ∈ contactId, isUnreserved b = true) →
            ¬ (serve env (after env storage requests) remove).2.store.HasContact k c) ∧
          (contactId.NulFree → (after env storage requests).store.HasContact k c →
            ¬ (serve env (after env storage requests) remove).2.store.HasContact k c →
            query = [] ∧ ∀ b ∈ contactId, isUnreserved b = true) := by
  have hv := after_valid env storage requests
  constructor
  · intro userId hid haccepted
    obtain ⟨k, hstored, hcreated⟩ := haccepted.created
    -- no request deletes a profile
    obtain ⟨r, hr⟩ : ∃ r, (after env storage requests).store.profile k = some r := by
      have hrow := (refines_profiles env).holds env storage requests k
      rw [← Option.isSome_iff_exists, ← Option.isSome_map, hrow, Option.isSome_iff_ne_none, Ne,
        profileAfter_eq_none]
      exact not_not_intro hcreated
    exact ⟨k, hstored, fun read query hquery hm ht huser =>
      ⟨returnsProfile_of_leadsTo hschema hfault hv hid hstored hr hm ht huser,
        leadsTo_of_returnsProfile hschema hstored hquery hm ht⟩⟩
  · intro k contactId haccepted
    obtain ⟨c, hstored⟩ := haccepted.stored
    refine ⟨c, hstored, fun remove query hquery hm ht hby => ?_⟩
    have hdrop : remove.target.drop 10 = encode contactId ++ query := by
      rw [ht]
      rfl
    have hkey : env.db.idKey (remove.target.drop 10) = some (encode contactId ++ query) := by
      rw [hdrop]
      exact idKey_of_visible hschema (encode_query_visible contactId hquery)
    rw [hasContact_after_remove hfault hv hm (ht ▸ List.prefix_append _ _) hby hkey]
    constructor
    · rintro ⟨rfl, hunreserved⟩ ⟨-, hne⟩
      rw [List.append_nil, PercentEncoding.encode_of_unreserved hunreserved] at hne
      exact hne ((stored_idType hschema (unreserved_nulFree hunreserved) hstored).2
        (unreserved_ne_blank hunreserved))
    · intro hnul hhas hgone
      have heq : encode contactId ++ query = c :=
        (Decidable.not_not.mp fun hne => hgone ⟨hhas, hne⟩).symm
      exact unreserved_of_encode_eq hschema hnul hstored heq

/-- Alice adds Bob to her contacts. -/
def addressRun : List Request :=
  [requestBy (str "gateway") .post (str "/internal/profiles")
      (str "\x7b\"user_id\":\"alice\"\x7d"),
    requestBy (str "gateway") .post (str "/internal/profiles")
      (str "\x7b\"user_id\":\"bob\"\x7d"),
    requestBy (str "alice") .post (str "/contacts") (str "\x7b\"contact_id\":\"bob\"\x7d")]

lemma addressRun_bob :
    ProfileAccepted (Env.standalone .migrations)
      (history (Env.standalone .migrations) () addressRun) (str "bob") :=
  ⟨_, _, .object [(str "user_id", .string (str "bob"))],
    List.mem_cons_of_mem _ List.mem_cons_self, rfl, rfl, rfl, rfl, rfl⟩

lemma addressRun_contact :
    ContactAccepted (Env.standalone .migrations)
      (history (Env.standalone .migrations) () addressRun) (str "alice") (str "bob") := by
  obtain ⟨response, hserve, hstatus⟩ : ∃ response,
      (serve (Env.standalone .migrations)
        (after (Env.standalone .migrations) () (addressRun.take 2))
        (requestBy (str "alice") .post (str "/contacts")
          (str "\x7b\"contact_id\":\"bob\"\x7d"))).1 = .ok response ∧ response.status = 201 :=
    ⟨_, rfl, rfl⟩
  have hhistory : history (Env.standalone .migrations) () addressRun = _ ++ [_] :=
    Mealy.trace_concat (World.start ()) (addressRun.take 2) (requestBy (str "alice") .post
      (str "/contacts") (str "\x7b\"contact_id\":\"bob\"\x7d"))
  rw [hserve] at hhistory
  rw [hhistory]
  exact ⟨_, response, .object [(str "contact_id", .string (str "bob"))],
    List.mem_append_right _ (List.mem_singleton.mpr rfl), rfl, rfl, hstatus, by decide, rfl, rfl⟩

/-- Bob is found under his id and removed under it. -/
theorem addresses_iff_bob :
    ReturnsProfile (Env.standalone .migrations) (after (Env.standalone .migrations) () addressRun)
        (str "bob") (requestBy (str "alice") .get (str "/bob") []) ∧
      ¬ (serve (Env.standalone .migrations) (after (Env.standalone .migrations) () addressRun)
        (requestBy (str "alice") .delete (str "/contacts/bob") [])).2.store.HasContact
          (str "alice") (str "bob") := by
  obtain ⟨hprofiles, hcontacts⟩ :=
    addresses_iff (Env.standalone .migrations) rfl () addressRun rfl
  obtain ⟨k, hk, hread⟩ := hprofiles (str "bob") (by decide) addressRun_bob
  obtain ⟨c, hc, hremove⟩ := hcontacts (str "alice") (str "bob") addressRun_contact
  have hbob : (Env.standalone .migrations).db.stored
      (Env.standalone .migrations).db.schema.idType (str "bob") = some (str "bob") := by decide
  obtain rfl := Option.some.inj (hbob.symm.trans hk)
  obtain rfl := Option.some.inj (hbob.symm.trans hc)
  have hplain : ∀ b ∈ str "bob", isUnreserved b := List.all_eq_true.mp (by decide)
  constructor
  · refine (hread _ [] (Or.inl rfl) rfl rfl (by decide)).1 ⟨rfl, hplain, by decide, ?_⟩
    exact fun h => absurd h (by decide)
  · exact (hremove _ [] (Or.inl rfl) rfl rfl (by decide)).1 ⟨rfl, hplain⟩

/-- A user with a blank in the id. -/
def blankRun : List Request :=
  [requestBy (str "gateway") .post (str "/internal/profiles")
      (str "\x7b\"user_id\":\"a b\"\x7d")]

/-- The profile is not found under the encoding of its id, and no profile with a query. -/
theorem encoded_not_found :
    (ProfileAccepted (Env.standalone .migrations)
        (history (Env.standalone .migrations) () blankRun) (str "a b") ∧
      AnswersWith (Env.standalone .migrations) (after (Env.standalone .migrations) () blankRun)
        (requestBy (str "alice") .get (str "/" ++ encode (str "a b")) []) 404) ∧
    ProfileAccepted (Env.standalone .migrations)
        (history (Env.standalone .migrations) () addressRun) (str "bob") ∧
      AnswersWith (Env.standalone .migrations) (after (Env.standalone .migrations) () addressRun)
        (requestBy (str "alice") .get (str "/" ++ (encode (str "bob") ++ str "?full=1")) [])
        404 :=
  ⟨⟨⟨_, _, .object [(str "user_id", .string (str "a b"))], List.mem_cons_self, rfl, rfl, rfl, rfl,
      rfl⟩, ⟨_, _, rfl, rfl⟩⟩, addressRun_bob, ⟨_, _, rfl, rfl⟩⟩

end ProfileService
