/-
# What the lists show

On a database that is up, the answers to `GET /contacts`, `GET /favorites` and
`GET /me/privacy` as functions of the tables.
-/
import ProfileService.Reads

namespace ProfileService

open Bytes (str)

variable {σ : Type}

/-- The contacts of a user as the server returns them. -/
def Store.contactsOf (st : Store) (k : Bytes) : List ContactRow :=
  Table.orderByDesc ContactRow.createdAt (st.contacts.filter (ContactRow.hasOwner k))

/-- The favourites of a user as the server returns them. -/
def Store.favoritesOf (st : Store) (k : Bytes) : List FavoriteRow :=
  Table.orderByDesc FavoriteRow.createdAt (st.favorites.filter (FavoriteRow.hasUser k))

/-- The privacy settings of a user. -/
def Store.privacyOf (st : Store) (k : Bytes) : Option PrivacyRow :=
  st.privacySettings.find? (PrivacyRow.hasUser k)

lemma Store.contactsOf_mem {st : Store} {k : Bytes} {r : ContactRow} (h : r ∈ st.contactsOf k) :
    r ∈ st.contacts ∧ r.ownerId = k := by
  obtain ⟨hmem, hk⟩ := List.mem_filter.mp (((List.perm_insertionSort _ _).mem_iff).mp h)
  exact ⟨hmem, beq_iff_eq.mp hk⟩

lemma Store.favoritesOf_mem {st : Store} {k : Bytes} {r : FavoriteRow}
    (h : r ∈ st.favoritesOf k) : r ∈ st.favorites ∧ r.userId = k := by
  obtain ⟨hmem, hk⟩ := List.mem_filter.mp (((List.perm_insertionSort _ _).mem_iff).mp h)
  exact ⟨hmem, beq_iff_eq.mp hk⟩

/-- The readings of the clock that come next. -/
def clockReadings (env : Env σ) (w : World σ) (n : ℕ) : List TimePoint :=
  (List.range n).map fun i => env.clock (w.readings + i)

@[simp] lemma clockReadings_length (env : Env σ) (w : World σ) (n : ℕ) :
    (clockReadings env w n).length = n := by
  rw [clockReadings, List.length_map, List.length_range]

lemma clockReadings_succ (env : Env σ) (w : World σ) (n : ℕ) :
    clockReadings env w (n + 1) =
      env.clock w.readings :: clockReadings env (w.afterReadings 1) n := by
  have hnext : ∀ i, w.readings + (i + 1) = (w.afterReadings 1).readings + i := fun i => by
    rw [World.afterReadings, Nat.add_assoc, Nat.add_comm i 1]
  rw [clockReadings, List.range_succ_eq_map, List.map_cons, List.map_map, Nat.add_zero]
  exact congrArg _ (List.map_congr_left fun i _ => congrArg env.clock (hnext i))

/-- Rows are mapped one after the other, each with a reading of the clock. -/
lemma run_mapM_readings {env : Env σ} {ρ τ : Type} {result : ρ → Row} {mapRow : Row → Svc σ τ}
    {make : ρ → TimePoint → τ}
    (hmap : ∀ r w, (mapRow (result r)).run env w =
      (.ok (make r (env.clock w.readings)), w.afterReadings 1)) (rows : List ρ) (w : World σ) :
    ((rows.map result).mapM mapRow).run env w =
      (.ok (rows.zipWith make (clockReadings env w rows.length)),
        w.afterReadings rows.length) := by
  induction rows generalizing w with
  | nil => rfl
  | cons r rows ih =>
    rw [List.map_cons, List.mapM_cons, Prog.run_bind_ok (hmap r w), Prog.run_bind_ok (ih _),
      List.length_cons, clockReadings_succ, List.zipWith_cons_cons]
    simp only [Prog.run_pure, World.afterReadings, Nat.add_assoc, Nat.add_comm 1]

/-- What is made of rows and as many values. -/
lemma forall₂_zipWith {α β γ : Type} {R : α → γ → Prop} {f : α → β → γ}
    (h : ∀ a b, R a (f a b)) {l : List α} {l' : List β} (hlength : l.length = l'.length) :
    List.Forall₂ R l (l.zipWith f l') := by
  induction l generalizing l' with
  | nil => exact List.Forall₂.nil
  | cons a l ih =>
    cases l' with
    | nil => exact absurd hlength (by simp)
    | cons b l' => exact List.Forall₂.cons (h a b) (ih (Nat.succ.inj hlength))

/-- A property of what a list is related to. -/
lemma forall_of_forall₂ {α β : Type} {R : α → β → Prop} {p : β → Prop} {l : List α} {l' : List β}
    (h : List.Forall₂ R l l') (hp : ∀ a ∈ l, ∀ b, R a b → p b) : ∀ b ∈ l', p b := by
  induction h with
  | nil => simp
  | cons hab _ ih =>
    intro b hb
    rcases List.mem_cons.mp hb with rfl | hb
    · exact hp _ (by simp) _ hab
    · exact ih (fun a ha => hp a (by simp [ha])) b hb

/-- The answer to a request that reads rows and prints a list of what it makes of them. -/
lemma shows_list {env : Env σ} {w : World σ} {request : Request} {id : HandlerId} {τ ρ : Type}
    {read : Svc σ (List τ)} {json : τ → Json} {answer : Exn → Svc σ Response}
    {IsOf : ρ → τ → Prop} {rows : List ρ} {ShowsRow : ρ → Json → Prop}
    (hserve : serve env w request = (do
      enter id
      tryCatch (do
        let items ← read
        dumpResponse 200 request (.array (items.map json))) answer : Svc σ Response).run env w)
    (hread : ∃ items w', read.run env (w.entering id) = (.ok items, w') ∧
      List.Forall₂ IsOf rows items)
    (hsorted : ∀ item, (json item).Sorted)
    (hutf8 : ∀ r ∈ rows, ∀ item, IsOf r item → (json item).Utf8)
    (hshows : ∀ r ∈ rows, ∀ item, IsOf r item → ShowsRow r (json item)) :
    ∃ js, Shows env w request (.array js) ∧ List.Forall₂ ShowsRow rows js := by
  obtain ⟨items, w', hrun, hof⟩ := hread
  refine ⟨items.map json, shows_of_run hserve (Prog.run_bind_ok hrun) ?_ ?_, ?_⟩
  · rw [Json.Utf8, Json.utf8Items_iff, List.forall_mem_map]
    exact forall_of_forall₂ hof hutf8
  · rw [Json.Sorted, Json.sortedItems_iff, List.forall_mem_map]
    exact fun item _ => hsorted item
  · rw [List.forall₂_map_right_iff]
    have hmem : List.Forall₂ (fun r item => r ∈ rows ∧ IsOf r item) rows items :=
      (List.forall₂_and_left _ _).mpr ⟨fun _ h => h, hof⟩
    exact hmem.imp fun r item h => hshows r h.1 item h.2

section Lists

variable {env : Env σ} {w : World σ} {request : Request} {k : Bytes}

/-! ## Contacts -/

/-- The contact is made of the row: the time is not. -/
structure Contact.IsOf (r : ContactRow) (contact : Contact) : Prop where
  ownerID : contact.ownerID = r.ownerId
  contactID : contact.contactID = r.contactId
  contactAlias : contact.contactAlias = r.contactAlias

/-- The contact that is made of a row, with a reading of the clock. -/
def ContactRow.read (r : ContactRow) (t : TimePoint) : Contact :=
  ⟨r.ownerId, r.contactId, r.contactAlias, t⟩

lemma ContactRow.read_isOf (r : ContactRow) (t : TimePoint) : (r.read t).IsOf r :=
  ⟨rfl, rfl, rfl⟩

lemma run_listContacts {w : World σ} (hfault : env.fault w.statements = none) {u : Bytes}
    (hk : env.db.idKey u = some k) :
    (ContactsRepository.list u).run env w =
      (.ok ((w.store.contactsOf k).zipWith ContactRow.read
          (clockReadings env w (w.store.contactsOf k).length)),
        (w.afterStatement w.store).afterReadings (w.store.contactsOf k).length) := by
  have hselect : Query.listContacts.select env.db w.store ([.string u].map convertValueToPQXX) =
      some ((w.store.contactsOf k).map (ContactRow.result env.db)) :=
    Option.bind_eq_some_iff.mpr ⟨k, hk, rfl⟩
  rw [ContactsRepository.list, Prog.run_bind_ok (run_executeSelect hfault rfl hselect)]
  exact run_mapM_readings (fun r w' => run_contactMapRow env w' env.db r) _ _

/-- The value shows a contact of the user with its alias. -/
structure ShowsContact (k : Bytes) (entry : Bytes × Bytes) (j : Json) : Prop where
  ownerId : j.member? (str "owner_id") = some (.string k)
  contactId : j.member? (str "contact_id") = some (.string entry.1)
  contactAlias : j.member? (str "alias") = some (.string entry.2)

/-- What is shown of a row: the contact and the alias, a null alias as an empty one. -/
def ContactRow.entry (r : ContactRow) : Bytes × Bytes := (r.contactId, r.contactAlias.getD [])

lemma contactJson_shows {r : ContactRow} {contact : Contact} (h : contact.IsOf r) :
    ShowsContact r.ownerId r.entry (ContactsHandler.contactJson contact) := by
  obtain ⟨howner, hcontact, halias⟩ := h
  constructor
  · rw [ContactsHandler.contactJson, Json.member?_ofMembers, howner]
    rfl
  · rw [ContactsHandler.contactJson, Json.member?_ofMembers, hcontact]
    rfl
  · rw [ContactsHandler.contactJson, Json.member?_ofMembers, halias]
    rfl

lemma contactJson_utf8 {schema : Schema} {st : Store} (hv : st.Valid schema) {r : ContactRow}
    (hr : r ∈ st.contacts) {contact : Contact} (h : contact.IsOf r) :
    (ContactsHandler.contactJson contact).Utf8 := by
  obtain ⟨howner, hcontact, halias⟩ := hv.typed.contacts r hr
  refine Json.ofMembers_utf8 ?_
  simp only [List.forall_mem_cons, Json.utf8_string, Json.utf8_integer, h.ownerID, h.contactID,
    h.contactAlias]
  exact ⟨⟨rfl, howner.utf8⟩, ⟨rfl, hcontact.utf8⟩,
    ⟨rfl, (halias.getD (Schema.nameType_holds_nil schema)).utf8⟩, ⟨rfl, trivial⟩,
    by simp⟩

/-- `GET /contacts` shows the contacts of the user in their order. -/
lemma getContacts_shows (hfault : env.fault w.statements = none)
    (hv : w.store.Valid env.db.schema) (hm : request.method = .get)
    (ht : request.target = str "/contacts")
    (hby : IsBy env k request) :
    ∃ js, Shows env w request (.array js) ∧
      List.Forall₂ (ShowsContact k) ((w.store.contactsOf k).map ContactRow.entry) js := by
  obtain ⟨hu, hk⟩ := hby
  have hid : request.method = HandlerId.getContacts.method := hm
  simp only [List.forall₂_map_left_iff]
  refine shows_list (serve_eq_body hid ht (Or.inr hu))
    ⟨_, _, run_listContacts (w := w.entering .getContacts) hfault hk,
      forall₂_zipWith ContactRow.read_isOf (clockReadings_length _ _ _).symm⟩ ?_ ?_ ?_
  · exact fun contact => Json.ofMembers_sorted (by simp)
  · exact fun r hr contact h => contactJson_utf8 hv (Store.contactsOf_mem hr).1 h
  · intro r hr contact h
    rw [← (Store.contactsOf_mem hr).2]
    exact contactJson_shows h

/-! ## Favourites -/

/-- The favourite is made of the row: the time is not. -/
structure Favorite.IsOf (r : FavoriteRow) (fav : Favorite) : Prop where
  userID : fav.userID = r.userId
  chatID : fav.chatID = r.chatId

/-- The favourite that is made of a row, with a reading of the clock. -/
def FavoriteRow.read (r : FavoriteRow) (t : TimePoint) : Favorite := ⟨r.userId, r.chatId, t⟩

lemma FavoriteRow.read_isOf (r : FavoriteRow) (t : TimePoint) : (r.read t).IsOf r := ⟨rfl, rfl⟩

lemma run_listFavorites {w : World σ} (hfault : env.fault w.statements = none) {u : Bytes}
    (hk : env.db.idKey u = some k) :
    (FavoriteRepository.list u).run env w =
      (.ok ((w.store.favoritesOf k).zipWith FavoriteRow.read
          (clockReadings env w (w.store.favoritesOf k).length)),
        (w.afterStatement w.store).afterReadings (w.store.favoritesOf k).length) := by
  have hselect : Query.listFavorites.select env.db w.store ([.string u].map convertValueToPQXX) =
      some ((w.store.favoritesOf k).map (FavoriteRow.result env.db)) :=
    Option.bind_eq_some_iff.mpr ⟨k, hk, rfl⟩
  rw [FavoriteRepository.list, Prog.run_bind_ok (run_executeSelect hfault rfl hselect)]
  exact run_mapM_readings (fun r w' => run_favoriteMapRow env w' env.db r) _ _

/-- The value shows a favourite of the user. -/
structure ShowsFavorite (k chat : Bytes) (j : Json) : Prop where
  userId : j.member? (str "user_id") = some (.string k)
  chatId : j.member? (str "chat_id") = some (.string chat)

lemma favoriteJson_shows {r : FavoriteRow} {fav : Favorite} (h : fav.IsOf r) :
    ShowsFavorite r.userId r.chatId (FavoritesHandler.favoriteJson fav) := by
  obtain ⟨huser, hchat⟩ := h
  constructor
  · rw [FavoritesHandler.favoriteJson, Json.member?_ofMembers, huser]
    rfl
  · rw [FavoritesHandler.favoriteJson, Json.member?_ofMembers, hchat]
    rfl

lemma favoriteJson_utf8 {schema : Schema} {st : Store} (hv : st.Valid schema) {r : FavoriteRow}
    (hr : r ∈ st.favorites) {fav : Favorite} (h : fav.IsOf r) :
    (FavoritesHandler.favoriteJson fav).Utf8 := by
  obtain ⟨huser, hchat⟩ := hv.typed.favorites r hr
  refine Json.ofMembers_utf8 ?_
  simp only [List.forall_mem_cons, Json.utf8_string, Json.utf8_integer, h.userID, h.chatID]
  exact ⟨⟨rfl, huser.utf8⟩, ⟨rfl, hchat.utf8⟩, ⟨rfl, trivial⟩, by simp⟩

/-- `GET /favorites` shows the favourites of the user in their order. -/
lemma getFavorites_shows (hfault : env.fault w.statements = none)
    (hv : w.store.Valid env.db.schema) (hm : request.method = .get)
    (ht : request.target = str "/favorites")
    (hby : IsBy env k request) :
    ∃ js, Shows env w request (.array js) ∧
      List.Forall₂ (ShowsFavorite k) ((w.store.favoritesOf k).map FavoriteRow.chatId) js := by
  obtain ⟨hu, hk⟩ := hby
  have hid : request.method = HandlerId.getFavorites.method := hm
  simp only [List.forall₂_map_left_iff]
  refine shows_list (serve_eq_body hid ht (Or.inr hu))
    ⟨_, _, run_listFavorites (w := w.entering .getFavorites) hfault hk,
      forall₂_zipWith FavoriteRow.read_isOf (clockReadings_length _ _ _).symm⟩ ?_ ?_ ?_
  · exact fun fav => Json.ofMembers_sorted (by simp)
  · exact fun r hr fav h => favoriteJson_utf8 hv (Store.favoritesOf_mem hr).1 h
  · intro r hr fav h
    rw [← (Store.favoritesOf_mem hr).2]
    exact favoriteJson_shows h

/-! ## Privacy -/

/-- Who may see the profile, the last visit and the avatar of a user. -/
structure Visibilities where
  profile : Bytes
  lastSeen : Bytes
  avatar : Bytes
deriving DecidableEq

/-- What holds for a user who did not set anything. -/
def Visibilities.everyone : Visibilities := ⟨str "everyone", str "everyone", str "everyone"⟩

/-- The value shows these settings. -/
structure ShowsVisibilities (visibilities : Visibilities) (j : Json) : Prop where
  profile : j.member? (str "profile_visibility") = some (.string visibilities.profile)
  lastSeen : j.member? (str "last_seen_visibility") = some (.string visibilities.lastSeen)
  avatar : j.member? (str "avatar_visibility") = some (.string visibilities.avatar)

/-- The settings in a row. -/
def PrivacyRow.visibilities (r : PrivacyRow) : Visibilities :=
  ⟨r.profileVisibility, r.lastSeenVisibility, r.avatarVisibility⟩

/-- What `PrivacyRepository::Get` makes of the row, or of there being none. -/
def readPrivacy (userId : Bytes) : Option PrivacyRow → PrivacySettings
  | some r => ⟨r.userId, r.profileVisibility, r.lastSeenVisibility, r.avatarVisibility⟩
  | none => ⟨userId, str "everyone", str "everyone", str "everyone"⟩

lemma run_getPrivacy {w : World σ} (hfault : env.fault w.statements = none) {u : Bytes}
    (hk : env.db.idKey u = some k) :
    (PrivacyRepository.get u).run env w =
      (.ok (readPrivacy u (w.store.privacyOf k)), w.afterStatement w.store) := by
  have hselect : Query.getPrivacy.select env.db w.store ([.string u].map convertValueToPQXX) =
      some ((w.store.privacySettings.filter (PrivacyRow.hasUser k)).map
        (PrivacyRow.result env.db)) := Option.bind_eq_some_iff.mpr ⟨k, hk, rfl⟩
  rw [PrivacyRepository.get, Prog.run_bind_ok (run_executeSelect hfault rfl hselect),
    Store.privacyOf, ← List.head?_filter]
  -- the first row is mapped
  cases w.store.privacySettings.filter (PrivacyRow.hasUser k) with
  | nil => rfl
  | cons r rs => exact run_privacySettingsMapRow env _ env.db r

lemma privacyJson_utf8 {schema : Schema} {st : Store} (hv : st.Valid schema) {u : Bytes}
    (hu : u.ValidUtf8) (k : Bytes) :
    (PrivacyHandler.privacyJson (readPrivacy u (st.privacyOf k))).Utf8 := by
  refine Json.ofMembers_utf8 ?_
  simp only [List.forall_mem_cons, Json.utf8_string]
  rcases hr : st.privacyOf k with _ | r
  · have heveryone : (str "everyone").ValidUtf8 := rfl
    exact ⟨⟨rfl, hu⟩, ⟨rfl, heveryone⟩, ⟨rfl, heveryone⟩,
      ⟨rfl, heveryone⟩, by simp⟩
  · obtain ⟨huser, hprofile, hlastSeen, havatar⟩ :=
      hv.typed.privacySettings r (List.mem_of_find?_eq_some hr)
    exact ⟨⟨rfl, huser.utf8⟩, ⟨rfl, hprofile.utf8⟩, ⟨rfl, hlastSeen.utf8⟩,
      ⟨rfl, havatar.utf8⟩, by simp⟩

lemma privacyJson_shows (u : Bytes) (r : Option PrivacyRow) :
    ShowsVisibilities ((r.map PrivacyRow.visibilities).getD .everyone)
      (PrivacyHandler.privacyJson (readPrivacy u r)) := by
  cases r <;> constructor <;> rw [PrivacyHandler.privacyJson, Json.member?_ofMembers] <;> rfl

/-- `GET /me/privacy` shows the settings of the user, or the default. -/
lemma getPrivacy_shows (hfault : env.fault w.statements = none)
    (hv : w.store.Valid env.db.schema) (hm : request.method = .get)
    (ht : request.target = str "/me/privacy")
    (hby : IsBy env k request) :
    ∃ j, Shows env w request j ∧
      ShowsVisibilities (((w.store.privacyOf k).map PrivacyRow.visibilities).getD .everyone) j := by
  obtain ⟨hu, hk⟩ := hby
  have hid : request.method = HandlerId.getPrivacy.method := hm
  have hget := run_getPrivacy (w := w.entering .getPrivacy) hfault hk
  exact ⟨_, shows_of_run (serve_eq_body hid ht (Or.inr hu)) (Prog.run_bind_ok hget)
    (privacyJson_utf8 hv (Database.valid_of_compared hk) k) (Json.ofMembers_sorted (by simp)),
    privacyJson_shows _ _⟩

end Lists

end ProfileService
