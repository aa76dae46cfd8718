/-
# Users do not write each other's rows

Every write has an owner and leaves the rows of everybody else alone.  The owner of an
event is the user that the header of the request names, except for the creation of a
profile, which is for the user of the body.
-/
import ProfileService.Reachable

namespace ProfileService

open Bytes (str)

variable {σ : Type}

/-! ## Owners -/

/-- The user whose rows a write concerns. -/
def Write.owner : Write → Bytes
  | .createProfile user => user
  | .updateProfile _ _ _ _ user => user
  | .updateAvatarURL _ user => user
  | .addContact owner _ _ => owner
  | .removeContact owner _ => owner
  | .addFavorite user _ => user
  | .removeFavorite user _ => user
  | .updatePrivacy user _ _ _ => user
  | .upsertNotifications user _ _ _ => user

/-- The user whose rows an event concerns. -/
def Event.owner : Event → Bytes
  | .created user => user
  | .patched user _ _ _ _ => user
  | .avatarSet user _ => user
  | .contactAdded owner _ _ => owner
  | .contactRemoved owner _ => owner
  | .favoriteAdded user _ => user
  | .favoriteRemoved user _ => user
  | .privacySet user _ _ _ => user
  | .notificationsSet user _ _ _ => user

lemma Event.Makes.owner {st : Store} {event : Event} {wr : Write} (h : event.Makes st wr) :
    wr.owner = event.owner := by
  cases event with
  | patched user firstName lastName username bio =>
    obtain ⟨r, -, -, rfl⟩ := h
    rfl
  | created | avatarSet | contactAdded | contactRemoved | favoriteAdded | favoriteRemoved
  | privacySet | notificationsSet =>
    obtain rfl : _ = _ := h
    rfl

/-- The rows whose user satisfies `p` are the same in all five tables. -/
structure SameRows (p : Bytes → Bool) (st st' : Store) : Prop where
  profiles : st'.profiles.filter (fun r => p r.userId) = st.profiles.filter fun r => p r.userId
  contacts : st'.contacts.filter (fun r => p r.ownerId) = st.contacts.filter fun r => p r.ownerId
  privacySettings : st'.privacySettings.filter (fun r => p r.userId) =
    st.privacySettings.filter fun r => p r.userId
  favorites : st'.favorites.filter (fun r => p r.userId) =
    st.favorites.filter fun r => p r.userId
  notificationSettings : st'.notificationSettings.filter (fun r => p r.userId) =
    st.notificationSettings.filter fun r => p r.userId

lemma SameRows.refl (p : Bytes → Bool) (st : Store) : SameRows p st st :=
  ⟨rfl, rfl, rfl, rfl, rfl⟩

/-- A write leaves the rows of other users alone. -/
theorem Write.apply_sameRows {p : Bytes → Bool} {wr : Write} (hp : p wr.owner = false)
    (schema : Schema) (now : ℤ) (rowId : Uuid) (st : Store) :
    SameRows p st (wr.apply schema now rowId st) := by
  cases wr with
  | createProfile user =>
    refine ⟨Table.filter_insertOrUpdate (p := fun r : ProfileRow => p r.userId)
      (fun r hr => ?_) hp _, rfl, rfl, rfl, rfl⟩
    obtain rfl : r.userId = user := by simpa [ProfileRow.hasId] using hr
    exact ⟨hp, hp⟩
  | updateProfile firstName lastName username bio user =>
    refine ⟨Table.filter_update (fun r hr => ?_) _, rfl, rfl, rfl, rfl⟩
    obtain rfl : r.userId = user := by simpa [ProfileRow.hasId] using hr
    exact ⟨hp, hp⟩
  | updateAvatarURL avatarUrl user =>
    refine ⟨Table.filter_update (fun r hr => ?_) _, rfl, rfl, rfl, rfl⟩
    obtain rfl : r.userId = user := by simpa [ProfileRow.hasId] using hr
    exact ⟨hp, hp⟩
  | addContact owner contact contactAlias =>
    refine ⟨rfl, Table.filter_insertOrUpdate (p := fun r : ContactRow => p r.ownerId)
      (fun r hr => ?_) hp _, rfl, rfl, rfl⟩
    obtain ⟨rfl, -⟩ : r.ownerId = owner ∧ r.contactId = contact := by
      simpa [ContactRow.hasKey] using hr
    exact ⟨hp, hp⟩
  | removeContact owner contact =>
    refine ⟨rfl, Table.filter_delete (fun r hr => ?_) _, rfl, rfl, rfl⟩
    obtain ⟨rfl, -⟩ : r.ownerId = owner ∧ r.contactId = contact := by
      simpa [ContactRow.hasKey] using hr
    exact hp
  | addFavorite user chat =>
    exact ⟨rfl, rfl, rfl,
      Table.filter_insertOrIgnore (p := fun r : FavoriteRow => p r.userId) hp _, rfl⟩
  | removeFavorite user chat =>
    refine ⟨rfl, rfl, rfl, Table.filter_delete (fun r hr => ?_) _, rfl⟩
    obtain ⟨rfl, -⟩ : r.userId = user ∧ r.chatId = chat := by
      simpa [FavoriteRow.hasKey] using hr
    exact hp
  | updatePrivacy user profileVisibility lastSeenVisibility avatarVisibility =>
    refine ⟨rfl, rfl, Table.filter_insertOrUpdate (p := fun r : PrivacyRow => p r.userId)
      (fun r hr => ?_) hp _, rfl, rfl⟩
    obtain rfl : r.userId = user := by simpa [PrivacyRow.hasUser] using hr
    exact ⟨hp, hp⟩
  | upsertNotifications user chat muted mutedUntil =>
    refine ⟨rfl, rfl, rfl, rfl, Table.filter_insertOrUpdate
      (p := fun r : NotificationRow => p r.userId) (fun r hr => ?_) hp _⟩
    obtain ⟨rfl, -⟩ : r.userId = user ∧ r.chatId = some chat := by
      simpa [NotificationRow.hasKey] using hr
    exact ⟨hp, hp⟩

/-! ## The owner of a request -/

/-- The database takes `u` for the id `v`: as a value to store, or to compare with. -/
def Database.Names (db : Database) (u v : Bytes) : Prop :=
  db.stored db.schema.idType u = some v ∨ db.idKey u = some v

instance (db : Database) (u v : Bytes) : Decidable (db.Names u v) :=
  inferInstanceAs (Decidable (_ ∨ _))

/-- The user of the header owns what a request does, unless it creates a profile. -/
lemma names_owner {env : Env σ} {request : Request} {response : Response} {event : Event}
    (h : eventOf env (request, .ok response) = some event)
    (hne : ¬ (request.method = .post ∧ request.target = str "/internal/profiles")) :
    env.db.Names (extractUserID request) event.owner := by
  have hstored : ∀ {v}, storedUser env request = some v →
      env.db.Names (extractUserID request) v := Or.inl
  have hcompared : ∀ {v}, comparedUser env request = some v →
      env.db.Names (extractUserID request) v := Or.inr
  have hset : ∀ {chatId}, notificationsSetEvent env request chatId = some event →
      env.db.Names (extractUserID request) event.owner := by
    intro chatId h
    simp only [notificationsSetEvent, Option.bind_eq_bind, Option.bind_eq_some_iff,
      Option.some.injEq] at h
    obtain ⟨j, -, user, hu, chat, -, muted, -, mutedUntil, -, rfl⟩ := h
    exact hstored hu
  simp only [eventOf] at h
  split at h
  swap
  · exact absurd h (by simp)
  unfold requestedEvent at h
  split at h
  · rename_i hm
    rw [if_neg fun ht => hne ⟨hm, ht⟩] at h
    split_ifs at h
    · simp only [uploadedEvent, Option.bind_eq_bind, Option.bind_eq_some_iff,
        Option.some.injEq] at h
      obtain ⟨user, hu, j, -, url, -, avatarUrl, -, rfl⟩ := h
      exact hcompared hu
    · simp only [contactAddedEvent, Option.bind_eq_bind, Option.bind_eq_some_iff,
        Option.some.injEq] at h
      obtain ⟨j, -, owner, hu, contactId, -, contact, -, contactAlias, -, rfl⟩ := h
      exact hstored hu
    · simp only [favoriteAddedEvent, Option.bind_eq_bind, Option.bind_eq_some_iff,
        Option.some.injEq] at h
      obtain ⟨user, hu, chat, -, rfl⟩ := h
      exact hstored hu
  · split_ifs at h
    simp only [patchedEvent, Option.bind_eq_bind, Option.bind_eq_some_iff,
      Option.some.injEq] at h
    obtain ⟨j, -, user, hu, firstName, -, lastName, -, username, -, bio, -, rfl⟩ := h
    exact hcompared hu
  · split_ifs at h
    · simp only [privacySetEvent, Option.bind_eq_bind, Option.bind_eq_some_iff,
        Option.some.injEq] at h
      obtain ⟨j, -, user, hu, profile, -, lastSeen, -, avatar, -, rfl⟩ := h
      exact hstored hu
    · exact hset h
    · exact hset h
  · split_ifs at h
    · simp only [avatarDeletedEvent, Option.bind_eq_bind, Option.bind_eq_some_iff,
        Option.some.injEq] at h
      obtain ⟨user, hu, rfl⟩ := h
      exact hcompared hu
    · simp only [contactRemovedEvent, Option.bind_eq_bind, Option.bind_eq_some_iff,
        Option.some.injEq] at h
      obtain ⟨owner, hu, contact, -, rfl⟩ := h
      exact hcompared hu
    · simp only [favoriteRemovedEvent, Option.bind_eq_bind, Option.bind_eq_some_iff,
        Option.some.injEq] at h
      obtain ⟨user, hu, chat, -, rfl⟩ := h
      exact hcompared hu
  · exact absurd h (by simp)

/-! ## Isolation -/

/-- The event of a creation. -/
lemma eventOf_create {env : Env σ} {request : Request} {response : Response} {event : Event}
    (h : eventOf env (request, .ok response) = some event) (hm : request.method = .post)
    (ht : request.target = str "/internal/profiles") :
    ∃ user, bodyUser env request = some user ∧ event = .created user := by
  simp only [eventOf] at h
  split at h
  · simp only [requestedEvent, hm, ht, if_true, createdEvent, Option.map_eq_some_iff] at h
    obtain ⟨user, hu, rfl⟩ := h
    exact ⟨user, hu, rfl⟩
  · exact absurd h (by simp)

/-- After any requests, a request other than `POST /internal/profiles` leaves all rows of
other users than the one of its header as they are and adds none, whatever the path, the
body and the rows contain.  `POST /internal/profiles` for the user of its body touches no
other table and no other row, and of a row that is there it changes only `updated_at`. -/
theorem writes_isolated (env : Env σ) (storage : σ) (requests : List Request)
    (request : Request) :
    let st := (after env storage requests).store
    let st' := (serve env (after env storage requests) request).2.store
    if request.method = .post ∧ request.target = str "/internal/profiles" then
      st'.contacts = st.contacts ∧ st'.privacySettings = st.privacySettings ∧
      st'.favorites = st.favorites ∧ st'.notificationSettings = st.notificationSettings ∧
      SameRows (fun v => bodyUser env request ≠ some v) st st' ∧
      ((∃ r ∈ st.profiles, bodyUser env request = some r.userId) →
        st'.profiles.map (fun r => { r with updatedAt := 0 }) =
          st.profiles.map fun r => { r with updatedAt := 0 })
    else SameRows (fun v => ¬ env.db.Names (extractUserID request) v) st st' := by
  intro st st'
  obtain ⟨response, w', hserve, heffect⟩ :=
    serve_effect env (after_valid env storage requests) request
  have hst' : st' = w'.store := by rw [← show _ = w' from congrArg Prod.snd hserve]
  rw [hst']
  cases heffect with
  | unchanged _ hstore _ =>
    rw [hstore]
    split
    · exact ⟨rfl, rfl, rfl, rfl, SameRows.refl _ _, fun _ => rfl⟩
    · exact SameRows.refl _ _
  | written event wr n _ _ hevent hmakes _ hstore _ =>
    rw [hstore]
    split
    · rename_i hcreate
      obtain ⟨user, huser, rfl⟩ := eventOf_create hevent hcreate.1 hcreate.2
      obtain rfl : wr = .createProfile user := hmakes
      refine ⟨rfl, rfl, rfl, rfl, Write.apply_sameRows (by simp [Write.owner, huser]) _ _ _ _,
        ?_⟩
      rintro ⟨r, hr, hid⟩
      have hany : st.profiles.any (ProfileRow.hasId user) = true := by
        refine List.any_eq_true.mpr ⟨r, hr, ?_⟩
        simpa [ProfileRow.hasId] using (Option.some.inj (huser.symm.trans hid)).symm
      simp only [Write.apply, Table.insertOrUpdate]
      rw [if_pos hany]
      refine Table.map_update ?_ _
      intro r _
      rfl
    · rename_i hne
      refine Write.apply_sameRows ?_ _ _ _ _
      rw [hmakes.owner]
      simpa using names_owner hevent hne

end ProfileService
