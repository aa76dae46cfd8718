/-
# Which writes the constraints let through

The tables after the write of an event meet the primary keys, the unique usernames and the
foreign keys exactly when the directory admits the event.
-/
import ProfileService.Addresses
import ProfileService.Contents

namespace ProfileService

section Constraints

variable {st : Store} (schema : Schema) (now : ℤ) (rowId : Uuid)

/-- A profile can always be created: a row that is there is kept, and a new one has no
username. -/
lemma createProfile_constraints (hc : st.Constraints) (user : Bytes) :
    (Write.apply schema now rowId (.createProfile user) st).Constraints := by
  -- nobody loses the profile
  have hids : ∀ k, st.HasProfile k →
      (Write.apply schema now rowId (.createProfile user) st).HasProfile k := by
    intro k hk
    have hmakes : (Event.created user).Makes st (.createProfile user) := rfl
    rw [← Store.member_directory] at hk ⊢
    rw [Write.directory_apply hc hmakes]
    exact hk.apply _
  refine { hc with
    profiles_pkey := ?_, profiles_username_key := ?_
    contacts_owner_id_fkey := fun r hr => hids _ (hc.contacts_owner_id_fkey r hr)
    contacts_contact_id_fkey := fun r hr => hids _ (hc.contacts_contact_id_fkey r hr)
    privacy_user_id_fkey := fun r hr => hids _ (hc.privacy_user_id_fkey r hr)
    favorites_user_id_fkey := fun r hr => hids _ (hc.favorites_user_id_fkey r hr)
    notification_user_id_fkey := fun r hr => hids _ (hc.notification_user_id_fkey r hr) }
  · have hnodup := hc.profiles_pkey
    rw [← List.filterMap_eq_map] at hnodup ⊢
    refine Table.nodup_insertOrUpdate (fun r _ => rfl) (fun hany r hr x hx => ?_) hnodup
    obtain rfl : user = x := Option.some.inj hx
    intro hid
    -- a row of the user would have been updated
    rw [List.any_eq_false] at hany
    exact hany r hr (beq_iff_eq.mpr (Option.some.inj hid))
  · exact Table.nodup_insertOrUpdate (fun r _ => rfl) (fun _ r _ x hx => absurd hx (by simp))
      hc.profiles_username_key

/-- A contact is written exactly when both users have a profile. -/
lemma addContact_constraints (hc : st.Constraints) (owner contact contactAlias : Bytes) :
    (Write.apply schema now rowId (.addContact owner contact contactAlias) st).Constraints ↔
      st.HasProfile owner ∧ st.HasProfile contact := by
  constructor
  · intro h
    obtain ⟨r, hr, hhit⟩ : ∃ r ∈ (Write.apply schema now rowId
        (.addContact owner contact contactAlias) st).contacts,
        ContactRow.hasKey owner contact r = true := by
      refine Table.exists_hit_insertOrUpdate ?_ ?_ st.contacts
      · exact fun _ hr => hr
      · simp [ContactRow.hasKey]
    obtain ⟨rfl, rfl⟩ : r.ownerId = owner ∧ r.contactId = contact := by
      simpa [ContactRow.hasKey] using hhit
    exact ⟨h.contacts_owner_id_fkey r hr, h.contacts_contact_id_fkey r hr⟩
  · rintro ⟨howner, hcontact⟩
    refine { hc with
      contacts_pkey := ?_, contacts_owner_id_fkey := ?_, contacts_contact_id_fkey := ?_ }
    · have hnodup := hc.contacts_pkey
      rw [← List.filterMap_eq_map] at hnodup ⊢
      refine Table.nodup_insertOrUpdate (fun r _ => rfl) (fun hany r hr x hx => ?_) hnodup
      obtain rfl := Option.some.inj hx
      intro hkey
      obtain ⟨howner', hcontact'⟩ := Prod.mk.inj (Option.some.inj hkey)
      rw [List.any_eq_false] at hany
      exact hany r hr (by simp [ContactRow.hasKey, howner', hcontact'])
    · intro r hr
      rcases Table.mem_insertOrUpdate hr with hr | ⟨r', hr', -, rfl⟩ | rfl
      · exact hc.contacts_owner_id_fkey r hr
      · exact hc.contacts_owner_id_fkey r' hr'
      · exact howner
    · intro r hr
      rcases Table.mem_insertOrUpdate hr with hr | ⟨r', hr', -, rfl⟩ | rfl
      · exact hc.contacts_contact_id_fkey r hr
      · exact hc.contacts_contact_id_fkey r' hr'
      · exact hcontact

/-- A favourite is written exactly when the user has a profile. -/
lemma addFavorite_constraints (hc : st.Constraints) (user chat : Bytes) :
    (Write.apply schema now rowId (.addFavorite user chat) st).Constraints ↔
      st.HasProfile user := by
  rw [Write.apply, Table.insertOrIgnore_eq]
  constructor
  · intro h
    obtain ⟨r, hr, hhit⟩ : ∃ r ∈ Table.insertOrUpdate (FavoriteRow.hasKey user chat) id
        ⟨user, chat, now⟩ st.favorites, FavoriteRow.hasKey user chat r = true := by
      refine Table.exists_hit_insertOrUpdate ?_ ?_ st.favorites
      · exact fun _ hr => hr
      · simp [FavoriteRow.hasKey]
    obtain ⟨rfl, -⟩ : r.userId = user ∧ r.chatId = chat := by
      simpa [FavoriteRow.hasKey] using hhit
    exact h.favorites_user_id_fkey r hr
  · intro huser
    refine { hc with favorites_pkey := ?_, favorites_user_id_fkey := ?_ }
    · have hnodup := hc.favorites_pkey
      rw [← List.filterMap_eq_map] at hnodup ⊢
      refine Table.nodup_insertOrUpdate (fun r _ => rfl) (fun hany r hr x hx => ?_) hnodup
      obtain rfl := Option.some.inj hx
      intro hkey
      obtain ⟨huser', hchat⟩ := Prod.mk.inj (Option.some.inj hkey)
      rw [List.any_eq_false] at hany
      exact hany r hr (by simp [FavoriteRow.hasKey, huser', hchat])
    · intro r hr
      rw [← Table.insertOrIgnore_eq] at hr
      rcases Table.mem_insertOrIgnore hr with hr | rfl
      · exact hc.favorites_user_id_fkey r hr
      · exact huser

/-- A favourite can always be removed. -/
lemma removeFavorite_constraints (hc : st.Constraints) (user chat : Bytes) :
    (Write.apply schema now rowId (.removeFavorite user chat) st).Constraints :=
  { hc with
    favorites_pkey := hc.favorites_pkey.sublist (List.filter_sublist.map _)
    favorites_user_id_fkey := fun r hr =>
      hc.favorites_user_id_fkey r (List.mem_of_mem_filter hr) }

/-- Settings for a chat refer to a profile. -/
lemma hasProfile_of_upsert {user chat : Bytes} {muted : Bool} {mutedUntil : Option ℤ}
    (h : (Write.apply schema now rowId (.upsertNotifications user chat muted mutedUntil)
      st).Constraints) : st.HasProfile user := by
  obtain ⟨r, hr, hhit⟩ : ∃ r ∈ (Write.apply schema now rowId
      (.upsertNotifications user chat muted mutedUntil) st).notificationSettings,
      NotificationRow.hasKey user (some chat) r = true := by
    refine Table.exists_hit_insertOrUpdate ?_ ?_ st.notificationSettings
    · exact fun _ hr => hr
    · simp [NotificationRow.hasKey]
  obtain ⟨rfl, -⟩ : r.userId = user ∧ r.chatId = some chat := by
    simpa [NotificationRow.hasKey] using hhit
  exact h.notification_user_id_fkey r hr

end Constraints

/-- The events whose write may take a new id for a row. -/
def Event.IsSettings : Event → Prop
  | .notificationsSet .. => True
  | _ => False

/-- The constraints let the write of an event through exactly when the directory admits it, if
the id for a new row of settings is not taken. -/
theorem Write.constraints_apply {st : Store} (hc : st.Constraints) {event : Event} {wr : Write}
    (hmakes : event.Makes st wr) (schema : Schema) (now : ℤ) {rowId : Uuid}
    (hid : event.IsSettings → ∀ r ∈ st.notificationSettings, r.id ≠ rowId.1) :
    (wr.apply schema now rowId st).Constraints ↔ st.directory.Admits event := by
  cases event with
  | created user =>
    obtain rfl : wr = .createProfile user := hmakes
    exact iff_of_true (createProfile_constraints _ _ _ hc user) True.intro
  | patched user firstName lastName username bio =>
    obtain ⟨r, hr, rfl, rfl⟩ := hmakes
    have hmember : st.directory.Member r.userId :=
      Store.member_directory.mpr (List.mem_map.mpr ⟨r, hr, rfl⟩)
    rw [updateProfile_constraints hc hr, Directory.Admits, Store.free_directory hc,
      Store.username_directory hc hr]
    exact ⟨fun h => ⟨hmember, h⟩, And.right⟩
  | avatarSet user avatarUrl =>
    obtain rfl : wr = .updateAvatarURL avatarUrl user := hmakes
    exact iff_of_true (updateAvatarURL_constraints hc _ _ _ _ _) True.intro
  | contactAdded owner contact contactAlias =>
    obtain rfl : wr = .addContact owner contact contactAlias := hmakes
    rw [addContact_constraints _ _ _ hc, Directory.Admits, Store.member_directory,
      Store.member_directory]
  | contactRemoved owner contact =>
    obtain rfl : wr = .removeContact owner contact := hmakes
    exact iff_of_true (constraints_delete_contacts hc _) True.intro
  | favoriteAdded user chat =>
    obtain rfl : wr = .addFavorite user chat := hmakes
    rw [addFavorite_constraints _ _ _ hc, Directory.Admits, Store.member_directory]
  | favoriteRemoved user chat =>
    obtain rfl : wr = .removeFavorite user chat := hmakes
    exact iff_of_true (removeFavorite_constraints _ _ _ hc user chat) True.intro
  | privacySet user profileVisibility lastSeenVisibility avatarVisibility =>
    obtain rfl : wr = .updatePrivacy user profileVisibility lastSeenVisibility avatarVisibility :=
      hmakes
    rw [updatePrivacy_constraints hc, Directory.Admits, Store.member_directory]
  | notificationsSet user chat muted mutedUntil =>
    obtain rfl : wr = .upsertNotifications user chat muted mutedUntil := hmakes
    rw [Directory.Admits, Store.member_directory]
    exact ⟨hasProfile_of_upsert schema now rowId, fun h =>
      upsert_constraints hc h fun _ => hid True.intro⟩

/-- Whatever id a new row has, what the constraints let through the directory admits. -/
lemma Write.admits_of_constraints {st : Store} (hc : st.Constraints) {event : Event} {wr : Write}
    (hmakes : event.Makes st wr) {schema : Schema} {now : ℤ} {rowId : Uuid}
    (h : (wr.apply schema now rowId st).Constraints) : st.directory.Admits event := by
  by_cases hset : event.IsSettings
  · cases event with
    | notificationsSet user chat muted mutedUntil =>
      obtain rfl : wr = .upsertNotifications user chat muted mutedUntil := hmakes
      exact Store.member_directory.mpr (hasProfile_of_upsert schema now rowId h)
    | created | patched | avatarSet | contactAdded | contactRemoved | favoriteAdded
    | favoriteRemoved | privacySet => exact hset.elim
  · exact (Write.constraints_apply hc hmakes schema now fun h => absurd h hset).mp h

end ProfileService
