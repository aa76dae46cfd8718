/-
# The tables as a directory

`Store.directory` forgets of the tables the ids of rows, the times and the order.  The write of
an event does to the directory what the event does, and the tables it leaves meet the
constraints exactly when the directory admits the event.
-/
import ProfileService.AvatarObjects
import ProfileService.Chats
import ProfileService.Directory
import ProfileService.Lib.Keyed
import ProfileService.Patch
import ProfileService.PrivacySettings

namespace ProfileService

variable {σ : Type}

/-! ## The directory of the tables -/

/-- What a row of `profiles` says. -/
def ProfileRow.card (r : ProfileRow) : Card where
  firstName := r.firstName.getD []
  lastName := r.lastName.getD []
  username := r.username
  bio := r.bio.getD []
  avatarUrl := r.avatarUrl.getD []

/-- The alias in a row of `contacts`. -/
def ContactRow.shownAlias (r : ContactRow) : Bytes := r.contactAlias.getD []

/-- What the tables keep for a user. -/
def Store.account (st : Store) (k : Bytes) : Account where
  card := (st.profile k).map ProfileRow.card
  contacts c := (st.contacts.find? (ContactRow.hasKey k c)).map ContactRow.shownAlias
  favorites c := (st.favorites.find? (FavoriteRow.hasKey k c)).isSome
  privacy := (st.privacyOf k).map PrivacyRow.visibilities
  notifications c := (st.notifications k (some c)).map NotificationRow.settings

/-- The tables as a directory. -/
def Store.directory (st : Store) : Directory := st.account

section Keys

lemma ProfileRow.selects : Table.Selects ProfileRow.hasId fun r => some r.userId := fun k r => by
  simp [ProfileRow.hasId]

lemma ContactRow.selects : Table.Selects (fun k : Bytes × Bytes => ContactRow.hasKey k.1 k.2)
    fun r => some (r.ownerId, r.contactId) := fun k r => by
  simp [ContactRow.hasKey, Prod.ext_iff]

lemma FavoriteRow.selects : Table.Selects (fun k : Bytes × Bytes => FavoriteRow.hasKey k.1 k.2)
    fun r => some (r.userId, r.chatId) := fun k r => by
  simp [FavoriteRow.hasKey, Prod.ext_iff]

lemma PrivacyRow.selects : Table.Selects PrivacyRow.hasUser fun r => some r.userId := fun k r => by
  simp [PrivacyRow.hasUser]

lemma NotificationRow.selects :
    Table.Selects (fun k : Bytes × Bytes => NotificationRow.hasKey k.1 (some k.2))
      NotificationRow.key := fun k r => by
  simp only [NotificationRow.hasKey, NotificationRow.key, Bool.and_eq_true, beq_iff_eq,
    Option.map_eq_some_iff, Prod.ext_iff]
  constructor
  · rintro ⟨huser, hchat⟩
    exact ⟨k.2, hchat, huser, rfl⟩
  · rintro ⟨c, hchat, huser, rfl⟩
    exact ⟨huser, hchat⟩

end Keys

/-- A user with a row is a member. -/
lemma Store.member_directory {st : Store} {k : Bytes} :
    st.directory.Member k ↔ st.HasProfile k := by
  rw [Directory.Member, directory, account, Option.isSome_map, profile, List.find?_isSome,
    HasProfile, List.mem_map]
  simp [ProfileRow.hasId]

/-- The username of a member is the one in the row. -/
lemma Store.username_directory {st : Store} (hc : st.Constraints) {r : ProfileRow}
    (hr : r ∈ st.profiles) : (st.directory r.userId).username = r.username := by
  simp [directory, account, Account.username, Store.profile_of_mem hc hr, ProfileRow.card]

/-- A username is free when no other row has it. -/
lemma Store.free_directory {st : Store} (hc : st.Constraints) {user username : Bytes} :
    st.directory.Free user username ↔
      ∀ r ∈ st.profiles, r.userId ≠ user → r.username ≠ some username := by
  constructor
  · intro h r hr hne hname
    exact h r.userId hne ((Store.username_directory hc hr).trans hname)
  · intro h other hne hname
    obtain ⟨c, hcard, husername⟩ := Option.bind_eq_some_iff.mp hname
    obtain ⟨r, hr, rfl⟩ := Option.map_eq_some_iff.mp hcard
    obtain ⟨hmem, rfl⟩ := Store.profile_mem hr
    exact h r hmem hne husername

/-! ## The write of an event -/

section Tables

/-- Maps from pairs that differ at one pair, as maps from the second parts. -/
lemma funext_pair {α β : Type} (f : α → β) {g g' : Bytes × Bytes → α} {user c : Bytes} {x : α}
    (h : ∀ k, g' k = if k = (user, c) then x else g k) (k : Bytes) :
    (fun a => f (g' (k, a))) =
      if k = user then Function.update (fun a => f (g (k, a))) c (f x)
      else fun a => f (g (k, a)) := by
  by_cases hk : k = user
  · rw [if_pos hk]
    funext a
    rw [h, Function.update_apply, hk]
    by_cases ha : a = c
    · rw [if_pos (by rw [ha]), if_pos ha]
    · rw [if_neg (by simp [ha]), if_neg ha]
  · rw [if_neg hk]
    funext a
    rw [h, if_neg (by simp [hk])]

variable {st : Store} {user : Bytes}

/-- Other profiles: the row of one user is another. -/
lemma Store.account_profiles {t : List ProfileRow} {x : Option ProfileRow}
    {g : Option Card → Option Card}
    (hfind : ∀ k, t.find? (ProfileRow.hasId k) =
      if k = user then x else st.profile k)
    (hcard : x.map ProfileRow.card = g ((st.profile user).map ProfileRow.card)) (k : Bytes) :
    ({ st with profiles := t } : Store).account k =
      if k = user then { st.account k with card := g (st.account k).card } else st.account k := by
  have hrow : ({ st with profiles := t } : Store).profile k =
      if k = user then x else st.profile k := hfind k
  by_cases hk : k = user
  · rw [if_pos hk] at hrow ⊢
    refine Account.ext ?_ rfl rfl rfl rfl
    rw [account, hrow, hcard, hk]
    rfl
  · rw [if_neg hk] at hrow ⊢
    refine Account.ext ?_ rfl rfl rfl rfl
    rw [account, hrow]
    rfl

/-- Other contacts: the row under one key is another. -/
lemma Store.account_contacts {contact : Bytes} {t : List ContactRow} {x : Option ContactRow}
    (hfind : ∀ k : Bytes × Bytes, t.find? (ContactRow.hasKey k.1 k.2) =
      if k = (user, contact) then x else st.contacts.find? (ContactRow.hasKey k.1 k.2))
    (k : Bytes) :
    ({ st with contacts := t } : Store).account k =
      if k = user then
        { st.account k with
          contacts := Function.update (st.account k).contacts contact
            (x.map ContactRow.shownAlias) }
      else st.account k := by
  have hfield := funext_pair (Option.map ContactRow.shownAlias) hfind k
  split_ifs with hk
  · exact Account.ext rfl (hfield.trans (if_pos hk)) rfl rfl rfl
  · exact Account.ext rfl (hfield.trans (if_neg hk)) rfl rfl rfl

/-- Other favourites: the row under one key is another. -/
lemma Store.account_favorites {chat : Bytes} {t : List FavoriteRow} {x : Option FavoriteRow}
    (hfind : ∀ k : Bytes × Bytes, t.find? (FavoriteRow.hasKey k.1 k.2) =
      if k = (user, chat) then x else st.favorites.find? (FavoriteRow.hasKey k.1 k.2))
    (k : Bytes) :
    ({ st with favorites := t } : Store).account k =
      if k = user then
        { st.account k with
          favorites := Function.update (st.account k).favorites chat x.isSome }
      else st.account k := by
  have hfield := funext_pair Option.isSome hfind k
  split_ifs with hk
  · exact Account.ext rfl rfl (hfield.trans (if_pos hk)) rfl rfl
  · exact Account.ext rfl rfl (hfield.trans (if_neg hk)) rfl rfl

/-- Other privacy settings: the row of one user is another. -/
lemma Store.account_privacySettings {t : List PrivacyRow} {x : Option PrivacyRow}
    (hfind : ∀ k, t.find? (PrivacyRow.hasUser k) = if k = user then x else st.privacyOf k)
    (k : Bytes) :
    ({ st with privacySettings := t } : Store).account k =
      if k = user then { st.account k with privacy := x.map PrivacyRow.visibilities }
      else st.account k := by
  have hrow : ({ st with privacySettings := t } : Store).privacyOf k =
      if k = user then x else st.privacyOf k := hfind k
  by_cases hk : k = user
  · rw [if_pos hk] at hrow ⊢
    refine Account.ext rfl rfl rfl ?_ rfl
    rw [account, hrow]
  · rw [if_neg hk] at hrow ⊢
    refine Account.ext rfl rfl rfl ?_ rfl
    rw [account, hrow]
    rfl

/-- Other notification settings: the row under one key is another. -/
lemma Store.account_notificationSettings {chat : Bytes} {t : List NotificationRow}
    {x : Option NotificationRow}
    (hfind : ∀ k : Bytes × Bytes, t.find? (NotificationRow.hasKey k.1 (some k.2)) =
      if k = (user, chat) then x else st.notifications k.1 (some k.2)) (k : Bytes) :
    ({ st with notificationSettings := t } : Store).account k =
      if k = user then
        { st.account k with
          notifications := Function.update (st.account k).notifications chat
            (x.map NotificationRow.settings) }
      else st.account k := by
  have hfield := funext_pair (Option.map NotificationRow.settings) hfind k
  split_ifs with hk
  · exact Account.ext rfl rfl rfl rfl (hfield.trans (if_pos hk))
  · exact Account.ext rfl rfl rfl rfl (hfield.trans (if_neg hk))

end Tables

section Write

variable {st : Store} {event : Event} {wr : Write}

/-- The account of a user after the write of an event. -/
lemma Write.account_apply (hc : st.Constraints) (hmakes : event.Makes st wr) (schema : Schema)
    (now : ℤ) (rowId : Uuid) (k : Bytes) :
    (wr.apply schema now rowId st).account k =
      if k = event.owner then event.change (st.account k) else st.account k := by
  cases event with
  | created user =>
    obtain rfl : wr = .createProfile user := hmakes
    refine Store.account_profiles (g := fun c => some (c.getD .blank))
      (Table.find?_insertOrUpdate_key ProfileRow.selects ?_ ?_ st.profiles) ?_ k
    · exact fun _ => rfl
    · rfl
    · rw [Store.profile]
      cases st.profiles.find? (ProfileRow.hasId user) <;> rfl
  | patched user firstName lastName username bio =>
    obtain ⟨r, hr, rfl, rfl⟩ := hmakes
    refine Store.account_profiles (Table.find?_update_key ProfileRow.selects ?_ st.profiles _) ?_ k
    · exact fun _ => rfl
    · have hrow := Store.profile_of_mem hc hr
      rw [Store.profile] at hrow ⊢
      rw [hrow]
      rfl
  | avatarSet user avatarUrl =>
    obtain rfl : wr = .updateAvatarURL avatarUrl user := hmakes
    refine Store.account_profiles (Table.find?_update_key ProfileRow.selects ?_ st.profiles _) ?_ k
    · exact fun _ => rfl
    · rw [Store.profile]
      cases st.profiles.find? (ProfileRow.hasId user) <;> rfl
  | contactAdded owner contact contactAlias =>
    obtain rfl : wr = .addContact owner contact contactAlias := hmakes
    refine (Store.account_contacts
      (Table.find?_insertOrUpdate_key ContactRow.selects ?_ ?_ st.contacts) k).trans ?_
    · exact fun _ => rfl
    · rfl
    · cases st.contacts.find? (ContactRow.hasKey owner contact) <;> rfl
  | contactRemoved owner contact =>
    obtain rfl : wr = .removeContact owner contact := hmakes
    exact Store.account_contacts
      (Table.find?_delete_key ContactRow.selects st.contacts (owner, contact)) k
  | favoriteAdded user chat =>
    obtain rfl : wr = .addFavorite user chat := hmakes
    rw [Write.apply, Table.insertOrIgnore_eq]
    refine Store.account_favorites
      (Table.find?_insertOrUpdate_key FavoriteRow.selects ?_ ?_ st.favorites) k
    · exact fun _ => rfl
    · rfl
  | favoriteRemoved user chat =>
    obtain rfl : wr = .removeFavorite user chat := hmakes
    exact Store.account_favorites
      (Table.find?_delete_key FavoriteRow.selects st.favorites (user, chat)) k
  | privacySet user profileVisibility lastSeenVisibility avatarVisibility =>
    obtain rfl : wr = .updatePrivacy user profileVisibility lastSeenVisibility avatarVisibility :=
      hmakes
    refine (Store.account_privacySettings
      (Table.find?_insertOrUpdate_key PrivacyRow.selects ?_ ?_ st.privacySettings) k).trans ?_
    · exact fun _ => rfl
    · rfl
    · cases st.privacySettings.find? (PrivacyRow.hasUser user) <;> rfl
  | notificationsSet user chat muted mutedUntil =>
    obtain rfl : wr = .upsertNotifications user chat muted mutedUntil := hmakes
    refine (Store.account_notificationSettings
      (Table.find?_insertOrUpdate_key NotificationRow.selects ?_ ?_
        st.notificationSettings) k).trans ?_
    · exact fun _ => rfl
    · rfl
    · cases st.notificationSettings.find? (NotificationRow.hasKey user (some chat)) <;> rfl

/-- The write of an event does to the directory what the event does. -/
theorem Write.directory_apply (hc : st.Constraints) (hmakes : event.Makes st wr) (schema : Schema)
    (now : ℤ) (rowId : Uuid) :
    (wr.apply schema now rowId st).directory = st.directory.apply event := by
  funext k
  rw [Store.directory, Write.account_apply hc hmakes]
  by_cases hk : k = event.owner
  · rw [if_pos hk, Directory.apply_of_owner _ hk.symm, Store.directory]
  · rw [if_neg hk, Directory.apply_of_ne _ hk, Store.directory]

end Write

end ProfileService
