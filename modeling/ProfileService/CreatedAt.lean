/-
# The times of creation

In every table `created_at` is the time of the request that inserted the row that is there: a
second POST for a user or a contact, a PATCH and a PUT of settings leave it as it was, and after a
removal the next insertion counts.  So the rows of a table say themselves since when each of them
is there.
-/
import ProfileService.Contents
import ProfileService.Lib.Births
import ProfileService.UpdatedAt

namespace ProfileService

open Table (Fate since RowsSince)

variable {σ : Type}

/-! ## What an event does to a row -/

/-- What an event does to the row of a user. -/
def ProfileRow.fate (k : Bytes) : Event × ℤ → Fate
  | (.created user, t) => if k = user then .inserted t else .kept
  | _ => .kept

/-- What an event does to the row of an owner and a contact. -/
def ContactRow.fate (k : Bytes × Bytes) : Event × ℤ → Fate
  | (.contactAdded owner contact _, t) => if k = (owner, contact) then .inserted t else .kept
  | (.contactRemoved owner contact, _) => if k = (owner, contact) then .removed else .kept
  | _ => .kept

/-- What an event does to the row of a user and a chat. -/
def FavoriteRow.fate (k : Bytes × Bytes) : Event × ℤ → Fate
  | (.favoriteAdded user chat, t) => if k = (user, chat) then .inserted t else .kept
  | (.favoriteRemoved user chat, _) => if k = (user, chat) then .removed else .kept
  | _ => .kept

@[inherit_doc ProfileRow.fate]
def PrivacyRow.fate (k : Bytes) : Event × ℤ → Fate
  | (.privacySet user _ _ _, t) => if k = user then .inserted t else .kept
  | _ => .kept

@[inherit_doc FavoriteRow.fate]
def NotificationRow.fate (k : Bytes × Bytes) : Event × ℤ → Fate
  | (.notificationsSet user chat _ _, t) => if k = (user, chat) then .inserted t else .kept
  | _ => .kept

/-- The rows of the five tables are dated; the two tables of settings have the column in one of the
schemas. -/
structure Births (schema : Schema) (es : List (Event × ℤ)) (st : Store) : Prop where
  profiles : Table.Dated ProfileRow.hasId (fun r => some r.createdAt) some ProfileRow.fate es
    st.profiles
  contacts : Table.Dated (fun k : Bytes × Bytes => ContactRow.hasKey k.1 k.2)
    (fun r => some r.createdAt) some ContactRow.fate es st.contacts
  favorites : Table.Dated (fun k : Bytes × Bytes => FavoriteRow.hasKey k.1 k.2)
    (fun r => some r.createdAt) some FavoriteRow.fate es st.favorites
  privacySettings : Table.Dated PrivacyRow.hasUser PrivacyRow.createdAt schema.stamp
    PrivacyRow.fate es st.privacySettings
  notificationSettings :
    Table.Dated (fun k : Bytes × Bytes => NotificationRow.hasKey k.1 (some k.2))
      NotificationRow.createdAt schema.stamp NotificationRow.fate es st.notificationSettings

/-! ## The write of an event -/

section Write

variable {schema : Schema} {es : List (Event × ℤ)} {st : Store} {event : Event} {wr : Write}
  {now : ℤ} {rowId : Uuid}

/-- The write of an event dates the row that it inserts and no other. -/
lemma Births.write (h : Births schema es st) (hmakes : event.Makes st wr) :
    Births schema (es ++ [(event, now)]) (wr.apply schema now rowId st) := by
  obtain ⟨hp, hc, hf, hv, hn⟩ := h
  cases event with
  | created user =>
    obtain rfl := hmakes
    refine ⟨hp.insertOrUpdate ProfileRow.selects user (fun _ => rfl) ?_ ?_ ?_ ?_,
      hc.keep fun _ => rfl, hf.keep fun _ => rfl, hv.keep fun _ => rfl,
      hn.keep fun _ => rfl⟩ <;> intros <;> rfl
  | patched user firstName lastName username bio =>
    obtain ⟨_, -, -, rfl⟩ := hmakes
    refine ⟨hp.update ProfileRow.selects (fun _ => rfl) ?_ ?_ user, hc.keep fun _ => rfl,
      hf.keep fun _ => rfl, hv.keep fun _ => rfl, hn.keep fun _ => rfl⟩ <;> intros <;> rfl
  | avatarSet user avatarUrl =>
    obtain rfl := hmakes
    refine ⟨hp.update ProfileRow.selects (fun _ => rfl) ?_ ?_ user, hc.keep fun _ => rfl,
      hf.keep fun _ => rfl, hv.keep fun _ => rfl, hn.keep fun _ => rfl⟩ <;> intros <;> rfl
  | contactAdded owner contact contactAlias =>
    obtain rfl := hmakes
    refine ⟨hp.keep fun _ => rfl, hc.insertOrUpdate ContactRow.selects (owner, contact)
      (fun _ => rfl) ?_ ?_ ?_ ?_, hf.keep fun _ => rfl, hv.keep fun _ => rfl,
      hn.keep fun _ => rfl⟩ <;> intros <;> rfl
  | contactRemoved owner contact =>
    obtain rfl := hmakes
    exact ⟨hp.keep fun _ => rfl, hc.delete ContactRow.selects (owner, contact) fun _ => rfl,
      hf.keep fun _ => rfl, hv.keep fun _ => rfl, hn.keep fun _ => rfl⟩
  | favoriteAdded user chat =>
    obtain rfl := hmakes
    rw [Write.apply, Table.insertOrIgnore_eq]
    refine ⟨hp.keep fun _ => rfl, hc.keep fun _ => rfl, hf.insertOrUpdate FavoriteRow.selects
      (user, chat) (fun _ => rfl) ?_ ?_ ?_ ?_, hv.keep fun _ => rfl,
      hn.keep fun _ => rfl⟩ <;> intros <;> rfl
  | favoriteRemoved user chat =>
    obtain rfl := hmakes
    exact ⟨hp.keep fun _ => rfl, hc.keep fun _ => rfl,
      hf.delete FavoriteRow.selects (user, chat) fun _ => rfl, hv.keep fun _ => rfl,
      hn.keep fun _ => rfl⟩
  | privacySet user profileVisibility lastSeenVisibility avatarVisibility =>
    obtain rfl := hmakes
    refine ⟨hp.keep fun _ => rfl, hc.keep fun _ => rfl, hf.keep fun _ => rfl,
      hv.insertOrUpdate PrivacyRow.selects user (fun _ => rfl) ?_ ?_ ?_ ?_,
      hn.keep fun _ => rfl⟩ <;> intros <;> rfl
  | notificationsSet user chat muted mutedUntil =>
    obtain rfl := hmakes
    refine ⟨hp.keep fun _ => rfl, hc.keep fun _ => rfl, hf.keep fun _ => rfl,
      hv.keep fun _ => rfl, hn.insertOrUpdate NotificationRow.selects (user, chat)
        (fun _ => rfl) ?_ ?_ ?_ ?_⟩ <;> intros <;> rfl

end Write

/-! ## Runs -/

lemma births_after (env : Env σ) (storage : σ) (requests : List Request) :
    Births env.db.schema (timedEvents env storage requests) (after env storage requests).store := by
  induction requests using List.reverseRecOn with
  | nil => exact ⟨.nil, .nil, .nil, .nil, .nil⟩
  | append_singleton before request ih =>
    rcases timedEvents_write env storage before request with ⟨-, htimed, hstore⟩ |
      ⟨event, wr, n, rowId, response, w', -, -, -, hmakes, htimed, hstore⟩
    · rw [htimed, hstore]
      exact ih
    · rw [htimed, hstore]
      exact ih.write hmakes

/-- In every state of a run, the rows of the tables are those that were inserted and not removed
since, and `created_at` is the time of the request that inserted each of them; every row of
notification settings is one of a chat. -/
theorem created_at (env : Env σ) (storage : σ) (requests : List Request) :
    RowsSince (fun r => some r.userId) (fun r => some r.createdAt) some ProfileRow.fate
      (timedEvents env storage requests) (after env storage requests).store.profiles ∧
    RowsSince (fun r => some (r.ownerId, r.contactId)) (fun r => some r.createdAt) some
      ContactRow.fate (timedEvents env storage requests)
      (after env storage requests).store.contacts ∧
    RowsSince (fun r => some (r.userId, r.chatId)) (fun r => some r.createdAt) some
      FavoriteRow.fate (timedEvents env storage requests)
      (after env storage requests).store.favorites ∧
    RowsSince (fun r => some r.userId) PrivacyRow.createdAt env.db.schema.stamp PrivacyRow.fate
      (timedEvents env storage requests) (after env storage requests).store.privacySettings ∧
    RowsSince NotificationRow.key NotificationRow.createdAt env.db.schema.stamp
      NotificationRow.fate (timedEvents env storage requests)
      (after env storage requests).store.notificationSettings ∧
    ∀ r ∈ (after env storage requests).store.notificationSettings, r.key ≠ none := by
  have h := births_after env storage requests
  have hc := (after_valid env storage requests).constraints
  refine ⟨h.profiles.rowsSince ProfileRow.selects ?_, h.contacts.rowsSince ContactRow.selects ?_,
    h.favorites.rowsSince FavoriteRow.selects ?_,
    h.privacySettings.rowsSince PrivacyRow.selects ?_,
    h.notificationSettings.rowsSince NotificationRow.selects hc.notification_user_id_chat_id_key,
    fun r hr hkey => ?_⟩
  · exact List.filterMap_eq_map ▸ hc.profiles_pkey
  · exact List.filterMap_eq_map ▸ hc.contacts_pkey
  · exact List.filterMap_eq_map ▸ hc.favorites_pkey
  · exact List.filterMap_eq_map ▸ hc.privacy_pkey
  · obtain ⟨hchat, -⟩ := (after_chatRowsOnly env storage requests).rows r hr
    exact hchat (Option.map_eq_none_iff.mp hkey)

end ProfileService
