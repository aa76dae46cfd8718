/-
# The database

The two schemas of the repository, `docker/init.sql` and `migrations/001_init.sql`, the
rows of the five tables and the constraints both schemas declare.  What the server does
with the text of a parameter before it reaches a column is the business of the server
and its driver: it is a parameter of the model, with the two facts that are documented
of it.
-/
import ProfileService.Lib.ColumnType
import ProfileService.Lib.Table

namespace ProfileService

open Bytes (str ValidUtf8 NulFree)

/-- The PostgreSQL server and its driver. -/
structure Postgres where
  /-- The text that arrives for a parameter; `none` when the statement is refused. -/
  receive : Bytes → Option Bytes
  /-- A parameter that is not valid UTF-8 is refused, and no text contains a NUL. -/
  receive_valid : ∀ {s v}, receive s = some v → s.ValidUtf8 ∧ v.ValidUtf8 ∧ v.NulFree
  /-- NUL-free UTF-8 arrives verbatim. -/
  receive_verbatim : ∀ {s}, s.ValidUtf8 → s.NulFree → receive s = some s
  /-- `timestamptz_in` in the time zone of the session, in microseconds. -/
  timestamptzIn : Bytes → Option ℤ
  /-- `timestamptz_out` in the time zone of the session. -/
  timestamptzOut : ℤ → Bytes

/-- The two schema definitions of the repository. -/
inductive Schema
  /-- `docker/init.sql`. -/
  | docker
  /-- `migrations/001_init.sql`. -/
  | migrations
deriving DecidableEq

/-- The labels of `visibility_type`. -/
def visibilityLabels : List Bytes := [str "everyone", str "contacts", str "nobody"]

/-- The type of `user_id`, `owner_id`, `contact_id` and `chat_id`. -/
def Schema.idType : Schema → ColumnType
  | .docker => .uuid
  | .migrations => .varchar 255

/-- The type of `first_name`, `last_name` and `alias`. -/
def Schema.nameType : Schema → ColumnType
  | .docker => .varchar 100
  | .migrations => .varchar 255

/-- The type of `username`. -/
def Schema.usernameType : Schema → ColumnType
  | .docker => .varchar 64
  | .migrations => .varchar 255

/-- The type of the three visibilities. -/
def Schema.visibilityType : Schema → ColumnType
  | .docker => .enum visibilityLabels
  | .migrations => .varchar 50

/-- The type of the `id` of `notification_settings`. -/
def Schema.rowIdType : Schema → ColumnType
  | .docker => .uuid
  | .migrations => .varchar 36

lemma Schema.nameType_holds_nil (schema : Schema) : schema.nameType.Holds [] := by
  cases schema <;> exact ColumnType.holds_nil_varchar _

lemma Schema.usernameType_holds_nil (schema : Schema) : schema.usernameType.Holds [] := by
  cases schema <;> exact ColumnType.holds_nil_varchar _

/-- The columns that only the migrations schema has, or `none`. -/
def Schema.stamp (schema : Schema) (now : ℤ) : Option ℤ :=
  match schema with
  | .docker => none
  | .migrations => some now

/-- A server with one of the schemas. -/
structure Database extends Postgres where
  schema : Schema

/-- The value a parameter has when it is assigned to a column of the type. -/
def Database.stored (db : Database) (T : ColumnType) (s : Bytes) : Option Bytes :=
  (db.receive s).bind T.input

/-- The value a parameter has when a column of the type is compared with it. -/
def Database.compared (db : Database) (T : ColumnType) (s : Bytes) : Option Bytes :=
  (db.receive s).bind T.operand

/-- The id that a user id or a chat id is compared as. -/
abbrev Database.idKey (db : Database) (s : Bytes) : Option Bytes :=
  db.compared db.schema.idType s

lemma Database.stored_holds {db : Database} {T : ColumnType} {s v : Bytes}
    (h : db.stored T s = some v) : T.Holds v := by
  obtain ⟨r, hr, hv⟩ := Option.bind_eq_some_iff.mp h
  obtain ⟨-, hutf, hnul⟩ := db.receive_valid hr
  exact ColumnType.input_holds hutf hnul hv

lemma Database.valid_of_stored {db : Database} {T : ColumnType} {s v : Bytes}
    (h : db.stored T s = some v) : s.ValidUtf8 := by
  obtain ⟨r, hr, -⟩ := Option.bind_eq_some_iff.mp h
  exact (db.receive_valid hr).1

lemma Database.valid_of_compared {db : Database} {T : ColumnType} {s v : Bytes}
    (h : db.compared T s = some v) : s.ValidUtf8 := by
  obtain ⟨r, hr, -⟩ := Option.bind_eq_some_iff.mp h
  exact (db.receive_valid hr).1

/-- A value read back is stored as it is. -/
lemma Database.stored_of_holds (db : Database) {T : ColumnType} {v : Bytes} (h : T.Holds v) :
    db.stored T v = some v := by
  rw [Database.stored, db.receive_verbatim h.utf8 h.nulFree]
  exact h.input_self

/-- A value read back is compared as it is. -/
lemma Database.compared_of_holds (db : Database) {T : ColumnType} {v : Bytes}
    (h : T.Holds v) : db.compared T v = some v := by
  rw [Database.compared, db.receive_verbatim h.utf8 h.nulFree]
  exact h.operand

/-! ## Rows -/

/-- A row of `profiles`. -/
structure ProfileRow where
  userId : Bytes
  firstName : Option Bytes
  lastName : Option Bytes
  username : Option Bytes
  bio : Option Bytes
  avatarUrl : Option Bytes
  createdAt : ℤ
  updatedAt : ℤ
deriving DecidableEq

/-- A row of `contacts`. -/
structure ContactRow where
  ownerId : Bytes
  contactId : Bytes
  contactAlias : Option Bytes
  createdAt : ℤ
deriving DecidableEq

/-- A row of `favorites`. -/
structure FavoriteRow where
  userId : Bytes
  chatId : Bytes
  createdAt : ℤ
deriving DecidableEq

/-- A row of `privacy_settings`. -/
structure PrivacyRow where
  userId : Bytes
  profileVisibility : Bytes
  lastSeenVisibility : Bytes
  avatarVisibility : Bytes
  createdAt : Option ℤ
  updatedAt : Option ℤ
deriving DecidableEq

/-- A row of `notification_settings`. -/
structure NotificationRow where
  id : Bytes
  userId : Bytes
  chatId : Option Bytes
  muted : Bool
  mutedUntil : Option ℤ
  createdAt : Option ℤ
  updatedAt : Option ℤ
deriving DecidableEq

/-- The five tables. -/
structure Store where
  profiles : List ProfileRow
  contacts : List ContactRow
  privacySettings : List PrivacyRow
  favorites : List FavoriteRow
  notificationSettings : List NotificationRow
deriving DecidableEq

/-- The tables as the schema creates them. -/
def Store.empty : Store := ⟨[], [], [], [], []⟩

/-! ## Constraints -/

/-- `UNIQUE (user_id, chat_id)` of `notification_settings`: null chats are distinct. -/
def NotificationRow.key (r : NotificationRow) : Option (Bytes × Bytes) :=
  r.chatId.map fun c => (r.userId, c)

/-- Primary keys, uniqueness and foreign keys, the same in both schemas. -/
structure Store.Constraints (st : Store) : Prop where
  profiles_pkey : (st.profiles.map ProfileRow.userId).Nodup
  profiles_username_key : (st.profiles.filterMap ProfileRow.username).Nodup
  contacts_pkey : (st.contacts.map fun r => (r.ownerId, r.contactId)).Nodup
  contacts_owner_id_fkey : ∀ r ∈ st.contacts, r.ownerId ∈ st.profiles.map ProfileRow.userId
  contacts_contact_id_fkey :
    ∀ r ∈ st.contacts, r.contactId ∈ st.profiles.map ProfileRow.userId
  privacy_pkey : (st.privacySettings.map PrivacyRow.userId).Nodup
  privacy_user_id_fkey :
    ∀ r ∈ st.privacySettings, r.userId ∈ st.profiles.map ProfileRow.userId
  favorites_pkey : (st.favorites.map fun r => (r.userId, r.chatId)).Nodup
  favorites_user_id_fkey : ∀ r ∈ st.favorites, r.userId ∈ st.profiles.map ProfileRow.userId
  notification_pkey : (st.notificationSettings.map NotificationRow.id).Nodup
  notification_user_id_chat_id_key :
    (st.notificationSettings.filterMap NotificationRow.key).Nodup
  notification_user_id_fkey :
    ∀ r ∈ st.notificationSettings, r.userId ∈ st.profiles.map ProfileRow.userId

instance (st : Store) : Decidable st.Constraints :=
  decidable_of_iff
    ((st.profiles.map ProfileRow.userId).Nodup ∧
      (st.profiles.filterMap ProfileRow.username).Nodup ∧
      (st.contacts.map fun r => (r.ownerId, r.contactId)).Nodup ∧
      (∀ r ∈ st.contacts, r.ownerId ∈ st.profiles.map ProfileRow.userId) ∧
      (∀ r ∈ st.contacts, r.contactId ∈ st.profiles.map ProfileRow.userId) ∧
      (st.privacySettings.map PrivacyRow.userId).Nodup ∧
      (∀ r ∈ st.privacySettings, r.userId ∈ st.profiles.map ProfileRow.userId) ∧
      (st.favorites.map fun r => (r.userId, r.chatId)).Nodup ∧
      (∀ r ∈ st.favorites, r.userId ∈ st.profiles.map ProfileRow.userId) ∧
      (st.notificationSettings.map NotificationRow.id).Nodup ∧
      (st.notificationSettings.filterMap NotificationRow.key).Nodup ∧
      (∀ r ∈ st.notificationSettings, r.userId ∈ st.profiles.map ProfileRow.userId))
    ⟨fun ⟨h1, h2, h3, h4, h5, h6, h7, h8, h9, h10, h11, h12⟩ =>
        ⟨h1, h2, h3, h4, h5, h6, h7, h8, h9, h10, h11, h12⟩,
      fun ⟨h1, h2, h3, h4, h5, h6, h7, h8, h9, h10, h11, h12⟩ =>
        ⟨h1, h2, h3, h4, h5, h6, h7, h8, h9, h10, h11, h12⟩⟩

/-- A statement takes effect only when the result satisfies the constraints. -/
def Store.commit (st : Store) : Option Store :=
  if st.Constraints then some st else none

lemma Store.commit_eq_some {st st' : Store} :
    st.commit = some st' ↔ st' = st ∧ st.Constraints := by
  unfold Store.commit
  split
  · rename_i h
    exact ⟨fun h' => ⟨(Option.some.inj h').symm, h⟩, fun ⟨h', _⟩ => by rw [h']⟩
  · rename_i h
    exact ⟨fun h' => absurd h' (by simp), fun ⟨_, h'⟩ => absurd h' h⟩

lemma Store.constraints_empty : Store.empty.Constraints := by decide

/-! ## Well-typed tables -/

/-- An optional column holds a value of its type or is null. -/
def HoldsOption (T : ColumnType) (v : Option Bytes) : Prop := ∀ s, v = some s → T.Holds s

instance (T : ColumnType) (v : Option Bytes) : Decidable (HoldsOption T v) :=
  match v with
  | none => .isTrue fun _ h => absurd h (by simp)
  | some s => decidable_of_iff (T.Holds s)
      ⟨fun h _ hs => Option.some.inj hs ▸ h, fun h => h s rfl⟩

/-- Every column holds values of its type. -/
structure Store.Typed (schema : Schema) (st : Store) : Prop where
  profiles : ∀ r ∈ st.profiles, schema.idType.Holds r.userId ∧
    HoldsOption schema.nameType r.firstName ∧ HoldsOption schema.nameType r.lastName ∧
    HoldsOption schema.usernameType r.username ∧ HoldsOption .text r.bio ∧
    HoldsOption .text r.avatarUrl
  contacts : ∀ r ∈ st.contacts, schema.idType.Holds r.ownerId ∧
    schema.idType.Holds r.contactId ∧ HoldsOption schema.nameType r.contactAlias
  privacySettings : ∀ r ∈ st.privacySettings, schema.idType.Holds r.userId ∧
    schema.visibilityType.Holds r.profileVisibility ∧
    schema.visibilityType.Holds r.lastSeenVisibility ∧
    schema.visibilityType.Holds r.avatarVisibility
  favorites : ∀ r ∈ st.favorites, schema.idType.Holds r.userId ∧
    schema.idType.Holds r.chatId
  notificationSettings : ∀ r ∈ st.notificationSettings,
    schema.rowIdType.Holds r.id ∧ schema.idType.Holds r.userId ∧
    HoldsOption schema.idType r.chatId

instance (schema : Schema) (st : Store) : Decidable (st.Typed schema) :=
  decidable_of_iff
    ((∀ r ∈ st.profiles, schema.idType.Holds r.userId ∧
        HoldsOption schema.nameType r.firstName ∧ HoldsOption schema.nameType r.lastName ∧
        HoldsOption schema.usernameType r.username ∧ HoldsOption .text r.bio ∧
        HoldsOption .text r.avatarUrl) ∧
      (∀ r ∈ st.contacts, schema.idType.Holds r.ownerId ∧
        schema.idType.Holds r.contactId ∧ HoldsOption schema.nameType r.contactAlias) ∧
      (∀ r ∈ st.privacySettings, schema.idType.Holds r.userId ∧
        schema.visibilityType.Holds r.profileVisibility ∧
        schema.visibilityType.Holds r.lastSeenVisibility ∧
        schema.visibilityType.Holds r.avatarVisibility) ∧
      (∀ r ∈ st.favorites, schema.idType.Holds r.userId ∧ schema.idType.Holds r.chatId) ∧
      ∀ r ∈ st.notificationSettings, schema.rowIdType.Holds r.id ∧
        schema.idType.Holds r.userId ∧ HoldsOption schema.idType r.chatId)
    ⟨fun ⟨h1, h2, h3, h4, h5⟩ => ⟨h1, h2, h3, h4, h5⟩,
      fun ⟨h1, h2, h3, h4, h5⟩ => ⟨h1, h2, h3, h4, h5⟩⟩

/-- What the server guarantees of the tables at any time. -/
structure Store.Valid (schema : Schema) (st : Store) : Prop where
  typed : st.Typed schema
  constraints : st.Constraints

instance (schema : Schema) (st : Store) : Decidable (st.Valid schema) :=
  decidable_of_iff (st.Typed schema ∧ st.Constraints)
    ⟨fun ⟨h1, h2⟩ => ⟨h1, h2⟩, fun ⟨h1, h2⟩ => ⟨h1, h2⟩⟩

lemma Store.valid_empty (schema : Schema) : Store.empty.Valid schema :=
  ⟨⟨by simp [Store.empty], by simp [Store.empty], by simp [Store.empty],
    by simp [Store.empty], by simp [Store.empty]⟩, Store.constraints_empty⟩

end ProfileService
