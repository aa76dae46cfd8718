/-
# The SQL statements

Every SQL text of the repositories is a `Query`; `Query.exec` is what the server does
with it: the tables after the statement and the rows it returns, or `none` when the
server refuses it (a parameter that does not convert, a violated constraint).
-/
import ProfileService.Schema

namespace ProfileService

open Bytes (str)

/-! ## Result rows -/

/-- A field of a result: the name of its type and its text, `none` for null. -/
structure Field where
  typeName : String
  text : Option Bytes

/-- A row of a result, by column name. -/
abbrev Row : Type := List (String × Field)

/-- `field.type().name()` for a column of the type. -/
def typeName : ColumnType → String
  | .text => "text"
  | .varchar _ => "varchar"
  | .uuid => "uuid"
  | .enum _ => "visibility_type"

/-- A field of a text column. -/
def textField (T : ColumnType) (v : Option Bytes) : Field := ⟨typeName T, v⟩

/-- A field of a `BOOLEAN` column. -/
def boolField (b : Bool) : Field := ⟨"bool", some (if b then str "t" else str "f")⟩

/-- A field of a `TIMESTAMPTZ` column. -/
def Database.timeField (db : Database) (t : Option ℤ) : Field :=
  ⟨"timestamptz", t.map db.timestamptzOut⟩

/-- The columns of `profiles` that the statements return; no statement writes
`last_seen_at`. -/
def ProfileRow.result (db : Database) (r : ProfileRow) : Row :=
  [("user_id", textField db.schema.idType (some r.userId)),
   ("first_name", textField db.schema.nameType r.firstName),
   ("last_name", textField db.schema.nameType r.lastName),
   ("username", textField db.schema.usernameType r.username),
   ("bio", textField .text r.bio),
   ("avatar_url", textField .text r.avatarUrl),
   ("last_seen_at", db.timeField none),
   ("created_at", db.timeField (some r.createdAt)),
   ("updated_at", db.timeField (some r.updatedAt))]

/-- The columns of `contacts` that the statements return. -/
def ContactRow.result (db : Database) (r : ContactRow) : Row :=
  [("owner_id", textField db.schema.idType (some r.ownerId)),
   ("contact_id", textField db.schema.idType (some r.contactId)),
   ("alias", textField db.schema.nameType r.contactAlias),
   ("created_at", db.timeField (some r.createdAt))]

/-- The columns of `favorites` that the statements return. -/
def FavoriteRow.result (db : Database) (r : FavoriteRow) : Row :=
  [("user_id", textField db.schema.idType (some r.userId)),
   ("chat_id", textField db.schema.idType (some r.chatId)),
   ("created_at", db.timeField (some r.createdAt))]

/-- The columns of `privacy_settings` that the statements return. -/
def PrivacyRow.result (db : Database) (r : PrivacyRow) : Row :=
  [("user_id", textField db.schema.idType (some r.userId)),
   ("profile_visibility", textField db.schema.visibilityType (some r.profileVisibility)),
   ("last_seen_visibility", textField db.schema.visibilityType (some r.lastSeenVisibility)),
   ("avatar_visibility", textField db.schema.visibilityType (some r.avatarVisibility))]

/-- The columns of `notification_settings` that the statements return. -/
def NotificationRow.result (db : Database) (r : NotificationRow) : Row :=
  [("id", textField db.schema.rowIdType (some r.id)),
   ("user_id", textField db.schema.idType (some r.userId)),
   ("chat_id", textField db.schema.idType r.chatId),
   ("muted", boolField r.muted),
   ("muted_until", db.timeField r.mutedUntil)]

/-! ## Statements -/

/-- The SQL texts of the repositories. -/
inductive Query
  /-- `INSERT INTO profiles (user_id) VALUES ($1) ON CONFLICT (user_id) DO UPDATE SET
  updated_at = now() RETURNING …` -/
  | createProfile
  /-- `SELECT … FROM profiles WHERE user_id = $1` -/
  | getProfileByID
  /-- `UPDATE profiles SET first_name = $1, last_name = $2, username = $3, bio = $4,
  updated_at = now() WHERE user_id = $5` -/
  | updateProfile
  /-- `UPDATE profiles SET avatar_url = $1, updated_at = now() WHERE user_id = $2` -/
  | updateAvatarURL
  /-- `SELECT … FROM contacts WHERE owner_id = $1 ORDER BY created_at DESC` -/
  | listContacts
  /-- `INSERT INTO contacts (owner_id, contact_id, alias) VALUES ($1, $2, $3)
  ON CONFLICT (owner_id, contact_id) DO UPDATE SET alias = $3` -/
  | addContact
  /-- `DELETE FROM contacts WHERE owner_id = $1 AND contact_id = $2` -/
  | removeContact
  /-- `SELECT … FROM favorites WHERE user_id = $1 ORDER BY created_at DESC` -/
  | listFavorites
  /-- `INSERT INTO favorites (user_id, chat_id) VALUES ($1, $2)
  ON CONFLICT (user_id, chat_id) DO NOTHING` -/
  | addFavorite
  /-- `DELETE FROM favorites WHERE user_id = $1 AND chat_id = $2` -/
  | removeFavorite
  /-- `SELECT … FROM privacy_settings WHERE user_id = $1` -/
  | getPrivacy
  /-- `INSERT INTO privacy_settings (user_id, profile_visibility, last_seen_visibility,
  avatar_visibility) VALUES ($1, $2, $3, $4) ON CONFLICT (user_id) DO UPDATE SET
  profile_visibility = $2, last_seen_visibility = $3, avatar_visibility = $4` -/
  | updatePrivacy
  /-- `SELECT … FROM notification_settings WHERE user_id = $1 AND chat_id IS NULL` -/
  | getGlobalNotifications
  /-- `SELECT … FROM notification_settings WHERE user_id = $1 AND chat_id = $2` -/
  | getChatNotifications
  /-- `INSERT INTO notification_settings (user_id, chat_id, muted, muted_until)
  VALUES ($1, $2, $3, $4) ON CONFLICT (user_id, chat_id) DO UPDATE SET muted = $3,
  muted_until = $4` -/
  | upsertNotificationsUntil
  /-- The same with `NULL` in place of `$4`. -/
  | upsertNotifications
deriving DecidableEq

/-- `bool_in`, for the spellings that the driver sends. -/
def boolIn (s : Bytes) : Option Bool :=
  if s = str "true" then some true
  else if s = str "false" then some false
  else none

/-- The rows of `profiles` with the id. -/
def ProfileRow.hasId (k : Bytes) (r : ProfileRow) : Bool := r.userId == k

/-- The rows of `contacts` with the owner. -/
def ContactRow.hasOwner (k : Bytes) (r : ContactRow) : Bool := r.ownerId == k

/-- The rows of `contacts` with the key. -/
def ContactRow.hasKey (k c : Bytes) (r : ContactRow) : Bool :=
  r.ownerId == k && r.contactId == c

/-- The rows of `favorites` with the user. -/
def FavoriteRow.hasUser (k : Bytes) (r : FavoriteRow) : Bool := r.userId == k

/-- The rows of `favorites` with the key. -/
def FavoriteRow.hasKey (k c : Bytes) (r : FavoriteRow) : Bool :=
  r.userId == k && r.chatId == c

/-- The rows of `privacy_settings` with the user. -/
def PrivacyRow.hasUser (k : Bytes) (r : PrivacyRow) : Bool := r.userId == k

/-- The rows of `notification_settings` with the user. -/
def NotificationRow.hasUser (k : Bytes) (r : NotificationRow) : Bool := r.userId == k

/-- The rows of `notification_settings` with the user and the chat; `none` is null. -/
def NotificationRow.hasKey (k : Bytes) (c : Option Bytes) (r : NotificationRow) : Bool :=
  r.userId == k && r.chatId == c

/-! ## Writes -/

/-- A change of the tables, with the values a statement binds. -/
inductive Write
  | createProfile (user : Bytes)
  | updateProfile (firstName lastName username bio user : Bytes)
  | updateAvatarURL (avatarUrl user : Bytes)
  | addContact (owner contact contactAlias : Bytes)
  | removeContact (owner contact : Bytes)
  | addFavorite (user chat : Bytes)
  | removeFavorite (user chat : Bytes)
  | updatePrivacy (user profileVisibility lastSeenVisibility avatarVisibility : Bytes)
  | upsertNotifications (user chat : Bytes) (muted : Bool) (mutedUntil : Option ℤ)
deriving DecidableEq

section Apply

variable (schema : Schema) (now : ℤ) (rowId : Uuid)

/-- The tables after the write, in a transaction that started at `now`; `rowId` is the
default of an `id` column. -/
def Write.apply : Write → Store → Store
  | .createProfile user, st =>
      { st with
        profiles := Table.insertOrUpdate (ProfileRow.hasId user)
          (fun r => { r with updatedAt := now })
          ⟨user, none, none, none, none, none, now, now⟩ st.profiles }
  | .updateProfile firstName lastName username bio user, st =>
      { st with
        profiles := Table.update (ProfileRow.hasId user)
          (fun r => { r with
            firstName := some firstName, lastName := some lastName,
            username := some username, bio := some bio, updatedAt := now }) st.profiles }
  | .updateAvatarURL avatarUrl user, st =>
      { st with
        profiles := Table.update (ProfileRow.hasId user)
          (fun r => { r with avatarUrl := some avatarUrl, updatedAt := now }) st.profiles }
  | .addContact owner contact contactAlias, st =>
      { st with
        contacts := Table.insertOrUpdate (ContactRow.hasKey owner contact)
          (fun r => { r with contactAlias := some contactAlias })
          ⟨owner, contact, some contactAlias, now⟩ st.contacts }
  | .removeContact owner contact, st =>
      { st with contacts := Table.delete (ContactRow.hasKey owner contact) st.contacts }
  | .addFavorite user chat, st =>
      { st with
        favorites := Table.insertOrIgnore (FavoriteRow.hasKey user chat) ⟨user, chat, now⟩
          st.favorites }
  | .removeFavorite user chat, st =>
      { st with favorites := Table.delete (FavoriteRow.hasKey user chat) st.favorites }
  | .updatePrivacy user profileVisibility lastSeenVisibility avatarVisibility, st =>
      { st with
        privacySettings := Table.insertOrUpdate (PrivacyRow.hasUser user)
          (fun r => { r with
            profileVisibility := profileVisibility,
            lastSeenVisibility := lastSeenVisibility,
            avatarVisibility := avatarVisibility })
          ⟨user, profileVisibility, lastSeenVisibility, avatarVisibility, schema.stamp now,
            schema.stamp now⟩ st.privacySettings }
  | .upsertNotifications user chat muted mutedUntil, st =>
      { st with
        notificationSettings :=
          Table.insertOrUpdate (NotificationRow.hasKey user (some chat))
            (fun r => { r with muted := muted, mutedUntil := mutedUntil })
            ⟨rowId.1, user, some chat, muted, mutedUntil, schema.stamp now,
              schema.stamp now⟩ st.notificationSettings }

end Apply

section Statements

variable (db : Database)

/-- The write of a statement with its parameters: one assigned to a column or compared
with one.  `none` when a parameter is refused or the statement is a `SELECT`. -/
def Query.write : Query → List Bytes → Option Write
  | .createProfile, [p₁] => do
      let user ← db.stored db.schema.idType p₁
      some (.createProfile user)
  | .updateProfile, [p₁, p₂, p₃, p₄, p₅] => do
      let firstName ← db.stored db.schema.nameType p₁
      let lastName ← db.stored db.schema.nameType p₂
      let username ← db.stored db.schema.usernameType p₃
      let bio ← db.stored .text p₄
      let user ← db.compared db.schema.idType p₅
      some (.updateProfile firstName lastName username bio user)
  | .updateAvatarURL, [p₁, p₂] => do
      let avatarUrl ← db.stored .text p₁
      let user ← db.compared db.schema.idType p₂
      some (.updateAvatarURL avatarUrl user)
  | .addContact, [p₁, p₂, p₃] => do
      let owner ← db.stored db.schema.idType p₁
      let contact ← db.stored db.schema.idType p₂
      let contactAlias ← db.stored db.schema.nameType p₃
      some (.addContact owner contact contactAlias)
  | .removeContact, [p₁, p₂] => do
      let owner ← db.compared db.schema.idType p₁
      let contact ← db.compared db.schema.idType p₂
      some (.removeContact owner contact)
  | .addFavorite, [p₁, p₂] => do
      let user ← db.stored db.schema.idType p₁
      let chat ← db.stored db.schema.idType p₂
      some (.addFavorite user chat)
  | .removeFavorite, [p₁, p₂] => do
      let user ← db.compared db.schema.idType p₁
      let chat ← db.compared db.schema.idType p₂
      some (.removeFavorite user chat)
  | .updatePrivacy, [p₁, p₂, p₃, p₄] => do
      let user ← db.stored db.schema.idType p₁
      let profileVisibility ← db.stored db.schema.visibilityType p₂
      let lastSeenVisibility ← db.stored db.schema.visibilityType p₃
      let avatarVisibility ← db.stored db.schema.visibilityType p₄
      some (.updatePrivacy user profileVisibility lastSeenVisibility avatarVisibility)
  | .upsertNotificationsUntil, [p₁, p₂, p₃, p₄] => do
      let user ← db.stored db.schema.idType p₁
      let chat ← db.stored db.schema.idType p₂
      let muted ← (db.receive p₃).bind boolIn
      let mutedUntil ← (db.receive p₄).bind db.timestamptzIn
      some (.upsertNotifications user chat muted (some mutedUntil))
  | .upsertNotifications, [p₁, p₂, p₃] => do
      let user ← db.stored db.schema.idType p₁
      let chat ← db.stored db.schema.idType p₂
      let muted ← (db.receive p₃).bind boolIn
      some (.upsertNotifications user chat muted none)
  | _, _ => none

/-- The rows that a `SELECT` returns; `none` when a parameter is refused. -/
def Query.select (st : Store) : Query → List Bytes → Option (List Row)
  | .getProfileByID, [p₁] => do
      let k ← db.compared db.schema.idType p₁
      some ((st.profiles.filter (ProfileRow.hasId k)).map (ProfileRow.result db))
  | .listContacts, [p₁] => do
      let k ← db.compared db.schema.idType p₁
      some ((Table.orderByDesc ContactRow.createdAt
        (st.contacts.filter (ContactRow.hasOwner k))).map (ContactRow.result db))
  | .listFavorites, [p₁] => do
      let k ← db.compared db.schema.idType p₁
      some ((Table.orderByDesc FavoriteRow.createdAt
        (st.favorites.filter (FavoriteRow.hasUser k))).map (FavoriteRow.result db))
  | .getPrivacy, [p₁] => do
      let k ← db.compared db.schema.idType p₁
      some ((st.privacySettings.filter (PrivacyRow.hasUser k)).map (PrivacyRow.result db))
  | .getGlobalNotifications, [p₁] => do
      let k ← db.compared db.schema.idType p₁
      some ((st.notificationSettings.filter (NotificationRow.hasKey k none)).map
        (NotificationRow.result db))
  | .getChatNotifications, [p₁, p₂] => do
      let k ← db.compared db.schema.idType p₁
      let c ← db.compared db.schema.idType p₂
      some ((st.notificationSettings.filter (NotificationRow.hasKey k (some c))).map
        (NotificationRow.result db))
  | _, _ => none

/-- The rows of `RETURNING`. -/
def Write.returning (st : Store) : Write → List Row
  | .createProfile user =>
      (st.profiles.filter (ProfileRow.hasId user)).map (ProfileRow.result db)
  | _ => []

/-- A statement in a transaction of its own. -/
def Query.exec (now : ℤ) (rowId : Uuid) (query : Query) (params : List Bytes) (st : Store) :
    Option (Store × List Row) :=
  match query.write db params with
  | some wr => do
      let st' ← (wr.apply db.schema now rowId st).commit
      some (st', wr.returning db st')
  | none => (query.select db st params).map fun rows => (st, rows)

end Statements

end ProfileService
