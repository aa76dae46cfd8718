/-
# Mappers and repositories

The row mappers of `repository/mappers.cpp` and the five repositories over the query
executor.
-/
import ProfileService.QueryExecutor

namespace ProfileService

open Bytes (str)

variable {σ : Type}

/-! ## Mappers -/

/-- `QueryExecutor::GetStringValue` on a row of a result. -/
def getStringValue (row : Row) (column : String) : Svc σ (Option Bytes) :=
  Prog.ofExcept (row.getStringValue column)

/-- `QueryExecutor::GetBoolValue` on a row of a result. -/
def getBoolValue (row : Row) (column : String) : Svc σ (Option Bool) :=
  Prog.ofExcept (row.getBoolValue column)

/-- `ProfileMapper::MapRow`: the times are readings of the clock. -/
def profileMapRow (row : Row) : Svc σ Profile := do
  let userId ← getStringValue row "user_id"
  let firstName ← getStringValue row "first_name"
  let lastName ← getStringValue row "last_name"
  let username ← getStringValue row "username"
  let bio ← getStringValue row "bio"
  let avatarUrl ← getStringValue row "avatar_url"
  let createdAt ← now
  let updatedAt ← now
  pure ⟨userId.getD [], firstName, lastName, username, bio, avatarUrl, createdAt, updatedAt⟩

/-- `ContactMapper::MapRow`. -/
def contactMapRow (row : Row) : Svc σ Contact := do
  let ownerId ← getStringValue row "owner_id"
  let contactId ← getStringValue row "contact_id"
  let contactAlias ← getStringValue row "alias"
  let createdAt ← now
  pure ⟨ownerId.getD [], contactId.getD [], contactAlias, createdAt⟩

/-- `PrivacySettingsMapper::MapRow`. -/
def privacySettingsMapRow (row : Row) : Svc σ PrivacySettings := do
  let userId ← getStringValue row "user_id"
  let profileVis ← getStringValue row "profile_visibility"
  let lastSeenVis ← getStringValue row "last_seen_visibility"
  let avatarVis ← getStringValue row "avatar_visibility"
  pure ⟨userId.getD [], profileVis.getD [], lastSeenVis.getD [], avatarVis.getD []⟩

/-- `NotificationMapper::MapRow`: `muted_until` is not read. -/
def notificationMapRow (row : Row) : Svc σ NotificationSettings := do
  let id ← getStringValue row "id"
  let userId ← getStringValue row "user_id"
  let chatId ← getStringValue row "chat_id"
  let muted ← getBoolValue row "muted"
  -- the column is `NOT NULL`, so the default never shows
  pure ⟨id.getD [], userId.getD [], chatId, muted.getD false, none⟩

/-- `FavoriteMapper::MapRow`. -/
def favoriteMapRow (row : Row) : Svc σ Favorite := do
  let userId ← getStringValue row "user_id"
  let chatId ← getStringValue row "chat_id"
  let createdAt ← now
  pure ⟨userId.getD [], chatId.getD [], createdAt⟩

/-! ## `ProfileRepository` -/

namespace ProfileRepository

/-- `ProfileRepository::Create`. -/
def create (userId : Bytes) : Svc σ Profile := do
  match ← executeSelect .createProfile [.string userId] with
  | [] => throw ⟨str "Failed to create profile"⟩
  | row :: _ => profileMapRow row

/-- `ProfileRepository::GetByID`. -/
def getByID (userId : Bytes) : Svc σ Profile := do
  match ← executeSelect .getProfileByID [.string userId] with
  | [] => throw ⟨str "Profile not found"⟩
  | row :: _ => profileMapRow row

/-- `ProfileRepository::Update`: every failure is reported as a taken username. -/
def update (profile : Profile) : Svc σ Unit :=
  tryCatch
    (executeModify .updateProfile
      [.string (profile.firstName.getD []), .string (profile.lastName.getD []),
        .string (profile.username.getD []), .string (profile.bio.getD []),
        .string profile.userID])
    fun _ => throw ⟨str "username already taken"⟩

/-- `ProfileRepository::UpdateAvatarURL`. -/
def updateAvatarURL (userId url : Bytes) : Svc σ Unit :=
  executeModify .updateAvatarURL [.string url, .string userId]

end ProfileRepository

/-! ## `ContactsRepository` -/

namespace ContactsRepository

/-- `ContactsRepository::List`. -/
def list (ownerId : Bytes) : Svc σ (List Contact) := do
  let rows ← executeSelect .listContacts [.string ownerId]
  rows.mapM contactMapRow

/-- `ContactsRepository::Add`. -/
def add (contact : Contact) : Svc σ Unit :=
  executeModify .addContact
    [.string contact.ownerID, .string contact.contactID,
      .string (contact.contactAlias.getD [])]

/-- `ContactsRepository::Remove`. -/
def remove (ownerId contactId : Bytes) : Svc σ Unit :=
  executeModify .removeContact [.string ownerId, .string contactId]

end ContactsRepository

/-! ## `FavoriteRepository` -/

namespace FavoriteRepository

/-- `FavoriteRepository::List`. -/
def list (userId : Bytes) : Svc σ (List Favorite) := do
  let rows ← executeSelect .listFavorites [.string userId]
  rows.mapM favoriteMapRow

/-- `FavoriteRepository::Add`. -/
def add (userId chatId : Bytes) : Svc σ Unit :=
  executeModify .addFavorite [.string userId, .string chatId]

/-- `FavoriteRepository::Remove`. -/
def remove (userId chatId : Bytes) : Svc σ Unit :=
  executeModify .removeFavorite [.string userId, .string chatId]

end FavoriteRepository

/-! ## `PrivacyRepository` -/

namespace PrivacyRepository

/-- `PrivacyRepository::Get`. -/
def get (userId : Bytes) : Svc σ PrivacySettings := do
  match ← executeSelect .getPrivacy [.string userId] with
  | [] => pure ⟨userId, str "everyone", str "everyone", str "everyone"⟩
  | row :: _ => privacySettingsMapRow row

/-- `PrivacyRepository::Update`. -/
def update (settings : PrivacySettings) : Svc σ Unit :=
  executeModify .updatePrivacy
    [.string settings.userID, .string settings.profileVisibility,
      .string settings.lastSeenVisibility, .string settings.avatarVisibility]

end PrivacyRepository

/-! ## `NotificationRepository` -/

namespace NotificationRepository

/-- `NotificationRepository::Get`. -/
def get (userId : Bytes) (chatId : Option Bytes) : Svc σ NotificationSettings := do
  let rows ← match chatId with
    | none => executeSelect .getGlobalNotifications [.string userId]
    | some chatId => executeSelect .getChatNotifications [.string userId, .string chatId]
  match rows with
  | [] => pure ⟨[], userId, some (chatId.getD []), false, none⟩
  | row :: _ => notificationMapRow row

/-- `NotificationRepository::Upsert`: an absent chat is written as the empty string. -/
def upsert (settings : NotificationSettings) : Svc σ Unit :=
  let params : List DbValue :=
    [.string settings.userID, .string (settings.chatID.getD []), .bool settings.muted]
  match settings.mutedUntil with
  | some mutedUntil =>
      executeModify .upsertNotificationsUntil
        (params ++ [.string (strftime (gmtime (TimePoint.toSeconds mutedUntil)))])
  | none => executeModify .upsertNotifications params

end NotificationRepository

/-! ## Rows of the tables through the mappers -/

section MapRow

variable (env : Env σ) (w : World σ)

/-- The world after some readings of the clock. -/
def World.afterReadings (w : World σ) (n : ℕ) : World σ := { w with readings := w.readings + n }

lemma run_getStringValue_text {row : Row} {column : String} {T : ColumnType}
    {v : Option Bytes} (h : row.lookup column = some (textField T v)) :
    (getStringValue row column).run env w = (.ok v, w) := by
  rw [getStringValue, Prog.run_ofExcept, Row.getStringValue_text h]

lemma run_profileMapRow (db : Database) (r : ProfileRow) :
    (profileMapRow (r.result db)).run env w =
      (.ok ⟨r.userId, r.firstName, r.lastName, r.username, r.bio, r.avatarUrl,
          env.clock w.readings, env.clock (w.readings + 1)⟩, w.afterReadings 2) := by
  unfold profileMapRow
  rw [Prog.run_bind_ok (run_getStringValue_text env w rfl),
    Prog.run_bind_ok (run_getStringValue_text env w rfl),
    Prog.run_bind_ok (run_getStringValue_text env w rfl),
    Prog.run_bind_ok (run_getStringValue_text env w rfl),
    Prog.run_bind_ok (run_getStringValue_text env w rfl),
    Prog.run_bind_ok (run_getStringValue_text env w rfl)]
  rfl

lemma run_contactMapRow (db : Database) (r : ContactRow) :
    (contactMapRow (r.result db)).run env w =
      (.ok ⟨r.ownerId, r.contactId, r.contactAlias, env.clock w.readings⟩,
        w.afterReadings 1) := by
  unfold contactMapRow
  rw [Prog.run_bind_ok (run_getStringValue_text env w rfl),
    Prog.run_bind_ok (run_getStringValue_text env w rfl),
    Prog.run_bind_ok (run_getStringValue_text env w rfl)]
  rfl

lemma run_privacySettingsMapRow (db : Database) (r : PrivacyRow) :
    (privacySettingsMapRow (r.result db)).run env w =
      (.ok ⟨r.userId, r.profileVisibility, r.lastSeenVisibility, r.avatarVisibility⟩, w) := by
  unfold privacySettingsMapRow
  rw [Prog.run_bind_ok (run_getStringValue_text env w rfl),
    Prog.run_bind_ok (run_getStringValue_text env w rfl),
    Prog.run_bind_ok (run_getStringValue_text env w rfl),
    Prog.run_bind_ok (run_getStringValue_text env w rfl)]
  rfl

lemma run_notificationMapRow (db : Database) (r : NotificationRow) :
    (notificationMapRow (r.result db)).run env w =
      (.ok ⟨r.id, r.userId, r.chatId, r.muted, none⟩, w) := by
  have hmuted : (getBoolValue (r.result db) "muted").run env w = (.ok (some r.muted), w) := by
    rw [getBoolValue, Prog.run_ofExcept, Row.getBoolValue_bool (b := r.muted) rfl]
  unfold notificationMapRow
  rw [Prog.run_bind_ok (run_getStringValue_text env w rfl),
    Prog.run_bind_ok (run_getStringValue_text env w rfl),
    Prog.run_bind_ok (run_getStringValue_text env w rfl), Prog.run_bind_ok hmuted]
  rfl

lemma run_favoriteMapRow (db : Database) (r : FavoriteRow) :
    (favoriteMapRow (r.result db)).run env w =
      (.ok ⟨r.userId, r.chatId, env.clock w.readings⟩, w.afterReadings 1) := by
  unfold favoriteMapRow
  rw [Prog.run_bind_ok (run_getStringValue_text env w rfl),
    Prog.run_bind_ok (run_getStringValue_text env w rfl)]
  rfl

end MapRow

end ProfileService
