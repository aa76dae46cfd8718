/-
# The handlers

The bodies of the five handler classes, and the `Handle` function of each class, which
picks a body from the method and the target of the request.
-/
import ProfileService.Base64
import ProfileService.Repositories

namespace ProfileService

open Bytes (str)

variable {σ : Type}

/-- A conversion of a JSON value. -/
def convert {α : Type} (x : Except Exn α) : Svc σ α := Prog.ofExcept x

/-- `JsonResponse(status, request.version(), response.dump())`. -/
def dumpResponse (status : ℕ) (request : Request) (response : Json) : Svc σ Response := do
  let body ← dump response
  pure (jsonResponse status request.version body)

/-- `context.PathParams.find(name)`. -/
def RouteContext.find (context : RouteContext) (name : Bytes) : Option Bytes :=
  context.pathParams.lookup name

/-! ## `ProfileHandler` -/

namespace ProfileHandler

/-- `ProfileHandler::HandleCreateProfile`. -/
def handleCreateProfile (request : Request) (_context : RouteContext) : Svc σ Response := do
  enter .createProfile
  tryCatch
    (do
      let jsonBody ← parse request.body
      let userId ← convert (value getString jsonBody (str "user_id") [])
      if userId = [] then
        pure (errorResponse 400 request.version (str "user_id required"))
      else do
        let profile ← ProfileRepository.create userId
        dumpResponse 201 request (.ofMembers
          [(str "user_id", .string profile.userID),
           (str "created_at", .integer (TimePoint.toSeconds profile.createdAt)),
           (str "updated_at", .integer (TimePoint.toSeconds profile.updatedAt))]))
    fun _ => pure (errorResponse 500 request.version (str "create failed"))

/-- The JSON of a profile in the answers to a GET. -/
def profileJson (profile : Profile) : Json :=
  .ofMembers
    [(str "user_id", .string profile.userID),
     (str "first_name", .string (profile.firstName.getD [])),
     (str "last_name", .string (profile.lastName.getD [])),
     (str "username", .string (profile.username.getD [])),
     (str "bio", .string (profile.bio.getD [])),
     (str "avatar_url", .string (profile.avatarUrl.getD [])),
     (str "created_at", .integer (TimePoint.toSeconds profile.createdAt)),
     (str "updated_at", .integer (TimePoint.toSeconds profile.updatedAt))]

/-- `ProfileHandler::HandleGetMyProfile`. -/
def handleGetMyProfile (request : Request) (context : RouteContext) : Svc σ Response := do
  enter .getMyProfile
  tryCatch
    (do
      let profile ← ProfileRepository.getByID context.userID
      dumpResponse 200 request (profileJson profile))
    fun _ => pure (errorResponse 404 request.version (str "profile not found"))

/-- `ProfileHandler::HandleGetProfileByID`. -/
def handleGetProfileByID (request : Request) (context : RouteContext) : Svc σ Response := do
  enter .getProfileByID
  tryCatch
    (match context.find (str "user_id") with
      | none => pure (errorResponse 400 request.version (str "user_id required"))
      | some userId => do
          let profile ← ProfileRepository.getByID userId
          dumpResponse 200 request (profileJson profile))
    fun _ => pure (errorResponse 404 request.version (str "profile not found"))

/-- The assignments of a PATCH body to the profile that was read. -/
def patchProfile (jsonBody : Json) (profile : Profile) : Except Exn Profile := do
  let firstName ← assignString jsonBody (str "first_name") profile.firstName
  let lastName ← assignString jsonBody (str "last_name") profile.lastName
  let username ← assignString jsonBody (str "username") profile.username
  let bio ← assignString jsonBody (str "bio") profile.bio
  pure { profile with
    firstName := firstName, lastName := lastName, username := username, bio := bio }

/-- The JSON of a profile in the answer to a PATCH. -/
def patchedJson (profile : Profile) : Json :=
  .ofMembers
    [(str "user_id", .string profile.userID),
     (str "first_name", .string (profile.firstName.getD [])),
     (str "last_name", .string (profile.lastName.getD [])),
     (str "username", .string (profile.username.getD [])),
     (str "bio", .string (profile.bio.getD [])),
     (str "avatar_url", .string (profile.avatarUrl.getD []))]

/-- The answer to a PATCH that threw: told apart by the text of the exception. -/
def updateFailed (request : Request) (e : Exn) : Response :=
  if (e.what.find (str "username already taken") 0).isSome then
    errorResponse 409 request.version (str "username already taken")
  else errorResponse 500 request.version (str "update failed")

/-- `ProfileHandler::HandleUpdateProfile`. -/
def handleUpdateProfile (request : Request) (context : RouteContext) : Svc σ Response := do
  enter .updateProfile
  tryCatch
    (do
      let jsonBody ← parse request.body
      let profile ← ProfileRepository.getByID context.userID
      let profile ← convert (patchProfile jsonBody profile)
      ProfileRepository.update profile
      dumpResponse 200 request (patchedJson profile))
    fun e => pure (updateFailed request e)

/-- `m_avatarStorage->Upload`. -/
def upload (userId : Bytes) (data : List UInt8) (contentType : Bytes) : Svc σ Bytes :=
  fun env w =>
    let (url, storage) := env.avatarStorage.upload userId data contentType w.storage
    (url, { w with storage := storage })

/-- `m_avatarStorage->Delete`. -/
def deleteObject (userId : Bytes) : Svc σ Unit := fun env w =>
  let (res, storage) := env.avatarStorage.delete userId w.storage
  (res, { w with storage := storage })

/-- `ProfileHandler::HandleUploadAvatar`. -/
def handleUploadAvatar (request : Request) (context : RouteContext) : Svc σ Response := do
  enter .uploadAvatar
  tryCatch
    (do
      let jsonBody ← parse request.body
      match jsonBody.member? (str "image_data") with
      | none =>
          pure (errorResponse 400 request.version (str "image_data (base64) is required"))
      | some imageData => do
          let base64Data ← convert (getString imageData)
          let contentType ←
            convert (value getString jsonBody (str "content_type") (str "image/jpeg"))
          let data := decodeBase64 base64Data
          if data = [] then
            pure (errorResponse 400 request.version (str "invalid image data"))
          else do
            let avatarUrl ← upload context.userID data contentType
            ProfileRepository.updateAvatarURL context.userID avatarUrl
            dumpResponse 200 request (.ofMembers
              [(str "user_id", .string context.userID),
               (str "avatar_url", .string avatarUrl)]))
    fun e => pure (errorResponse 500 request.version (str "upload failed: " ++ e.what))

/-- `ProfileHandler::HandleDeleteAvatar`. -/
def handleDeleteAvatar (request : Request) (context : RouteContext) : Svc σ Response := do
  enter .deleteAvatar
  tryCatch
    (do
      deleteObject context.userID
      ProfileRepository.updateAvatarURL context.userID []
      pure (jsonResponse 204 request.version []))
    fun _ => pure (errorResponse 500 request.version (str "delete failed"))

/-- `ProfileHandler::Handle`. -/
def handle (request : Request) (context : RouteContext) : Svc σ Response :=
  if request.method = .post ∧ request.target = str "/internal/profiles" then
    handleCreateProfile request context
  else if request.method = .get ∧ request.target = str "/me" then
    handleGetMyProfile request context
  else if request.method = .patch ∧ request.target = str "/me" then
    handleUpdateProfile request context
  else if request.method = .get ∧ request.target.find (str "/") 0 = some 0 ∧
      request.target ≠ str "/me" then
    handleGetProfileByID request context
  else if request.method = .post ∧ request.target = str "/me/avatar" then
    handleUploadAvatar request context
  else if request.method = .delete ∧ request.target = str "/me/avatar" then
    handleDeleteAvatar request context
  else pure (errorResponse 404 request.version (str "not_found"))

end ProfileHandler

/-! ## `ContactsHandler` -/

namespace ContactsHandler

/-- The JSON of a contact in the list of contacts. -/
def contactJson (contact : Contact) : Json :=
  .ofMembers
    [(str "owner_id", .string contact.ownerID),
     (str "contact_id", .string contact.contactID),
     (str "alias", .string (contact.contactAlias.getD [])),
     (str "created_at", .integer (TimePoint.toSeconds contact.createdAt))]

/-- `ContactsHandler::HandleGetContacts`. -/
def handleGetContacts (request : Request) (context : RouteContext) : Svc σ Response := do
  enter .getContacts
  tryCatch
    (do
      let contacts ← ContactsRepository.list context.userID
      dumpResponse 200 request (.array (contacts.map contactJson)))
    fun _ => pure (errorResponse 404 request.version (str "contacts not found"))

/-- `ContactsHandler::HandleAddContact`. -/
def handleAddContact (request : Request) (context : RouteContext) : Svc σ Response := do
  enter .addContact
  tryCatch
    (do
      let jsonBody ← parse request.body
      let contactID ← convert (value getString jsonBody (str "contact_id") [])
      if contactID = [] then
        pure (errorResponse 400 request.version (str "contact_id is required"))
      else do
        let contactAlias ← convert (assignString jsonBody (str "alias") none)
        ContactsRepository.add ⟨context.userID, contactID, contactAlias, 0⟩
        dumpResponse 201 request (.ofMembers
          [(str "owner_id", .string context.userID),
           (str "contact_id", .string contactID),
           (str "alias", .string (contactAlias.getD []))]))
    fun _ => pure (errorResponse 409 request.version (str "failed to add contact"))

/-- `ContactsHandler::HandleDeleteContact`. -/
def handleDeleteContact (request : Request) (context : RouteContext) : Svc σ Response := do
  enter .deleteContact
  tryCatch
    (match context.find (str "contact_id") with
      | none => pure (errorResponse 400 request.version (str "contact_id is required"))
      | some contactId => do
          ContactsRepository.remove context.userID contactId
          pure (jsonResponse 204 request.version []))
    fun _ => pure (errorResponse 404 request.version (str "contact not found"))

/-- `ContactsHandler::Handle`. -/
def handle (request : Request) (context : RouteContext) : Svc σ Response :=
  if request.method = .get ∧ request.target = str "/contacts" then
    handleGetContacts request context
  else if request.method = .post ∧ request.target = str "/contacts" then
    handleAddContact request context
  else if request.method = .delete ∧ request.target.find (str "/contacts/") 0 = some 0 then
    handleDeleteContact request context
  else pure (errorResponse 404 request.version (str "not_found"))

end ContactsHandler

/-! ## `PrivacyHandler` -/

namespace PrivacyHandler

/-- The JSON of the privacy settings. -/
def privacyJson (settings : PrivacySettings) : Json :=
  .ofMembers
    [(str "user_id", .string settings.userID),
     (str "profile_visibility", .string settings.profileVisibility),
     (str "last_seen_visibility", .string settings.lastSeenVisibility),
     (str "avatar_visibility", .string settings.avatarVisibility)]

/-- `PrivacyHandler::HandleGetPrivacy`. -/
def handleGetPrivacy (request : Request) (context : RouteContext) : Svc σ Response := do
  enter .getPrivacy
  tryCatch
    (do
      let settings ← PrivacyRepository.get context.userID
      dumpResponse 200 request (privacyJson settings))
    fun _ => pure (errorResponse 500 request.version (str "failed to get privacy settings"))

/-- `jsonBody.value(key, "everyone")`. -/
def visibility (jsonBody : Json) (key : String) : Except Exn Bytes :=
  value getString jsonBody (str key) (str "everyone")

/-- `PrivacyHandler::HandleUpdatePrivacy`. -/
def handleUpdatePrivacy (request : Request) (context : RouteContext) : Svc σ Response := do
  enter .updatePrivacy
  tryCatch
    (do
      let jsonBody ← parse request.body
      let profileVisibility ← convert (visibility jsonBody "profile_visibility")
      let lastSeenVisibility ← convert (visibility jsonBody "last_seen_visibility")
      let avatarVisibility ← convert (visibility jsonBody "avatar_visibility")
      PrivacyRepository.update
        ⟨context.userID, profileVisibility, lastSeenVisibility, avatarVisibility⟩
      pure (jsonResponse 204 request.version []))
    fun _ => pure (errorResponse 500 request.version (str "update failed"))

/-- `PrivacyHandler::Handle`. -/
def handle (request : Request) (context : RouteContext) : Svc σ Response :=
  if request.method = .get ∧ request.target = str "/me/privacy" then
    handleGetPrivacy request context
  else if request.method = .put ∧ request.target = str "/me/privacy" then
    handleUpdatePrivacy request context
  else pure (errorResponse 404 request.version (str "not_found"))

end PrivacyHandler

/-! ## `FavoritesHandler` -/

namespace FavoritesHandler

/-- The JSON of a favourite in the list of favourites. -/
def favoriteJson (fav : Favorite) : Json :=
  .ofMembers
    [(str "user_id", .string fav.userID),
     (str "chat_id", .string fav.chatID),
     (str "created_at", .integer (TimePoint.toSeconds fav.createdAt))]

/-- `FavoritesHandler::HandleGetFavorites`. -/
def handleGetFavorites (request : Request) (context : RouteContext) : Svc σ Response := do
  enter .getFavorites
  tryCatch
    (do
      let favorites ← FavoriteRepository.list context.userID
      dumpResponse 200 request (.array (favorites.map favoriteJson)))
    fun _ => pure (errorResponse 500 request.version (str "failed to get favorites"))

/-- `FavoritesHandler::HandleAddFavorite`. -/
def handleAddFavorite (request : Request) (context : RouteContext) : Svc σ Response := do
  enter .addFavorite
  tryCatch
    (match context.find (str "chat_id") with
      | none => pure (errorResponse 400 request.version (str "chat_id is required"))
      | some chatId => do
          FavoriteRepository.add context.userID chatId
          pure (jsonResponse 201 request.version []))
    fun _ => pure (errorResponse 500 request.version (str "failed to add favorite"))

/-- `FavoritesHandler::HandleRemoveFavorite`. -/
def handleRemoveFavorite (request : Request) (context : RouteContext) : Svc σ Response := do
  enter .removeFavorite
  tryCatch
    (match context.find (str "chat_id") with
      | none => pure (errorResponse 400 request.version (str "chat_id is required"))
      | some chatId => do
          FavoriteRepository.remove context.userID chatId
          pure (jsonResponse 204 request.version []))
    fun _ => pure (errorResponse 500 request.version (str "failed to remove favorite"))

/-- `FavoritesHandler::Handle`. -/
def handle (request : Request) (context : RouteContext) : Svc σ Response :=
  if request.method = .get ∧ request.target = str "/favorites" then
    handleGetFavorites request context
  else if request.method = .post ∧ request.target.find (str "/favorites/") 0 = some 0 then
    handleAddFavorite request context
  else if request.method = .delete ∧ request.target.find (str "/favorites/") 0 = some 0 then
    handleRemoveFavorite request context
  else pure (errorResponse 404 request.version (str "not_found"))

end FavoritesHandler

/-! ## `NotificationsHandler` -/

namespace NotificationsHandler

/-- The member `mutedUntil` of an answer, when there is one. -/
def mutedUntilJson (settings : NotificationSettings) : List (Bytes × Json) :=
  match settings.mutedUntil with
  | some mutedUntil => [(str "mutedUntil", .integer (TimePoint.toSeconds mutedUntil))]
  | none => []

/-- The JSON of the global settings. -/
def globalJson (settings : NotificationSettings) : Json :=
  .ofMembers
    ([(str "id", .string settings.id),
      (str "user_id", .string settings.userID),
      (str "muted", .bool settings.muted)] ++ mutedUntilJson settings ++
      match settings.chatID with
      | some chatID => [(str "chat_id", .string chatID)]
      | none => [])

/-- `NotificationsHandler::HandleGetNotifications`. -/
def handleGetNotifications (request : Request) (context : RouteContext) :
    Svc σ Response := do
  enter .getNotifications
  tryCatch
    (do
      let settings ← NotificationRepository.get context.userID none
      dumpResponse 200 request (globalJson settings))
    fun _ => pure (errorResponse 500 request.version (str "failed to get settings"))

/-- The JSON of the settings of a chat. -/
def chatJson (chatId : Bytes) (settings : NotificationSettings) : Json :=
  .ofMembers
    ([(str "id", .string settings.id),
      (str "user_id", .string settings.userID),
      (str "chat_id", .string chatId),
      (str "muted", .bool settings.muted)] ++ mutedUntilJson settings)

/-- `NotificationsHandler::HandleGetChatNotifications`. -/
def handleGetChatNotifications (request : Request) (context : RouteContext) :
    Svc σ Response := do
  enter .getChatNotifications
  tryCatch
    (match context.find (str "chat_id") with
      | none => pure (errorResponse 400 request.version (str "chat_id is required"))
      | some chatId => do
          let settings ← tryCatch (NotificationRepository.get context.userID (some chatId))
            fun _ => NotificationRepository.get context.userID none
          dumpResponse 200 request (chatJson chatId settings))
    fun _ => pure (errorResponse 500 request.version (str "failed to get settings"))

/-- `std::chrono::system_clock::from_time_t(std::mktime(&tm))`. -/
def localTime (tm : Tm) : Svc σ TimePoint := fun env w => (.ok (fromTimeT (env.mktime tm)), w)

/-- The `mutedUntil` of a request body; `none` when its text does not read as a time. -/
def readMutedUntil (jsonBody : Json) : Svc σ (Option (Option TimePoint)) :=
  match jsonBody.member? (str "mutedUntil") with
  | none | some .null => pure (some none)
  | some mutedUntil => do
      let mutedUntilStr ← convert (getString mutedUntil)
      if mutedUntilStr = [] then pure (some none)
      else
        match getTime rfc3339Format mutedUntilStr with
        | none => pure none
        | some tm => do
            let timePoint ← localTime tm
            pure (some (some timePoint))

/-- The common part of the two updates: read the body and write the settings. -/
def putSettings (request : Request) (userID : Bytes) (chatID : Option Bytes) :
    Svc σ Response := do
  let jsonBody ← parse request.body
  let muted ← convert (value getBool jsonBody (str "muted") false)
  match ← readMutedUntil jsonBody with
  | none =>
      pure (errorResponse 400 request.version
        (str "invalid mutedUntil format, expected RFC3339"))
  | some mutedUntil => do
      NotificationRepository.upsert ⟨[], userID, chatID, muted, mutedUntil⟩
      pure (jsonResponse 204 request.version [])

/-- `NotificationsHandler::HandleUpdateNotifications`. -/
def handleUpdateNotifications (request : Request) (context : RouteContext) :
    Svc σ Response := do
  enter .updateNotifications
  tryCatch (putSettings request context.userID none)
    fun e => pure (errorResponse 400 request.version e.what)

/-- `NotificationsHandler::HandleUpdateChatNotifications`. -/
def handleUpdateChatNotifications (request : Request) (context : RouteContext) :
    Svc σ Response := do
  enter .updateChatNotifications
  tryCatch
    (match context.find (str "chat_id") with
      | none => pure (errorResponse 400 request.version (str "chat_id is required"))
      | some chatId => putSettings request context.userID (some chatId))
    fun e => pure (errorResponse 400 request.version e.what)

/-- `NotificationsHandler::Handle`. -/
def handle (request : Request) (context : RouteContext) : Svc σ Response :=
  if request.method = .get ∧ request.target = str "/notifications" then
    handleGetNotifications request context
  else if request.method = .get ∧ request.target.find (str "/notifications/") 0 = some 0 then
    handleGetChatNotifications request context
  else if request.method = .put ∧ request.target = str "/notifications" then
    handleUpdateNotifications request context
  else if request.method = .put ∧ request.target.find (str "/notifications/") 0 = some 0 then
    handleUpdateChatNotifications request context
  else pure (errorResponse 404 request.version (str "not_found"))

end NotificationsHandler

end ProfileService
