/-
# Successful requests

What a client has achieved with a request: `eventOf` reads it off the request and the
response alone.  The ids and texts of an event are the ones the database makes of those in
the request, so that an event is the same whichever spelling of a UUID was sent.
`Event.Makes` is the write that an event stands for.
-/
import ProfileService.RequestManager
import ProfileService.Statements

namespace ProfileService

open Bytes (str)

variable {σ : Type}

/-- The change that a successful request stands for. -/
inductive Event
  | created (user : Bytes)
  | patched (user : Bytes) (firstName lastName username bio : Option Bytes)
  | avatarSet (user avatarUrl : Bytes)
  | contactAdded (owner contact contactAlias : Bytes)
  | contactRemoved (owner contact : Bytes)
  | favoriteAdded (user chat : Bytes)
  | favoriteRemoved (user chat : Bytes)
  | privacySet (user profileVisibility lastSeenVisibility avatarVisibility : Bytes)
  | notificationsSet (user chat : Bytes) (muted : Bool) (mutedUntil : Option ℤ)
deriving DecidableEq

/-- The write of an event: a PATCH writes the fields that were not in its body as they were
in the row, empty for null. -/
def Event.Makes (st : Store) : Event → Write → Prop
  | .created user, wr => wr = .createProfile user
  | .patched user firstName lastName username bio, wr =>
      ∃ r ∈ st.profiles, r.userId = user ∧
        wr = .updateProfile (firstName.getD (r.firstName.getD []))
          (lastName.getD (r.lastName.getD [])) (username.getD (r.username.getD []))
          (bio.getD (r.bio.getD [])) user
  | .avatarSet user avatarUrl, wr => wr = .updateAvatarURL avatarUrl user
  | .contactAdded owner contact contactAlias, wr => wr = .addContact owner contact contactAlias
  | .contactRemoved owner contact, wr => wr = .removeContact owner contact
  | .favoriteAdded user chat, wr => wr = .addFavorite user chat
  | .favoriteRemoved user chat, wr => wr = .removeFavorite user chat
  | .privacySet user profileVisibility lastSeenVisibility avatarVisibility, wr =>
      wr = .updatePrivacy user profileVisibility lastSeenVisibility avatarVisibility
  | .notificationsSet user chat muted mutedUntil, wr =>
      wr = .upsertNotifications user chat muted mutedUntil

/-- `mutedUntil` in a body: a missing, null or empty one is none, and one that does not read
as a time is refused. -/
def bodyMutedUntil (j : Json) : Option (Option Tm) :=
  match j.member? (str "mutedUntil") with
  | none | some .null | some (.string []) => some none
  | some (.string s) => (getTime rfc3339Format s).map some
  | _ => none

section Requests

variable (env : Env σ) (request : Request)

/-- The user id of the header as the database assigns it to a column. -/
def storedUser : Option Bytes :=
  env.db.stored env.db.schema.idType (extractUserID request)

/-- The user id of the header as the database compares it. -/
def comparedUser : Option Bytes := env.db.idKey (extractUserID request)

/-- The body of the request. -/
def bodyJson : Option Json := (env.json.parse request.body).toOption

/-- The text under a key as the column stores it; `none` when there is none. -/
def storedMember (T : ColumnType) (j : Json) (key : String) : Option (Option Bytes) := do
  match ← (assignString j (str key) none).toOption with
  | some s => (env.db.stored T s).map some
  | none => some none

/-- A visibility in the body, `everyone` when it is not there. -/
def storedVisibility (j : Json) (key : String) : Option Bytes := do
  let s ← (value getString j (str key) (str "everyone")).toOption
  env.db.stored env.db.schema.visibilityType s

/-- `mutedUntil` in the body as the database stores it. -/
def storedMutedUntil (j : Json) : Option (Option ℤ) := do
  match ← bodyMutedUntil j with
  | none => some none
  | some tm => do
      let t ← (env.db.receive
        (strftime (gmtime (TimePoint.toSeconds (fromTimeT (env.mktime tm)))))).bind
          env.db.timestamptzIn
      some (some t)

/-- The `user_id` of the body as the database stores it. -/
def bodyUser : Option Bytes := do
  let j ← bodyJson env request
  let userId ← (value getString j (str "user_id") []).toOption
  env.db.stored env.db.schema.idType userId

/-- `POST /internal/profiles`. -/
def createdEvent : Option Event := (bodyUser env request).map .created

/-- `PATCH /me`. -/
def patchedEvent : Option Event := do
  let j ← bodyJson env request
  let user ← comparedUser env request
  let firstName ← storedMember env env.db.schema.nameType j "first_name"
  let lastName ← storedMember env env.db.schema.nameType j "last_name"
  let username ← storedMember env env.db.schema.usernameType j "username"
  let bio ← storedMember env .text j "bio"
  some (.patched user firstName lastName username bio)

/-- `POST /me/avatar`: the address is the one in the answer. -/
def uploadedEvent (response : Response) : Option Event := do
  let user ← comparedUser env request
  let j ← (env.json.parse response.body).toOption
  let url ← (value getString j (str "avatar_url") []).toOption
  let avatarUrl ← env.db.stored .text url
  some (.avatarSet user avatarUrl)

/-- `DELETE /me/avatar`. -/
def avatarDeletedEvent : Option Event := do
  let user ← comparedUser env request
  some (.avatarSet user [])

/-- `POST /contacts`. -/
def contactAddedEvent : Option Event := do
  let j ← bodyJson env request
  let owner ← storedUser env request
  let contactId ← (value getString j (str "contact_id") []).toOption
  let contact ← env.db.stored env.db.schema.idType contactId
  let contactAlias ← storedMember env env.db.schema.nameType j "alias"
  some (.contactAdded owner contact (contactAlias.getD []))

/-- `DELETE /contacts/{contact_id}`. -/
def contactRemovedEvent : Option Event := do
  let owner ← comparedUser env request
  let contact ← env.db.idKey (request.target.drop 10)
  some (.contactRemoved owner contact)

/-- `POST /favorites/{chat_id}`. -/
def favoriteAddedEvent : Option Event := do
  let user ← storedUser env request
  let chat ← env.db.stored env.db.schema.idType (request.target.drop 11)
  some (.favoriteAdded user chat)

/-- `DELETE /favorites/{chat_id}`. -/
def favoriteRemovedEvent : Option Event := do
  let user ← comparedUser env request
  let chat ← env.db.idKey (request.target.drop 11)
  some (.favoriteRemoved user chat)

/-- `PUT /me/privacy`. -/
def privacySetEvent : Option Event := do
  let j ← bodyJson env request
  let user ← storedUser env request
  let profileVisibility ← storedVisibility env j "profile_visibility"
  let lastSeenVisibility ← storedVisibility env j "last_seen_visibility"
  let avatarVisibility ← storedVisibility env j "avatar_visibility"
  some (.privacySet user profileVisibility lastSeenVisibility avatarVisibility)

/-- `PUT /notifications` with the empty chat id, and `PUT /notifications/{chat_id}`. -/
def notificationsSetEvent (chatId : Bytes) : Option Event := do
  let j ← bodyJson env request
  let user ← storedUser env request
  let chat ← env.db.stored env.db.schema.idType chatId
  let muted ← (value getBool j (str "muted") false).toOption
  let mutedUntil ← storedMutedUntil env j
  some (.notificationsSet user chat muted mutedUntil)

/-- The event of a request that was answered with a status of success. -/
def requestedEvent (response : Response) : Option Event :=
  match request.method with
  | .post =>
      if request.target = str "/internal/profiles" then createdEvent env request
      else if request.target = str "/me/avatar" then uploadedEvent env request response
      else if request.target = str "/contacts" then contactAddedEvent env request
      else if (str "/favorites/").isPrefixOf request.target then favoriteAddedEvent env request
      else none
  | .patch => if request.target = str "/me" then patchedEvent env request else none
  | .put =>
      if request.target = str "/me/privacy" then privacySetEvent env request
      else if request.target = str "/notifications" then notificationsSetEvent env request []
      else if (str "/notifications/").isPrefixOf request.target then
        notificationsSetEvent env request (request.target.drop 15)
      else none
  | .delete =>
      if request.target = str "/me/avatar" then avatarDeletedEvent env request
      else if (str "/contacts/").isPrefixOf request.target then contactRemovedEvent env request
      else if (str "/favorites/").isPrefixOf request.target then favoriteRemovedEvent env request
      else none
  | _ => none

end Requests

/-- The event of a request and what came back, `none` when nothing was changed. -/
def eventOf (env : Env σ) : Request × Except Exn Response → Option Event
  | (request, .ok response) =>
      if 200 ≤ response.status ∧ response.status < 300 then
        requestedEvent env request response
      else none
  | (_, .error _) => none

lemma eventOf_of_failed {env : Env σ} {request : Request} {response : Response}
    (h : 400 ≤ response.status) : eventOf env (request, .ok response) = none :=
  if_neg (by omega)

/-- A request with a method that changes nothing is no event. -/
lemma eventOf_of_method {env : Env σ} {request : Request} {response : Response}
    (h : request.method ∉ [.post, .patch, .put, .delete]) :
    eventOf env (request, .ok response) = none := by
  have hnone : requestedEvent env request response = none := by
    unfold requestedEvent
    split <;> simp_all
  simp [eventOf, hnone]

end ProfileService
