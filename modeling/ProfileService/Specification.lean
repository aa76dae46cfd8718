/-
# The specification of the service

A machine over a directory and the avatar storage.  A request is read into a task, which looks
at the directory: the task says whether the request succeeds, with which status, and what it
makes of the directory.
-/
import ProfileService.Contents

namespace ProfileService

open Bytes (str)

variable {σ : Type}

/-! ## Tasks -/

/-- What a request asks for. -/
inductive Task
  /-- Nothing that could be done. -/
  | refuse
  /-- An answer that is always given. -/
  | answer (status : ℕ)
  /-- The profile of the user. -/
  | look (user : Bytes)
  /-- To make the event. -/
  | make (status : ℕ) (event : Event)
deriving DecidableEq

/-- To make the event, if there is one. -/
def Task.ofEvent (status : ℕ) : Option Event → Task
  | some event => .make status event
  | none => .refuse

section

open Classical

/-- The status of the answer, `none` for a failure. -/
noncomputable def Task.status (d : Directory) : Task → Option ℕ
  | .refuse => none
  | .answer status => some status
  | .look user => if d.Member user then some 200 else none
  | .make status event => if d.Admits event then some status else none

/-- The directory after the task. -/
noncomputable def Task.next (d : Directory) : Task → Directory
  | .make _ event => if d.Admits event then d.apply event else d
  | _ => d

end

/-! ## The task of a request -/

/-- The status of an answer of the handler that reports no failure. -/
def HandlerId.success : HandlerId → ℕ
  | .createProfile | .addContact | .addFavorite => 201
  | .deleteAvatar | .deleteContact | .removeFavorite | .updatePrivacy | .updateNotifications
  | .updateChatNotifications => 204
  | .getMyProfile | .getProfileByID | .updateProfile | .uploadAvatar | .getContacts | .getPrivacy
  | .getFavorites | .getNotifications | .getChatNotifications => 200

section Tasks

variable (env : Env σ) (request : Request)

/-- The text under a key of the body, empty when there is none. -/
def bodyText (key : String) : Option Bytes := do
  let j ← bodyJson env request
  (value getString j (str key) []).toOption

/-- A GET that shows what there is, to a user the database can name. -/
def listTask : Task := if (comparedUser env request).isSome then .answer 200 else .refuse

/-- A GET of the profile with the id. -/
def lookTask (userId : Bytes) : Task := (env.db.idKey userId).elim .refuse .look

/-- What an upload asks for, and the avatar storage after it. -/
def uploadTask (s : σ) : Task × σ :=
  match uploadInput env request with
  | none => (.refuse, s)
  | some (data, contentType) =>
      let (url, s') := env.avatarStorage.upload (extractUserID request) data contentType s
      (.ofEvent 200 do
        let avatarUrl ← url.toOption.bind (env.db.stored .text)
        let user ← comparedUser env request
        some (.avatarSet user avatarUrl), s')

/-- What the deletion of an avatar asks for, and the avatar storage after it. -/
def deleteTask (s : σ) : Task × σ :=
  let (res, s') := env.avatarStorage.delete (extractUserID request) s
  (.ofEvent 204 (res.toOption.bind fun _ => avatarDeletedEvent env request), s')

/-- What a request to the handler asks for, and the avatar storage after it. -/
def HandlerId.task (s : σ) (id : HandlerId) : Task × σ :=
  match id with
  | .createProfile =>
      (if bodyText env request "user_id" = some [] then .refuse
        else .ofEvent id.success (createdEvent env request), s)
  | .getMyProfile => (lookTask env (extractUserID request), s)
  | .getProfileByID =>
      (if request.target.drop 1 = [] then .refuse else lookTask env (request.target.drop 1), s)
  | .updateProfile => (.ofEvent id.success (patchedEvent env request), s)
  | .uploadAvatar => uploadTask env request s
  | .deleteAvatar => deleteTask env request s
  | .getContacts | .getPrivacy | .getFavorites | .getNotifications => (listTask env request, s)
  | .addContact =>
      (if bodyText env request "contact_id" = some [] then .refuse
        else .ofEvent id.success (contactAddedEvent env request), s)
  | .deleteContact => (.ofEvent id.success (contactRemovedEvent env request), s)
  | .updatePrivacy => (.ofEvent id.success (privacySetEvent env request), s)
  | .addFavorite => (.ofEvent id.success (favoriteAddedEvent env request), s)
  | .removeFavorite => (.ofEvent id.success (favoriteRemovedEvent env request), s)
  | .getChatNotifications =>
      -- the chat id is printed in the answer, whatever the database makes of it
      (if Bytes.ValidUtf8 (request.target.drop 15) then listTask env request else .refuse, s)
  | .updateNotifications => (.ofEvent id.success (notificationsSetEvent env request []), s)
  | .updateChatNotifications =>
      (.ofEvent id.success (notificationsSetEvent env request (request.target.drop 15)), s)

/-- What a request asks for, and the avatar storage after it: a request that is not routed, or
comes from nobody, asks for nothing. -/
def taskOf (s : σ) : Task × σ :=
  if request.method = .options then (.answer 204, s)
  else
    match resolveRoute request.target request.method with
    | none => (.refuse, s)
    | some info =>
        if info.id = .createProfile ∨ extractUserID request ≠ [] then info.id.task env request s
        else (.refuse, s)

end Tasks

/-! ## The machine -/

/-- A directory and the avatar storage. -/
abbrev Registry (σ : Type) : Type := Directory × σ

/-- The step of the specification: the status of the answer, `none` for a failure, and what
there is after it. -/
noncomputable def Registry.step (env : Env σ) (g : Registry σ) (request : Request) :
    Option ℕ × Registry σ :=
  ((taskOf env request g.2).1.status g.1,
    (taskOf env request g.2).1.next g.1, (taskOf env request g.2).2)

/-- The specification before the first request. -/
def Registry.start (storage : σ) : Registry σ := (Directory.empty, storage)

/-- The directory and the avatar storage of a world. -/
def World.registry (w : World σ) : Registry σ := (w.store.directory, w.storage)

/-- What is seen of an answer: its status, or that it reports a failure. -/
def outcome : Except Exn Response → Option ℕ
  | .ok response => if response.status < 400 then some response.status else none
  | .error _ => none

end ProfileService
