/-
# Requests, responses and identifiers of handlers

The HTTP vocabulary of the service: the verbs of the HTTP library, requests with their
header fields, and the two response builders that every handler uses.
-/
import ProfileService.Lib.Bytes

namespace ProfileService

open Bytes (str)

/-- `boost::beast::http::verb`, in its order. -/
inductive Verb
  | unknown | delete | get | head | post | put | connect | options | trace
  | copy | lock | mkcol | move | propfind | proppatch | search | unlock | bind | rebind
  | unbind | acl | report | mkactivity | checkout | merge | msearch | notify | subscribe
  | unsubscribe | patch | purge | mkcalendar | link | unlink
deriving DecidableEq

/-- `static_cast<int>(method)`. -/
def Verb.toInt (v : Verb) : ℕ := v.ctorIdx

lemma Verb.toInt_injective : Function.Injective Verb.toInt := by
  intro v w h
  have hnum : Verb.ofNat v.ctorIdx = Verb.ofNat w.ctorIdx := congrArg Verb.ofNat h
  rwa [Verb.ofNat_ctorIdx, Verb.ofNat_ctorIdx] at hnum

/-- `msngr::profile::HandlerId`. -/
inductive HandlerId
  | createProfile | getMyProfile | getProfileByID | updateProfile | uploadAvatar
  | deleteAvatar
  | getContacts | addContact | deleteContact
  | getPrivacy | updatePrivacy
  | getFavorites | addFavorite | removeFavorite
  | getNotifications | getChatNotifications | updateNotifications | updateChatNotifications
deriving DecidableEq

/-- `beast_http::request<string_body>`. -/
structure Request where
  method : Verb
  target : Bytes
  version : ℕ
  /-- The header fields, in the order they were sent. -/
  fields : List (Bytes × Bytes)
  body : Bytes

/-- `beast_http::response<string_body>`. -/
structure Response where
  status : ℕ
  version : ℕ
  contentType : Bytes
  body : Bytes
deriving DecidableEq

/-- `handlers::RouteContext`. -/
structure RouteContext where
  pathParams : List (Bytes × Bytes)
  userID : Bytes

/-- `handlers::JsonResponse`. -/
def jsonResponse (status version : ℕ) (body : Bytes) : Response where
  status := status
  version := version
  contentType := str "application/json"
  body := body

/-- `handlers::ErrorResponse`. -/
def errorResponse (status version : ℕ) (error : Bytes) : Response :=
  jsonResponse status version (str "\x7b\"error\":\"" ++ error ++ str "\"\x7d")

@[simp] lemma jsonResponse_status (status version : ℕ) (body : Bytes) :
    (jsonResponse status version body).status = status := rfl

@[simp] lemma jsonResponse_body (status version : ℕ) (body : Bytes) :
    (jsonResponse status version body).body = body := rfl

@[simp] lemma errorResponse_status (status version : ℕ) (error : Bytes) :
    (errorResponse status version error).status = status := rfl

/-- Lower case of an ASCII letter. -/
def toLower (b : UInt8) : UInt8 :=
  if 0x41 ≤ b.toNat ∧ b.toNat ≤ 0x5A then b + 0x20 else b

/-- `request.find(name)`: the value of the first field with the name, in any case. -/
def Request.find (request : Request) (name : Bytes) : Option Bytes :=
  (request.fields.find? fun f => f.1.map toLower == name.map toLower).map Prod.snd

end ProfileService
