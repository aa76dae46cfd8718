/-
# Routing and authorisation

The table of routes, the factory that binds a handler to a route, and
`RequestManager::Handle`, the path of a request from its target to the body of a handler.
-/
import ProfileService.Handlers
import ProfileService.Lib.AssocMap

namespace ProfileService

open Bytes (str)
open Decimal (decimal)

variable {σ : Type}

/-! ## `GetApiSpec` -/

/-- `HandlerInfo`. -/
structure HandlerInfo where
  method : Verb
  id : HandlerId
  scope : Bytes
deriving DecidableEq

/-- `s.FlatRoutes`: an entry for every route, under its path and the number of its verb. -/
abbrev FlatRoutes : Type := List (Bytes × HandlerInfo)

/-- `addRoute`. -/
def addRoute (path : String) (method : Verb) (id : HandlerId) (scope : String)
    (routes : FlatRoutes) : FlatRoutes :=
  AssocMap.assign (str path ++ str ":" ++ decimal method.toInt) ⟨method, id, str scope⟩ routes

/-- `GetApiSpec().FlatRoutes`. -/
def apiSpec : FlatRoutes :=
  [] |> addRoute "/internal/profiles" .post .createProfile "profile:write"
    |> addRoute "/me" .get .getMyProfile "profile:read"
    |> addRoute "/me" .patch .updateProfile "profile:write"
    |> addRoute "/\x7buser_id\x7d" .get .getProfileByID "profile:read"
    |> addRoute "/me/avatar" .post .uploadAvatar "profile:write"
    |> addRoute "/me/avatar" .delete .deleteAvatar "profile:write"
    |> addRoute "/me/privacy" .get .getPrivacy "profile:read"
    |> addRoute "/me/privacy" .put .updatePrivacy "profile:write"
    |> addRoute "/contacts" .get .getContacts "contacts:read"
    |> addRoute "/contacts" .post .addContact "contacts:write"
    |> addRoute "/contacts/\x7bcontact_id\x7d" .delete .deleteContact "contacts:write"
    |> addRoute "/favorites" .get .getFavorites "favorites:read"
    |> addRoute "/favorites/\x7bchat_id\x7d" .post .addFavorite "favorites:write"
    |> addRoute "/favorites/\x7bchat_id\x7d" .delete .removeFavorite "favorites:write"
    |> addRoute "/notifications" .get .getNotifications "notifications:read"
    |> addRoute "/notifications/\x7bchat_id\x7d" .get .getChatNotifications
        "notifications:read"
    |> addRoute "/notifications" .put .updateNotifications "notifications:write"
    |> addRoute "/notifications/\x7bchat_id\x7d" .put .updateChatNotifications
        "notifications:write"

/-! ## `HandlerFactory` -/

/-- The classes of handlers. -/
inductive HandlerClass
  | profile | contacts | privacy | favorites | notifications
deriving DecidableEq

/-- `m_handlers`. -/
def handlerMap : List (HandlerId × HandlerClass) :=
  [(.createProfile, .profile), (.getMyProfile, .profile), (.getProfileByID, .profile),
   (.updateProfile, .profile), (.uploadAvatar, .profile), (.deleteAvatar, .profile),
   (.getContacts, .contacts), (.addContact, .contacts), (.deleteContact, .contacts),
   (.getPrivacy, .privacy), (.updatePrivacy, .privacy),
   (.getFavorites, .favorites), (.addFavorite, .favorites), (.removeFavorite, .favorites),
   (.getNotifications, .notifications), (.getChatNotifications, .notifications),
   (.updateNotifications, .notifications), (.updateChatNotifications, .notifications)]

/-- `IHandler::Handle` of the classes. -/
def HandlerClass.handle : HandlerClass → Request → RouteContext → Svc σ Response
  | .profile => ProfileHandler.handle
  | .contacts => ContactsHandler.handle
  | .privacy => PrivacyHandler.handle
  | .favorites => FavoritesHandler.handle
  | .notifications => NotificationsHandler.handle

/-- `HandlerFactory::Bind`. -/
def bindHandler (id : HandlerId) : Request → RouteContext → Svc σ Response :=
  match handlerMap.lookup id with
  | some c => c.handle
  | none => fun request _ =>
      pure (errorResponse 501 request.version (str "handler not implemented"))

/-! ## `RequestManager` -/

/-- `m_routeMap`. -/
abbrev RouteMap : Type := List (Bytes × List (Verb × HandlerInfo))

/-- `RequestManager::BuildRouteMap`, over the routes in the order they are iterated in:
the path is what stands before the first colon. -/
def buildRouteMap (routes : FlatRoutes) : RouteMap :=
  routes.foldl (fun routeMap entry =>
    match entry.1.find (str ":") 0 with
    | some colonPos =>
        let path := entry.1.take colonPos
        let methods := (routeMap.lookup path).getD []
        AssocMap.assign path (AssocMap.assign entry.2.method entry.2 methods) routeMap
    | none => routeMap) []

/-- `m_routeMap` of the service. -/
def routeMap : RouteMap := buildRouteMap apiSpec

/-- `findExact`. -/
def findExact (path : Bytes) (method : Verb) : Option HandlerInfo :=
  (routeMap.lookup path).bind fun methods => methods.lookup method

/-- `RequestManager::ResolveRoute`. -/
def resolveRoute (target : Bytes) (method : Verb) : Option HandlerInfo :=
  match findExact target method with
  | some info => some info
  | none =>
      if target.rfind (str "/contacts/") 0 = some 0 then
        findExact (str "/contacts/\x7bcontact_id\x7d") method
      else if target.rfind (str "/favorites/") 0 = some 0 then
        findExact (str "/favorites/\x7bchat_id\x7d") method
      else if target.rfind (str "/notifications/") 0 = some 0 then
        findExact (str "/notifications/\x7bchat_id\x7d") method
      else if target ≠ str "/me" ∧ target ≠ str "/me/avatar" ∧ target ≠ str "/me/privacy" ∧
          target.rfind (str "/") 0 = some 0 ∧ target.find (str "/") 1 = none then
        findExact (str "/\x7buser_id\x7d") method
      else none

/-- `RequestManager::ExtractUserID`. -/
def extractUserID (request : Request) : Bytes := (request.find (str "X-User-ID")).getD []

/-- `RequestManager::ExtractPathParams`. -/
def extractPathParams (target : Bytes) : List (Bytes × Bytes) :=
  if target.find (str "/contacts/") 0 = some 0 ∧ target ≠ str "/contacts" then
    [(str "contact_id", target.drop 10)]
  else if target.find (str "/favorites/") 0 = some 0 then
    [(str "chat_id", target.drop 11)]
  else if target.find (str "/notifications/") 0 = some 0 ∧ target ≠ str "/notifications" then
    [(str "chat_id", target.drop 15)]
  else if target ≠ str "/me" ∧ target.find (str "/") 0 = some 0 ∧ 1 < target.length then
    [(str "user_id", target.drop 1)]
  else []

/-- `IAuthChecker::Check`, which may throw. -/
abbrev AuthChecker : Type := Bytes → Bytes → Except Exn Bool

/-- `SimpleAuthChecker::Check`. -/
def simpleAuthChecker : AuthChecker := fun userId _scope => .ok (userId ≠ [])

/-- `RequestManager::AuthorizeRequest`. -/
def authorizeRequest (authChecker : AuthChecker) (userID : Bytes) (handlerInfo : HandlerInfo) :
    Except Exn Bool := authChecker userID handlerInfo.scope

/-- Bind the handler of the route and run it. -/
def runHandler (request : Request) (handlerInfo : HandlerInfo) (userID : Bytes) :
    Svc σ Response :=
  bindHandler handlerInfo.id request ⟨extractPathParams request.target, userID⟩

/-- `RequestManager::Handle`. -/
def handle (authChecker : AuthChecker) (request : Request) : Svc σ Response :=
  if request.method = .options then pure (jsonResponse 204 request.version [])
  else
    match resolveRoute request.target request.method with
    | none => pure (errorResponse 404 request.version (str "route_not_found"))
    | some handlerInfo =>
        let userID := extractUserID request
        if request.method = .post ∧ request.target = str "/internal/profiles" then
          runHandler request handlerInfo userID
        else if userID = [] then
          pure (errorResponse 401 request.version (str "missing X-User-ID"))
        else do
          if ← convert (authorizeRequest authChecker userID handlerInfo) then
            runHandler request handlerInfo userID
          else pure (errorResponse 403 request.version (str "auth_failed"))

/-! ## The server -/

/-- `ServerImpl::Handle`, as a step of the server: what came back and the state after. -/
def serve (env : Env σ) (w : World σ) (request : Request) : Except Exn Response × World σ :=
  (handle simpleAuthChecker request).run env w

end ProfileService
