/-
# Mediation and dispatch

Which body a request runs.  The route that `ResolveRoute` finds names it, the second
dispatch inside the handler agrees, the path parameter it looks up is the rest of the
target, and it runs only after the scope of that very body has been granted.
-/
import ProfileService.Router

namespace ProfileService

open Bytes (str)

variable {σ : Type}

/-! ## Path parameters -/

/-- The literal prefix and the name of the parameter that a template ends in. -/
def templateParam (path : Bytes) : Option (Bytes × Bytes) := do
  let brace ← path.find (str "\x7b") 0
  if path.getLast? = some 0x7D then
    some (path.take brace, (path.drop (brace + 1)).dropLast)
  else none

/-- The body reads the path parameters by looking this name up, and in no other way: it
answers 400 when the name is not bound. -/
def HandlerId.LooksUp (σ : Type) (id : HandlerId) (name : Bytes) : Prop :=
  ∀ (request : Request) (context : RouteContext),
    (∀ v, context.find name = some v →
      id.body request context =
        (id.body request ⟨[(name, v)], context.userID⟩ : Svc σ Response)) ∧
    (context.find name = none → ∀ (env : Env σ) (w : World σ), ∃ resp,
      (id.body request context).run env w = (.ok resp, w.entering id) ∧ resp.status = 400)

/-- A context that binds only the name. -/
lemma find_singleton (name v userID : Bytes) :
    RouteContext.find ⟨[(name, v)], userID⟩ name = some v := by
  simp [RouteContext.find]

/-- The name of the path parameter that the body looks up. -/
def HandlerId.pathParam : HandlerId → Option Bytes
  | .getProfileByID => some (str "user_id")
  | .deleteContact => some (str "contact_id")
  | .addFavorite | .removeFavorite | .getChatNotifications | .updateChatNotifications =>
      some (str "chat_id")
  | _ => none

lemma looksUp_pathParam {id : HandlerId} {name : Bytes} (h : id.pathParam = some name) :
    id.LooksUp σ name := by
  cases id with
  | deleteContact | addFavorite | removeFavorite | getChatNotifications | updateChatNotifications
  | getProfileByID =>
    obtain rfl := Option.some.inj h
    intro request context
    simp only [HandlerId.body, ContactsHandler.handleDeleteContact,
      FavoritesHandler.handleAddFavorite, FavoritesHandler.handleRemoveFavorite,
      NotificationsHandler.handleGetChatNotifications,
      NotificationsHandler.handleUpdateChatNotifications, ProfileHandler.handleGetProfileByID]
    constructor
    · intro v hv
      simp only [hv, find_singleton]
    · intro hv env w
      simp only [hv]
      exact ⟨_, rfl, rfl⟩
  | _ => cases h

lemma extractPathParams_contacts (rest : Bytes) :
    extractPathParams (str "/contacts/" ++ rest) = [(str "contact_id", rest)] := by
  have hne : str "/contacts/" ++ rest ≠ str "/contacts" := fun h =>
    absurd (h ▸ List.prefix_append _ _ : str "/contacts/" <+: str "/contacts") (by decide)
  rw [extractPathParams,
    if_pos ⟨Bytes.find_eq_zero.mpr (List.prefix_append _ _), hne⟩]
  rfl

lemma extractPathParams_favorites (rest : Bytes) :
    extractPathParams (str "/favorites/" ++ rest) = [(str "chat_id", rest)] := by
  have hpre := List.prefix_append (str "/favorites/") rest
  have h1 := not_start_of_start (str "/contacts/") hpre (by decide) (by decide)
  rw [extractPathParams, if_neg (fun h => h1 (Bytes.find_eq_zero.mp h.1)),
    if_pos (Bytes.find_eq_zero.mpr hpre)]
  rfl

lemma extractPathParams_notifications (rest : Bytes) :
    extractPathParams (str "/notifications/" ++ rest) = [(str "chat_id", rest)] := by
  have hpre := List.prefix_append (str "/notifications/") rest
  have h1 := not_start_of_start (str "/contacts/") hpre (by decide) (by decide)
  have h2 := not_start_of_start (str "/favorites/") hpre (by decide) (by decide)
  have hne : str "/notifications/" ++ rest ≠ str "/notifications" := fun h =>
    absurd (h ▸ hpre : str "/notifications/" <+: str "/notifications") (by decide)
  rw [extractPathParams, if_neg (fun h => h1 (Bytes.find_eq_zero.mp h.1)),
    if_neg (fun h => h2 (Bytes.find_eq_zero.mp h)),
    if_pos ⟨Bytes.find_eq_zero.mpr hpre, hne⟩]
  rfl

lemma extractPathParams_profile {rest : Bytes} (hsegment : 0x2F ∉ rest) (hrest : rest ≠ [])
    (hme : str "/" ++ rest ≠ str "/me") :
    extractPathParams (str "/" ++ rest) = [(str "user_id", rest)] := by
  have hnot : ∀ pre : Bytes, 0x2F ∈ pre.drop 1 → (str "/" ++ rest).find pre 0 ≠ some 0 :=
    fun pre hpre h => hsegment (slash_mem_of_start hpre (Bytes.find_eq_zero.mp h))
  have hlen : 1 < (str "/" ++ rest).length := by
    have hpos := List.length_pos_iff.mpr hrest
    have hone : (str "/").length = 1 := by decide
    rw [List.length_append]
    omega
  rw [extractPathParams, if_neg (fun h => hnot _ (by decide) h.1),
    if_neg (hnot _ (by decide)), if_neg (fun h => hnot _ (by decide) h.1),
    if_pos ⟨hme, Bytes.find_eq_zero.mpr (List.prefix_append _ _), hlen⟩]
  rfl

/-- The templates with a parameter: what they bind is the rest of the target, under the
name that the body looks up. -/
lemma templates :
    ∀ e ∈ routeTable, ∀ p, templateParam e.1 = some p →
      (e.2.id = .deleteContact ∧ p = (str "/contacts/", str "contact_id")) ∨
      ((e.2.id = .addFavorite ∨ e.2.id = .removeFavorite) ∧
        p = (str "/favorites/", str "chat_id")) ∨
      ((e.2.id = .getChatNotifications ∨ e.2.id = .updateChatNotifications) ∧
        p = (str "/notifications/", str "chat_id")) ∨
      (e.2.id = .getProfileByID ∧ p = (str "/", str "user_id")) := by
  have h : ∀ e ∈ routeTable, ∀ p ∈ templateParam e.1,
      (e.2.id = .deleteContact ∧ p = (str "/contacts/", str "contact_id")) ∨
      ((e.2.id = .addFavorite ∨ e.2.id = .removeFavorite) ∧
        p = (str "/favorites/", str "chat_id")) ∨
      ((e.2.id = .getChatNotifications ∨ e.2.id = .updateChatNotifications) ∧
        p = (str "/notifications/", str "chat_id")) ∨
      (e.2.id = .getProfileByID ∧ p = (str "/", str "user_id")) := by decide
  exact fun e he p hp => h e he p hp

/-- When a route is found for a method and a target, the handler the factory binds to it
runs exactly the body that the route names; and if the template of the route ends in a
parameter and the target goes on after its literal prefix, the name that the body looks up
is bound to exactly the rest. -/
theorem dispatch_agrees {t : Bytes} {m : Verb} {info : HandlerInfo}
    (h : resolveRoute t m = some info) :
    (∀ (request : Request) (context : RouteContext), request.method = m → request.target = t →
      bindHandler info.id request context = (info.id.body request context : Svc σ Response) ∧
        ∀ (env : Env σ) (w : World σ),
          ((bindHandler info.id request context).run env w).2.bodies = w.bodies ++ [info.id]) ∧
    ∀ path pre name rest, (path, info) ∈ routeTable → templateParam path = some (pre, name) →
      t = pre ++ rest → rest ≠ [] →
        (extractPathParams t).lookup name = some rest ∧ info.id.LooksUp σ name := by
  obtain ⟨hm, ht, -⟩ := resolveRoute_sound h
  constructor
  · rintro request context rfl rfl
    have hbody : bindHandler info.id request context =
        (info.id.body request context : Svc σ Response) := bindHandler_eq_body context hm ht
    refine ⟨hbody, fun env w => ?_⟩
    obtain ⟨resp, w', hrun, hmove⟩ := body_enters info.id request context env w
    rw [hbody, hrun]
    exact hmove.bodies
  · rintro path pre name rest hmem hparam rfl hrest
    rcases templates _ hmem _ hparam with ⟨hid, hp⟩ | ⟨hid, hp⟩ | ⟨hid, hp⟩ | ⟨hid, hp⟩ <;>
      obtain ⟨rfl, rfl⟩ := Prod.mk.inj hp
    · rw [extractPathParams_contacts, hid]
      exact ⟨by simp, looksUp_pathParam rfl⟩
    · rw [extractPathParams_favorites]
      refine ⟨by simp, ?_⟩
      rcases hid with hid | hid
      · rw [hid]
        exact looksUp_pathParam rfl
      · rw [hid]
        exact looksUp_pathParam rfl
    · rw [extractPathParams_notifications]
      refine ⟨by simp, ?_⟩
      rcases hid with hid | hid
      · rw [hid]
        exact looksUp_pathParam rfl
      · rw [hid]
        exact looksUp_pathParam rfl
    · rw [hid] at ht
      obtain ⟨-, hsegment, hme, -⟩ := ht
      have hdrop : (str "/" ++ rest).drop 1 = rest := rfl
      rw [hdrop] at hsegment
      rw [extractPathParams_profile hsegment hrest hme, hid]
      exact ⟨by simp, looksUp_pathParam rfl⟩

/-- A route is found for `POST /favorites/42`, and its body gets the chat id. -/
theorem dispatch_agrees_favorite :
    (extractPathParams (str "/favorites/42")).lookup (str "chat_id") = some (str "42") ∧
      HandlerId.LooksUp Unit .addFavorite (str "chat_id") :=
  (dispatch_agrees (t := str "/favorites/42") (m := .post)
    (h := (by decide : resolveRoute (str "/favorites/42") .post =
      some ⟨.post, .addFavorite, str "favorites:write"⟩))).2
    (str "/favorites/\x7bchat_id\x7d") (str "/favorites/") (str "chat_id") (str "42")
    (by decide) (by decide) (by decide) (by decide)

/-! ## Mediation -/

/-- A body runs only for a POST of exactly `/internal/profiles`, and then it is the one that
creates a profile, or with a non-empty user id for which the checker has granted the scope
that the specification declares for the body.  In all other cases nothing changes. -/
theorem handle_mediates (authChecker : AuthChecker) (request : Request) (env : Env σ)
    (w : World σ) :
    ((handle authChecker request).run env w).2 = w ∨
    ∃ id, ((handle authChecker request).run env w).2.bodies = w.bodies ++ [id] ∧
      ((request.method = .post ∧ request.target = str "/internal/profiles" ∧
          id = .createProfile) ∨
        (extractUserID request ≠ [] ∧ (∃ entry ∈ apiSpec, entry.2.id = id) ∧
          ∀ entry ∈ apiSpec, entry.2.id = id →
            authChecker (extractUserID request) entry.2.scope = .ok true)) := by
  -- the scope is declared once for every body
  have hscope : ∀ e ∈ apiSpec, ∀ f ∈ apiSpec, e.2.id = f.2.id → e.2 = f.2 := by decide
  by_cases hoptions : request.method = .options
  · rw [handle, if_pos hoptions]
    exact Or.inl rfl
  rw [handle, if_neg hoptions]
  rcases hroute : resolveRoute request.target request.method with _ | info
  · exact Or.inl rfl
  have hbodies : ∀ userID, ((runHandler request info userID).run env w).2.bodies =
      w.bodies ++ [info.id] := fun userID =>
    ((dispatch_agrees hroute).1 request _ rfl rfl).2 env w
  simp only
  split_ifs with hinternal huser
  · refine Or.inr ⟨info.id, hbodies _, Or.inl ⟨hinternal.1, hinternal.2, ?_⟩⟩
    rw [hinternal.1, hinternal.2] at hroute
    have hcreate : resolveRoute (str "/internal/profiles") .post =
        some ⟨.post, .createProfile, str "profile:write"⟩ := by decide
    rw [← Option.some.inj (hcreate.symm.trans hroute)]
  · exact Or.inl rfl
  · have hauth : (convert (authorizeRequest authChecker (extractUserID request) info) :
        Svc σ Bool).run env w = (authChecker (extractUserID request) info.scope, w) := rfl
    rcases hcheck : authChecker (extractUserID request) info.scope with err | granted
    · rw [hcheck] at hauth
      rw [Prog.run_bind_error hauth]
      exact Or.inl rfl
    · rw [hcheck] at hauth
      rw [Prog.run_bind_ok hauth]
      cases granted with
      | false => exact Or.inl rfl
      | true =>
        refine Or.inr ⟨info.id, hbodies _, Or.inr ⟨huser, ?_⟩⟩
        obtain ⟨-, -, path, hmem⟩ := resolveRoute_sound hroute
        obtain ⟨entry, hentry, he⟩ := List.mem_map.mp hmem
        have hinfo : entry.2 = info := (Prod.mk.inj he).2
        refine ⟨⟨entry, hentry, by rw [hinfo]⟩, fun entry' hentry' hid => ?_⟩
        rw [hscope entry' hentry' entry hentry (by rw [hid, hinfo]), hinfo]
        exact hcheck

end ProfileService
