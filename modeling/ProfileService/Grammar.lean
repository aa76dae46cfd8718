/-
# The grammar of the routes

The templates that `GetApiSpec` registers are a grammar of targets.  `ResolveRoute` looks a
target up and then tries prefixes, so it accepts more than the grammar: nothing or several
segments at the place of a parameter.  The file finds these targets, and shows that on all
others the route that is found is the one of the grammar.
-/
import ProfileService.Dispatch
import ProfileService.Lib.Template

namespace ProfileService

open Bytes (str)

/-- The template of a route: segments between slashes, parameters in braces. -/
def template (path : Bytes) : List (Template.Segment UInt8) :=
  Template.read 0x2F 0x7B 0x7D path

/-- The target matches the template of the path, which is registered for the method. -/
structure Registered (path : Bytes) (info : HandlerInfo) (t : Bytes) (m : Verb) : Prop where
  mem : (path, info) ∈ routeTable
  method : info.method = m
  matches_path : Template.Matches 0x2F (template path) t

/-- The target is routed by the grammar: there is a route exactly if some template matches, and
its handler is that of a template that matches, a literal one if there is one. -/
structure FollowsGrammar (t : Bytes) (m : Verb) : Prop where
  accepts : (∃ info, resolveRoute t m = some info) ↔ ∃ path info, Registered path info t m
  handler : ∀ info, resolveRoute t m = some info → ∃ path, Registered path info t m ∧
    (Template.IsLiteral (template path) ∨
      ∀ path' info', Registered path' info' t m → ¬ Template.IsLiteral (template path'))

/-- The targets that are routed although no template matches: a slash, and a prefix of a
template with nothing or several segments after it. -/
def Stray (t : Bytes) (m : Verb) : Prop :=
  (m = .get ∧ t = str "/") ∨
  ∃ rest, (rest = [] ∨ 0x2F ∈ rest) ∧
    ((m = .delete ∧ t = str "/contacts/" ++ rest) ∨
      ((m = .post ∨ m = .delete) ∧ t = str "/favorites/" ++ rest) ∨
      ((m = .get ∨ m = .put) ∧ t = str "/notifications/" ++ rest))

/-! ## The templates -/

/-- What stands before the slash and the parameter in the template of a body. -/
def HandlerId.front : HandlerId → Option Bytes
  | .deleteContact => some (str "/contacts")
  | .addFavorite | .removeFavorite => some (str "/favorites")
  | .getChatNotifications | .updateChatNotifications => some (str "/notifications")
  | .getProfileByID => some []
  | _ => none

lemma routeTable_literal : ∀ e ∈ routeTable, e.2.id.front = none → 0x7B ∉ e.1 := by decide

lemma routeTable_param :
    ∀ e ∈ routeTable, ∀ text ∈ e.2.id.front, 0x7B ∉ text ∧
      ∃ name ∈ [str "contact_id", str "chat_id", str "user_id"],
        0x2F ∉ 0x7B :: (name ++ [0x7D]) ∧ e.1 = text ++ 0x2F :: 0x7B :: (name ++ [0x7D]) := by
  decide

section Matches

variable {e : Bytes × HandlerInfo} {t : Bytes}

lemma matches_literal (he : e ∈ routeTable) (hfront : e.2.id.front = none) :
    Template.Matches 0x2F (template e.1) t ↔ t = e.1 :=
  Template.matches_read_literal (routeTable_literal e he hfront)

lemma matches_param (he : e ∈ routeTable) {text : Bytes} (hfront : e.2.id.front = some text) :
    Template.Matches 0x2F (template e.1) t ↔
      ∃ s, s ≠ [] ∧ 0x2F ∉ s ∧ t = text ++ 0x2F :: s := by
  obtain ⟨htext, name, -, hname, hpath⟩ := routeTable_param e he text hfront
  rw [hpath]
  exact Template.matches_read_param htext hname

lemma isLiteral_template (he : e ∈ routeTable) :
    Template.IsLiteral (template e.1) ↔ e.2.id.front = none := by
  rcases hfront : e.2.id.front with _ | text
  · simp [template, Template.isLiteral_read (routeTable_literal e he hfront)]
  · obtain ⟨htext, name, -, hname, hpath⟩ := routeTable_param e he text hfront
    rw [hpath]
    simp [template, Template.not_isLiteral_read htext hname]

end Matches

/-! ## Targets that are accepted -/

lemma accepts_literal {id : HandlerId} (hfront : id.front = none) {t t' : Bytes}
    (h : id.Accepts t) (h' : id.Accepts t') : t = t' := by
  cases id with
  | createProfile | getMyProfile | updateProfile | uploadAvatar | deleteAvatar | getPrivacy
  | updatePrivacy | getContacts | addContact | getFavorites | getNotifications
  | updateNotifications => exact h.trans h'.symm
  | deleteContact | addFavorite | removeFavorite | getChatNotifications
  | updateChatNotifications | getProfileByID => exact absurd hfront (by simp [HandlerId.front])

/-- A target of a body with a parameter; it is stray if what stands there is no segment. -/
lemma accepts_param {id : HandlerId} {text t : Bytes} (hfront : id.front = some text)
    (h : id.Accepts t) :
    ∃ rest, t = text ++ 0x2F :: rest ∧ (rest = [] ∨ 0x2F ∈ rest → Stray t id.method) := by
  cases id with
  | deleteContact =>
    obtain ⟨rest, rfl⟩ := h
    obtain rfl := Option.some.inj hfront
    exact ⟨rest, rfl, fun hrest => Or.inr ⟨rest, hrest, Or.inl ⟨rfl, rfl⟩⟩⟩
  | addFavorite =>
    obtain ⟨rest, rfl⟩ := h
    obtain rfl := Option.some.inj hfront
    exact ⟨rest, rfl, fun hrest => Or.inr ⟨rest, hrest, Or.inr (Or.inl ⟨Or.inl rfl, rfl⟩)⟩⟩
  | removeFavorite =>
    obtain ⟨rest, rfl⟩ := h
    obtain rfl := Option.some.inj hfront
    exact ⟨rest, rfl, fun hrest => Or.inr ⟨rest, hrest, Or.inr (Or.inl ⟨Or.inr rfl, rfl⟩)⟩⟩
  | getChatNotifications =>
    obtain ⟨rest, rfl⟩ := h
    obtain rfl := Option.some.inj hfront
    exact ⟨rest, rfl, fun hrest => Or.inr ⟨rest, hrest, Or.inr (Or.inr ⟨Or.inl rfl, rfl⟩)⟩⟩
  | updateChatNotifications =>
    obtain ⟨rest, rfl⟩ := h
    obtain rfl := Option.some.inj hfront
    exact ⟨rest, rfl, fun hrest => Or.inr ⟨rest, hrest, Or.inr (Or.inr ⟨Or.inr rfl, rfl⟩)⟩⟩
  | getProfileByID =>
    obtain ⟨⟨rest, rfl⟩, hsegment, -⟩ := h
    obtain rfl := Option.some.inj hfront
    refine ⟨rest, rfl, fun hrest => ?_⟩
    rcases hrest with rfl | hslash
    · exact Or.inl ⟨rfl, rfl⟩
    · exact absurd hslash hsegment
  | createProfile | getMyProfile | updateProfile | uploadAvatar | deleteAvatar | getPrivacy
  | updatePrivacy | getContacts | addContact | getFavorites | getNotifications
  | updateNotifications => exact absurd hfront (by simp [HandlerId.front])

/-- A target that a body accepts is in the grammar, or it is stray. -/
lemma accepts_cases {e : Bytes × HandlerInfo} (he : e ∈ routeTable) {t : Bytes}
    (h : e.2.id.Accepts t) :
    Template.Matches 0x2F (template e.1) t ∨ Stray t e.2.id.method := by
  rcases hfront : e.2.id.front with _ | text
  · exact Or.inl ((matches_literal he hfront).mpr
      (accepts_literal hfront h (routeTable_accepts e he).2))
  · obtain ⟨rest, ht, hstray⟩ := accepts_param hfront h
    by_cases hrest : rest = [] ∨ 0x2F ∈ rest
    · exact Or.inr (hstray hrest)
    · rw [not_or] at hrest
      exact Or.inl ((matches_param he hfront).mpr ⟨rest, hrest.1, hrest.2, ht⟩)

/-- A stray target is accepted by a body with a parameter. -/
lemma stray_accepts {t : Bytes} {m : Verb} (h : Stray t m) :
    ∃ (id : HandlerId) (text rest : Bytes), id.method = m ∧ id.Accepts t ∧
      id.front = some text ∧ t = text ++ 0x2F :: rest ∧ (rest = [] ∨ 0x2F ∈ rest) := by
  rcases h with ⟨rfl, rfl⟩ | ⟨rest, hrest, ⟨rfl, rfl⟩ | ⟨rfl | rfl, rfl⟩ | ⟨rfl | rfl, rfl⟩⟩
  · exact ⟨.getProfileByID, [], [], rfl, by decide, rfl, rfl, Or.inl rfl⟩
  · exact ⟨.deleteContact, _, rest, rfl, List.prefix_append _ _, rfl, rfl, hrest⟩
  · exact ⟨.addFavorite, _, rest, rfl, List.prefix_append _ _, rfl, rfl, hrest⟩
  · exact ⟨.removeFavorite, _, rest, rfl, List.prefix_append _ _, rfl, rfl, hrest⟩
  · exact ⟨.getChatNotifications, _, rest, rfl, List.prefix_append _ _, rfl, rfl, hrest⟩
  · exact ⟨.updateChatNotifications, _, rest, rfl, List.prefix_append _ _, rfl, rfl, hrest⟩

/-- The literal targets that the template of a profile matches. -/
def reservedTargets : List Bytes :=
  [str "/me", str "/contacts", str "/favorites", str "/notifications"]

/-- A target in the grammar is accepted by its body, or it is a literal one. -/
lemma accepts_of_matches {e : Bytes × HandlerInfo} (he : e ∈ routeTable) {t : Bytes}
    (h : Template.Matches 0x2F (template e.1) t) :
    e.2.id.Accepts t ∨ e.2.method = .get ∧ t ∈ reservedTargets := by
  obtain ⟨hm, hown⟩ := routeTable_accepts e he
  rcases hfront : e.2.id.front with _ | text
  · rw [(matches_literal he hfront).mp h]
    exact Or.inl hown
  · obtain ⟨s, hs, hslash, rfl⟩ := (matches_param he hfront).mp h
    rw [hm]
    cases hid : e.2.id with
    | deleteContact | addFavorite | removeFavorite | getChatNotifications
    | updateChatNotifications =>
      rw [hid] at hfront
      obtain rfl := Option.some.inj hfront
      exact Or.inl ⟨s, rfl⟩
    | getProfileByID =>
      rw [hid] at hfront
      obtain rfl := Option.some.inj hfront
      by_cases hreserved : [] ++ 0x2F :: s ∈ reservedTargets
      · exact Or.inr ⟨rfl, hreserved⟩
      · simp only [reservedTargets, List.mem_cons, List.not_mem_nil, or_false, not_or] at hreserved
        obtain ⟨h₁, h₂, h₃, h₄⟩ := hreserved
        exact Or.inl ⟨⟨s, rfl⟩, hslash, h₁, h₂, h₃, h₄⟩
    | createProfile | getMyProfile | updateProfile | uploadAvatar | deleteAvatar | getPrivacy
    | updatePrivacy | getContacts | addContact | getFavorites | getNotifications
    | updateNotifications =>
      rw [hid] at hfront
      exact absurd hfront (by simp [HandlerId.front])

lemma reservedTargets_slash :
    ∀ t ∈ reservedTargets, t.getLast? ≠ some 0x2F ∧ t.count 0x2F = 1 := by decide

lemma reservedTargets_routed : ∀ t ∈ reservedTargets, ∃ e ∈ routeTable,
    resolveRoute t .get = some e.2 := by decide

/-! ## The grammar and the router -/

/-- No template matches a stray target. -/
lemma not_registered_of_stray {t : Bytes} {m : Verb} (h : Stray t m) {path : Bytes}
    {info : HandlerInfo} : ¬ Registered path info t m := by
  rintro ⟨hmem, hm, hmatch⟩
  obtain ⟨id, text, rest, hid, haccepts, hfront, ht, hrest⟩ := stray_accepts h
  rcases accepts_of_matches hmem hmatch with haccepts' | ⟨-, hreserved⟩
  · -- the route is found for both bodies, so they are one
    have hm' : info.id.method = m := (routeTable_accepts _ hmem).1.symm.trans hm
    obtain ⟨info₁, hinfo₁, hroute₁⟩ := resolveRoute_complete haccepts
    obtain ⟨info₂, hinfo₂, hroute₂⟩ := resolveRoute_complete haccepts'
    rw [hid] at hroute₁
    rw [hm'] at hroute₂
    have hsame : info₁ = info₂ := Option.some.inj (hroute₁.symm.trans hroute₂)
    have hid' : info.id = id := by rw [← hinfo₁, hsame, hinfo₂]
    obtain ⟨s, hs, hslash, ht'⟩ := (matches_param hmem (hid' ▸ hfront)).mp hmatch
    have heq : rest = s := by
      rw [ht] at ht'
      exact (List.cons.inj (List.append_cancel_left ht')).2
    subst heq
    exact hrest.elim hs hslash
  · obtain ⟨hlast, hcount⟩ := reservedTargets_slash t hreserved
    rw [ht] at hlast hcount
    rcases hrest with rfl | hslash
    · exact hlast (by simp)
    · have hpos := List.count_pos_iff.mpr hslash
      rw [List.count_append, List.count_cons_self] at hcount
      omega

/-- A literal template that matches is the route that is found. -/
lemma resolveRoute_literal {path t : Bytes} {info : HandlerInfo} {m : Verb}
    (h : Registered path info t m) (hlit : Template.IsLiteral (template path)) :
    resolveRoute t m = some info := by
  obtain ⟨hmem, hm, hmatch⟩ := h
  have ht := (matches_literal hmem ((isLiteral_template hmem).mp hlit)).mp hmatch
  have hexact : findExact t m = some info := findExact_iff.mpr ⟨hm, ht ▸ hmem⟩
  rw [resolveRoute, hexact]

lemma exists_route {path t : Bytes} {info : HandlerInfo} {m : Verb}
    (h : Registered path info t m) : ∃ info', resolveRoute t m = some info' := by
  obtain ⟨hmem, hm, hmatch⟩ := h
  rcases accepts_of_matches hmem hmatch with haccepts | ⟨hget, hreserved⟩
  · obtain ⟨info', -, hroute⟩ := resolveRoute_complete haccepts
    rw [← (routeTable_accepts _ hmem).1, hm] at hroute
    exact ⟨info', hroute⟩
  · obtain ⟨e, -, hroute⟩ := reservedTargets_routed t hreserved
    rw [← hget, hm] at hroute
    exact ⟨e.2, hroute⟩

/-- For every method and every target, the target is routed by the grammar exactly if it is not
stray. -/
theorem followsGrammar_iff (t : Bytes) (m : Verb) : FollowsGrammar t m ↔ ¬ Stray t m := by
  constructor
  · intro h hstray
    obtain ⟨id, -, -, hm, haccepts, -⟩ := stray_accepts hstray
    obtain ⟨info, -, hroute⟩ := resolveRoute_complete haccepts
    rw [hm] at hroute
    obtain ⟨path, info', hregistered⟩ := h.accepts.mp ⟨info, hroute⟩
    exact not_registered_of_stray hstray hregistered
  · intro hstray
    have hsound : ∀ info, resolveRoute t m = some info → ∃ path, Registered path info t m := by
      intro info hroute
      obtain ⟨hm, haccepts, path, hmem⟩ := resolveRoute_sound hroute
      refine ⟨path, hmem, (routeTable_accepts _ hmem).1.trans hm.symm, ?_⟩
      exact (accepts_cases hmem haccepts).resolve_right fun h => hstray (hm ▸ h)
    refine ⟨⟨fun ⟨info, hroute⟩ => ?_, fun ⟨path, info, h⟩ => exists_route h⟩,
      fun info hroute => ?_⟩
    · obtain ⟨path, h⟩ := hsound info hroute
      exact ⟨path, info, h⟩
    · by_cases hlit : ∃ path' info', Registered path' info' t m ∧
          Template.IsLiteral (template path')
      · obtain ⟨path', info', h, hlit⟩ := hlit
        obtain rfl := Option.some.inj (hroute.symm.trans (resolveRoute_literal h hlit))
        exact ⟨path', h, Or.inl hlit⟩
      · obtain ⟨path, h⟩ := hsound info hroute
        exact ⟨path, h, Or.inr fun path' info' h' hlit' => hlit ⟨path', info', h', hlit'⟩⟩

/-- A DELETE with two segments at the place of a contact is routed. -/
theorem stray_routed :
    resolveRoute (str "/contacts/alice/bob") .delete =
        some ⟨.delete, .deleteContact, str "contacts:write"⟩ ∧
      ¬ FollowsGrammar (str "/contacts/alice/bob") .delete := by
  have hroute : resolveRoute (str "/contacts/alice/bob") .delete =
      some ⟨.delete, .deleteContact, str "contacts:write"⟩ := by decide
  refine ⟨hroute, fun h => ?_⟩
  obtain ⟨path, info, hregistered⟩ := h.accepts.mp ⟨_, hroute⟩
  exact not_registered_of_stray
    (Or.inr ⟨str "alice/bob", Or.inr (by decide), Or.inl ⟨rfl, rfl⟩⟩) hregistered

end ProfileService
