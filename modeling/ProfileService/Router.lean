/-
# The two dispatchers

`ResolveRoute` picks a route, and the handler of the route dispatches on the method and the
target once more.  The file computes what `ResolveRoute` accepts, in terms of the method
and of the shape of the target alone, and shows that the second dispatch agrees with it:
the body that runs is the one the route names.
-/
import ProfileService.Frames
import ProfileService.RouteMap

namespace ProfileService

open Bytes (str)

variable {σ : Type}

/-! ## The table of routes -/

/-- The routes by their template. -/
def routeTable : List (Bytes × HandlerInfo) :=
  apiSpec.map fun entry => (entry.1.takeWhile (· ≠ 0x3A), entry.2)

lemma routeTable_eq :
    routeTable = (routesByPair apiRegistrations).map fun e => (e.1.1, e.2) := by decide

lemma mem_routeTable {path : Bytes} {info : HandlerInfo} :
    (path, info) ∈ routeTable ↔
      ((path, info.method), info) ∈ routesByPair apiRegistrations := by
  rw [routeTable_eq, List.mem_map]
  constructor
  · rintro ⟨e, he, heq⟩
    obtain ⟨r, -, rfl⟩ := exists_of_mem_routesByPair he
    obtain ⟨rfl, rfl⟩ := Prod.mk.inj heq
    exact he
  · intro hmem
    exact ⟨_, hmem, rfl⟩

/-- `findExact` looks a route up by its template and its method. -/
lemma findExact_iff {path : Bytes} {method : Verb} {info : HandlerInfo} :
    findExact path method = some info ↔ info.method = method ∧ (path, info) ∈ routeTable := by
  rw [findExact_eq_lookup, keyed_routesByPair.lookup_eq_some, mem_routeTable]
  constructor
  · intro hmem
    obtain ⟨r, -, hr⟩ := exists_of_mem_routesByPair hmem
    obtain ⟨hroute, rfl⟩ := Prod.mk.inj hr
    obtain ⟨rfl, rfl⟩ := Prod.mk.inj hroute
    exact ⟨rfl, hmem⟩
  · rintro ⟨rfl, hmem⟩
    exact hmem

/-! ## What `ResolveRoute` accepts -/

/-- The targets that reach a body: its template, or the template's literal prefix followed
by anything. -/
def HandlerId.Accepts : HandlerId → Bytes → Prop
  | .createProfile, t => t = str "/internal/profiles"
  | .getMyProfile, t => t = str "/me"
  | .updateProfile, t => t = str "/me"
  | .uploadAvatar, t => t = str "/me/avatar"
  | .deleteAvatar, t => t = str "/me/avatar"
  | .getPrivacy, t => t = str "/me/privacy"
  | .updatePrivacy, t => t = str "/me/privacy"
  | .getContacts, t => t = str "/contacts"
  | .addContact, t => t = str "/contacts"
  | .getFavorites, t => t = str "/favorites"
  | .getNotifications, t => t = str "/notifications"
  | .updateNotifications, t => t = str "/notifications"
  | .deleteContact, t => str "/contacts/" <+: t
  | .addFavorite, t => str "/favorites/" <+: t
  | .removeFavorite, t => str "/favorites/" <+: t
  | .getChatNotifications, t => str "/notifications/" <+: t
  | .updateChatNotifications, t => str "/notifications/" <+: t
  | .getProfileByID, t => str "/" <+: t ∧ 0x2F ∉ t.drop 1 ∧ t ≠ str "/me" ∧
      t ≠ str "/contacts" ∧ t ≠ str "/favorites" ∧ t ≠ str "/notifications"

instance (t : Bytes) : (id : HandlerId) → Decidable (id.Accepts t)
  | .createProfile | .getMyProfile | .updateProfile | .uploadAvatar | .deleteAvatar
  | .getPrivacy | .updatePrivacy | .getContacts | .addContact | .getFavorites
  | .getNotifications | .updateNotifications => inferInstanceAs (Decidable (t = _))
  | .deleteContact | .addFavorite | .removeFavorite | .getChatNotifications
  | .updateChatNotifications => inferInstanceAs (Decidable (_ <+: t))
  | .getProfileByID => inferInstanceAs (Decidable (_ ∧ _))

lemma routeTable_accepts :
    ∀ e ∈ routeTable, e.2.method = e.2.id.method ∧ e.2.id.Accepts e.1 := by decide

/-- The routes whose template has the parameter of a prefix, and what they accept. -/
lemma routeTable_contacts :
    ∀ e ∈ routeTable, e.1 = str "/contacts/\x7bcontact_id\x7d" → e.2.id = .deleteContact := by
  decide

lemma routeTable_favorites :
    ∀ e ∈ routeTable, e.1 = str "/favorites/\x7bchat_id\x7d" →
      e.2.id = .addFavorite ∨ e.2.id = .removeFavorite := by decide

lemma routeTable_notifications :
    ∀ e ∈ routeTable, e.1 = str "/notifications/\x7bchat_id\x7d" →
      e.2.id = .getChatNotifications ∨ e.2.id = .updateChatNotifications := by decide

lemma routeTable_profile :
    ∀ e ∈ routeTable, e.1 = str "/\x7buser_id\x7d" → e.2.id = .getProfileByID := by
  decide

lemma routeTable_get :
    ∀ t ∈ [str "/contacts", str "/favorites", str "/notifications"],
      ∃ e ∈ routeTable, e.1 = t ∧ e.2.method = .get := by decide

/-- The route that is found has the method of the request, and its body accepts the
target. -/
theorem resolveRoute_sound {t : Bytes} {m : Verb} {info : HandlerInfo}
    (h : resolveRoute t m = some info) :
    m = info.id.method ∧ info.id.Accepts t ∧ ∃ path, (path, info) ∈ routeTable := by
  unfold resolveRoute at h
  rcases hexact : findExact t m with _ | info'
  · simp only [hexact] at h
    have hmethod : ∀ {path}, findExact path m = some info → m = info.id.method := by
      intro path hp
      obtain ⟨rfl, hmem⟩ := findExact_iff.mp hp
      exact (routeTable_accepts _ hmem).1
    split_ifs at h with h1 h2 h3 h4
    · have hmem := (findExact_iff.mp h).2
      refine ⟨hmethod h, ?_, _, hmem⟩
      rw [routeTable_contacts _ hmem rfl]
      exact Bytes.rfind_eq_zero.mp h1
    · have hmem := (findExact_iff.mp h).2
      refine ⟨hmethod h, ?_, _, hmem⟩
      rcases routeTable_favorites _ hmem rfl with hid | hid
      · rw [hid]
        exact Bytes.rfind_eq_zero.mp h2
      · rw [hid]
        exact Bytes.rfind_eq_zero.mp h2
    · have hmem := (findExact_iff.mp h).2
      refine ⟨hmethod h, ?_, _, hmem⟩
      rcases routeTable_notifications _ hmem rfl with hid | hid
      · rw [hid]
        exact Bytes.rfind_eq_zero.mp h3
      · rw [hid]
        exact Bytes.rfind_eq_zero.mp h3
    · have hmem := (findExact_iff.mp h).2
      have hid := routeTable_profile _ hmem rfl
      have hm : m = .get := by rw [hmethod h, hid]; rfl
      -- the literal routes for a GET were tried first
      have hlit : ∀ s ∈ [str "/contacts", str "/favorites", str "/notifications"], t ≠ s := by
        rintro s hs rfl
        obtain ⟨e, he, rfl, hget⟩ := routeTable_get _ hs
        rw [findExact_iff.mpr ⟨hget.trans hm.symm, he⟩] at hexact
        exact absurd hexact (by simp)
      refine ⟨hmethod h, ?_, _, hmem⟩
      rw [hid]
      exact ⟨Bytes.rfind_eq_zero.mp h4.2.2.2.1, Bytes.find_byte_eq_none.mp h4.2.2.2.2, h4.1,
        hlit _ (by simp), hlit _ (by simp), hlit _ (by simp)⟩
  · simp only [hexact, Option.some.injEq] at h
    subst h
    obtain ⟨rfl, hmem⟩ := findExact_iff.mp hexact
    obtain ⟨hm, ht⟩ := routeTable_accepts _ hmem
    exact ⟨hm, ht, _, hmem⟩

/-- A prefix that ends in a slash is no single segment. -/
lemma slash_mem_of_start {pre t : Bytes} (hpre : 0x2F ∈ pre.drop 1) (h : pre <+: t) :
    0x2F ∈ t.drop 1 := by
  obtain ⟨rest, rfl⟩ := h
  have hlen : 1 ≤ pre.length := by
    rcases pre with _ | ⟨c, pre⟩
    · exact absurd hpre (by simp)
    · simp
  rw [List.drop_append_of_le_length hlen]
  exact List.mem_append_left _ hpre

/-- Two prefixes of a target are prefixes of each other. -/
lemma not_start_of_start {pre t : Bytes} (pre' : Bytes) (h : pre <+: t)
    (hlen : pre'.length ≤ pre.length) (hne : ¬ pre' <+: pre) : ¬ pre' <+: t :=
  fun h' => hne (List.prefix_of_prefix_length_le h' h hlen)

/-- A target with a prefix is none of the texts without it. -/
lemma ne_of_start {pre s t : Bytes} (h : pre <+: t) (hs : ¬ pre <+: s) : t ≠ s := by
  rintro rfl
  exact hs h

/-- Among the routes with its method, a body is the only one that accepts its targets. -/
lemma routeTable_unique (id : HandlerId) :
    ∀ e ∈ routeTable, e.2.method = id.method → id.Accepts e.1 → e.2.id = id := by
  cases id <;> decide

/-- Every target that a body accepts reaches it, with the method of its route. -/
theorem resolveRoute_complete {id : HandlerId} {t : Bytes} (h : id.Accepts t) :
    ∃ info, info.id = id ∧ resolveRoute t id.method = some info := by
  rcases hexact : findExact t id.method with _ | info
  · cases id with
    | createProfile | getMyProfile | updateProfile | uploadAvatar | deleteAvatar | getPrivacy
    | updatePrivacy | getContacts | addContact | getFavorites | getNotifications
    | updateNotifications =>
      rw [HandlerId.Accepts] at h
      subst h
      exact absurd hexact (by decide)
    | deleteContact =>
      refine ⟨⟨.delete, .deleteContact, str "contacts:write"⟩, rfl, ?_⟩
      rw [resolveRoute, hexact, if_pos (Bytes.rfind_eq_zero.mpr h)]
      decide
    | addFavorite =>
      have h1 : ¬ str "/contacts/" <+: t := not_start_of_start _ h (by decide) (by decide)
      refine ⟨⟨.post, .addFavorite, str "favorites:write"⟩, rfl, ?_⟩
      rw [resolveRoute, hexact, if_neg (mt Bytes.rfind_eq_zero.mp h1),
        if_pos (Bytes.rfind_eq_zero.mpr h)]
      decide
    | removeFavorite =>
      have h1 : ¬ str "/contacts/" <+: t := not_start_of_start _ h (by decide) (by decide)
      refine ⟨⟨.delete, .removeFavorite, str "favorites:write"⟩, rfl, ?_⟩
      rw [resolveRoute, hexact, if_neg (mt Bytes.rfind_eq_zero.mp h1),
        if_pos (Bytes.rfind_eq_zero.mpr h)]
      decide
    | getChatNotifications =>
      have h1 : ¬ str "/contacts/" <+: t := not_start_of_start _ h (by decide) (by decide)
      have h2 : ¬ str "/favorites/" <+: t := not_start_of_start _ h (by decide) (by decide)
      refine ⟨⟨.get, .getChatNotifications, str "notifications:read"⟩, rfl, ?_⟩
      rw [resolveRoute, hexact, if_neg (mt Bytes.rfind_eq_zero.mp h1),
        if_neg (mt Bytes.rfind_eq_zero.mp h2), if_pos (Bytes.rfind_eq_zero.mpr h)]
      decide
    | updateChatNotifications =>
      have h1 : ¬ str "/contacts/" <+: t := not_start_of_start _ h (by decide) (by decide)
      have h2 : ¬ str "/favorites/" <+: t := not_start_of_start _ h (by decide) (by decide)
      refine ⟨⟨.put, .updateChatNotifications, str "notifications:write"⟩, rfl, ?_⟩
      rw [resolveRoute, hexact, if_neg (mt Bytes.rfind_eq_zero.mp h1),
        if_neg (mt Bytes.rfind_eq_zero.mp h2), if_pos (Bytes.rfind_eq_zero.mpr h)]
      decide
    | getProfileByID =>
      obtain ⟨hslash, hsegment, hme, -, -, -⟩ := h
      have hnot : ∀ pre : Bytes, 0x2F ∈ pre.drop 1 → t.rfind pre 0 ≠ some 0 := fun pre hpre hr =>
        hsegment (slash_mem_of_start hpre (Bytes.rfind_eq_zero.mp hr))
      have hne : ∀ s : Bytes, 0x2F ∈ s.drop 1 → t ≠ s := by
        rintro s hs rfl
        exact hsegment hs
      refine ⟨⟨.get, .getProfileByID, str "profile:read"⟩, rfl, ?_⟩
      rw [resolveRoute, hexact, if_neg (hnot _ (by decide)), if_neg (hnot _ (by decide)),
        if_neg (hnot _ (by decide)), if_pos ⟨hme, hne _ (by decide), hne _ (by decide),
          Bytes.rfind_eq_zero.mpr hslash, Bytes.find_byte_eq_none.mpr hsegment⟩]
      decide
  · obtain ⟨hm, hmem⟩ := findExact_iff.mp hexact
    exact ⟨info, routeTable_unique id _ hmem hm h, by rw [resolveRoute, hexact]⟩

/-! ## The second dispatch -/

/-- The handler bound to a route runs the body that the route names. -/
theorem bindHandler_eq_body {id : HandlerId} {request : Request} (context : RouteContext)
    (hm : request.method = id.method) (ht : id.Accepts request.target) :
    bindHandler id request context = (id.body request context : Svc σ Response) := by
  -- a branch for another method is passed
  have hother : ∀ {method : Verb} {p : Prop}, id.method ≠ method →
      ¬ (request.method = method ∧ p) := by
    rintro method p hne ⟨rfl, -⟩
    exact hne hm.symm
  cases id with
  | createProfile =>
    exact if_pos ⟨hm, ht⟩
  | getMyProfile =>
    exact (if_neg (hother (by nofun))).trans (if_pos ⟨hm, ht⟩)
  | updateProfile =>
    exact (if_neg (hother (by nofun))).trans <|
      (if_neg (hother (by nofun))).trans (if_pos ⟨hm, ht⟩)
  | getProfileByID =>
    obtain ⟨hslash, -, hme, -⟩ := ht
    exact (if_neg (hother (by nofun))).trans <| (if_neg (by simp [hme])).trans <|
      (if_neg (hother (by nofun))).trans (if_pos ⟨hm, Bytes.find_eq_zero.mpr hslash, hme⟩)
  | uploadAvatar =>
    have hne : request.target ≠ str "/internal/profiles" := by rw [ht]; decide
    exact (if_neg (by simp [hne])).trans <| (if_neg (hother (by nofun))).trans <|
      (if_neg (hother (by nofun))).trans <| (if_neg (hother (by nofun))).trans (if_pos ⟨hm, ht⟩)
  | deleteAvatar =>
    exact (if_neg (hother (by nofun))).trans <| (if_neg (hother (by nofun))).trans <|
      (if_neg (hother (by nofun))).trans <| (if_neg (hother (by nofun))).trans <|
      (if_neg (hother (by nofun))).trans (if_pos ⟨hm, ht⟩)
  | getContacts => exact if_pos ⟨hm, ht⟩
  | addContact => exact (if_neg (hother (by nofun))).trans (if_pos ⟨hm, ht⟩)
  | deleteContact =>
    exact (if_neg (hother (by nofun))).trans <| (if_neg (hother (by nofun))).trans
      (if_pos ⟨hm, Bytes.find_eq_zero.mpr ht⟩)
  | getPrivacy => exact if_pos ⟨hm, ht⟩
  | updatePrivacy => exact (if_neg (hother (by nofun))).trans (if_pos ⟨hm, ht⟩)
  | getFavorites => exact if_pos ⟨hm, ht⟩
  | addFavorite =>
    exact (if_neg (hother (by nofun))).trans (if_pos ⟨hm, Bytes.find_eq_zero.mpr ht⟩)
  | removeFavorite =>
    exact (if_neg (hother (by nofun))).trans <| (if_neg (hother (by nofun))).trans
      (if_pos ⟨hm, Bytes.find_eq_zero.mpr ht⟩)
  | getNotifications => exact if_pos ⟨hm, ht⟩
  | getChatNotifications =>
    have hne : request.target ≠ str "/notifications" := ne_of_start ht (by decide)
    exact (if_neg (by simp [hne])).trans (if_pos ⟨hm, Bytes.find_eq_zero.mpr ht⟩)
  | updateNotifications =>
    exact (if_neg (hother (by nofun))).trans <|
      (if_neg (hother (by nofun))).trans (if_pos ⟨hm, ht⟩)
  | updateChatNotifications =>
    have hne : request.target ≠ str "/notifications" := ne_of_start ht (by decide)
    exact (if_neg (hother (by nofun))).trans <| (if_neg (hother (by nofun))).trans <|
      (if_neg (by simp [hne])).trans (if_pos ⟨hm, Bytes.find_eq_zero.mpr ht⟩)

end ProfileService
