/-
# What a request can do

The step lemma of the service: a request on valid tables is answered, and either it is no
event and the tables are as they were, or it is an event and the tables are those after
the one write of the event.  `Settles` states this for the part of a body inside its `try`
and is closed under the steps a body takes: what comes before the write only reads, so a
failure there leaves the tables alone, and what comes after the write cannot fail.
-/
import ProfileService.Dispatch
import ProfileService.Events

namespace ProfileService

open Bytes (str)
open Prog (Moves)

variable {σ : Type}

/-- What a request has done when it is answered: nothing, and then it failed or was none
that writes, or, with its last statement, the write of its event. -/
inductive Effect (env : Env σ) (w : World σ) (request : Request) (response : Response)
    (w' : World σ) : Prop
  | unchanged (le : w.statements ≤ w'.statements) (store : w'.store = w.store)
      (idle : 400 ≤ response.status ∨ request.method ∉ [.post, .patch, .put, .delete])
  | written (event : Event) (wr : Write) (n : ℕ) (le : w.statements ≤ n)
      (last : n + 1 = w'.statements) (some : eventOf env (request, .ok response) = some event)
      (makes : event.Makes w.store wr) (fits : wr.Fits env.db.schema)
      (store : w'.store = wr.apply env.db.schema (env.txnTime n) (env.rowId n) w.store)
      (constraints : w'.store.Constraints)

/-- A failed request has done nothing. -/
lemma Effect.of_failed {env : Env σ} {w w' : World σ} {request : Request}
    {response : Response} (h : Reads w w') (hfail : 400 ≤ response.status) :
    Effect env w request response w' :=
  .unchanged h.statements h.store (Or.inl hfail)

/-- A request that did nothing is no event. -/
lemma eventOf_of_idle {env : Env σ} {request : Request} {response : Response}
    (h : 400 ≤ response.status ∨ request.method ∉ [.post, .patch, .put, .delete]) :
    eventOf env (request, .ok response) = none :=
  h.elim eventOf_of_failed eventOf_of_method

/-- An event was answered with a status of success. -/
lemma status_of_event {env : Env σ} {request : Request} {response : Response} {event : Event}
    (h : eventOf env (request, .ok response) = some event) :
    200 ≤ response.status ∧ response.status < 300 := by
  by_contra hnot
  rw [eventOf, if_neg hnot] at h
  exact absurd h (by simp)

/-- Valid tables stay valid. -/
lemma Effect.valid {env : Env σ} {w w' : World σ} {request : Request} {response : Response}
    (h : Effect env w request response w') (hv : w.store.Valid env.db.schema) :
    w'.store.Valid env.db.schema := by
  cases h with
  | unchanged _ hstore _ => rwa [hstore]
  | written event wr n _ _ _ _ hfits hstore hc =>
    exact ⟨hstore ▸ wr.apply_typed _ _ hfits hv.typed, hc⟩

lemma Effect.statements_le {env : Env σ} {w w' : World σ} {request : Request}
    {response : Response} (h : Effect env w request response w') :
    w.statements ≤ w'.statements := by
  cases h with
  | unchanged hle => exact hle
  | written _ _ _ hle hlt => omega

/-- A request that writes and did not fail is an event. -/
lemma Effect.exists_event {env : Env σ} {w w' : World σ} {request : Request}
    {response : Response} (h : Effect env w request response w') (hok : response.status < 400)
    (hm : request.method ∈ [.post, .patch, .put, .delete]) :
    ∃ event, eventOf env (request, .ok response) = some event := by
  cases h with
  | unchanged _ _ hidle =>
    rcases hidle with h | h
    · omega
    · exact absurd hm h
  | written event _ _ _ _ hevent => exact ⟨event, hevent⟩

/-! ## The inside of a body -/

section Settles

variable (env : Env σ) (request : Request) (w₀ : World σ)

/-- The inside of a body, started in `w` for a request that arrived in `w₀`: when it throws
the tables are as they were, and when it answers the answer is right. -/
def Settles (x : Svc σ Response) (w : World σ) : Prop :=
  (∃ err w', x.run env w = (.error err, w') ∧ w'.store = w₀.store ∧
      w₀.statements ≤ w'.statements) ∨
    ∃ response w', x.run env w = (.ok response, w') ∧ Effect env w₀ request response w'

variable {env request w₀}

/-- An answer that reports a failure, before anything was written. -/
lemma Settles.failed {response : Response} {w : World σ} (hw : Reads w₀ w)
    (h : 400 ≤ response.status) : Settles env request w₀ (pure response) w :=
  Or.inr ⟨response, w, rfl, .of_failed hw h⟩

/-- The answer after the write. -/
lemma Settles.answer {x : Svc σ Response} {w w' : World σ} {response : Response}
    (hrun : x.run env w = (.ok response, w')) (h : Effect env w₀ request response w') :
    Settles env request w₀ x w := Or.inr ⟨response, w', hrun, h⟩

/-- A step that reads. -/
lemma Settles.bind_reads {α : Type} {x : Svc σ α} {f : α → Svc σ Response} {w : World σ}
    (hx : Moves Reads x) (hw : Reads w₀ w)
    (hf : ∀ a w', x.run env w = (.ok a, w') → Reads w₀ w' → Settles env request w₀ (f a) w') :
    Settles env request w₀ (x >>= f) w := by
  have hmove := hx env w
  rcases hrun : x.run env w with ⟨err | a, w'⟩
  · rw [hrun] at hmove
    have hreads : Reads w₀ w' := trans_of Reads hw hmove
    exact Or.inl ⟨err, w', Prog.run_bind_error hrun, hreads.store, hreads.statements⟩
  · rw [hrun] at hmove
    have h := hf a w' hrun (trans_of Reads hw hmove)
    rwa [Settles, Prog.run_bind_ok hrun]

/-- A statement that writes. -/
lemma Settles.bind_execute {query : Query} {params : List DbValue}
    {f : List Row → Svc σ Response} {w : World σ} (hw : Reads w₀ w)
    (hf : ∀ store rows, Succeeds env w query params store rows →
      Settles env request w₀ (f rows) (w.afterStatement store)) :
    Settles env request w₀ (executeParams query params >>= f) w := by
  rcases executeParams_cases env w query params with ⟨err, hrun, -⟩ | ⟨store, rows, hs, hrun⟩
  · refine Or.inl ⟨err, w.afterStatement w.store, Prog.run_bind_error hrun, hw.store, ?_⟩
    exact hw.statements.trans (Nat.le_succ _)
  · have h := hf store rows hs
    rwa [Settles, Prog.run_bind_ok hrun]

lemma Settles.bind_modify {query : Query} {params : List DbValue}
    {f : Unit → Svc σ Response} {w : World σ} (hw : Reads w₀ w)
    (hf : ∀ store rows, Succeeds env w query params store rows →
      Settles env request w₀ (f ()) (w.afterStatement store)) :
    Settles env request w₀ (executeModify query params >>= f) w := by
  rw [executeModify, bind_assoc]
  exact Settles.bind_execute hw fun store rows hs => by
    rw [pure_bind]
    exact hf store rows hs

/-- A branch. -/
lemma Settles.ite {c : Prop} [Decidable c] {x y : Svc σ Response} {w : World σ}
    (hx : c → Settles env request w₀ x w) (hy : ¬ c → Settles env request w₀ y w) :
    Settles env request w₀ (if c then x else y) w := by
  split
  · rename_i hc
    exact hx hc
  · rename_i hc
    exact hy hc

/-- The body around it, whose handler reports a failure. -/
lemma Settles.body {id : HandlerId} {core : Svc σ Response} {answer : Exn → Response}
    (h : Settles env request (w₀.entering id) core (w₀.entering id))
    (hfail : ∀ e, 400 ≤ (answer e).status) :
    ∃ response w', (do enter id; tryCatch core fun e => pure (answer e)).run env w₀ =
      (.ok response, w') ∧ Effect env w₀ request response w' := by
  rcases h with ⟨err, w', hrun, hstore, hle⟩ | ⟨resp, w', hrun, heff⟩
  · refine ⟨answer err, w', ?_, .unchanged hle hstore (Or.inl (hfail err))⟩
    exact Prog.run_tryCatch_error (s := w₀.entering id) hrun
  · refine ⟨resp, w', Prog.run_tryCatch_ok (s := w₀.entering id) hrun, ?_⟩
    cases heff with
    | unchanged hle hstore hidle => exact .unchanged hle hstore hidle
    | written event wr n hle hlt hsome hmakes hfits hstore hc =>
      exact .written event wr n hle hlt hsome hmakes hfits hstore hc

end Settles

/-! ## Steps of the bodies -/

section Steps

variable {env : Env σ} {w w' : World σ}

lemma parse_eq_ok {text : Bytes} {j : Json} (h : (parse text).run env w = (.ok j, w')) :
    env.json.parse text = .ok j := (Prod.mk.inj h).1

lemma convert_eq_ok {α : Type} {x : Except Exn α} {a : α}
    (h : (convert x).run env w = (.ok a, w')) : x = .ok a := (Prod.mk.inj h).1

/-- A value whose strings are valid is printed. -/
lemma run_dumpResponse (env : Env σ) (w : World σ) (status : ℕ) (request : Request) {j : Json}
    (hj : j.Utf8) : ∃ text, env.json.dump j = .ok text ∧
      (dumpResponse status request j).run env w =
        (.ok (jsonResponse status request.version text), w) := by
  obtain ⟨text, htext⟩ := env.json.dump_ok hj
  have hdump : (dump j : Svc σ Bytes).run env w = (.ok text, w) := by
    simp only [dump, Prog.run, htext]
  exact ⟨text, htext, Prog.run_bind_ok hdump⟩

/-- A statement other than a `SELECT` that succeeds has made its write. -/
lemma Succeeds.write {query : Query} {params : List DbValue} {store : Store}
    {rows : List Row} (h : Succeeds env w query params store rows)
    (hq : ∀ st params, query.select env.db st params = none) :
    ∃ wr, query.write env.db (params.map convertValueToPQXX) = some wr ∧
      store = wr.apply env.db.schema (env.txnTime w.statements) (env.rowId w.statements)
        w.store ∧ store.Constraints ∧ rows = wr.returning env.db store := by
  rcases Query.exec_cases h.2 with hwr | ⟨-, hsel, -⟩
  · exact hwr
  · rw [hq] at hsel
    exact absurd hsel (by simp)

end Steps

/-- The event of a request to a body. -/
def HandlerId.event (env : Env σ) (request : Request) (response : Response) :
    HandlerId → Option Event
  | .createProfile => createdEvent env request
  | .updateProfile => patchedEvent env request
  | .uploadAvatar => uploadedEvent env request response
  | .deleteAvatar => avatarDeletedEvent env request
  | .addContact => contactAddedEvent env request
  | .deleteContact => contactRemovedEvent env request
  | .addFavorite => favoriteAddedEvent env request
  | .removeFavorite => favoriteRemovedEvent env request
  | .updatePrivacy => privacySetEvent env request
  | .updateNotifications => notificationsSetEvent env request []
  | .updateChatNotifications => notificationsSetEvent env request (request.target.drop 15)
  | .getMyProfile | .getProfileByID | .getContacts | .getPrivacy | .getFavorites
  | .getNotifications | .getChatNotifications => none

/-- Events are read off a request the way it is dispatched. -/
lemma eventOf_of_accepts {env : Env σ} {request : Request} {response : Response}
    (id : HandlerId) (hm : request.method = id.method) (ht : id.Accepts request.target)
    (hok : 200 ≤ response.status ∧ response.status < 300) :
    eventOf env (request, .ok response) = id.event env request response := by
  have hne : ∀ {pre s : Bytes}, pre <+: request.target → ¬ pre <+: s → request.target ≠ s :=
    fun hpre hs h => hs (h ▸ hpre)
  have hpos : ∀ {pre : Bytes}, pre <+: request.target → pre.isPrefixOf request.target = true :=
    fun hpre => by simpa using hpre
  simp only [eventOf, if_pos hok, requestedEvent, hm]
  cases id with
  | getMyProfile | getProfileByID | getContacts | getPrivacy | getFavorites | getNotifications
  | getChatNotifications => rfl
  | createProfile | updateProfile | updatePrivacy | deleteAvatar => exact if_pos ht
  | uploadAvatar =>
    rw [HandlerId.Accepts] at ht
    simp only [HandlerId.method, ht]
    rfl
  | addContact =>
    rw [HandlerId.Accepts] at ht
    simp only [HandlerId.method, ht]
    rfl
  | updateNotifications =>
    rw [HandlerId.Accepts] at ht
    simp only [HandlerId.method, ht]
    rfl
  | addFavorite =>
    exact (if_neg (hne ht (by decide))).trans <| (if_neg (hne ht (by decide))).trans <|
      (if_neg (hne ht (by decide))).trans (if_pos (hpos ht))
  | deleteContact =>
    exact (if_neg (hne ht (by decide))).trans (if_pos (hpos ht))
  | removeFavorite =>
    have hcontacts : ¬ (str "/contacts/").isPrefixOf request.target = true := fun h =>
      not_start_of_start (str "/contacts/") ht (by decide) (by decide) (by simpa using h)
    exact (if_neg (hne ht (by decide))).trans <| (if_neg hcontacts).trans (if_pos (hpos ht))
  | updateChatNotifications =>
    exact (if_neg (hne ht (by decide))).trans <| (if_neg (hne ht (by decide))).trans
      (if_pos (hpos ht))

/-- The handlers whose requests are events of the kind. -/
def Event.handlers : Event → List HandlerId
  | .created _ => [.createProfile]
  | .patched .. => [.updateProfile]
  | .avatarSet .. => [.uploadAvatar, .deleteAvatar]
  | .contactAdded .. => [.addContact]
  | .contactRemoved .. => [.deleteContact]
  | .favoriteAdded .. => [.addFavorite]
  | .favoriteRemoved .. => [.removeFavorite]
  | .privacySet .. => [.updatePrivacy]
  | .notificationsSet .. => [.updateNotifications, .updateChatNotifications]

/-- An event is one of a handler of its kind. -/
lemma HandlerId.mem_handlers {env : Env σ} {request : Request} {response : Response}
    {id : HandlerId} {event : Event} (h : id.event env request response = some event) :
    id ∈ event.handlers := by
  cases id with
  | getMyProfile | getProfileByID | getContacts | getPrivacy | getFavorites | getNotifications
  | getChatNotifications => exact absurd h (by simp [HandlerId.event])
  | createProfile =>
    obtain ⟨user, -, rfl⟩ := Option.map_eq_some_iff.mp h
    exact List.mem_singleton_self _
  | updateProfile =>
    simp only [HandlerId.event, patchedEvent, Option.bind_eq_bind, Option.bind_eq_some_iff,
      Option.some.injEq] at h
    obtain ⟨_, -, _, -, _, -, _, -, _, -, _, -, rfl⟩ := h
    exact List.mem_singleton_self _
  | uploadAvatar | addContact | updatePrivacy | updateNotifications | updateChatNotifications =>
    simp only [HandlerId.event, uploadedEvent, contactAddedEvent, privacySetEvent,
      notificationsSetEvent, Option.bind_eq_bind, Option.bind_eq_some_iff, Option.some.injEq] at h
    first
      | obtain ⟨_, -, _, -, _, -, _, -, rfl⟩ := h
      | obtain ⟨_, -, _, -, _, -, _, -, _, -, rfl⟩ := h
    simp [Event.handlers]
  | deleteAvatar =>
    obtain ⟨_, -, h⟩ := Option.bind_eq_some_iff.mp h
    obtain rfl := Option.some.inj h
    simp [Event.handlers]
  | deleteContact | addFavorite | removeFavorite =>
    simp only [HandlerId.event, contactRemovedEvent, favoriteAddedEvent, favoriteRemovedEvent,
      Option.bind_eq_bind, Option.bind_eq_some_iff, Option.some.injEq] at h
    obtain ⟨_, -, _, -, rfl⟩ := h
    exact List.mem_singleton_self _

/-! ## The bodies -/

/-- The context that a request is handled in. -/
def Request.context (request : Request) : RouteContext :=
  ⟨extractPathParams request.target, extractUserID request⟩

@[simp] lemma Request.context_userID (request : Request) :
    request.context.userID = extractUserID request := rfl

/-- The path parameter that follows a prefix. -/
lemma Request.find_contact {request : Request} (h : str "/contacts/" <+: request.target) :
    request.context.find (str "contact_id") = some (request.target.drop 10) := by
  obtain ⟨rest, ht⟩ := h
  rw [RouteContext.find, Request.context, ← ht, extractPathParams_contacts]
  simp
  rfl

lemma Request.find_favorite {request : Request} (h : str "/favorites/" <+: request.target) :
    request.context.find (str "chat_id") = some (request.target.drop 11) := by
  obtain ⟨rest, ht⟩ := h
  rw [RouteContext.find, Request.context, ← ht, extractPathParams_favorites]
  simp
  rfl

lemma Request.find_notifications {request : Request}
    (h : str "/notifications/" <+: request.target) :
    request.context.find (str "chat_id") = some (request.target.drop 15) := by
  obtain ⟨rest, ht⟩ := h
  rw [RouteContext.find, Request.context, ← ht, extractPathParams_notifications]
  simp
  rfl

/-- The id in the path of a profile; a bare slash has none. -/
lemma Request.find_profile {request : Request}
    (h : HandlerId.getProfileByID.Accepts request.target) :
    request.context.find (str "user_id") =
      if request.target.drop 1 = [] then none else some (request.target.drop 1) := by
  obtain ⟨⟨rest, ht⟩, hsegment, hme, -⟩ := h
  have hdrop : request.target.drop 1 = rest := by
    rw [← ht]
    rfl
  rw [hdrop] at hsegment ⊢
  rw [RouteContext.find, Request.context, ← ht] at *
  by_cases hrest : rest = []
  · subst hrest
    rfl
  · rw [if_neg hrest, extractPathParams_profile hsegment hrest hme]
    simp

section Bodies

variable {env : Env σ} {w : World σ} {request : Request}

variable (env w request) in
/-- What is shown of every body: it answers, and the answer is right. -/
def Answers (x : Svc σ Response) : Prop :=
  ∃ response w', x.run env w = (.ok response, w') ∧ Effect env w request response w'

/-- The effect of the one write of a body. -/
lemma Effect.of_write {w₀ w₁ : World σ} {query : Query} {params : List DbValue} {store : Store}
    {rows : List Row} {wr : Write} {response : Response} {w' : World σ} (event : Event)
    (hw : Reads w₀ w₁) (hs : Succeeds env w₁ query params store rows)
    (hwr : query.write env.db (params.map convertValueToPQXX) = some wr)
    (hmakes : event.Makes w₀.store wr)
    (hevent : eventOf env (request, .ok response) = some event) (hstore : w'.store = store)
    (hstatements : w'.statements = w₁.statements + 1) :
    Effect env w₀ request response w' := by
  have hexec := hs.2
  rw [Query.exec_write hwr] at hexec
  split at hexec
  · rename_i hc
    obtain ⟨rfl, -⟩ := Prod.mk.inj (Option.some.inj hexec)
    refine .written event wr w₁.statements hw.statements hstatements.symm hevent hmakes
      (Query.write_fits hwr) ?_ (hstore ▸ hc)
    rw [hstore, hw.store]
  · exact absurd hexec (by simp)

lemma deleteContact_answers (hm : request.method = .delete)
    (ht : str "/contacts/" <+: request.target) :
    Answers env w request (ContactsHandler.handleDeleteContact request request.context) := by
  refine Settles.body ?_ fun _ => by simp
  simp only [Request.find_contact ht]
  refine Settles.bind_modify (refl_of Reads _) fun store rows hs => ?_
  obtain ⟨wr, hwr, -⟩ := hs.write fun _ _ => rfl
  obtain ⟨owner, howner, h⟩ := Option.bind_eq_some_iff.mp hwr
  obtain ⟨contact, hcontact, h⟩ := Option.bind_eq_some_iff.mp h
  refine Settles.answer rfl (Effect.of_write (.contactRemoved owner contact) (refl_of Reads _)
    hs hwr (Option.some.inj h).symm ?_ rfl rfl)
  rw [eventOf_of_accepts .deleteContact hm ht (by simp)]
  exact Option.bind_eq_some_iff.mpr ⟨owner, howner,
    Option.bind_eq_some_iff.mpr ⟨contact, hcontact, rfl⟩⟩

lemma addFavorite_answers (hm : request.method = .post)
    (ht : str "/favorites/" <+: request.target) :
    Answers env w request (FavoritesHandler.handleAddFavorite request request.context) := by
  refine Settles.body ?_ fun _ => by simp
  simp only [Request.find_favorite ht]
  refine Settles.bind_modify (refl_of Reads _) fun store rows hs => ?_
  obtain ⟨wr, hwr, -⟩ := hs.write fun _ _ => rfl
  obtain ⟨user, huser, h⟩ := Option.bind_eq_some_iff.mp hwr
  obtain ⟨chat, hchat, h⟩ := Option.bind_eq_some_iff.mp h
  refine Settles.answer rfl (Effect.of_write (.favoriteAdded user chat) (refl_of Reads _)
    hs hwr (Option.some.inj h).symm ?_ rfl rfl)
  rw [eventOf_of_accepts .addFavorite hm ht (by simp)]
  exact Option.bind_eq_some_iff.mpr ⟨user, huser,
    Option.bind_eq_some_iff.mpr ⟨chat, hchat, rfl⟩⟩

lemma removeFavorite_answers (hm : request.method = .delete)
    (ht : str "/favorites/" <+: request.target) :
    Answers env w request (FavoritesHandler.handleRemoveFavorite request request.context) := by
  refine Settles.body ?_ fun _ => by simp
  simp only [Request.find_favorite ht]
  refine Settles.bind_modify (refl_of Reads _) fun store rows hs => ?_
  obtain ⟨wr, hwr, -⟩ := hs.write fun _ _ => rfl
  obtain ⟨user, huser, h⟩ := Option.bind_eq_some_iff.mp hwr
  obtain ⟨chat, hchat, h⟩ := Option.bind_eq_some_iff.mp h
  refine Settles.answer rfl (Effect.of_write (.favoriteRemoved user chat) (refl_of Reads _)
    hs hwr (Option.some.inj h).symm ?_ rfl rfl)
  rw [eventOf_of_accepts .removeFavorite hm ht (by simp)]
  exact Option.bind_eq_some_iff.mpr ⟨user, huser,
    Option.bind_eq_some_iff.mpr ⟨chat, hchat, rfl⟩⟩

lemma deleteAvatar_answers (hm : request.method = .delete)
    (ht : request.target = str "/me/avatar") :
    Answers env w request (ProfileHandler.handleDeleteAvatar request request.context) := by
  refine Settles.body ?_ fun _ => by simp
  refine Settles.bind_reads (reads_deleteObject _) (refl_of Reads _) fun _ w₁ _ hw₁ => ?_
  refine Settles.bind_modify hw₁ fun store rows hs => ?_
  obtain ⟨wr, hwr, -⟩ := hs.write fun _ _ => rfl
  obtain ⟨avatarUrl, hurl, h⟩ := Option.bind_eq_some_iff.mp hwr
  obtain ⟨user, huser, h⟩ := Option.bind_eq_some_iff.mp h
  obtain rfl : avatarUrl = [] := by
    have hnil := env.db.stored_of_holds ColumnType.holds_nil_text
    exact Option.some.inj (hurl.symm.trans hnil)
  refine Settles.answer rfl (Effect.of_write (.avatarSet user []) hw₁ hs hwr
    (Option.some.inj h).symm ?_ rfl rfl)
  rw [eventOf_of_accepts .deleteAvatar hm ht (by simp)]
  exact Option.bind_eq_some_iff.mpr ⟨user, huser, rfl⟩

/-- After `createProfile` there is a row of the user. -/
lemma createProfile_filter {schema : Schema} {now : ℤ} {rowId : Uuid} {user : Bytes}
    {st store : Store} (h : store = Write.apply schema now rowId (.createProfile user) st) :
    ∃ r rest, store.profiles.filter (ProfileRow.hasId user) = r :: rest ∧ r.userId = user := by
  have hany : store.profiles.any (ProfileRow.hasId user) = true := by
    rw [h]
    exact Table.any_insertOrUpdate (fun r hr => by simpa [ProfileRow.hasId] using hr)
      (by simp [ProfileRow.hasId]) st.profiles
  rcases hf : store.profiles.filter (ProfileRow.hasId user) with _ | ⟨r, rest⟩
  · rw [List.filter_eq_nil_iff] at hf
    obtain ⟨r, hr, hhit⟩ := List.any_eq_true.mp hany
    exact absurd hhit (hf r hr)
  · have hr : r ∈ r :: rest := List.mem_cons_self
    rw [← hf] at hr
    exact ⟨r, rest, rfl, by simpa [ProfileRow.hasId] using (List.mem_filter.mp hr).2⟩

lemma createProfile_answers (hm : request.method = .post)
    (ht : request.target = str "/internal/profiles") (context : RouteContext) :
    Answers env w request (ProfileHandler.handleCreateProfile request context) := by
  refine Settles.body ?_ fun _ => by simp
  refine Settles.bind_reads (moves_parse _) (refl_of Reads _) fun j w₁ hj hw₁ => ?_
  refine Settles.bind_reads (moves_convert _) hw₁ fun userId w₂ huserId hw₂ => ?_
  refine Settles.ite (fun _ => .failed hw₂ (by simp)) fun _ => ?_
  rw [ProfileRepository.create, bind_assoc]
  refine Settles.bind_execute hw₂ fun store rows hs => ?_
  obtain ⟨wr, hwr, hstore, -, hrows⟩ := hs.write fun _ _ => rfl
  obtain ⟨user, huser, h⟩ := Option.bind_eq_some_iff.mp hwr
  obtain rfl := Option.some.inj h
  obtain ⟨r, rest, hr, hid⟩ := createProfile_filter hstore
  rw [Write.returning, hr] at hrows
  subst hrows
  have hjson : (Json.ofMembers [(str "user_id", .string r.userId),
      (str "created_at",
        .integer (TimePoint.toSeconds (env.clock (w₂.afterStatement store).readings))),
      (str "updated_at", .integer (TimePoint.toSeconds
        (env.clock ((w₂.afterStatement store).readings + 1))))]).Utf8 := by
    refine Json.ofMembers_utf8 ?_
    have h1 := (Database.stored_holds huser).utf8
    simp only [List.forall_mem_cons, Json.utf8_string, hid]
    exact ⟨⟨rfl, h1⟩, ⟨rfl, by simp⟩, ⟨rfl, by simp⟩, by simp⟩
  obtain ⟨text, -, hdump⟩ :=
    run_dumpResponse env ((w₂.afterStatement store).afterReadings 2) 201 request hjson
  refine Settles.answer
    ((Prog.run_bind_ok (run_profileMapRow env (w₂.afterStatement store) env.db r)).trans hdump)
    (Effect.of_write (.created user) hw₂ hs hwr rfl ?_ rfl rfl)
  rw [eventOf_of_accepts .createProfile hm ht (by simp)]
  simp only [HandlerId.event, createdEvent, bodyUser, bodyJson, parse_eq_ok hj,
    convert_eq_ok huserId, Except.toOption, Option.bind_eq_bind, Option.bind_some]
  exact Option.map_eq_some_iff.mpr ⟨user, huser, rfl⟩

/-- The value written for a key of the body that may be missing: the text under the key as
the column stores it, or else what was there before. -/
lemma storedMember_eq {T : ColumnType} (hT : T.Holds []) {j : Json} {key : String}
    {field s : Option Bytes} {v : Bytes} (hfield : HoldsOption T field)
    (hs : assignString j (str key) field = .ok s) (hv : env.db.stored T (s.getD []) = some v) :
    ∃ m, storedMember env T j key = some m ∧ v = m.getD (field.getD []) := by
  rcases hj : j.member? (str key) with _ | x
  · have hassign : ∀ f, assignString j (str key) f = .ok f := fun f => by
      rw [assignString, hj]
    obtain rfl : field = s := Except.ok.inj ((hassign field).symm.trans hs)
    refine ⟨none, by simp [storedMember, hassign, Except.toOption], ?_⟩
    have hheld : T.Holds (field.getD []) := by
      rcases field with _ | s
      · exact hT
      · exact hfield s rfl
    exact Option.some.inj (hv.symm.trans (env.db.stored_of_holds hheld))
  · have hassign : ∀ f, assignString j (str key) f = (getString x).map some := fun f => by
      rw [assignString, hj]
    rw [hassign] at hs
    rcases hx : getString x with err | t
    · rw [hx] at hs
      exact absurd hs (fun h => by cases h)
    · rw [hx] at hs
      obtain rfl := Except.ok.inj hs
      refine ⟨some v, ?_, rfl⟩
      simp only [Option.getD_some] at hv
      simp [storedMember, hassign, hx, Except.map, Except.toOption, hv]

lemma addContact_answers (hm : request.method = .post)
    (ht : request.target = str "/contacts") :
    Answers env w request (ContactsHandler.handleAddContact request request.context) := by
  refine Settles.body ?_ fun _ => by simp
  refine Settles.bind_reads (moves_parse _) (refl_of Reads _) fun j w₁ hj hw₁ => ?_
  refine Settles.bind_reads (moves_convert _) hw₁ fun contactID w₂ hcontactID hw₂ => ?_
  refine Settles.ite (fun _ => .failed hw₂ (by simp)) fun _ => ?_
  refine Settles.bind_reads (moves_convert _) hw₂ fun contactAlias w₃ halias hw₃ => ?_
  refine Settles.bind_modify hw₃ fun store rows hs => ?_
  obtain ⟨wr, hwr, -⟩ := hs.write fun _ _ => rfl
  obtain ⟨owner, howner, h⟩ := Option.bind_eq_some_iff.mp hwr
  obtain ⟨contact, hcontact, h⟩ := Option.bind_eq_some_iff.mp h
  obtain ⟨al, hal, h⟩ := Option.bind_eq_some_iff.mp h
  have hjson : (Json.ofMembers [(str "owner_id", .string (extractUserID request)),
      (str "contact_id", .string contactID),
      (str "alias", .string (contactAlias.getD []))]).Utf8 := by
    refine Json.ofMembers_utf8 ?_
    have h1 := Database.valid_of_stored howner
    have h2 := Database.valid_of_stored hcontact
    have h3 := Database.valid_of_stored hal
    simp only [List.forall_mem_cons, Json.utf8_string]
    exact ⟨⟨rfl, h1⟩, ⟨rfl, h2⟩, ⟨rfl, h3⟩, by simp⟩
  obtain ⟨text, -, hdump⟩ := run_dumpResponse env (w₃.afterStatement store) 201 request hjson
  obtain ⟨m, hm', rfl⟩ := storedMember_eq (Schema.nameType_holds_nil _) (holdsOption_none _)
    (convert_eq_ok halias) hal
  refine Settles.answer hdump (Effect.of_write (.contactAdded owner contact (m.getD [])) hw₃
    hs hwr (Option.some.inj h).symm ?_ rfl rfl)
  rw [eventOf_of_accepts .addContact hm ht (by simp)]
  have howner' : storedUser env request = some owner := howner
  simp only [HandlerId.event, contactAddedEvent, bodyJson, parse_eq_ok hj,
    convert_eq_ok hcontactID, Except.toOption, Option.bind_eq_bind, Option.bind_some, howner',
    hm']
  exact Option.bind_eq_some_iff.mpr ⟨contact, hcontact, rfl⟩

lemma storedVisibility_eq {j : Json} {key : String} {s v : Bytes}
    (hs : PrivacyHandler.visibility j key = .ok s)
    (hv : env.db.stored env.db.schema.visibilityType s = some v) :
    storedVisibility env j key = some v := by
  rw [PrivacyHandler.visibility] at hs
  simp only [storedVisibility, hs, Except.toOption, Option.bind_eq_bind, Option.bind_some, hv]

lemma updatePrivacy_answers (hm : request.method = .put)
    (ht : request.target = str "/me/privacy") :
    Answers env w request (PrivacyHandler.handleUpdatePrivacy request request.context) := by
  refine Settles.body ?_ fun _ => by simp
  refine Settles.bind_reads (moves_parse _) (refl_of Reads _) fun j w₁ hj hw₁ => ?_
  refine Settles.bind_reads (moves_convert _) hw₁ fun p w₂ hp hw₂ => ?_
  refine Settles.bind_reads (moves_convert _) hw₂ fun l w₃ hl hw₃ => ?_
  refine Settles.bind_reads (moves_convert _) hw₃ fun a w₄ ha hw₄ => ?_
  refine Settles.bind_modify hw₄ fun store rows hs => ?_
  obtain ⟨wr, hwr, -⟩ := hs.write fun _ _ => rfl
  obtain ⟨user, huser, h⟩ := Option.bind_eq_some_iff.mp hwr
  obtain ⟨profile, hprofile, h⟩ := Option.bind_eq_some_iff.mp h
  obtain ⟨lastSeen, hlastSeen, h⟩ := Option.bind_eq_some_iff.mp h
  obtain ⟨avatar, havatar, h⟩ := Option.bind_eq_some_iff.mp h
  refine Settles.answer rfl (Effect.of_write (.privacySet user profile lastSeen avatar) hw₄
    hs hwr (Option.some.inj h).symm ?_ rfl rfl)
  rw [eventOf_of_accepts .updatePrivacy hm ht (by simp)]
  have huser' : storedUser env request = some user := huser
  simp only [HandlerId.event, privacySetEvent, bodyJson, parse_eq_ok hj, Except.toOption,
    Option.bind_eq_bind, Option.bind_some, huser', storedVisibility_eq (convert_eq_ok hp) hprofile,
    storedVisibility_eq (convert_eq_ok hl) hlastSeen,
    storedVisibility_eq (convert_eq_ok ha) havatar]

/-- The `mutedUntil` of a body is read, or it is refused or throws. -/
lemma readMutedUntil_cases (env : Env σ) (j : Json) (w : World σ) :
    (∃ tm, bodyMutedUntil j = some tm ∧
      (NotificationsHandler.readMutedUntil j).run env w =
        (.ok (some (tm.map fun tm => fromTimeT (env.mktime tm))), w)) ∨
    (bodyMutedUntil j = none ∧
      ∀ t w', (NotificationsHandler.readMutedUntil j).run env w ≠ (.ok (some t), w')) := by
  rw [NotificationsHandler.readMutedUntil, bodyMutedUntil]
  rcases j.member? (str "mutedUntil") with _ | v
  · exact Or.inl ⟨none, rfl, rfl⟩
  cases v with
  | null => exact Or.inl ⟨none, rfl, rfl⟩
  | string s =>
    have hconv : (convert (getString (.string s)) : Svc σ Bytes).run env w = (.ok s, w) := rfl
    simp only
    rw [Prog.run_bind_ok hconv]
    rcases s with _ | ⟨c, s⟩
    · exact Or.inl ⟨none, rfl, rfl⟩
    · rw [if_neg (by simp)]
      rcases htm : getTime rfc3339Format (c :: s) with _ | tm
      · refine Or.inr ⟨congrArg (Option.map some) htm, fun t w' h => ?_⟩
        exact absurd (Except.ok.inj (Prod.mk.inj h).1) (by simp)
      · exact Or.inl ⟨some tm, congrArg (Option.map some) htm, rfl⟩
  | bool | integer | float | array | object =>
    refine Or.inr ⟨rfl, fun t w' h => ?_⟩
    exact absurd (Prod.mk.inj h).1 (fun h' => by cases h')

/-- What the database makes of the `mutedUntil` that was read. -/
lemma storedMutedUntil_eq {j : Json} {w₁ w₂ : World σ} {mutedUntil : Option TimePoint}
    (h : (NotificationsHandler.readMutedUntil j).run env w₁ = (.ok (some mutedUntil), w₂)) :
    (mutedUntil = none ∧ storedMutedUntil env j = some none) ∨
    ∃ t, mutedUntil = some t ∧ storedMutedUntil env j =
      ((env.db.receive (strftime (gmtime (TimePoint.toSeconds t)))).bind
        env.db.timestamptzIn).map some := by
  rcases readMutedUntil_cases env j w₁ with ⟨tm, htm, hrun⟩ | ⟨-, hne⟩
  · obtain rfl := Option.some.inj (Except.ok.inj (Prod.mk.inj (h.symm.trans hrun)).1)
    cases tm with
    | none => exact Or.inl ⟨rfl, by rw [storedMutedUntil, htm]; rfl⟩
    | some tm =>
      refine Or.inr ⟨_, rfl, ?_⟩
      rw [storedMutedUntil, htm]
      simp only [Option.bind_eq_bind, Option.bind_some]
      cases (env.db.receive (strftime (gmtime (TimePoint.toSeconds
        (fromTimeT (env.mktime tm)))))).bind env.db.timestamptzIn <;> rfl
  · exact absurd h (hne _ _)

/-- A flag arrives as it was sent. -/
lemma receive_bool (db : Database) (b : Bool) :
    (db.receive (convertValueToPQXX (.bool b))).bind boolIn = some b := by
  cases b
  · rw [db.receive_verbatim (by decide) (by decide)]
    rfl
  · rw [db.receive_verbatim (by decide) (by decide)]
    rfl

lemma putSettings_settles {w₀ w₁ : World σ} (id : HandlerId) (hm : request.method = id.method)
    (ht : id.Accepts request.target) (chatID : Option Bytes)
    (hevent : ∀ response, id.event env request response =
      notificationsSetEvent env request (chatID.getD []))
    (hw : Reads w₀ w₁) :
    Settles env request w₀
      (NotificationsHandler.putSettings request (extractUserID request) chatID) w₁ := by
  refine Settles.bind_reads (moves_parse _) hw fun j w₂ hj hw₂ => ?_
  refine Settles.bind_reads (moves_convert _) hw₂ fun muted w₃ hmuted hw₃ => ?_
  refine Settles.bind_reads (moves_readMutedUntil _) hw₃ fun res w₄ hres hw₄ => ?_
  cases res with
  | none => exact .failed hw₄ (by simp)
  | some mutedUntil =>
    -- the event, once the bound values are known
    have hset : ∀ {user chat : Bytes} {b : Bool} {u : Option ℤ} {response : Response},
        env.db.stored env.db.schema.idType (extractUserID request) = some user →
        env.db.stored env.db.schema.idType (chatID.getD []) = some chat →
        (env.db.receive (convertValueToPQXX (.bool muted))).bind boolIn = some b →
        storedMutedUntil env j = some u → 200 ≤ response.status ∧ response.status < 300 →
        eventOf env (request, .ok response) = some (.notificationsSet user chat b u) := by
      intro user chat b u response huser hchat hb hu hok
      obtain rfl : b = muted := Option.some.inj (hb.symm.trans (receive_bool env.db muted))
      have huser' : storedUser env request = some user := huser
      rw [eventOf_of_accepts id hm ht hok, hevent]
      simp only [notificationsSetEvent, bodyJson, parse_eq_ok hj, convert_eq_ok hmuted,
        Except.toOption, Option.bind_eq_bind, Option.bind_some, huser', hchat, hu]
    rcases storedMutedUntil_eq hres with ⟨rfl, hu⟩ | ⟨t, rfl, hu⟩
    · refine Settles.bind_modify hw₄ fun store rows hs => ?_
      obtain ⟨wr, hwr, -⟩ := hs.write fun _ _ => rfl
      obtain ⟨user, huser, h⟩ := Option.bind_eq_some_iff.mp hwr
      obtain ⟨chat, hchat, h⟩ := Option.bind_eq_some_iff.mp h
      obtain ⟨b, hb, h⟩ := Option.bind_eq_some_iff.mp h
      exact Settles.answer rfl (Effect.of_write (.notificationsSet user chat b none) hw₄ hs hwr
        (Option.some.inj h).symm (hset huser hchat hb hu (by simp)) rfl rfl)
    · refine Settles.bind_modify hw₄ fun store rows hs => ?_
      obtain ⟨wr, hwr, -⟩ := hs.write fun _ _ => rfl
      obtain ⟨user, huser, h⟩ := Option.bind_eq_some_iff.mp hwr
      obtain ⟨chat, hchat, h⟩ := Option.bind_eq_some_iff.mp h
      obtain ⟨b, hb, h⟩ := Option.bind_eq_some_iff.mp h
      obtain ⟨u, hu', h⟩ := Option.bind_eq_some_iff.mp h
      have hu'' : storedMutedUntil env j = some (some u) := by
        rw [hu]
        exact congrArg (Option.map some) hu'
      exact Settles.answer rfl (Effect.of_write (.notificationsSet user chat b (some u)) hw₄
        hs hwr (Option.some.inj h).symm (hset huser hchat hb hu'' (by simp)) rfl rfl)

lemma updateNotifications_answers (hm : request.method = .put)
    (ht : request.target = str "/notifications") :
    Answers env w request
      (NotificationsHandler.handleUpdateNotifications request request.context) :=
  Settles.body (putSettings_settles .updateNotifications hm ht none (fun _ => rfl)
    (refl_of Reads _)) fun _ => by simp

lemma updateChatNotifications_answers (hm : request.method = .put)
    (ht : str "/notifications/" <+: request.target) :
    Answers env w request
      (NotificationsHandler.handleUpdateChatNotifications request request.context) := by
  refine Settles.body ?_ fun _ => by simp
  simp only [Request.find_notifications ht]
  exact putSettings_settles .updateChatNotifications hm ht (some _) (fun _ => rfl)
    (refl_of Reads _)

/-- A member of an object that was built from a list of members. -/
lemma value_ofMembers {α : Type} (get : Json → Except Exn α) (ms : List (Bytes × Json))
    (key : Bytes) (default : α) :
    value get (.ofMembers ms) key default =
      match ms.reverse.lookup key with
      | some v => get v
      | none => .ok default := by
  rw [← Json.member?_ofMembers]
  rfl

lemma uploadAvatar_answers (hm : request.method = .post)
    (ht : request.target = str "/me/avatar") :
    Answers env w request (ProfileHandler.handleUploadAvatar request request.context) := by
  refine Settles.body ?_ fun _ => by simp
  refine Settles.bind_reads (moves_parse _) (refl_of Reads _) fun j w₁ hj hw₁ => ?_
  rcases j.member? (str "image_data") with _ | imageData
  · exact .failed hw₁ (by simp)
  refine Settles.bind_reads (moves_convert _) hw₁ fun base64Data w₂ _ hw₂ => ?_
  refine Settles.bind_reads (moves_convert _) hw₂ fun contentType w₃ _ hw₃ => ?_
  refine Settles.ite (fun _ => .failed hw₃ (by simp)) fun _ => ?_
  refine Settles.bind_reads (reads_upload _ _ _) hw₃ fun url w₄ _ hw₄ => ?_
  refine Settles.bind_modify hw₄ fun store rows hs => ?_
  obtain ⟨wr, hwr, -⟩ := hs.write fun _ _ => rfl
  obtain ⟨avatarUrl, hurl, h⟩ := Option.bind_eq_some_iff.mp hwr
  obtain ⟨user, huser, h⟩ := Option.bind_eq_some_iff.mp h
  have hjson : (Json.ofMembers [(str "user_id", .string (extractUserID request)),
      (str "avatar_url", .string url)]).Utf8 := by
    refine Json.ofMembers_utf8 ?_
    have h1 := Database.valid_of_compared huser
    have h2 := Database.valid_of_stored hurl
    simp only [List.forall_mem_cons, Json.utf8_string]
    exact ⟨⟨rfl, h1⟩, ⟨rfl, h2⟩, by simp⟩
  have hsorted : (Json.ofMembers [(str "user_id", .string (extractUserID request)),
      (str "avatar_url", .string url)]).Sorted := Json.ofMembers_sorted (by simp)
  obtain ⟨text, htext, hdump⟩ := run_dumpResponse env (w₄.afterStatement store) 200 request hjson
  refine Settles.answer hdump (Effect.of_write (.avatarSet user avatarUrl) hw₄ hs hwr
    (Option.some.inj h).symm ?_ rfl rfl)
  rw [eventOf_of_accepts .uploadAvatar hm ht (by simp)]
  have huser' : comparedUser env request = some user := huser
  have hvalue : value getString (.ofMembers [(str "user_id", .string (extractUserID request)),
      (str "avatar_url", .string url)]) (str "avatar_url") [] = .ok url := by
    rw [value_ofMembers]
    rfl
  simp only [HandlerId.event, uploadedEvent, huser', jsonResponse_body,
    env.json.parse_dump hjson hsorted htext, Except.toOption, hvalue, Option.bind_eq_bind,
    Option.bind_some]
  exact Option.bind_eq_some_iff.mpr ⟨avatarUrl, hurl, rfl⟩

/-- A profile that is found is a row of the table. -/
lemma getByID_eq_ok {w w' : World σ} {userId : Bytes} {profile : Profile}
    (h : (ProfileRepository.getByID userId).run env w = (.ok profile, w')) :
    ∃ r ∈ w.store.profiles, env.db.idKey userId = some r.userId ∧
      profile = ⟨r.userId, r.firstName, r.lastName, r.username, r.bio, r.avatarUrl,
        profile.createdAt, profile.updatedAt⟩ := by
  rcases executeParams_cases env w .getProfileByID [.string userId] with
    ⟨err, hrun, -⟩ | ⟨store, rows, hs, hrun⟩
  · rw [ProfileRepository.getByID, executeSelect, Prog.run_bind_error hrun] at h
    exact absurd (Prod.mk.inj h).1 (fun h' => by cases h')
  · rw [ProfileRepository.getByID, executeSelect, Prog.run_bind_ok hrun] at h
    have hexec := hs.2
    rw [Query.exec_select rfl] at hexec
    obtain ⟨rows', hrows, heq⟩ := Option.map_eq_some_iff.mp hexec
    obtain ⟨rfl, rfl⟩ := Prod.mk.inj heq
    obtain ⟨k, hk, hrows⟩ := Option.bind_eq_some_iff.mp hrows
    obtain rfl := Option.some.inj hrows
    rcases hf : w.store.profiles.filter (ProfileRow.hasId k) with _ | ⟨r, rest⟩
    · rw [hf] at h
      exact absurd (Prod.mk.inj h).1 (fun h' => by cases h')
    · have hr : r ∈ r :: rest := List.mem_cons_self
      rw [← hf] at hr
      obtain ⟨hmem, hid⟩ := List.mem_filter.mp hr
      have hid : r.userId = k := by simpa [ProfileRow.hasId] using hid
      simp only [hf, List.map_cons] at h
      rw [run_profileMapRow] at h
      refine ⟨r, hmem, by rw [hid]; exact hk, ?_⟩
      rw [← Except.ok.inj (Prod.mk.inj h).1]

/-- The parameters of the update of a profile. -/
def updateParams (profile : Profile) : List DbValue :=
  [.string (profile.firstName.getD []), .string (profile.lastName.getD []),
    .string (profile.username.getD []), .string (profile.bio.getD []), .string profile.userID]

/-- The update of a profile succeeds, or it reports a taken username. -/
lemma update_cases (env : Env σ) (w : World σ) (profile : Profile) :
    ((ProfileRepository.update profile).run env w =
        (.error ⟨str "username already taken"⟩, w.afterStatement w.store) ∧
      ¬ ∃ store rows, Succeeds env w .updateProfile (updateParams profile) store rows) ∨
    ∃ store rows, Succeeds env w .updateProfile (updateParams profile) store rows ∧
      (ProfileRepository.update profile).run env w = (.ok (), w.afterStatement store) := by
  rcases executeParams_cases env w .updateProfile (updateParams profile) with
    ⟨err, hrun, hnot⟩ | ⟨store, rows, hs, hrun⟩
  · have hmodify : (executeModify .updateProfile (updateParams profile) : Svc σ Unit).run env w =
        (.error err, w.afterStatement w.store) := Prog.run_bind_error hrun
    exact Or.inl ⟨Prog.run_tryCatch_error hmodify, hnot⟩
  · have hmodify : (executeModify .updateProfile (updateParams profile) : Svc σ Unit).run env w =
        (.ok (), w.afterStatement store) := Prog.run_bind_ok hrun
    exact Or.inr ⟨store, rows, hs, Prog.run_tryCatch_ok hmodify⟩

/-- The assignments of a PATCH body, one by one. -/
lemma patchProfile_eq_ok {j : Json} {profile profile' : Profile}
    (h : ProfileHandler.patchProfile j profile = .ok profile') :
    ∃ firstName lastName username bio,
      assignString j (str "first_name") profile.firstName = .ok firstName ∧
      assignString j (str "last_name") profile.lastName = .ok lastName ∧
      assignString j (str "username") profile.username = .ok username ∧
      assignString j (str "bio") profile.bio = .ok bio ∧
      profile' = { profile with
        firstName := firstName, lastName := lastName, username := username, bio := bio } := by
  rw [ProfileHandler.patchProfile] at h
  rcases h1 : assignString j (str "first_name") profile.firstName with err | firstName
  · rw [h1] at h
    cases h
  rcases h2 : assignString j (str "last_name") profile.lastName with err | lastName
  · rw [h1, h2] at h
    cases h
  rcases h3 : assignString j (str "username") profile.username with err | username
  · rw [h1, h2, h3] at h
    cases h
  rcases h4 : assignString j (str "bio") profile.bio with err | bio
  · rw [h1, h2, h3, h4] at h
    cases h
  rw [h1, h2, h3, h4] at h
  exact ⟨firstName, lastName, username, bio, rfl, rfl, rfl, rfl, (Except.ok.inj h).symm⟩

lemma updateFailed_status (request : Request) (e : Exn) :
    400 ≤ (ProfileHandler.updateFailed request e).status := by
  unfold ProfileHandler.updateFailed
  split <;> simp

lemma HoldsOption.getD {T : ColumnType} {v : Option Bytes} (hT : T.Holds [])
    (h : HoldsOption T v) : T.Holds (v.getD []) := by
  rcases v with _ | s
  · exact hT
  · exact h s rfl

lemma updateProfile_answers (hv : w.store.Valid env.db.schema) (hm : request.method = .patch)
    (ht : request.target = str "/me") :
    Answers env w request (ProfileHandler.handleUpdateProfile request request.context) := by
  refine Settles.body ?_ (updateFailed_status request)
  refine Settles.bind_reads (moves_parse _) (refl_of Reads _) fun j w₁ hj hw₁ => ?_
  refine Settles.bind_reads (moves_getByID reads_steps _) hw₁ fun profile w₂ hprofile hw₂ => ?_
  refine Settles.bind_reads (moves_convert _) hw₂ fun patched w₃ hpatched hw₃ => ?_
  obtain ⟨r, hr, hk, hrow⟩ := getByID_eq_ok hprofile
  rw [hw₁.store] at hr
  obtain ⟨hid, hfirst, hlast, huser, hbio, havatar⟩ := hv.typed.profiles r hr
  obtain ⟨firstName, lastName, username, bio, ha1, ha2, ha3, ha4, rfl⟩ :=
    patchProfile_eq_ok (convert_eq_ok hpatched)
  rw [hrow] at ha1 ha2 ha3 ha4 ⊢
  rcases update_cases env w₃ _ with ⟨hrun, -⟩ | ⟨store, rows, hs, hrun⟩
  · refine Or.inl ⟨_, _, Prog.run_bind_error hrun, hw₃.store, ?_⟩
    exact hw₃.statements.trans (Nat.le_succ _)
  obtain ⟨wr, hwr, -⟩ := hs.write fun _ _ => rfl
  obtain ⟨v1, hv1, h⟩ := Option.bind_eq_some_iff.mp hwr
  obtain ⟨v2, hv2, h⟩ := Option.bind_eq_some_iff.mp h
  obtain ⟨v3, hv3, h⟩ := Option.bind_eq_some_iff.mp h
  obtain ⟨v4, hv4, h⟩ := Option.bind_eq_some_iff.mp h
  obtain ⟨user, hu, h⟩ := Option.bind_eq_some_iff.mp h
  -- the key is the id of the row that was read
  obtain rfl : r.userId = user :=
    Option.some.inj ((env.db.compared_of_holds hid).symm.trans hu)
  obtain ⟨m1, hm1, rfl⟩ := storedMember_eq (Schema.nameType_holds_nil _) hfirst ha1 hv1
  obtain ⟨m2, hm2, rfl⟩ := storedMember_eq (Schema.nameType_holds_nil _) hlast ha2 hv2
  obtain ⟨m3, hm3, rfl⟩ := storedMember_eq (Schema.usernameType_holds_nil _) huser ha3 hv3
  obtain ⟨m4, hm4, rfl⟩ := storedMember_eq ColumnType.holds_nil_text hbio ha4 hv4
  have hjson : (ProfileHandler.patchedJson ⟨r.userId, firstName, lastName, username, bio,
      r.avatarUrl, profile.createdAt, profile.updatedAt⟩).Utf8 := by
    refine Json.ofMembers_utf8 ?_
    simp only [List.forall_mem_cons, Json.utf8_string]
    exact ⟨⟨rfl, hid.utf8⟩, ⟨rfl, Database.valid_of_stored hv1⟩,
      ⟨rfl, Database.valid_of_stored hv2⟩, ⟨rfl, Database.valid_of_stored hv3⟩,
      ⟨rfl, Database.valid_of_stored hv4⟩,
      ⟨rfl, (havatar.getD ColumnType.holds_nil_text).utf8⟩, by simp⟩
  obtain ⟨text, -, hdump⟩ := run_dumpResponse env (w₃.afterStatement store) 200 request hjson
  refine Settles.answer ((Prog.run_bind_ok hrun).trans hdump)
    (Effect.of_write (.patched r.userId m1 m2 m3 m4) hw₃ hs hwr
      ⟨r, hr, rfl, (Option.some.inj h).symm⟩ ?_ rfl rfl)
  rw [eventOf_of_accepts .updateProfile hm ht (by simp)]
  have hk' : comparedUser env request = some r.userId := hk
  simp only [HandlerId.event, patchedEvent, bodyJson, parse_eq_ok hj, hk', Except.toOption,
    Option.bind_eq_bind, Option.bind_some, hm1, hm2, hm3, hm4]

/-- Every body that a request reaches answers rightly on valid tables. -/
theorem body_answers (id : HandlerId) (hv : w.store.Valid env.db.schema)
    (hm : request.method = id.method) (ht : id.Accepts request.target) :
    Answers env w request (id.body request request.context) := by
  by_cases hread : id.IsRead
  · obtain ⟨response, w', hrun, hmove⟩ :=
      readBody_moves reads_steps hread request request.context env w
    refine ⟨response, w', hrun, .unchanged hmove.statements hmove.store ?_⟩
    exact Or.inr (by rw [hm, HandlerId.isRead_iff.mp hread]; simp)
  cases id with
  | createProfile => exact createProfile_answers hm ht request.context
  | updateProfile => exact updateProfile_answers hv hm ht
  | uploadAvatar => exact uploadAvatar_answers hm ht
  | deleteAvatar => exact deleteAvatar_answers hm ht
  | addContact => exact addContact_answers hm ht
  | deleteContact => exact deleteContact_answers hm ht
  | updatePrivacy => exact updatePrivacy_answers hm ht
  | addFavorite => exact addFavorite_answers hm ht
  | removeFavorite => exact removeFavorite_answers hm ht
  | updateNotifications => exact updateNotifications_answers hm ht
  | updateChatNotifications => exact updateChatNotifications_answers hm ht
  | getMyProfile | getProfileByID | getContacts | getPrivacy | getFavorites | getNotifications
  | getChatNotifications => exact absurd True.intro hread

end Bodies

/-! ## The step of the server -/

/-- A request that runs no body. -/
lemma Effect.of_idle {env : Env σ} {w : World σ} {request : Request} {response : Response}
    (h : 400 ≤ response.status ∨ request.method = .options) :
    Effect env w request response w := by
  refine .unchanged le_rfl rfl (h.imp_right fun hm => ?_)
  simp [hm]

/-- How a request that is let through is served. -/
lemma serve_eq_body {env : Env σ} {w : World σ} {request : Request} {id : HandlerId}
    (hm : request.method = id.method) (ht : id.Accepts request.target)
    (hu : id = .createProfile ∨ extractUserID request ≠ []) :
    serve env w request = (id.body request request.context).run env w := by
  obtain ⟨info, hid, hroute⟩ := resolveRoute_complete ht
  have hoptions : request.method ≠ .options := by
    rw [hm]
    cases id <;> decide
  have hrun : runHandler request info (extractUserID request) =
      (id.body request request.context : Svc σ Response) := by
    rw [runHandler, hid]
    exact bindHandler_eq_body _ hm ht
  rw [serve, handle, if_neg hoptions]
  simp only [hm, hroute]
  by_cases hinternal : id.method = .post ∧ request.target = str "/internal/profiles"
  · rw [if_pos hinternal, hrun]
  · rw [if_neg hinternal]
    have huser : extractUserID request ≠ [] := by
      rcases hu with rfl | hu
      · exact absurd ⟨rfl, ht⟩ hinternal
      · exact hu
    have hauth : (convert (authorizeRequest simpleAuthChecker (extractUserID request) info) :
        Svc σ Bool).run env w = (.ok true, w) := by
      simp [convert, authorizeRequest, simpleAuthChecker, huser]
    rw [if_neg huser, Prog.run_bind_ok hauth, if_pos rfl, hrun]

/-- The errors that answer requests which run no body: no route, and nobody asks. -/
def refusals : List (ℕ × Bytes) :=
  [(404, str "route_not_found"), (401, str "missing X-User-ID")]

/-- A request is served by a body, or it runs none and nothing changes: then the answer is the one
to OPTIONS, or one of two errors.  Which of these is decided by the request alone, whatever it is
served with. -/
lemma serve_forms (request : Request) :
    (∃ response : Response,
      (request.method = .options ∧ response = jsonResponse 204 request.version [] ∨
        ∃ refusal ∈ refusals, response = errorResponse refusal.1 request.version refusal.2) ∧
      ∀ (env : Env σ) (w : World σ), serve env w request = (.ok response, w)) ∨
    ∃ id : HandlerId, request.method = id.method ∧ id.Accepts request.target ∧
      (id = .createProfile ∨ extractUserID request ≠ []) ∧
      ∀ (env : Env σ) (w : World σ),
        serve env w request = (id.body request request.context).run env w := by
  by_cases hoptions : request.method = .options
  · refine Or.inl ⟨jsonResponse 204 request.version [], Or.inl ⟨hoptions, rfl⟩, fun env w => ?_⟩
    rw [serve, handle, if_pos hoptions]
    rfl
  rcases hroute : resolveRoute request.target request.method with _ | info
  · refine Or.inl ⟨errorResponse 404 request.version (str "route_not_found"),
      Or.inr ⟨(404, _), List.mem_cons_self, rfl⟩, fun env w => ?_⟩
    rw [serve, handle, if_neg hoptions, hroute]
    rfl
  obtain ⟨hm, ht, -⟩ := resolveRoute_sound hroute
  by_cases huser : info.id = .createProfile ∨ extractUserID request ≠ []
  · exact Or.inr ⟨info.id, hm, ht, huser, fun env w => serve_eq_body hm ht huser⟩
  · obtain ⟨hid, huser⟩ := not_or.mp huser
    have hinternal : ¬ (request.method = .post ∧ request.target = str "/internal/profiles") := by
      rintro ⟨hpost, htarget⟩
      rw [hpost, htarget] at hroute
      have hcreate : resolveRoute (str "/internal/profiles") .post =
          some ⟨.post, .createProfile, str "profile:write"⟩ := by decide
      rw [← Option.some.inj (hcreate.symm.trans hroute)] at hid
      exact hid rfl
    refine Or.inl ⟨errorResponse 401 request.version (str "missing X-User-ID"),
      Or.inr ⟨(401, _), List.mem_cons_of_mem _ List.mem_cons_self, rfl⟩, fun env w => ?_⟩
    rw [serve, handle, if_neg hoptions, hroute]
    simp only [if_neg hinternal, if_pos (not_not.mp huser)]
    rfl

/-- What there is to say of the status of a request that runs no body. -/
lemma serve_uniform (request : Request) :
    (∃ response : Response, (400 ≤ response.status ∨ request.method = .options) ∧
      ∀ (env : Env σ) (w : World σ), serve env w request = (.ok response, w)) ∨
    ∃ id : HandlerId, request.method = id.method ∧ id.Accepts request.target ∧
      (id = .createProfile ∨ extractUserID request ≠ []) ∧
      ∀ (env : Env σ) (w : World σ),
        serve env w request = (id.body request request.context).run env w := by
  rcases serve_forms request with ⟨response, ⟨hoptions, -⟩ | ⟨refusal, hmem, rfl⟩, hserve⟩ | hbody
  · exact Or.inl ⟨response, Or.inr hoptions, hserve⟩
  · have hstatus : ∀ refusal ∈ refusals, 400 ≤ refusal.1 := by simp [refusals]
    exact Or.inl ⟨_, Or.inl (by simpa using hstatus refusal hmem), hserve⟩
  · exact Or.inr hbody

/-- The cases of a request in one environment. -/
lemma serve_cases (env : Env σ) (request : Request) :
    (∃ response : Response, (400 ≤ response.status ∨ request.method = .options) ∧
      ∀ w : World σ, serve env w request = (.ok response, w)) ∨
    ∃ id : HandlerId, request.method = id.method ∧ id.Accepts request.target ∧
      (id = .createProfile ∨ extractUserID request ≠ []) ∧
      ∀ w : World σ, serve env w request = (id.body request request.context).run env w := by
  rcases serve_uniform request with ⟨response, hidle, hserve⟩ | ⟨id, hm, ht, huser, hserve⟩
  · exact Or.inl ⟨response, hidle, hserve env⟩
  · exact Or.inr ⟨id, hm, ht, huser, hserve env⟩

/-- A request that is an event was served by a handler of its kind. -/
lemma handler_of_event {env : Env σ} {w w' : World σ} {request : Request} {response : Response}
    {event : Event} (hserve : serve env w request = (.ok response, w'))
    (hevent : eventOf env (request, .ok response) = some event) :
    ∃ id ∈ event.handlers, request.method = id.method ∧ id.Accepts request.target ∧
      (id = .createProfile ∨ extractUserID request ≠ []) ∧
      id.event env request response = some event ∧
      (id.body request request.context).run env w = (.ok response, w') := by
  have hok := status_of_event hevent
  rcases serve_cases env request with ⟨response', hidle, hserve'⟩ | ⟨id, hm, ht, huser, hserve'⟩
  · obtain ⟨hresponse, -⟩ := Prod.mk.inj (hserve.symm.trans (hserve' w))
    obtain rfl := Except.ok.inj hresponse
    rw [eventOf_of_idle (hidle.imp_right fun h => by simp [h])] at hevent
    exact absurd hevent (by simp)
  rw [eventOf_of_accepts id hm ht hok] at hevent
  exact ⟨id, HandlerId.mem_handlers hevent, hm, ht, huser, hevent, (hserve' w).symm.trans hserve⟩

/-- The step lemma: on valid tables every request is answered, and the answer says what was
done. -/
theorem serve_effect (env : Env σ) {w : World σ} (hv : w.store.Valid env.db.schema)
    (request : Request) :
    ∃ response w', serve env w request = (.ok response, w') ∧
      Effect env w request response w' := by
  rcases serve_cases env request with ⟨response, hidle, hserve⟩ | ⟨id, hm, ht, -, hserve⟩
  · exact ⟨response, w, hserve w, .of_idle hidle⟩
  · obtain ⟨response, w', hrun, heffect⟩ := body_answers id hv hm ht
    exact ⟨response, w', (hserve w).trans hrun, heffect⟩

/-! ## Bodies of one statement -/

section OneStatement

/-- With a response of success the program has run one statement, and it did not fail by itself. -/
def RunsOneStatement (x : Svc σ Response) : Prop :=
  ∀ env w response w', x.run env w = (.ok response, w') → response.status < 400 →
    env.fault w.statements = none ∧ w'.statements = w.statements + 1

lemma RunsOneStatement.failed {response : Response} (h : 400 ≤ response.status) :
    RunsOneStatement (pure response : Svc σ Response) := by
  intro env w response' w' hrun hok
  obtain rfl := Except.ok.inj (Prod.mk.inj hrun).1
  omega

/-- What leaves the state alone may come before. -/
lemma RunsOneStatement.bind {α : Type} {y : Svc σ α} {f : α → Svc σ Response} (hy : Moves Eq y)
    (hf : ∀ a, RunsOneStatement (f a)) : RunsOneStatement (y >>= f) := by
  intro env w response w' hrun hok
  have hsame := hy env w
  rcases hrest : y.run env w with ⟨err | a, w₁⟩
  · exact absurd ((Prog.run_bind_error hrest).symm.trans hrun) (by simp)
  · rw [hrest] at hsame
    obtain rfl : w = w₁ := hsame
    exact hf a env w response w' ((Prog.run_bind_ok hrest).symm.trans hrun) hok

lemma RunsOneStatement.modify (query : Query) (params : List DbValue) (response : Response) :
    RunsOneStatement (do executeModify query params; pure response : Svc σ Response) := by
  intro env w response' w' hrun _
  rcases executeParams_cases env w query params with ⟨err, h, -⟩ | ⟨store, rows, hs, h⟩
  · exact absurd ((Prog.run_bind_error (Prog.run_bind_error h)).symm.trans hrun) (by simp)
  · obtain ⟨-, rfl⟩ := Prod.mk.inj ((Prog.run_bind_ok (Prog.run_bind_ok h)).symm.trans hrun)
    exact ⟨hs.1, rfl⟩

/-- A body that answers with success has not thrown. -/
lemma core_of_ok {env : Env σ} {w w' : World σ} {response : Response} {id : HandlerId}
    {core : Svc σ Response} {answer : Exn → Response}
    (hrun : (do enter id; tryCatch core fun e => pure (answer e) : Svc σ Response).run env w =
      (.ok response, w')) (hanswer : ∀ e, 400 ≤ (answer e).status) (hok : response.status < 400) :
    core.run env (w.entering id) = (.ok response, w') := by
  rcases hcore : core.run env (w.entering id) with ⟨err | response', w₁⟩
  · have hthrown := (Prog.run_tryCatch_error (h := fun e => pure (answer e)) hcore).symm.trans hrun
    have hstatus := hanswer err
    rw [Except.ok.inj (Prod.mk.inj hthrown).1] at hstatus
    omega
  · exact (Prog.run_tryCatch_ok (h := fun e => pure (answer e)) hcore).symm.trans hrun

lemma runsOneStatement_updatePrivacy (request : Request) (context : RouteContext) :
    RunsOneStatement (do
      let jsonBody ← parse request.body
      let profileVisibility ← convert (PrivacyHandler.visibility jsonBody "profile_visibility")
      let lastSeenVisibility ← convert (PrivacyHandler.visibility jsonBody "last_seen_visibility")
      let avatarVisibility ← convert (PrivacyHandler.visibility jsonBody "avatar_visibility")
      PrivacyRepository.update
        ⟨context.userID, profileVisibility, lastSeenVisibility, avatarVisibility⟩
      pure (jsonResponse 204 request.version []) : Svc σ Response) :=
  .bind (moves_parse _) fun _ => .bind (moves_convert _) fun _ => .bind (moves_convert _) fun _ =>
    .bind (moves_convert _) fun _ => .modify _ _ _

lemma runsOneStatement_putSettings (request : Request) (userID : Bytes) (chatID : Option Bytes) :
    RunsOneStatement (NotificationsHandler.putSettings request userID chatID : Svc σ Response) := by
  refine .bind (moves_parse _) fun _ => .bind (moves_convert _) fun _ =>
    .bind (moves_readMutedUntil _) fun mutedUntil => ?_
  rcases mutedUntil with _ | _ | mutedUntil
  · exact .failed (by simp)
  · exact .modify _ _ _
  · exact .modify _ _ _

end OneStatement

end ProfileService
