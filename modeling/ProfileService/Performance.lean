/-
# Every request does its task

The step lemma of the service.  On valid tables a request that succeeds does its task, one that
fails leaves the directory as it was, and a request whose task the directory lets through fails
only when a statement fails by itself.
-/
import ProfileService.Acceptance
import ProfileService.Answers
import ProfileService.AvatarObjects
import ProfileService.Chats

namespace ProfileService

open Bytes (str)

variable {σ : Type}

/-! ## Tasks -/

section Tasks

variable {d : Directory} {t : Task}

/-- A task that fails changes nothing. -/
lemma Task.next_of_status_eq_none (h : t.status d = none) : t.next d = d := by
  cases t with
  | refuse | look => rfl
  | answer => exact absurd h (by simp [Task.status])
  | make status event =>
    refine if_neg fun hadmits => ?_
    rw [Task.status, if_pos hadmits] at h
    exact absurd h (by simp)

/-- When a task that makes an event succeeds. -/
lemma Task.status_ofEvent {status n : ℕ} {e : Option Event}
    (h : (Task.ofEvent status e).status d = some n) :
    ∃ event, e = some event ∧ d.Admits event := by
  cases e with
  | none => exact absurd h (by simp [Task.ofEvent, Task.status])
  | some event =>
    refine ⟨event, rfl, ?_⟩
    by_contra hnot
    rw [Task.ofEvent, Task.status, if_neg hnot] at h
    exact absurd h (by simp)

end Tasks

/-- The request does the task: when it fails the directory is as before, when it succeeds the
status and the directory are those of the task, and while the statements do not fail by
themselves it succeeds if the task does. -/
structure Performs (env : Env σ) (w : World σ) (request : Request) (task : Task) : Prop where
  failed : ¬ Succeeded env w request →
    (serve env w request).2.store.directory = w.store.directory
  done : ∀ response w', serve env w request = (.ok response, w') → response.status < 400 →
    task.status w.store.directory = some response.status ∧
      w'.store.directory = task.next w.store.directory
  quiet : Quiet env w → ∀ n, task.status w.store.directory = some n → Succeeded env w request

section Outcome

variable {env : Env σ} {w : World σ} {request : Request} {task : Task}

lemma outcome_of_succeeded {response : Response} {w' : World σ}
    (hserve : serve env w request = (.ok response, w')) (hok : response.status < 400) :
    outcome (serve env w request).1 = some response.status := by
  rw [hserve]
  exact if_pos hok

lemma outcome_of_failed (h : ¬ Succeeded env w request) :
    outcome (serve env w request).1 = none := by
  rcases hserve : serve env w request with ⟨err | response, w'⟩
  · rfl
  · exact if_neg fun hok => h ⟨response, w', hserve, hok⟩

/-- What a client sees is the task done, or a failure. -/
lemma Performs.cases (h : Performs env w request task) :
    (outcome (serve env w request).1 = task.status w.store.directory ∧
      (serve env w request).2.store.directory = task.next w.store.directory) ∨
    (¬ Quiet env w ∧ outcome (serve env w request).1 = none ∧
      (serve env w request).2.store.directory = w.store.directory) := by
  by_cases hs : Succeeded env w request
  · obtain ⟨response, w', hserve, hok⟩ := hs
    obtain ⟨hstatus, hnext⟩ := h.done response w' hserve hok
    refine Or.inl ⟨(outcome_of_succeeded hserve hok).trans hstatus.symm, ?_⟩
    rw [hserve]
    exact hnext
  have hfailed := h.failed hs
  have hnone := outcome_of_failed hs
  rcases hstatus : task.status w.store.directory with _ | n
  · rw [Task.next_of_status_eq_none hstatus]
    exact Or.inl ⟨hnone, hfailed⟩
  · exact Or.inr ⟨fun hq => hs (h.quiet hq n hstatus), hnone, hfailed⟩

end Outcome

/-! ## The status of an answer -/

/-- A request that succeeds is answered with the status of its handler. -/
lemma status_of_succeeded {env : Env σ} {w w' : World σ} {request : Request} {id : HandlerId}
    {response : Response} (hm : request.method = id.method) (ht : id.Accepts request.target)
    (hu : id = .createProfile ∨ extractUserID request ≠ [])
    (hserve : serve env w request = (.ok response, w')) (hok : response.status < 400) :
    response.status = id.success := by
  rw [serve_eq_body hm ht hu] at hserve
  rcases (body_answers_shape env id request request.context).ok True.intro hserve with
    (⟨status, msg, hstatus, rfl, -⟩ | ⟨status, front, e, -, hstatus, rfl, -⟩) | ⟨hsuccess, -⟩
  · exact absurd hok (not_lt.mpr (by simpa using hstatus))
  · exact absurd hok (not_lt.mpr (by simpa using hstatus))
  · exact hsuccess

/-! ## Reads -/

section Reads

variable {env : Env σ} {w : World σ} {request : Request} {task : Task}

/-- A task that a read does. -/
lemma performs_read {id : HandlerId} (hm : request.method = id.method)
    (ht : id.Accepts request.target) (hu : extractUserID request ≠ []) (hread : id.IsRead)
    (hnext : task.next w.store.directory = w.store.directory)
    (hstatus : ∀ n, task.status w.store.directory = some n → n = 200)
    (hsound : Succeeded env w request → ∃ n, task.status w.store.directory = some n)
    (hquiet : Quiet env w → ∀ n, task.status w.store.directory = some n →
      Succeeded env w request) : Performs env w request task := by
  obtain ⟨response, w', hrun, hmove⟩ :=
    readBody_moves reads_steps hread request request.context env w
  have hserve := (serve_eq_body hm ht (Or.inr hu)).trans hrun
  have hstore : w'.store = w.store := hmove.store
  refine ⟨fun _ => by rw [hserve, hstore], fun response' w'' hserve' hok => ?_, hquiet⟩
  have hsuccess := status_of_succeeded hm ht (Or.inr hu) hserve' hok
  obtain ⟨-, rfl⟩ := Prod.mk.inj (hserve.symm.trans hserve')
  obtain ⟨n, hn⟩ := hsound ⟨response', _, hserve', hok⟩
  obtain rfl := hstatus n hn
  have h200 : id.success = 200 := by
    cases id <;> first | rfl | exact hread.elim
  rw [hn, hsuccess, h200, hnext, hstore]
  exact ⟨rfl, rfl⟩

/-- A request whose body prints what it reads succeeds when it reads something that prints. -/
lemma succeeded_iff_of_read {α : Type} {id : HandlerId} {x : Svc σ α} {f : α → Json}
    {answer : Exn → Response}
    (hserve : serve env w request = (do
      enter id
      tryCatch
        (do
          let a ← x
          dumpResponse 200 request (f a))
        fun e => pure (answer e) : Svc σ Response).run env w)
    (hanswer : ∀ e, 400 ≤ (answer e).status) :
    Succeeded env w request ↔
      ∃ a w', x.run env (w.entering id) = (.ok a, w') ∧ (f a).Utf8 := by
  constructor
  · rintro ⟨response, w', hresponse, hok⟩
    rw [hserve] at hresponse
    have hrun := core_of_ok hresponse hanswer hok
    rcases hx : x.run env (w.entering id) with ⟨err | a, w₁⟩
    · exact absurd ((Prog.run_bind_error hx).symm.trans hrun) (by simp)
    refine ⟨a, w₁, rfl, ?_⟩
    -- what does not print would have thrown
    by_contra hutf8
    obtain ⟨err, herr⟩ := env.json.dump_error hutf8
    have hdump : (dumpResponse 200 request (f a) : Svc σ Response).run env w₁ =
        (.error err, w₁) := by
      refine Prog.run_bind_error ?_
      simp only [Prog.run, dump, herr]
    exact absurd (((Prog.run_bind_ok hx).trans hdump).symm.trans hrun) (by simp)
  · rintro ⟨a, w', hx, hutf8⟩
    obtain ⟨text, -, hdump⟩ := run_dumpResponse env w' 200 request hutf8
    exact succeeded_of_run hserve ⟨_, w', (Prog.run_bind_ok hx).trans hdump, by simp⟩

/-! ### Profiles -/

/-- What a GET of a profile does. -/
lemma performs_look (hv : w.store.Valid env.db.schema) {id : HandlerId}
    (hm : request.method = id.method) (ht : id.Accepts request.target)
    (hu : extractUserID request ≠ []) (hread : id.IsRead) {u : Bytes}
    (hreads : ReadsProfile u request) :
    Performs env w request (lookTask env u) := by
  obtain ⟨id', hserve⟩ := serve_getProfile env w hreads
  have hiff := succeeded_iff_of_read hserve fun _ => by simp
  have hnext : (lookTask env u).next w.store.directory = w.store.directory := by
    rw [lookTask]
    cases env.db.idKey u <;> rfl
  -- the task succeeds when there is a row
  have hstatus : ∀ n, (lookTask env u).status w.store.directory = some n ↔
      n = 200 ∧ ∃ k, env.db.idKey u = some k ∧ w.store.HasProfile k := by
    intro n
    rw [lookTask]
    rcases env.db.idKey u with _ | k
    · simp [Task.status]
    · simp only [Option.elim, Task.status, Option.ite_none_right_eq_some, Option.some.injEq,
        exists_eq_left', Store.member_directory]
      tauto
  refine performs_read hm ht hu hread hnext (fun n h => ((hstatus n).mp h).1) (fun hs => ?_)
    fun hq n h => ?_
  · obtain ⟨profile, w', hget, -⟩ := hiff.mp hs
    obtain ⟨r, hr, hk, -⟩ := getByID_eq_ok hget
    exact ⟨200, (hstatus 200).mpr ⟨rfl, r.userId, hk, List.mem_map.mpr ⟨r, hr, rfl⟩⟩⟩
  · obtain ⟨-, k, hk, hprofile⟩ := (hstatus n).mp h
    obtain ⟨r, hr, rfl⟩ := List.mem_map.mp hprofile
    have hget := run_getByID (w := w.entering id') hq.first hk
      (Store.profile_of_mem hv.constraints hr)
    exact hiff.mpr ⟨_, _, hget, profileJson_utf8 hv hr env w⟩

/-- What a GET of the profile in the path does; a bare slash is refused. -/
lemma getProfileByID_performs (hv : w.store.Valid env.db.schema) (hm : request.method = .get)
    (ht : HandlerId.getProfileByID.Accepts request.target) (hu : extractUserID request ≠ []) :
    Performs env w request (if request.target.drop 1 = [] then .refuse
      else lookTask env (request.target.drop 1)) := by
  have hid : request.method = HandlerId.getProfileByID.method := hm
  split_ifs with hnone
  · refine performs_read hid ht hu True.intro rfl (fun n h => absurd h (by simp [Task.status]))
      (fun hs => ?_) fun _ n h => absurd h (by simp [Task.status])
    obtain ⟨response, w', hserve, hok⟩ := hs
    have hfind := Request.find_profile ht
    rw [if_pos hnone] at hfind
    rw [serve_eq_body hid ht (Or.inr hu)] at hserve
    simp only [HandlerId.body, ProfileHandler.handleGetProfileByID, hfind] at hserve
    rw [← Except.ok.inj (Prod.mk.inj hserve).1] at hok
    exact absurd hok (by simp)
  · obtain ⟨info, hinfo, hroute⟩ := resolveRoute_complete ht
    obtain ⟨rest, htarget⟩ := ht.1
    have hslash : request.target = str "/" ++ request.target.drop 1 := by
      rw [← htarget]
      rfl
    exact performs_look hv hid ht hu True.intro
      ⟨hm, hu, Or.inr ⟨hnone, hslash, info, hroute, hinfo⟩⟩

/-! ### Lists -/

/-- What comes after a `SELECT` for an id that the database refuses is not reached. -/
lemma run_unnamed {α : Type} {u : Bytes} (hk : env.db.idKey u = none) (query : Query)
    {f : Store → Bytes → Option (List Row)}
    (hwrite : query.write env.db [u] = none)
    (hrows : ∀ st, query.select env.db st [u] = (env.db.idKey u).bind (f st))
    {g : List Row → Svc σ α} (w : World σ) :
    ∃ err w', (executeSelect query [.string u] >>= g : Svc σ α).run env w = (.error err, w') := by
  obtain ⟨err, hrun⟩ := run_executeSelect_unread (w := w) query [.string u] hwrite fun _ =>
    (hrows w.store).trans (by rw [hk]; rfl)
  exact ⟨err, _, Prog.run_bind_error hrun⟩

/-- The values of a list print when those of its rows do. -/
lemma array_utf8 {ρ τ : Type} {IsOf : ρ → τ → Prop} {rows : List ρ} {items : List τ}
    {json : τ → Json} (hof : List.Forall₂ IsOf rows items)
    (hutf8 : ∀ r ∈ rows, ∀ item, IsOf r item → (json item).Utf8) :
    (Json.array (items.map json)).Utf8 := by
  rw [Json.Utf8, Json.utf8Items_iff, List.forall_mem_map]
  exact forall_of_forall₂ hof hutf8

/-- What a GET does that shows what there is to a user the database can name. -/
lemma performs_list {α : Type} {id : HandlerId} (hm : request.method = id.method)
    (ht : id.Accepts request.target) (hu : extractUserID request ≠ []) (hread : id.IsRead)
    {x : Svc σ α} {f : α → Json} {answer : Exn → Response}
    (hserve : serve env w request = (do
      enter id
      tryCatch
        (do
          let a ← x
          dumpResponse 200 request (f a))
        fun e => pure (answer e) : Svc σ Response).run env w)
    (hanswer : ∀ e, 400 ≤ (answer e).status)
    (hrefused : env.db.idKey (extractUserID request) = none →
      ∃ err w', x.run env (w.entering id) = (.error err, w'))
    (hok : Quiet env w → ∀ k, env.db.idKey (extractUserID request) = some k →
      ∃ a w', x.run env (w.entering id) = (.ok a, w') ∧ (f a).Utf8) :
    Performs env w request (listTask env request) := by
  have hiff := succeeded_iff_of_read hserve hanswer
  have htask : ∀ {n}, (listTask env request).status w.store.directory = some n ↔
      n = 200 ∧ ∃ k, env.db.idKey (extractUserID request) = some k := by
    intro n
    rw [listTask, comparedUser]
    rcases env.db.idKey (extractUserID request) with _ | k
    · simp [Task.status]
    · simp [Task.status, eq_comm]
  refine performs_read hm ht hu hread ?_ (fun n h => (htask.mp h).1) (fun hs => ?_) fun hq n h => ?_
  · rw [listTask]
    split <;> rfl
  · obtain ⟨a, w', hrun, -⟩ := hiff.mp hs
    rcases hk : env.db.idKey (extractUserID request) with _ | k
    · obtain ⟨err, w'', herror⟩ := hrefused hk
      exact absurd (hrun.symm.trans herror) (by simp)
    · exact ⟨200, htask.mpr ⟨rfl, k, hk⟩⟩
  · obtain ⟨-, k, hk⟩ := htask.mp h
    exact hiff.mpr (hok hq k hk)

lemma getContacts_performs (hv : w.store.Valid env.db.schema) (hm : request.method = .get)
    (ht : request.target = str "/contacts") (hu : extractUserID request ≠ []) :
    Performs env w request (listTask env request) := by
  have hid : request.method = HandlerId.getContacts.method := hm
  refine performs_list hid ht hu True.intro (serve_eq_body hid ht (Or.inr hu)) (fun _ => by simp)
    (fun hk => ?_) fun hq k hk => ?_
  · exact run_unnamed hk .listContacts rfl (fun _ => rfl) _
  · exact ⟨_, _, run_listContacts (w := w.entering .getContacts) hq.first hk,
      array_utf8 (forall₂_zipWith ContactRow.read_isOf (clockReadings_length _ _ _).symm)
        fun r hr contact h => contactJson_utf8 hv (Store.contactsOf_mem hr).1 h⟩

lemma getFavorites_performs (hv : w.store.Valid env.db.schema) (hm : request.method = .get)
    (ht : request.target = str "/favorites") (hu : extractUserID request ≠ []) :
    Performs env w request (listTask env request) := by
  have hid : request.method = HandlerId.getFavorites.method := hm
  refine performs_list hid ht hu True.intro (serve_eq_body hid ht (Or.inr hu)) (fun _ => by simp)
    (fun hk => ?_) fun hq k hk => ?_
  · exact run_unnamed hk .listFavorites rfl (fun _ => rfl) _
  · exact ⟨_, _, run_listFavorites (w := w.entering .getFavorites) hq.first hk,
      array_utf8 (forall₂_zipWith FavoriteRow.read_isOf (clockReadings_length _ _ _).symm)
        fun r hr fav h => favoriteJson_utf8 hv (Store.favoritesOf_mem hr).1 h⟩

lemma getPrivacy_performs (hv : w.store.Valid env.db.schema) (hm : request.method = .get)
    (ht : request.target = str "/me/privacy") (hu : extractUserID request ≠ []) :
    Performs env w request (listTask env request) := by
  have hid : request.method = HandlerId.getPrivacy.method := hm
  refine performs_list hid ht hu True.intro (serve_eq_body hid ht (Or.inr hu)) (fun _ => by simp)
    (fun hk => ?_) fun hq k hk => ?_
  · exact run_unnamed hk .getPrivacy rfl (fun _ => rfl) _
  · exact ⟨_, _, run_getPrivacy (w := w.entering .getPrivacy) hq.first hk,
      privacyJson_utf8 hv (Database.valid_of_compared hk) k⟩

/-! ### Settings -/

/-- The settings of a user that the database cannot name are not read. -/
lemma run_getGlobal_unnamed {u : Bytes} (hk : env.db.idKey u = none) (w : World σ) :
    ∃ err w', (NotificationRepository.get u none).run env w = (.error err, w') :=
  run_unnamed hk .getGlobalNotifications rfl (fun _ => rfl) w

lemma run_getChat_unnamed {u c : Bytes} (h : env.db.idKey u = none ∨ env.db.idKey c = none)
    (w : World σ) : ∃ err, (NotificationRepository.get u (some c)).run env w =
      (.error err, w.afterStatement w.store) := by
  obtain ⟨err, hrun⟩ := run_executeSelect_unread (w := w) .getChatNotifications
    [.string u, .string c] rfl fun _ => by
      refine Option.bind_eq_none_iff.mpr fun k hk => Option.bind_eq_none_iff.mpr fun c' hc => ?_
      rcases h with h | h
      · exact absurd (h.symm.trans hk) (by simp)
      · exact absurd (h.symm.trans hc) (by simp)
  exact ⟨err, Prog.run_bind_error hrun⟩

lemma getNotifications_performs (hv : w.store.Valid env.db.schema) (hm : request.method = .get)
    (ht : request.target = str "/notifications") (hu : extractUserID request ≠ []) :
    Performs env w request (listTask env request) := by
  have hid : request.method = HandlerId.getNotifications.method := hm
  refine performs_list hid ht hu True.intro (serve_eq_body hid ht (Or.inr hu)) (fun _ => by simp)
    (fun hk => run_getGlobal_unnamed hk _) fun hq k hk => ?_
  have hnone : ∀ s : Bytes, (none : Option Bytes) = some s → s.ValidUtf8 := by simp
  obtain ⟨h1, h2, h3⟩ := readSettings_utf8 hv (k := k) (c := none)
    (Database.valid_of_compared hk) hnone
  exact ⟨_, _, run_getGlobal_of_fault (w := w.entering .getNotifications) hq.first hk,
    globalJson_utf8 h1 h2 h3 (readSettings_mutedUntil _ _ _)⟩

/-- The settings that `GET /notifications/{chat_id}` reads: those of the chat, or the global ones
when the database cannot name the chat. -/
lemma readChat_ok (hv : w.store.Valid env.db.schema) (hq : Quiet env w) {u k : Bytes}
    (hk : env.db.idKey u = some k) {chat : Bytes} (hchat : chat.ValidUtf8) :
    ∃ settings w', (tryCatch (NotificationRepository.get u (some chat))
        fun _ => NotificationRepository.get u none : Svc σ NotificationSettings).run env
          (w.entering .getChatNotifications) = (.ok settings, w') ∧
      (NotificationsHandler.chatJson chat settings).Utf8 := by
  have huser := Database.valid_of_compared hk
  rcases hc : env.db.idKey chat with _ | c
  · have hnone : ∀ s : Bytes, (none : Option Bytes) = some s → s.ValidUtf8 := by simp
    obtain ⟨err, hrefused⟩ := run_getChat_unnamed (u := u) (Or.inr hc)
      (w.entering .getChatNotifications)
    obtain ⟨h1, h2, -⟩ := readSettings_utf8 hv (k := k) (c := none) huser hnone
    have hquiet : env.fault ((w.entering .getChatNotifications).afterStatement w.store).statements
        = none := hq.second
    have hget := run_getGlobal_of_fault hquiet hk
    exact ⟨_, _, (Prog.run_tryCatch_error hrefused).trans hget,
      (chatJson_utf8 h1 h2 (readSettings_mutedUntil _ _ _)).mpr hchat⟩
  · have hsome : ∀ s : Bytes, some chat = some s → s.ValidUtf8 := by
      intro s hs
      rw [← Option.some.inj hs]
      exact hchat
    obtain ⟨h1, h2, -⟩ := readSettings_utf8 hv (k := k) (c := some c) huser hsome
    have hget := run_getChat (w := w.entering .getChatNotifications) hq.first hk hc
    exact ⟨_, _, Prog.run_tryCatch_ok hget,
      (chatJson_utf8 h1 h2 (readSettings_mutedUntil _ _ _)).mpr hchat⟩

lemma getChatNotifications_performs (hv : w.store.Valid env.db.schema)
    (hm : request.method = .get) (ht : HandlerId.getChatNotifications.Accepts request.target)
    (hu : extractUserID request ≠ []) :
    Performs env w request (if Bytes.ValidUtf8 (request.target.drop 15) then
      listTask env request else .refuse) := by
  have hid : request.method = HandlerId.getChatNotifications.method := hm
  have hserve : serve env w request = _ := serve_getChat hm ht hu
  split_ifs with hchat
  · refine performs_list hid ht hu True.intro hserve (fun _ => by simp) (fun hk => ?_)
      fun hq k hk => readChat_ok hv hq hk hchat
    obtain ⟨err, hrefused⟩ := run_getChat_unnamed (c := request.target.drop 15) (Or.inl hk)
      (w.entering .getChatNotifications)
    obtain ⟨err', w', hglobal⟩ := run_getGlobal_unnamed hk
      ((w.entering .getChatNotifications).afterStatement w.store)
    exact ⟨err', w', (Prog.run_tryCatch_error hrefused).trans hglobal⟩
  · -- the answer would have to print the chat id
    refine performs_read hid ht hu True.intro rfl (fun n h => absurd h (by simp [Task.status]))
      (fun hs => ?_) fun _ n h => absurd h (by simp [Task.status])
    obtain ⟨settings, w', -, hutf8⟩ := (succeeded_iff_of_read hserve fun _ => by simp).mp hs
    refine absurd ?_ hchat
    have h := Json.member?_utf8 hutf8 (chatJson_chatId (request.target.drop 15) settings)
    rwa [Json.utf8_string] at h

end Reads

/-! ## Writes -/

section Writes

variable {env : Env σ} {w : World σ} {request : Request} {task : Task}

/-- A task that a write does, if it is the event of the body when the body succeeds. -/
lemma performs_write (hv : w.store.Valid env.db.schema) {id : HandlerId}
    (hm : request.method = id.method) (ht : id.Accepts request.target)
    (hu : id = .createProfile ∨ extractUserID request ≠ []) (hwrites : ¬ id.IsRead)
    (hsound : ∀ response w' event, serve env w request = (.ok response, w') →
      response.status < 400 → id.event env request response = some event →
      task = .make id.success event)
    (hquiet : Quiet env w → ∀ n, task.status w.store.directory = some n →
      Succeeded env w request) : Performs env w request task := by
  obtain ⟨response, w', hserve, heffect⟩ := serve_effect env hv request
  have hmethod : request.method ∈ [.post, .patch, .put, .delete] := by
    rw [hm]
    cases id <;> first | exact absurd True.intro hwrites | simp [HandlerId.method]
  refine ⟨fun hnot => ?_, fun response' w'' hserve' hok => ?_, hquiet⟩
  · rw [hserve]
    cases heffect with
    | unchanged _ hstore _ => rw [hstore]
    | written _ _ _ _ _ hevent =>
      have hlt := (status_of_event hevent).2
      exact absurd ⟨response, w', hserve, by omega⟩ hnot
  · obtain ⟨hresponse, rfl⟩ := Prod.mk.inj (hserve.symm.trans hserve')
    obtain rfl := Except.ok.inj hresponse
    cases heffect with
    | unchanged _ _ hidle =>
      rcases hidle with hfailed | hother
      · omega
      · exact absurd hmethod hother
    | written event wr n _ _ hevent hmakes _ hstore hc =>
      rw [eventOf_of_accepts id hm ht (status_of_event hevent)] at hevent
      obtain rfl := hsound response w' event hserve hok hevent
      have hadmits := Write.admits_of_constraints hv.constraints hmakes (hstore ▸ hc)
      rw [Task.status, if_pos hadmits, Task.next, if_pos hadmits, hstore,
        Write.directory_apply hv.constraints hmakes,
        status_of_succeeded hm ht hu hserve hok]
      exact ⟨rfl, rfl⟩

/-- A task to make the event that the body stands for, whatever it is answered. -/
lemma performs_event (hv : w.store.Valid env.db.schema) {id : HandlerId}
    (hm : request.method = id.method) (ht : id.Accepts request.target)
    (hu : id = .createProfile ∨ extractUserID request ≠ []) (hwrites : ¬ id.IsRead)
    {e : Option Event}
    (hevent : ∀ response, id.event env request response = e)
    (hquiet : Quiet env w → ∀ event, e = some event → w.store.directory.Admits event →
      Succeeded env w request) : Performs env w request (.ofEvent id.success e) := by
  refine performs_write hv hm ht hu hwrites (fun response w' event _ _ h => ?_) fun hq n h => ?_
  · obtain rfl := (hevent response).symm.trans h
    rfl
  · obtain ⟨event, he, hadmits⟩ := Task.status_ofEvent h
    exact hquiet hq event he hadmits

/-- The same for a body that refuses an empty text. -/
lemma performs_event_of_text (hv : w.store.Valid env.db.schema) {id : HandlerId}
    (hm : request.method = id.method) (ht : id.Accepts request.target)
    (hu : id = .createProfile ∨ extractUserID request ≠ []) (hwrites : ¬ id.IsRead)
    {e : Option Event} {key : String}
    (hevent : ∀ response, id.event env request response = e)
    (hempty : bodyText env request key = some [] → ¬ Succeeded env w request)
    (hquiet : Quiet env w → bodyText env request key ≠ some [] → ∀ event, e = some event →
      w.store.directory.Admits event → Succeeded env w request) :
    Performs env w request
      (if bodyText env request key = some [] then .refuse else .ofEvent id.success e) := by
  split_ifs with htext
  · refine performs_write hv hm ht hu hwrites (fun response w' event hserve hok _ => ?_)
      fun _ n h => absurd h (by simp [Task.status])
    exact absurd ⟨response, w', hserve, hok⟩ (hempty htext)
  · exact performs_event hv hm ht hu hwrites hevent fun hq => hquiet hq htext

/-- A body that reads an empty text under the key answers 400. -/
lemma not_succeeded_of_empty {id : HandlerId} {key : String} {rest : Json → Bytes → Svc σ Response}
    {answer : Exn → Response} {failed : Response} (hfailed : 400 ≤ failed.status)
    (hserve : serve env w request = (do
      enter id
      tryCatch
        (do
          let jsonBody ← parse request.body
          let text ← convert (value getString jsonBody (str key) [])
          if text = [] then pure failed else rest jsonBody text)
        fun e => pure (answer e) : Svc σ Response).run env w)
    (htext : bodyText env request key = some []) : ¬ Succeeded env w request := by
  obtain ⟨j, hj, hvalue⟩ := Option.bind_eq_some_iff.mp htext
  rintro ⟨response, w', hserve', hok⟩
  have hrun : (do
      let jsonBody ← parse request.body
      let text ← convert (value getString jsonBody (str key) [])
      if text = [] then pure failed else rest jsonBody text : Svc σ Response).run env
        (w.entering id) = (.ok failed, w.entering id) := by
    rw [Prog.run_bind_ok (run_parse _ hj), Prog.run_bind_ok (run_convert env _ hvalue),
      if_pos rfl]
    rfl
  have hserve400 := hserve.trans (Prog.run_tryCatch_ok (s := w.entering id) hrun)
  obtain ⟨hresponse, -⟩ := Prod.mk.inj (hserve'.symm.trans hserve400)
  rw [Except.ok.inj hresponse] at hok
  omega

end Writes

/-! ## Avatars -/

section Avatars

variable {env : Env σ} {w : World σ} {request : Request} {url : Bytes} {s' : σ}

/-- A request that fails and leaves the tables does nothing. -/
lemma performs_refuse (hnot : ¬ Succeeded env w request)
    (hstore : (serve env w request).2.store = w.store) : Performs env w request .refuse :=
  ⟨fun _ => by rw [hstore], fun response w' hserve hok => absurd ⟨response, w', hserve, hok⟩ hnot,
    fun _ n h => absurd h (by simp [Task.status])⟩

/-- A write that runs no statement fails. -/
lemma not_succeeded_of_idle (hv : w.store.Valid env.db.schema)
    (hm : request.method ∈ [.post, .patch, .put, .delete])
    (hidle : (serve env w request).2.statements = w.statements) : ¬ Succeeded env w request := by
  rintro ⟨response, w', hserve, hok⟩
  obtain ⟨response', w'', hserve', heffect⟩ := serve_effect env hv request
  obtain ⟨hresponse, rfl⟩ := Prod.mk.inj (hserve.symm.trans hserve')
  obtain rfl := Except.ok.inj hresponse
  rw [hserve] at hidle
  cases heffect with
  | unchanged _ _ hfailed =>
    rcases hfailed with hfailed | hother
    · omega
    · exact hother hm
  | written event wr n hle hlast =>
    simp only at hidle
    omega

/-- The event of an avatar with the address. -/
def avatarEvent (env : Env σ) (request : Request) (url : Bytes) : Option Event := do
  let avatarUrl ← env.db.stored .text url
  let user ← comparedUser env request
  some (.avatarSet user avatarUrl)

/-- What is left to do when the avatar storage has done its step. -/
lemma avatarWrite_performs (hv : w.store.Valid env.db.schema) {id : HandlerId}
    (hm : request.method = id.method) (ht : id.Accepts request.target)
    (hw : IsAvatarWrite request) (hu : extractUserID request ≠ [])
    (hstep : storageStep env w.storage request = some (url, s')) :
    Performs env w request (.ofEvent id.success (avatarEvent env request url)) ∧
      (serve env w request).2.storage = s' := by
  by_cases hfails : UpdateFails env w request url
  · obtain ⟨⟨response, w', hserve, hstatus⟩, hstorage, hstore⟩ :=
      avatarWrite_fails hw hu hstep hfails
    have hnot : ¬ Succeeded env w request := by
      rintro ⟨response', w'', hserve', hok⟩
      obtain ⟨hresponse, -⟩ := Prod.mk.inj (hserve.symm.trans hserve')
      rw [← Except.ok.inj hresponse] at hok
      omega
    refine ⟨⟨fun _ => by rw [hstore], fun response' w'' h hok => absurd ⟨_, _, h, hok⟩ hnot,
      fun hq n h => ?_⟩, hstorage⟩
    -- the task has an event, so the database takes its values
    obtain ⟨event, hevent, -⟩ := Task.status_ofEvent h
    obtain ⟨avatarUrl, hurl, hevent⟩ := Option.bind_eq_some_iff.mp hevent
    obtain ⟨user, huser, -⟩ := Option.bind_eq_some_iff.mp hevent
    rcases hfails with hfault | hrefused | hunnamed
    · exact absurd hq.first hfault
    · exact absurd (hrefused.symm.trans hurl) (by simp)
    · exact absurd (hunnamed.symm.trans huser) (by simp)
  · obtain ⟨⟨status, hlt, response, w', hserve, rfl⟩, hstorage, v, k, hurl, hk, hstore⟩ :=
      avatarWrite_done hv hw hu hstep hfails
    have hevent : avatarEvent env request url = some (.avatarSet k v) :=
      Option.bind_eq_some_iff.mpr ⟨v, hurl, Option.bind_eq_some_iff.mpr ⟨k, hk, rfl⟩⟩
    have hmakes : (Event.avatarSet k v).Makes w.store (.updateAvatarURL v k) := rfl
    have hs : Succeeded env w request := ⟨response, w', hserve, hlt⟩
    refine ⟨⟨fun hnot => absurd hs hnot, fun response' w'' hserve' hok => ?_, fun _ _ _ => hs⟩,
      hstorage⟩
    obtain ⟨-, rfl⟩ := Prod.mk.inj (hserve.symm.trans hserve')
    have hadmits : w.store.directory.Admits (.avatarSet k v) := True.intro
    rw [hserve'] at hstore
    rw [hevent, Task.ofEvent, Task.status, if_pos hadmits, Task.next, if_pos hadmits, hstore,
      Write.directory_apply hv.constraints hmakes,
      status_of_succeeded hm ht (Or.inr hu) hserve' hok]
    exact ⟨rfl, rfl⟩

/-- What an upload does. -/
lemma uploadAvatar_performs (hv : w.store.Valid env.db.schema) (hm : request.method = .post)
    (ht : request.target = str "/me/avatar") (hu : extractUserID request ≠ []) :
    Performs env w request (uploadTask env request w.storage).1 ∧
      (serve env w request).2.storage = (uploadTask env request w.storage).2 := by
  have hid : request.method = HandlerId.uploadAvatar.method := hm
  have hpost : request.method ∈ [.post, .patch, .put, .delete] := by simp [hm]
  rcases hinput : uploadInput env request with _ | ⟨data, contentType⟩
  · have hidle := uploadAvatar_refused (w := w) hm ht hu hinput
    have htask : uploadTask env request w.storage = (.refuse, w.storage) := by
      rw [uploadTask, hinput]
    rw [htask, hidle]
    refine ⟨performs_refuse (not_succeeded_of_idle hv hpost ?_) ?_, rfl⟩
    · rw [hidle]
      rfl
    · rw [hidle]
      rfl
  rcases hupload : env.avatarStorage.upload (extractUserID request) data contentType w.storage
    with ⟨err | url, s'⟩
  · have htask : uploadTask env request w.storage = (.refuse, s') := by
      rw [uploadTask, hinput]
      simp only [hupload]
      rfl
    have hrun : (ProfileHandler.upload (extractUserID request) data contentType :
        Svc σ Bytes).run env (w.entering .uploadAvatar) =
          (.error err, { w.entering .uploadAvatar with storage := s' }) := by
      simp only [ProfileHandler.upload, Prog.run, World.entering, hupload]
    have hserve : (serve env w request).2 = { w.entering .uploadAvatar with storage := s' } := by
      rw [uploadAvatar_reads hm ht hu hinput]
      exact congrArg Prod.snd (Prog.run_tryCatch_error (Prog.run_bind_error hrun))
    rw [htask, hserve]
    refine ⟨performs_refuse (not_succeeded_of_idle hv hpost ?_) ?_, rfl⟩
    · rw [hserve]
      rfl
    · rw [hserve]
      rfl
  · have hstep : storageStep env w.storage request = some (url, s') := by
      simp [storageStep, hm, hinput, hupload, Except.toOption]
    have htask : uploadTask env request w.storage =
        (.ofEvent HandlerId.uploadAvatar.success (avatarEvent env request url), s') := by
      rw [uploadTask, hinput]
      simp only [hupload]
      rfl
    rw [htask]
    exact avatarWrite_performs hv hid ht ⟨Or.inl hm, ht⟩ hu hstep

/-- What the deletion of an avatar does. -/
lemma deleteAvatar_performs (hv : w.store.Valid env.db.schema) (hm : request.method = .delete)
    (ht : request.target = str "/me/avatar") (hu : extractUserID request ≠ []) :
    Performs env w request (deleteTask env request w.storage).1 ∧
      (serve env w request).2.storage = (deleteTask env request w.storage).2 := by
  have hid : request.method = HandlerId.deleteAvatar.method := hm
  rcases hdelete : env.avatarStorage.delete (extractUserID request) w.storage with ⟨err | u, s'⟩
  · have htask : deleteTask env request w.storage = (.refuse, s') := by
      rw [deleteTask]
      simp only [hdelete]
      rfl
    have hrun : (ProfileHandler.deleteObject (extractUserID request) : Svc σ Unit).run env
        (w.entering .deleteAvatar) =
          (.error err, { w.entering .deleteAvatar with storage := s' }) := by
      simp only [ProfileHandler.deleteObject, Prog.run, World.entering, hdelete]
    have hserve : (serve env w request).2 = { w.entering .deleteAvatar with storage := s' } :=
      congrArg Prod.snd (answer_of_throw (serve_eq_body hid ht (Or.inr hu))
        (Prog.run_bind_error hrun))
    rw [htask, hserve]
    refine ⟨performs_refuse (not_succeeded_of_idle hv (by simp [hm]) ?_) ?_, rfl⟩
    · rw [hserve]
      rfl
    · rw [hserve]
      rfl
  · have hstep : storageStep env w.storage request = some ([], s') := by
      simp [storageStep, hm, hdelete, Except.toOption]
    have hevent : avatarEvent env request [] = avatarDeletedEvent env request := by
      rw [avatarEvent, env.db.stored_of_holds ColumnType.holds_nil_text]
      rfl
    have htask : deleteTask env request w.storage =
        (.ofEvent HandlerId.deleteAvatar.success (avatarEvent env request []), s') := by
      rw [deleteTask, hevent]
      simp only [hdelete]
      rfl
    rw [htask]
    exact avatarWrite_performs hv hid ht ⟨Or.inr hm, ht⟩ hu hstep

end Avatars

/-! ## The step of the server -/

section Step

variable (env : Env σ) {w : World σ} {request : Request}

/-- How a request is routed: it is a preflight, a handler gets it together with its task, or it is
refused and asks for nothing. -/
lemma taskOf_cases (request : Request) :
    (request.method = .options ∧ (∀ s, taskOf env request s = (.answer 204, s)) ∧
      ∃ response : Response, response.status = 204 ∧
        ∀ w : World σ, serve env w request = (.ok response, w)) ∨
    ((∀ s, taskOf env request s = (.refuse, s)) ∧
      ∃ response : Response, 400 ≤ response.status ∧
        ∀ w : World σ, serve env w request = (.ok response, w)) ∨
    ∃ id : HandlerId, request.method = id.method ∧ id.Accepts request.target ∧
      (id = .createProfile ∨ extractUserID request ≠ []) ∧
      ∀ s, taskOf env request s = id.task env request s := by
  by_cases hoptions : request.method = .options
  · refine Or.inl ⟨hoptions, fun s => if_pos hoptions, jsonResponse 204 request.version [], rfl,
      fun w => ?_⟩
    rw [serve, handle, if_pos hoptions]
    rfl
  by_cases hrouted : ∃ info, resolveRoute request.target request.method = some info ∧
      (info.id = .createProfile ∨ extractUserID request ≠ [])
  · obtain ⟨info, hroute, huser⟩ := hrouted
    obtain ⟨hm, ht, -⟩ := resolveRoute_sound hroute
    refine Or.inr (Or.inr ⟨info.id, hm, ht, huser, fun s => ?_⟩)
    rw [taskOf, if_neg hoptions, hroute]
    exact if_pos huser
  · refine Or.inr (Or.inl ⟨fun s => ?_, ?_⟩)
    · rw [taskOf, if_neg hoptions]
      rcases hroute : resolveRoute request.target request.method with _ | info
      · rfl
      · exact if_neg fun huser => hrouted ⟨info, hroute, huser⟩
    · rcases serve_cases env request with ⟨response, hidle, hserve⟩ | ⟨id, hm, ht, huser, -⟩
      · exact ⟨response, hidle.resolve_right hoptions, hserve⟩
      · -- a route would have been found
        obtain ⟨info, hid, hroute⟩ := resolveRoute_complete ht
        rw [← hm] at hroute
        exact absurd ⟨info, hroute, hid ▸ huser⟩ hrouted

/-- A handler does its task. -/
lemma handler_performs (hv : w.store.Valid env.db.schema) {id : HandlerId}
    (hm : request.method = id.method) (ht : id.Accepts request.target)
    (hu : id = .createProfile ∨ extractUserID request ≠ []) :
    Performs env w request (id.task env request w.storage).1 := by
  cases id with
  | createProfile =>
    refine performs_event_of_text hv hm ht hu not_false (fun _ => rfl) ?_ fun hq htext event he _ =>
      createProfile_succeeds hq hv hm ht htext he
    exact not_succeeded_of_empty (by simp) (serve_eq_body hm ht hu)
  | getMyProfile =>
    have huser := hu.resolve_left (by simp)
    exact performs_look hv hm ht huser True.intro ⟨hm, huser, Or.inl ⟨ht, rfl⟩⟩
  | getProfileByID =>
    exact getProfileByID_performs hv hm ht (hu.resolve_left (by simp))
  | updateProfile =>
    have huser := hu.resolve_left (by simp)
    exact performs_event hv hm ht hu not_false (fun _ => rfl) fun hq event he hadmits =>
      patch_succeeds hq hv hm ht huser he hadmits
  | uploadAvatar => exact (uploadAvatar_performs hv hm ht (hu.resolve_left (by simp))).1
  | deleteAvatar => exact (deleteAvatar_performs hv hm ht (hu.resolve_left (by simp))).1
  | getContacts => exact getContacts_performs hv hm ht (hu.resolve_left (by simp))
  | getPrivacy => exact getPrivacy_performs hv hm ht (hu.resolve_left (by simp))
  | getFavorites => exact getFavorites_performs hv hm ht (hu.resolve_left (by simp))
  | getNotifications => exact getNotifications_performs hv hm ht (hu.resolve_left (by simp))
  | getChatNotifications =>
    exact getChatNotifications_performs hv hm ht (hu.resolve_left (by simp))
  | addContact =>
    have huser := hu.resolve_left (by simp)
    refine performs_event_of_text hv hm ht hu not_false (fun _ => rfl) ?_
      fun hq htext event he hadmits => addContact_succeeds hq hv hm ht huser htext he hadmits
    exact not_succeeded_of_empty (by simp) (serve_eq_body hm ht hu)
  | deleteContact =>
    have huser := hu.resolve_left (by simp)
    exact performs_event hv hm ht hu not_false (fun _ => rfl) fun hq event he hadmits =>
      deleteContact_succeeds hq hv hm ht huser he hadmits
  | updatePrivacy =>
    have huser := hu.resolve_left (by simp)
    exact performs_event hv hm ht hu not_false (fun _ => rfl) fun hq event he hadmits =>
      updatePrivacy_succeeds hq hv hm ht huser he hadmits
  | addFavorite =>
    have huser := hu.resolve_left (by simp)
    exact performs_event hv hm ht hu not_false (fun _ => rfl) fun hq event he hadmits =>
      addFavorite_succeeds hq hv hm ht huser he hadmits
  | removeFavorite =>
    have huser := hu.resolve_left (by simp)
    exact performs_event hv hm ht hu not_false (fun _ => rfl) fun hq event he hadmits =>
      removeFavorite_succeeds hq hv hm ht huser he hadmits
  | updateNotifications =>
    have huser := hu.resolve_left (by simp)
    have hput : PutsSettings request none := ⟨hm, Or.inl ⟨ht, rfl⟩⟩
    exact performs_event hv hm ht hu not_false (fun _ => rfl) fun hq event he hadmits =>
      putSettings_succeeds hq hv hput huser he hadmits
  | updateChatNotifications =>
    have huser := hu.resolve_left (by simp)
    have hput : PutsSettings request (some (request.target.drop 15)) := ⟨hm, Or.inr ⟨ht, rfl⟩⟩
    exact performs_event hv hm ht hu not_false (fun _ => rfl) fun hq event he hadmits =>
      putSettings_succeeds hq hv hput huser he hadmits

/-- A handler leaves the avatar storage that its task says. -/
lemma handler_storage (hv : w.store.Valid env.db.schema) {id : HandlerId}
    (hm : request.method = id.method) (ht : id.Accepts request.target)
    (hu : id = .createProfile ∨ extractUserID request ≠ []) :
    (serve env w request).2.storage = (id.task env request w.storage).2 := by
  by_cases hupload : id = .uploadAvatar
  · subst hupload
    exact (uploadAvatar_performs hv hm ht (hu.resolve_left (by simp))).2
  by_cases hdelete : id = .deleteAvatar
  · subst hdelete
    exact (deleteAvatar_performs hv hm ht (hu.resolve_left (by simp))).2
  -- no other body asks the storage
  have htask : (id.task env request w.storage).2 = w.storage := by
    cases id with
    | uploadAvatar => exact absurd rfl hupload
    | deleteAvatar => exact absurd rfl hdelete
    | createProfile | getMyProfile | getProfileByID | updateProfile | getContacts | addContact
    | deleteContact | getPrivacy | updatePrivacy | getFavorites | addFavorite | removeFavorite
    | getNotifications | getChatNotifications | updateNotifications
    | updateChatNotifications => rfl
  obtain ⟨response, w', hrun, hstorage⟩ := body_moves keepsStorage_steps
    (fun h => absurd h hupload) (fun h => absurd h hdelete) request request.context env w
  rw [serve_eq_body hm ht hu, hrun, htask]
  exact hstorage

/-- The step lemma: on valid tables every request does its task, and leaves the avatar storage
that the task says. -/
theorem serve_performs (hv : w.store.Valid env.db.schema) (request : Request) :
    Performs env w request (taskOf env request w.storage).1 ∧
      (serve env w request).2.storage = (taskOf env request w.storage).2 := by
  rcases taskOf_cases env request with ⟨-, htask, response, hstatus, hserve⟩ |
    ⟨htask, response, hstatus, hserve⟩ | ⟨id, hm, ht, hu, htask⟩
  · rw [htask]
    have hok : response.status < 400 := by omega
    refine ⟨⟨fun _ => by rw [hserve], fun response' w' hserve' _ => ?_, fun _ _ _ =>
      ⟨response, w, hserve w, hok⟩⟩, by rw [hserve]⟩
    obtain ⟨hresponse, rfl⟩ := Prod.mk.inj ((hserve w).symm.trans hserve')
    obtain rfl := Except.ok.inj hresponse
    exact ⟨congrArg some hstatus.symm, rfl⟩
  · rw [htask]
    refine ⟨performs_refuse ?_ (by rw [hserve]), by rw [hserve]⟩
    rintro ⟨response', w', hserve', hok⟩
    obtain ⟨hresponse, -⟩ := Prod.mk.inj ((hserve w).symm.trans hserve')
    obtain rfl := Except.ok.inj hresponse
    omega
  · rw [htask]
    exact ⟨handler_performs env hv hm ht hu, handler_storage env hv hm ht hu⟩

end Step

end ProfileService
