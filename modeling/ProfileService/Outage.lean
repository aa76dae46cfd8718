/-
# The database is down

The service has one connection, which is never made again: once it is lost every statement throws.
From then on no table changes, and every request that reaches a handler is answered with one of
the failures of the handler, but avatars are still put into the avatar storage and taken out of it.
-/
import ProfileService.Lib.Triple
import ProfileService.Performance
import ProfileService.PostgresConnection

namespace ProfileService

open Bytes (str)
open Prog (Triple)

variable {σ : Type}

/-- From the statement with the number on, every statement fails by itself. -/
def Env.DownFrom (env : Env σ) (k : ℕ) : Prop := ∀ n, k ≤ n → (env.fault n).isSome

/-- The statuses of the answers of a handler that runs no statement to its end. -/
def HandlerId.failures : HandlerId → List ℕ
  | .createProfile | .uploadAvatar => [400, 500]
  | .getProfileByID => [400, 404]
  | .getMyProfile | .getContacts | .deleteContact => [404]
  -- an exception of the parser may read like the one for a taken username
  | .updateProfile => [409, 500]
  | .addContact => [400, 409]
  | .deleteAvatar | .getPrivacy | .updatePrivacy | .getFavorites | .addFavorite | .removeFavorite
  | .getNotifications | .getChatNotifications => [500]
  | .updateNotifications | .updateChatNotifications => [400]

/-- The answer to a request while the database is down: what it always is, when the request
reaches no handler, or a failure. -/
inductive OutageAnswer (σ : Type) (request : Request) (response : Response) : Prop
  | unhandled (idle : 400 ≤ response.status ∨ request.method = .options)
      (always : ∀ (env : Env σ) (w : World σ), serve env w request = (.ok response, w))
  | failed (id : HandlerId) (method : request.method = id.method)
      (accepts : id.Accepts request.target) (status : response.status ∈ id.failures)

/-! ## Programs while the database is down -/

/-- The database is down, and the tables are these. -/
structure IsDown (k : ℕ) (store : Store) (w : World σ) : Prop where
  reached : k ≤ w.statements
  unchanged : w.store = store

section Programs

variable {env : Env σ} {k : ℕ} {store : Store} {α : Type} {request : Request}

variable (env k store) in
/-- The program never returns. -/
def NeverReturns (x : Svc σ α) : Prop :=
  Triple env (IsDown k store) x (fun _ _ => False) fun _ => IsDown k store

variable (env k store) in
/-- The program changes no table. -/
def Idles (x : Svc σ α) : Prop :=
  Triple env (IsDown k store) x (fun _ => IsDown k store) fun _ => IsDown k store

variable (env k store) in
/-- When the program answers it answers with one of the statuses. -/
def Reports (statuses : List ℕ) (x : Svc σ Response) : Prop :=
  Triple env (IsDown k store) x
    (fun response w => response.status ∈ statuses ∧ IsDown k store w) fun _ => IsDown k store

lemma executeParams_never (hdown : env.DownFrom k) (query : Query) (params : List DbValue) :
    NeverReturns env k store (executeParams query params) := by
  intro w hw
  obtain ⟨err, herr⟩ := Option.isSome_iff_exists.mp (hdown w.statements hw.reached)
  have hrun : (executeParams query params).run env w =
      (.error err, { w with statements := w.statements + 1 }) := by
    simp only [Prog.run, executeParams, herr]
  rw [hrun]
  refine ⟨fun a w' heq => absurd (Prod.mk.inj heq).1 (by simp), fun err' w' heq => ?_⟩
  obtain ⟨-, rfl⟩ := Prod.mk.inj heq
  exact ⟨hw.reached.trans (Nat.le_succ _), hw.unchanged⟩

lemma executeModify_never (hdown : env.DownFrom k) (query : Query) (params : List DbValue) :
    NeverReturns env k store (executeModify query params) :=
  (executeParams_never hdown query params).bind_throws

lemma getNotifications_never (hdown : env.DownFrom k) (userId : Bytes) (chatId : Option Bytes) :
    NeverReturns env k store (NotificationRepository.get userId chatId) := by
  cases chatId with
  | none => exact (executeParams_never hdown _ _).bind_throws
  | some chatId => exact (executeParams_never hdown _ _).bind_throws

lemma upsert_never (hdown : env.DownFrom k) (settings : NotificationSettings) :
    NeverReturns env k store (NotificationRepository.upsert settings) := by
  unfold NotificationRepository.upsert
  cases settings.mutedUntil with
  | none => exact executeModify_never hdown _ _
  | some mutedUntil => exact executeModify_never hdown _ _

lemma parse_idles (text : Bytes) : Idles env k store (parse text) :=
  .of_moves_eq (moves_parse text)

lemma convert_idles (x : Except Exn α) : Idles env k store (convert x) :=
  .of_moves_eq (moves_convert x)

lemma upload_idles (userId : Bytes) (data : List UInt8) (contentType : Bytes) :
    Idles env k store (ProfileHandler.upload userId data contentType) := fun _ hw =>
  ⟨fun _ _ hrun => (Prod.mk.inj hrun).2 ▸ ⟨hw.reached, hw.unchanged⟩,
    fun _ _ hrun => (Prod.mk.inj hrun).2 ▸ ⟨hw.reached, hw.unchanged⟩⟩

lemma deleteObject_idles (userId : Bytes) :
    Idles env k store (ProfileHandler.deleteObject userId) := fun _ hw =>
  ⟨fun _ _ hrun => (Prod.mk.inj hrun).2 ▸ ⟨hw.reached, hw.unchanged⟩,
    fun _ _ hrun => (Prod.mk.inj hrun).2 ▸ ⟨hw.reached, hw.unchanged⟩⟩

lemma Reports.answer {statuses : List ℕ} {response : Response}
    (h : response.status ∈ statuses) : Reports env k store statuses (pure response) :=
  .pure fun _ hw => ⟨h, hw⟩

variable (env k store) in
/-- The program answers, with one of the statuses. -/
def Concludes (statuses : List ℕ) (x : Svc σ Response) : Prop :=
  Triple env (IsDown k store) x
    (fun response w => response.status ∈ statuses ∧ IsDown k store w) fun _ _ => False

/-- The frame of every body. -/
lemma Concludes.body {statuses : List ℕ} (id : HandlerId) {core : Svc σ Response}
    {answer : Exn → Response} (hcore : Reports env k store statuses core)
    (hanswer : ∀ e, (answer e).status ∈ statuses) :
    Concludes env k store statuses (do enter id; tryCatch core fun e => pure (answer e)) :=
  Triple.bind (.modify fun _ hw => ⟨hw.reached, hw.unchanged⟩) fun _ =>
    hcore.tryCatch fun e => .pure fun _ hw => ⟨hanswer e, hw⟩

lemma putSettings_reports (hdown : env.DownFrom k) (userId : Bytes) (chatId : Option Bytes) :
    Reports env k store [400] (NotificationsHandler.putSettings request userId chatId) := by
  refine (parse_idles _).bind fun j => (convert_idles _).bind fun muted => ?_
  refine Triple.bind (.of_moves_eq (moves_readMutedUntil j)) fun mutedUntil => ?_
  cases mutedUntil with
  | none => exact Reports.answer (by simp)
  | some mutedUntil => exact (upsert_never hdown _).bind_throws

/-- A body answers with one of its failures. -/
lemma body_concludes (hdown : env.DownFrom k) {id : HandlerId} (ht : id.Accepts request.target) :
    Concludes env k store id.failures (id.body request request.context) := by
  cases id with
  | createProfile =>
    refine .body _ ((parse_idles _).bind fun j => (convert_idles _).bind fun userId => ?_)
      fun e => by simp [HandlerId.failures]
    refine .ite (fun _ => Reports.answer (by simp [HandlerId.failures])) fun _ => ?_
    exact (executeParams_never hdown _ _).bind_throws.bind_throws
  | getMyProfile =>
    exact .body _ (executeParams_never hdown _ _).bind_throws.bind_throws
      fun e => by simp [HandlerId.failures]
  | getProfileByID =>
    refine .body _ ?_ fun e => by simp [HandlerId.failures]
    split
    · exact Reports.answer (by simp [HandlerId.failures])
    · exact (executeParams_never hdown _ _).bind_throws.bind_throws
  | updateProfile =>
    refine .body _ ((parse_idles _).bind fun j =>
      (executeParams_never hdown _ _).bind_throws.bind_throws) fun e => ?_
    unfold ProfileHandler.updateFailed
    split <;> simp [HandlerId.failures]
  | uploadAvatar =>
    refine .body _ ((parse_idles _).bind fun j => ?_) fun e => by simp [HandlerId.failures]
    split
    · exact Reports.answer (by simp [HandlerId.failures])
    · refine (convert_idles _).bind fun text => (convert_idles _).bind fun contentType => ?_
      refine .ite (fun _ => Reports.answer (by simp [HandlerId.failures])) fun _ => ?_
      exact (upload_idles _ _ _).bind fun url => (executeModify_never hdown _ _).bind_throws
  | deleteAvatar =>
    exact .body _ ((deleteObject_idles _).bind fun _ => (executeModify_never hdown _ _).bind_throws)
      fun e => by simp [HandlerId.failures]
  | getContacts | getPrivacy | getFavorites =>
    exact .body _ (executeParams_never hdown _ _).bind_throws.bind_throws
      fun e => by simp [HandlerId.failures]
  | addContact =>
    refine .body _ ((parse_idles _).bind fun j => (convert_idles _).bind fun contactId => ?_)
      fun e => by simp [HandlerId.failures]
    refine .ite (fun _ => Reports.answer (by simp [HandlerId.failures])) fun _ => ?_
    exact (convert_idles _).bind fun contactAlias => (executeModify_never hdown _ _).bind_throws
  | deleteContact =>
    refine .body _ ?_ fun e => by simp [HandlerId.failures]
    rw [Request.find_contact ht]
    exact (executeModify_never hdown _ _).bind_throws
  | updatePrivacy =>
    exact .body _ ((parse_idles _).bind fun j => (convert_idles _).bind fun profileVisibility =>
      (convert_idles _).bind fun lastSeenVisibility =>
        (convert_idles _).bind fun avatarVisibility => (executeModify_never hdown _ _).bind_throws)
      fun e => by simp [HandlerId.failures]
  | addFavorite | removeFavorite =>
    refine .body _ ?_ fun e => by simp [HandlerId.failures]
    rw [Request.find_favorite ht]
    exact (executeModify_never hdown _ _).bind_throws
  | getNotifications =>
    exact .body _ (getNotifications_never hdown _ _).bind_throws
      fun e => by simp [HandlerId.failures]
  | getChatNotifications =>
    refine .body _ ?_ fun e => by simp [HandlerId.failures]
    rw [Request.find_notifications ht]
    refine Triple.bind_throws ?_
    exact (getNotifications_never hdown _ _).tryCatch fun e => getNotifications_never hdown _ _
  | updateNotifications =>
    exact .body _ (putSettings_reports hdown _ _) fun e => by simp [HandlerId.failures]
  | updateChatNotifications =>
    refine .body _ ?_ fun e => by simp [HandlerId.failures]
    rw [Request.find_notifications ht]
    exact putSettings_reports hdown _ _

end Programs

/-! ## The service while the database is down -/

section Outage

variable {env : Env σ} {k : ℕ} {store : Store} {w : World σ}

/-- A request while the database is down. -/
lemma serve_down (hdown : env.DownFrom k) (hw : IsDown k store w) (request : Request) :
    ∃ response w', serve env w request = (.ok response, w') ∧ IsDown k store w' ∧
      OutageAnswer σ request response := by
  rcases serve_uniform request with ⟨response, hidle, hserve⟩ | ⟨id, hm, ht, -, hserve⟩
  · exact ⟨response, w, hserve env w, hw, .unhandled hidle hserve⟩
  · rcases hrun : serve env w request with ⟨err | response, w'⟩
    · rw [hserve] at hrun
      exact ((body_concludes hdown ht).error hw hrun).elim
    · have hbody := (hserve env w).symm.trans hrun
      obtain ⟨hstatus, hw'⟩ := (body_concludes hdown ht).ok hw hbody
      exact ⟨response, w', rfl, hw', .failed id hm ht hstatus⟩

/-- The database stays down. -/
lemma run_down (hdown : env.DownFrom k) (hw : IsDown k store w) (requests : List Request) :
    IsDown k store (Mealy.run (serve env) w requests) := by
  refine Mealy.invariant_run (IsDown k store) (fun w request hw => ?_) hw requests
  obtain ⟨response, w', hserve, hw', -⟩ := serve_down hdown hw request
  rw [hserve]
  exact hw'

lemma trace_down (hdown : env.DownFrom k) (hw : IsDown k store w) (requests : List Request) :
    ∀ e ∈ Mealy.trace (serve env) w requests,
      ∃ response, e.2 = .ok response ∧ OutageAnswer σ e.1 response := by
  induction requests generalizing w with
  | nil => simp
  | cons request requests ih =>
    obtain ⟨response, w', hserve, hw', hanswer⟩ := serve_down hdown hw request
    intro e he
    rcases List.mem_cons.mp he with rfl | he
    · exact ⟨response, by rw [hserve], hanswer⟩
    · rw [hserve] at he
      exact ih hw' e he

end Outage

/-- The avatar storage is asked for what the requests ask for, whatever becomes of the
statements. -/
lemma after_storage (env : Env σ) (storage : σ) (before requests : List Request) :
    (after env storage (before ++ requests)).storage =
      requests.foldl (fun s request => (taskOf env request s).2)
        (after env storage before).storage := by
  induction requests using List.reverseRecOn with
  | nil => simp
  | append_singleton requests request ih =>
    have hv := after_valid env storage (before ++ requests)
    rw [← List.append_assoc, after, Mealy.run_concat, List.foldl_append, ← ih]
    exact (serve_performs env hv request).2

/-- From when the database is down, whatever requests come: the tables stay as they are, every
request that reaches a handler is answered with a failure, and what reaches none is answered as
ever.  The avatar storage is asked for what the requests ask for all the same. -/
theorem outage (env : Env σ) (storage : σ) (before during : List Request)
    (hdown : env.DownFrom (after env storage before).statements) :
    (after env storage (before ++ during)).store = (after env storage before).store ∧
    (after env storage (before ++ during)).storage =
      during.foldl (fun s request => (taskOf env request s).2) (after env storage before).storage ∧
    ∀ e ∈ Mealy.trace (serve env) (after env storage before) during,
      ∃ response, e.2 = .ok response ∧ OutageAnswer σ e.1 response := by
  have hstart : IsDown (after env storage before).statements (after env storage before).store
      (after env storage before) := ⟨le_rfl, rfl⟩
  refine ⟨?_, after_storage env storage before during, trace_down hdown hstart during⟩
  rw [after, Mealy.run_append]
  exact (run_down hdown hstart during).unchanged

/-- The connection is lost after the first statement. -/
def outageEnv : Env Unit :=
  (Env.standalone .migrations).withTape fun n => (if n = 0 then none else some notOpen, notOpen)

/-- The profile of alice is there, and no request for it succeeds. -/
theorem outage_alice :
    (after outageEnv () (aliceRun ++ aliceRun)).store = (after outageEnv () aliceRun).store ∧
    (after outageEnv () aliceRun).store.profiles.length = 1 ∧
    ∀ e ∈ Mealy.trace (serve outageEnv) (after outageEnv () aliceRun) aliceRun,
      ∃ response, e.2 = .ok response ∧ OutageAnswer Unit e.1 response := by
  have hstatements : (after outageEnv () aliceRun).statements = 1 := by decide +kernel
  have hdown : outageEnv.DownFrom (after outageEnv () aliceRun).statements := by
    intro n hn
    have hne : n ≠ 0 := by omega
    simp [outageEnv, Env.withTape, hne]
  obtain ⟨hstore, -, hanswers⟩ := outage outageEnv () aliceRun aliceRun hdown
  exact ⟨hstore, by decide +kernel, hanswers⟩

end ProfileService
