/-
# The answers as documents

Whatever a request is and whatever fails, the answer is an error object with its message, or the
text of an exception is in it, or its body is what the API of the handler promises: nothing, a
record or a list of records.
-/
import ProfileService.Errors
import ProfileService.Lib.JsonRecords
import ProfileService.Lib.Triple
import ProfileService.Specification

namespace ProfileService

open Bytes (str)
open JsonText (Plain)
open Prog (Triple)

variable {σ : Type}

/-! ## Records of the API -/

/-- A field of the API. -/
def field (name : String) (kind : Json.Kind) : Bytes × Json.Kind := (str name, kind)

/-- The fields of a record that are texts. -/
def texts (names : List String) : List (Bytes × Json.Kind) :=
  names.map fun name => field name .string

/-- What the answer to a profile that is created says. -/
def createdRecord : Json.Record where
  required := texts ["user_id"] ++ [field "created_at" .integer, field "updated_at" .integer]
  optional := []
  nodup := by decide

/-- What the answer to a patch says. -/
def cardRecord : Json.Record where
  required := texts ["user_id", "first_name", "last_name", "username", "bio", "avatar_url"]
  optional := []
  nodup := by decide

/-- A profile. -/
def profileRecord : Json.Record where
  required := cardRecord.required ++ [field "created_at" .integer, field "updated_at" .integer]
  optional := []
  nodup := by decide

/-- What the answer to an upload says. -/
def avatarRecord : Json.Record where
  required := texts ["user_id", "avatar_url"]
  optional := []
  nodup := by decide

/-- What the answer to a contact that is added says. -/
def addedRecord : Json.Record where
  required := texts ["owner_id", "contact_id", "alias"]
  optional := []
  nodup := by decide

/-- A contact. -/
def contactRecord : Json.Record where
  required := addedRecord.required ++ [field "created_at" .integer]
  optional := []
  nodup := by decide

/-- The privacy settings. -/
def privacyRecord : Json.Record where
  required :=
    texts ["user_id", "profile_visibility", "last_seen_visibility", "avatar_visibility"]
  optional := []
  nodup := by decide

/-- A favourite. -/
def favoriteRecord : Json.Record where
  required := texts ["user_id", "chat_id"] ++ [field "created_at" .integer]
  optional := []
  nodup := by decide

/-- The global settings. -/
def globalRecord : Json.Record where
  required := texts ["id", "user_id"] ++ [field "muted" .bool]
  optional := [field "mutedUntil" .integer, field "chat_id" .string]
  nodup := by decide

/-- The settings of a chat. -/
def chatRecord : Json.Record where
  required := texts ["id", "user_id", "chat_id"] ++ [field "muted" .bool]
  optional := [field "mutedUntil" .integer]
  nodup := by decide

/-- What the body of a success of the handler holds, `none` when it is empty. -/
def HandlerId.shape : HandlerId → Option Json.Shape
  | .createProfile => some (.record createdRecord)
  | .getMyProfile | .getProfileByID => some (.record profileRecord)
  | .updateProfile => some (.record cardRecord)
  | .uploadAvatar => some (.record avatarRecord)
  | .getContacts => some (.list contactRecord)
  | .addContact => some (.record addedRecord)
  | .getPrivacy => some (.record privacyRecord)
  | .getFavorites => some (.list favoriteRecord)
  | .getNotifications => some (.record globalRecord)
  | .getChatNotifications => some (.record chatRecord)
  | .deleteAvatar | .deleteContact | .addFavorite | .removeFavorite | .updatePrivacy
  | .updateNotifications | .updateChatNotifications => none

/-! ## What the handlers print -/

/-- A value of the shape, as the printer takes it. -/
structure Prints (shape : Json.Shape) (j : Json) : Prop where
  fits : shape.Fits j
  sorted : j.Sorted

lemma prints_record {record : Json.Record} {ms : List (Bytes × Json)}
    (extra : List (Bytes × Json.Kind))
    (hkinds : ms.map (Prod.map id Json.kind?) =
      (record.required ++ extra).map (Prod.map id some))
    (hextra : extra ⊆ record.optional) : Prints (.record record) (.ofMembers ms) :=
  ⟨Json.isRecord_ofMembers hkinds hextra, Json.ofMembers_sorted_of_kinds hkinds⟩

lemma prints_list {α : Type} {record : Json.Record} {f : α → Json} (items : List α)
    (h : ∀ a, Prints (.record record) (f a)) : Prints (.list record) (.array (items.map f)) := by
  refine ⟨⟨_, rfl, fun j hj => ?_⟩, ?_⟩
  · obtain ⟨a, -, rfl⟩ := List.mem_map.mp hj
    exact (h a).fits
  · rw [Json.Sorted, Json.sortedItems_iff]
    intro j hj
    obtain ⟨a, -, rfl⟩ := List.mem_map.mp hj
    exact (h a).sorted

lemma profileJson_prints (profile : Profile) :
    Prints (.record profileRecord) (ProfileHandler.profileJson profile) :=
  prints_record [] rfl (by simp)

lemma globalJson_prints (settings : NotificationSettings) :
    Prints (.record globalRecord) (NotificationsHandler.globalJson settings) := by
  rcases settings with ⟨id, userID, _ | chatID, muted, _ | mutedUntil⟩
  · exact prints_record [] rfl (by simp)
  · exact prints_record [field "mutedUntil" .integer] rfl (by simp [globalRecord])
  · exact prints_record [field "chat_id" .string] rfl (by simp [globalRecord])
  · exact prints_record [field "mutedUntil" .integer, field "chat_id" .string] rfl
      (by simp [globalRecord])

lemma chatJson_prints (chatId : Bytes) (settings : NotificationSettings) :
    Prints (.record chatRecord) (NotificationsHandler.chatJson chatId settings) := by
  rcases settings with ⟨id, userID, chatID, muted, _ | mutedUntil⟩
  · exact prints_record [] rfl (by simp)
  · exact prints_record [field "mutedUntil" .integer] rfl (by simp [chatRecord])

/-! ## What the handlers answer -/

/-- The answer is an error, and it reads as the error object with its message. -/
def Response.IsError (version : ℕ) (response : Response) : Prop :=
  ∃ status msg, 400 ≤ status ∧ response = errorResponse status version msg ∧ response.Reports msg

/-- The answer is an error with the text of an exception in it, and it reads as the error object
exactly if the text needs no escapes. -/
def HandlerId.Forwarded (id : HandlerId) (version : ℕ) (response : Response) : Prop :=
  ∃ status front, ∃ e : Exn, id.forwards = some (status, front) ∧ 400 ≤ status ∧
    response = errorResponse status version (front ++ e.what) ∧
    (response.Reports (front ++ e.what) ↔ e.what.ValidUtf8 ∧ Plain e.what)

/-- The body of a success is what the handler promises. -/
def HandlerId.Promises (id : HandlerId) (env : Env σ) (body : Bytes) : Prop :=
  match id.shape with
  | none => body = []
  | some shape => ∃ j, env.json.parse body = .ok j ∧ shape.Fits j

/-- The answer is an error, or it forwards an exception, or it is a success as the handler
promises. -/
def HandlerId.Answers (id : HandlerId) (env : Env σ) (version : ℕ) (response : Response) : Prop :=
  (response.IsError version ∨ id.Forwarded version response) ∨
    response.status = id.success ∧ id.Promises env response.body

section Bodies

variable {env : Env σ} {id : HandlerId} {request : Request}

lemma isError_error {status version : ℕ} {msg : Bytes} (h : 400 ≤ status)
    (hmsg : msg.ValidUtf8 ∧ Plain msg) : (errorResponse status version msg).IsError version :=
  ⟨status, msg, h, rfl, (errorResponse_reports status version msg).mpr hmsg⟩

lemma forwarded_error {status version : ℕ} {front : Bytes} (h : id.forwards = some (status, front))
    (hstatus : 400 ≤ status) (e : Exn) :
    id.Forwarded version (errorResponse status version (front ++ e.what)) :=
  ⟨status, front, e, h, hstatus, rfl, forwarded_reports_iff h e⟩

variable (env id request) in
/-- When the program answers, it answers as the handler promises. -/
def Fulfils (x : Svc σ Response) : Prop :=
  Triple env (fun _ => True) x (fun response _ => id.Answers env request.version response)
    fun _ _ => True

lemma fulfils_error {status : ℕ} {msg : Bytes} (h : 400 ≤ status)
    (hmsg : msg.ValidUtf8 ∧ Plain msg) :
    Fulfils env id request (pure (errorResponse status request.version msg)) :=
  .pure fun _ _ => Or.inl (Or.inl (isError_error h hmsg))

lemma fulfils_empty {status : ℕ} (hstatus : status = id.success) (h : id.shape = none) :
    Fulfils env id request (pure (jsonResponse status request.version [])) := by
  refine .pure fun _ _ => Or.inr ⟨hstatus, ?_⟩
  rw [HandlerId.Promises, h]
  exact jsonResponse_body ..

/-- What is printed is read as it was. -/
lemma fulfils_dump {status : ℕ} {shape : Json.Shape} {j : Json} (hstatus : status = id.success)
    (hshape : id.shape = some shape) (hj : Prints shape j) :
    Fulfils env id request (dumpResponse status request j) := by
  intro w _
  by_cases hutf8 : j.Utf8
  · obtain ⟨text, htext, hrun⟩ := run_dumpResponse env w status request hutf8
    rw [hrun]
    refine ⟨fun response w' heq => ?_, fun err w' heq => True.intro⟩
    obtain ⟨hresponse, -⟩ := Prod.mk.inj heq
    obtain rfl := Except.ok.inj hresponse
    refine Or.inr ⟨hstatus, ?_⟩
    rw [HandlerId.Promises, hshape]
    exact ⟨j, env.json.parse_dump hutf8 hj.sorted htext, hj.fits⟩
  · obtain ⟨err, herr⟩ := env.json.dump_error hutf8
    have hdump : (dump j : Svc σ Bytes).run env w = (.error err, w) := by
      simp only [dump, Prog.run, herr]
    rw [dumpResponse, Prog.run_bind_error hdump]
    exact ⟨fun response w' heq => absurd (Prod.mk.inj heq).1 (by simp), fun _ _ _ => True.intro⟩

/-- The frame of every body: it always answers. -/
lemma Fulfils.body {core : Svc σ Response} {answer : Exn → Response}
    (hcore : Fulfils env id request core)
    (hanswer : ∀ e, (answer e).IsError request.version ∨ id.Forwarded request.version (answer e)) :
    Triple env (fun _ => True) (do enter id; tryCatch core fun e => pure (answer e))
      (fun response _ => id.Answers env request.version response) fun _ _ => False :=
  Triple.bind (.modify fun _ _ => True.intro) fun _ =>
    Triple.tryCatch hcore fun e => .pure fun _ _ => Or.inl (hanswer e)

lemma putSettings_fulfils (hshape : id.shape = none) (hstatus : 204 = id.success)
    (userID : Bytes) (chatID : Option Bytes) :
    Fulfils env id request (NotificationsHandler.putSettings request userID chatID) := by
  refine .after fun j => .after fun muted => .after fun mutedUntil => ?_
  cases mutedUntil with
  | none => exact fulfils_error (by decide) (by decide)
  | some mutedUntil => exact .after fun _ => fulfils_empty hstatus hshape

/-- A body answers as it promises, from whatever state and whatever fails. -/
lemma body_answers_shape (env : Env σ) (id : HandlerId) (request : Request)
    (context : RouteContext) :
    Triple env (fun _ => True) (id.body request context)
      (fun response _ => id.Answers env request.version response) fun _ _ => False := by
  cases id with
  | createProfile =>
    refine Fulfils.body (.after fun j => .after fun userId => .ite (fun _ => ?_) fun _ => ?_)
      fun e => Or.inl (isError_error (by decide) (by decide))
    · exact fulfils_error (by decide) (by decide)
    · exact .after fun profile => fulfils_dump rfl rfl (prints_record [] rfl (by simp))
  | getMyProfile =>
    exact Fulfils.body (.after fun profile => fulfils_dump rfl rfl (profileJson_prints profile))
      fun e => Or.inl (isError_error (by decide) (by decide))
  | getProfileByID =>
    refine Fulfils.body ?_ fun e => Or.inl (isError_error (by decide) (by decide))
    split
    · exact fulfils_error (by decide) (by decide)
    · exact .after fun profile => fulfils_dump rfl rfl (profileJson_prints profile)
  | updateProfile =>
    refine Fulfils.body (.after fun j => .after fun profile => .after fun patched =>
      .after fun _ => fulfils_dump rfl rfl (prints_record [] rfl (by simp))) fun e => ?_
    rw [ProfileHandler.updateFailed]
    split
    · exact Or.inl (isError_error (by decide) (by decide))
    · exact Or.inl (isError_error (by decide) (by decide))
  | uploadAvatar =>
    refine Fulfils.body (.after fun j => ?_) fun e =>
      Or.inr (forwarded_error rfl (by decide) e)
    split
    · exact fulfils_error (by decide) (by decide)
    · refine .after fun base64Data => .after fun contentType => .ite (fun _ => ?_) fun _ => ?_
      · exact fulfils_error (by decide) (by decide)
      · exact .after fun url => .after fun _ =>
          fulfils_dump rfl rfl (prints_record [] rfl (by simp))
  | deleteAvatar =>
    exact Fulfils.body (.after fun _ => .after fun _ => fulfils_empty rfl rfl)
      fun e => Or.inl (isError_error (by decide) (by decide))
  | getContacts =>
    exact Fulfils.body (.after fun contacts => fulfils_dump rfl rfl
      (prints_list contacts fun contact => prints_record [] rfl (by simp)))
      fun e => Or.inl (isError_error (by decide) (by decide))
  | addContact =>
    refine Fulfils.body (.after fun j => .after fun contactID => .ite (fun _ => ?_) fun _ => ?_)
      fun e => Or.inl (isError_error (by decide) (by decide))
    · exact fulfils_error (by decide) (by decide)
    · exact .after fun contactAlias => .after fun _ =>
        fulfils_dump rfl rfl (prints_record [] rfl (by simp))
  | deleteContact | addFavorite | removeFavorite =>
    refine Fulfils.body ?_ fun e => Or.inl (isError_error (by decide) (by decide))
    split
    · exact fulfils_error (by decide) (by decide)
    · exact .after fun _ => fulfils_empty rfl rfl
  | getPrivacy =>
    exact Fulfils.body (.after fun settings =>
      fulfils_dump rfl rfl (prints_record [] rfl (by simp))) fun e =>
        Or.inl (isError_error (by decide) (by decide))
  | updatePrivacy =>
    exact Fulfils.body (.after fun j => .after fun p => .after fun l => .after fun a =>
      .after fun _ => fulfils_empty rfl rfl) fun e => Or.inl (isError_error (by decide) (by decide))
  | getFavorites =>
    exact Fulfils.body (.after fun favorites => fulfils_dump rfl rfl
      (prints_list favorites fun fav => prints_record [] rfl (by simp)))
      fun e => Or.inl (isError_error (by decide) (by decide))
  | getNotifications =>
    exact Fulfils.body (.after fun settings => fulfils_dump rfl rfl (globalJson_prints settings))
      fun e => Or.inl (isError_error (by decide) (by decide))
  | getChatNotifications =>
    refine Fulfils.body ?_ fun e => Or.inl (isError_error (by decide) (by decide))
    split
    · exact fulfils_error (by decide) (by decide)
    · exact .after fun settings => fulfils_dump rfl rfl (chatJson_prints _ settings)
  | updateNotifications =>
    have hforwards : HandlerId.updateNotifications.forwards = some (400, []) := rfl
    exact Fulfils.body (putSettings_fulfils rfl rfl _ _) fun e =>
      Or.inr (forwarded_error hforwards (by decide) e)
  | updateChatNotifications =>
    have hforwards : HandlerId.updateChatNotifications.forwards = some (400, []) := rfl
    refine Fulfils.body ?_ fun e => Or.inr (forwarded_error hforwards (by decide) e)
    split
    · exact fulfils_error (by decide) (by decide)
    · exact putSettings_fulfils rfl rfl _ _

end Bodies

/-- Every request is answered, from whatever state of the service and whatever fails: with an error
that reads as the error object with its message, or by a handler that forwards the text of an
exception, whose answer reads so exactly if the text needs no escapes, or with nothing to OPTIONS,
or with a success of the handler that the route leads to, whose body is empty or reads as the record
or the list of records that the handler promises. -/
theorem answers_conform (env : Env σ) (w : World σ) (request : Request) :
    ∃ response w', serve env w request = (.ok response, w') ∧
      (response.IsError request.version ∨
        request.method = .options ∧ response.status = 204 ∧ response.body = [] ∨
        ∃ id : HandlerId, request.method = id.method ∧ id.Accepts request.target ∧
          (id.Forwarded request.version response ∨
            response.status = id.success ∧ id.Promises env response.body)) := by
  rcases serve_forms request with
    ⟨response, ⟨hoptions, rfl⟩ | ⟨refusal, hmem, rfl⟩, hserve⟩ | ⟨id, hm, ht, -, hserve⟩
  · exact ⟨_, w, hserve env w, Or.inr (Or.inl ⟨hoptions, by simp, by simp⟩)⟩
  · have hmsg : ∀ refusal ∈ refusals, 400 ≤ refusal.1 ∧ refusal.2.ValidUtf8 ∧ Plain refusal.2 := by
      decide
    obtain ⟨hstatus, hmsg⟩ := hmsg refusal hmem
    exact ⟨_, w, hserve env w, Or.inl (isError_error hstatus hmsg)⟩
  have hbody := body_answers_shape env id request request.context
  rcases hrun : (id.body request request.context).run env w with ⟨err | response, w'⟩
  · exact (hbody.error True.intro hrun).elim
  · refine ⟨response, w', (hserve env w).trans hrun, ?_⟩
    rcases hbody.ok True.intro hrun with (herror | hforwarded) | hsuccess
    · exact Or.inl herror
    · exact Or.inr (Or.inr ⟨id, hm, ht, Or.inl hforwarded⟩)
    · exact Or.inr (Or.inr ⟨id, hm, ht, Or.inr hsuccess⟩)

end ProfileService
