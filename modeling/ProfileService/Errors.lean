/-
# The bodies of error answers

An error answer is its message between quotes, as it is.  It is a document that decodes to
the message exactly when no character of the message needs an escape, and three handler bodies
put the text of an exception into their answer: what the JSON library, the avatar storage or
the database says.
-/
import ProfileService.Lib.JsonStrings
import ProfileService.Reachable
import ProfileService.Standalone

namespace ProfileService

open Bytes (str)
open JsonText (Plain)

variable {σ : Type}

/-- The body of the answer decodes to the object whose one member is the error. -/
def Response.Reports (response : Response) (msg : Bytes) : Prop :=
  JsonText.parse response.body = some (.object [(str "error", .string msg)])

lemma errorResponse_body (status version : ℕ) (msg : Bytes) :
    (errorResponse status version msg).body = JsonText.rawDocument (str "error") msg := by
  have hopen : str "\x7b\"error\":\"" =
      0x7B :: (JsonText.printString (str "error") ++ [0x3A, 0x22]) := by decide
  have hclose : str "\"\x7d" = [0x22, 0x7D] := by decide
  rw [errorResponse, jsonResponse_body, hopen, hclose, JsonText.rawDocument]
  simp

lemma errorResponse_reports (status version : ℕ) (msg : Bytes) :
    (errorResponse status version msg).Reports msg ↔ msg.ValidUtf8 ∧ Plain msg := by
  rw [Response.Reports, errorResponse_body, JsonText.parse_raw_iff msg (by decide)]

/-! ## The bodies that forward an exception -/

/-- The status of the answer to an exception and what stands in front of its text, for the
bodies that answer with the text. -/
def HandlerId.forwards : HandlerId → Option (ℕ × Bytes)
  | .uploadAvatar => some (500, str "upload failed: ")
  | .updateNotifications => some (400, [])
  | .updateChatNotifications => some (400, [])
  | _ => none

/-- A success, or an error whose message is in the code of the body. -/
def IsOwn (version : ℕ) (response : Response) : Prop :=
  response.status < 400 ∨
    ∃ msg, response = errorResponse 400 version msg ∧ response.Reports msg

lemma isOwn_success {version status : ℕ} {body : Bytes} (h : status < 400) :
    IsOwn version (jsonResponse status version body) := Or.inl h

lemma isOwn_error (version : ℕ) {msg : Bytes} (hutf8 : msg.ValidUtf8) (hplain : Plain msg) :
    IsOwn version (errorResponse 400 version msg) :=
  Or.inr ⟨msg, rfl, (errorResponse_reports 400 version msg).mpr ⟨hutf8, hplain⟩⟩

lemma dumpResponse_own (status : ℕ) (request : Request) (j : Json) (h : status < 400) :
    Prog.Returns (IsOwn request.version) (dumpResponse status request j : Svc σ Response) :=
  .bind fun _ => .pure (isOwn_success h)

lemma putSettings_own (request : Request) (userID : Bytes) (chatID : Option Bytes) :
    Prog.Returns (IsOwn request.version)
      (NotificationsHandler.putSettings request userID chatID : Svc σ Response) := by
  refine .bind fun j => .bind fun muted => .bind fun mutedUntil => ?_
  cases mutedUntil with
  | none => exact .pure (isOwn_error _ (by decide) (by decide))
  | some mutedUntil => exact .bind fun _ => .pure (isOwn_success (by decide))

/-- What such a body does: its inside answers in its own words, and an exception from the
inside is answered with its text. -/
lemma body_forwards {id : HandlerId} {status : ℕ} {front : Bytes}
    (h : id.forwards = some (status, front)) (request : Request) (context : RouteContext) :
    ∃ inside : Svc σ Response,
      id.body request context = (do
        enter id
        tryCatch inside fun e => pure (errorResponse status request.version (front ++ e.what))) ∧
      Prog.Returns (IsOwn request.version) inside := by
  cases id with
  | uploadAvatar =>
    obtain ⟨rfl, rfl⟩ := Prod.mk.inj (Option.some.inj h)
    refine ⟨_, rfl, .bind fun j => ?_⟩
    rcases j.member? (str "image_data") with _ | imageData
    · exact .pure (isOwn_error _ (by decide) (by decide))
    refine .bind fun base64Data => .bind fun contentType => .ite ?_ ?_
    · exact .pure (isOwn_error _ (by decide) (by decide))
    · exact .bind fun url => .bind fun _ => dumpResponse_own _ _ _ (by decide)
  | updateNotifications =>
    obtain ⟨rfl, rfl⟩ := Prod.mk.inj (Option.some.inj h)
    exact ⟨_, rfl, putSettings_own _ _ _⟩
  | updateChatNotifications =>
    obtain ⟨rfl, rfl⟩ := Prod.mk.inj (Option.some.inj h)
    refine ⟨_, rfl, ?_⟩
    split
    · exact .pure (isOwn_error _ (by decide) (by decide))
    · exact putSettings_own _ _ _
  | createProfile | getMyProfile | getProfileByID | updateProfile | deleteAvatar | getContacts
  | addContact | deleteContact | getPrivacy | updatePrivacy | getFavorites | addFavorite
  | removeFavorite | getNotifications | getChatNotifications =>
    exact absurd h (by simp [HandlerId.forwards])

lemma forwards_front {id : HandlerId} {status : ℕ} {front : Bytes}
    (h : id.forwards = some (status, front)) : front.ValidUtf8 ∧ Plain front := by
  cases id with
  | uploadAvatar =>
    obtain ⟨-, rfl⟩ := Prod.mk.inj (Option.some.inj h)
    decide
  | updateNotifications | updateChatNotifications =>
    obtain ⟨-, rfl⟩ := Prod.mk.inj (Option.some.inj h)
    decide
  | createProfile | getMyProfile | getProfileByID | updateProfile | deleteAvatar | getContacts
  | addContact | deleteContact | getPrivacy | updatePrivacy | getFavorites | addFavorite
  | removeFavorite | getNotifications | getChatNotifications =>
    exact absurd h (by simp [HandlerId.forwards])

/-- What a handler forwards is reported exactly when the text of the exception is. -/
lemma forwarded_reports_iff {id : HandlerId} {status version : ℕ} {front : Bytes}
    (h : id.forwards = some (status, front)) (e : Exn) :
    (errorResponse status version (front ++ e.what)).Reports (front ++ e.what) ↔
      e.what.ValidUtf8 ∧ Plain e.what := by
  obtain ⟨hutf8, hplain⟩ := forwards_front h
  rw [errorResponse_reports, hutf8.append_iff, JsonText.plain_append, and_iff_right hplain]

/-- An error answer decodes to its message exactly when the message is valid UTF-8 and plain.  So
the answers of the bodies that forward exceptions decode to their message, except for the
exceptions whose text is not. -/
theorem errorResponse_reports_iff :
    (∀ (status version : ℕ) (msg : Bytes),
      (errorResponse status version msg).Reports msg ↔ msg.ValidUtf8 ∧ Plain msg) ∧
    ∀ (id : HandlerId) (status : ℕ) (front : Bytes), id.forwards = some (status, front) →
      ∀ (request : Request) (context : RouteContext), ∃ inside : Svc σ Response,
        id.body request context = (do
          enter id
          tryCatch inside fun e =>
            pure (errorResponse status request.version (front ++ e.what))) ∧
        Prog.Returns (IsOwn request.version) inside ∧
        ∀ e : Exn,
          (errorResponse status request.version (front ++ e.what)).Reports (front ++ e.what) ↔
            e.what.ValidUtf8 ∧ Plain e.what := by
  refine ⟨errorResponse_reports, fun id status front hid request context => ?_⟩
  obtain ⟨inside, hbody, hown⟩ := body_forwards hid request context
  exact ⟨inside, hbody, hown, fun e => forwarded_reports_iff hid e⟩

/-- A text without quotes is reported, and one byte that is no character is not. -/
theorem errorResponse_reports_iff_plain :
    (errorResponse 500 11 (str "connection lost")).Reports (str "connection lost") ∧
      ¬ (errorResponse 400 11 [0xFF]).Reports [0xFF] :=
  ⟨((@errorResponse_reports_iff Unit).1 500 11 (str "connection lost")).mpr (by decide),
    mt ((@errorResponse_reports_iff Unit).1 400 11 [0xFF]).mp (by decide)⟩

/-- What the server says of a chat id that is no UUID. -/
def uuidRefusal : Exn := ⟨str "ERROR:  invalid input syntax for type uuid: \"abc\""⟩

/-- The deployment with the UUID schema whose refusals have this text. -/
def refusingEnv : Env Unit :=
  { Env.standalone .docker with refusal := fun _ => uuidRefusal }

/-- The text arrives between quotes, and the answer is no document. -/
theorem refusal_not_json :
    ∃ response,
      (serve refusingEnv (World.start ()) (requestBy (str "alice") .put
        (str "/notifications/abc") (str "\x7b\x7d"))).1 = .ok response ∧
      response = errorResponse 400 11 uuidRefusal.what ∧ uuidRefusal.what.ValidUtf8 ∧
      JsonText.parse response.body = none :=
  ⟨_, rfl, rfl, by decide, rfl⟩

end ProfileService
