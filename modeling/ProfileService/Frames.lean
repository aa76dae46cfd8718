/-
# How the code moves the state

A body moves the world along every preorder that its steps go along: `ReadSteps` for code that
only runs `SELECT`s, `Steps` for all code below a handler body.  The two preorders of the
development are `Reads` and `Runs`.  With them the record of entered bodies is settled for every
body at once: a body enters itself and nothing else, returns a response whatever happens, and
changes no table if it is the body of a GET.
-/
import ProfileService.RequestManager
import ProfileService.Statements

namespace ProfileService

open Bytes (str)
open Prog (Moves)

variable {σ : Type}

/-- Time passes: no handler body is entered. -/
structure Runs (w w' : World σ) : Prop where
  statements : w.statements ≤ w'.statements
  bodies : w'.bodies = w.bodies

/-- Time passes and no table is written. -/
structure Reads (w w' : World σ) : Prop extends Runs w w' where
  store : w'.store = w.store

instance : Std.Refl (Runs (σ := σ)) := ⟨fun _ => ⟨le_rfl, rfl⟩⟩

instance : IsTrans (World σ) Runs :=
  ⟨fun _ _ _ h h' => ⟨h.statements.trans h'.statements, h'.bodies.trans h.bodies⟩⟩

instance : Std.Refl (Reads (σ := σ)) := ⟨fun _ => ⟨⟨le_rfl, rfl⟩, rfl⟩⟩

instance : IsTrans (World σ) Reads :=
  ⟨fun _ _ _ h h' => ⟨trans_of Runs h.toRuns h'.toRuns, h'.store.trans h.store⟩⟩

/-! ## Primitives -/

section Local

variable {R : World σ → World σ → Prop} [Std.Refl R]

lemma moves_parse (text : Bytes) : Moves R (parse text : Svc σ Json) := fun _ w => refl_of R w

lemma moves_dump (j : Json) : Moves R (dump j : Svc σ Bytes) := fun _ w => refl_of R w

lemma moves_localTime (tm : Tm) :
    Moves R (NotificationsHandler.localTime tm : Svc σ TimePoint) := fun _ w => refl_of R w

lemma moves_convert {α : Type} (x : Except Exn α) : Moves R (convert x : Svc σ α) :=
  Moves.ofExcept x

lemma moves_getStringValue (row : Row) (column : String) :
    Moves R (getStringValue row column : Svc σ (Option Bytes)) := Moves.ofExcept _

lemma moves_getBoolValue (row : Row) (column : String) :
    Moves R (getBoolValue row column : Svc σ (Option Bool)) := Moves.ofExcept _

variable [IsTrans (World σ) R]

lemma moves_dumpResponse (status : ℕ) (request : Request) (j : Json) :
    Moves R (dumpResponse status request j : Svc σ Response) :=
  (moves_dump j).bind fun _ => Moves.pure _

lemma moves_readMutedUntil (jsonBody : Json) :
    Moves R (NotificationsHandler.readMutedUntil jsonBody :
      Svc σ (Option (Option TimePoint))) := by
  unfold NotificationsHandler.readMutedUntil
  split
  · exact Moves.pure _
  · exact Moves.pure _
  · refine (moves_convert _).bind fun s => Moves.ite (Moves.pure _) ?_
    split
    · exact Moves.pure _
    · exact (moves_localTime _).bind fun _ => Moves.pure _

end Local

/-- The statements that return rows and write nothing. -/
def Query.IsSelect (query : Query) : Prop := ∀ db params, query.write db params = none

/-- The steps of code that only runs `SELECT`s go along `R`. -/
structure ReadSteps (R : World σ → World σ → Prop) : Prop where
  now : Moves R (now : Svc σ TimePoint)
  select : ∀ {query : Query}, query.IsSelect → ∀ params,
    Moves R (executeSelect query params : Svc σ (List Row))

/-- The steps of code below a handler body, those of the avatar storage apart, go along `R`. -/
structure Steps (R : World σ → World σ → Prop) : Prop where
  now : Moves R (now : Svc σ TimePoint)
  execute : ∀ query params, Moves R (executeParams query params : Svc σ (List Row))

lemma Steps.reads {R : World σ → World σ → Prop} (h : Steps R) : ReadSteps R :=
  ⟨h.now, fun _ params => h.execute _ params⟩

lemma runs_steps : Steps (Runs (σ := σ)) where
  now := fun _ _ => ⟨le_rfl, rfl⟩
  execute := by
    intro query params env w
    rcases executeParams_cases env w query params with ⟨err, h, -⟩ | ⟨store, rows, -, h⟩
    · rw [h]
      exact ⟨Nat.le_succ _, rfl⟩
    · rw [h]
      exact ⟨Nat.le_succ _, rfl⟩

lemma reads_steps : ReadSteps (Reads (σ := σ)) where
  now := fun _ _ => ⟨⟨le_rfl, rfl⟩, rfl⟩
  select := by
    intro query hq params env w
    rcases executeParams_cases env w query params with ⟨err, h, -⟩ | ⟨store, rows, hs, h⟩
    · rw [executeSelect, h]
      exact ⟨⟨Nat.le_succ _, rfl⟩, rfl⟩
    · have hstore : store = w.store := by
        rcases Query.exec_cases hs.2 with ⟨wr, hwr, -⟩ | ⟨-, -, hst⟩
        · rw [hq] at hwr
          exact absurd hwr (by simp)
        · exact hst
      rw [executeSelect, h, hstore]
      exact ⟨⟨Nat.le_succ _, rfl⟩, rfl⟩

/-! ## Mappers and repositories -/

section Steps

variable {R : World σ → World σ → Prop} [Std.Refl R] [IsTrans (World σ) R]

lemma moves_profileMapRow (h : ReadSteps R) (row : Row) :
    Moves R (profileMapRow row : Svc σ Profile) :=
  (moves_getStringValue _ _).bind fun _ => (moves_getStringValue _ _).bind fun _ =>
    (moves_getStringValue _ _).bind fun _ => (moves_getStringValue _ _).bind fun _ =>
    (moves_getStringValue _ _).bind fun _ => (moves_getStringValue _ _).bind fun _ =>
    h.now.bind fun _ => h.now.bind fun _ => Moves.pure _

lemma moves_contactMapRow (h : ReadSteps R) (row : Row) :
    Moves R (contactMapRow row : Svc σ Contact) :=
  (moves_getStringValue _ _).bind fun _ => (moves_getStringValue _ _).bind fun _ =>
    (moves_getStringValue _ _).bind fun _ => h.now.bind fun _ => Moves.pure _

lemma moves_privacySettingsMapRow (row : Row) :
    Moves R (privacySettingsMapRow row : Svc σ PrivacySettings) :=
  (moves_getStringValue _ _).bind fun _ => (moves_getStringValue _ _).bind fun _ =>
    (moves_getStringValue _ _).bind fun _ => (moves_getStringValue _ _).bind fun _ =>
    Moves.pure _

lemma moves_notificationMapRow (row : Row) :
    Moves R (notificationMapRow row : Svc σ NotificationSettings) :=
  (moves_getStringValue _ _).bind fun _ => (moves_getStringValue _ _).bind fun _ =>
    (moves_getStringValue _ _).bind fun _ => (moves_getBoolValue _ _).bind fun _ =>
    Moves.pure _

lemma moves_favoriteMapRow (h : ReadSteps R) (row : Row) :
    Moves R (favoriteMapRow row : Svc σ Favorite) :=
  (moves_getStringValue _ _).bind fun _ => (moves_getStringValue _ _).bind fun _ =>
    h.now.bind fun _ => Moves.pure _

lemma moves_create (h : Steps R) (userId : Bytes) :
    Moves R (ProfileRepository.create userId : Svc σ Profile) := by
  refine (h.execute _ _).bind fun rows => ?_
  cases rows with
  | nil => exact Moves.throw _
  | cons row rows => exact moves_profileMapRow h.reads row

lemma moves_getByID (h : ReadSteps R) (userId : Bytes) :
    Moves R (ProfileRepository.getByID userId : Svc σ Profile) := by
  refine (h.select (fun _ _ => rfl) _).bind fun rows => ?_
  cases rows with
  | nil => exact Moves.throw _
  | cons row rows => exact moves_profileMapRow h row

lemma moves_executeModify (h : Steps R) (query : Query) (params : List DbValue) :
    Moves R (executeModify query params : Svc σ Unit) :=
  (h.execute query params).bind fun _ => Moves.pure _

lemma moves_update (h : Steps R) (profile : Profile) :
    Moves R (ProfileRepository.update profile : Svc σ Unit) :=
  (moves_executeModify h _ _).tryCatch fun _ => Moves.throw _

lemma moves_listContacts (h : ReadSteps R) (ownerId : Bytes) :
    Moves R (ContactsRepository.list ownerId : Svc σ (List Contact)) :=
  (h.select (fun _ _ => rfl) _).bind fun rows => Moves.mapM (moves_contactMapRow h) rows

lemma moves_listFavorites (h : ReadSteps R) (userId : Bytes) :
    Moves R (FavoriteRepository.list userId : Svc σ (List Favorite)) :=
  (h.select (fun _ _ => rfl) _).bind fun rows => Moves.mapM (moves_favoriteMapRow h) rows

lemma moves_getPrivacy (h : ReadSteps R) (userId : Bytes) :
    Moves R (PrivacyRepository.get userId : Svc σ PrivacySettings) := by
  refine (h.select (fun _ _ => rfl) _).bind fun rows => ?_
  cases rows with
  | nil => exact Moves.pure _
  | cons row rows => exact moves_privacySettingsMapRow row

lemma moves_getNotifications (h : ReadSteps R) (userId : Bytes) (chatId : Option Bytes) :
    Moves R (NotificationRepository.get userId chatId : Svc σ NotificationSettings) := by
  cases chatId with
  | none =>
    refine (h.select (fun _ _ => rfl) _).bind fun rows => ?_
    cases rows with
    | nil => exact Moves.pure _
    | cons row rows => exact moves_notificationMapRow row
  | some c =>
    refine (h.select (fun _ _ => rfl) _).bind fun rows => ?_
    cases rows with
    | nil => exact Moves.pure _
    | cons row rows => exact moves_notificationMapRow row

lemma moves_upsert (h : Steps R) (settings : NotificationSettings) :
    Moves R (NotificationRepository.upsert settings : Svc σ Unit) := by
  unfold NotificationRepository.upsert
  split
  · exact moves_executeModify h _ _
  · exact moves_executeModify h _ _

lemma moves_putSettings (h : Steps R) (request : Request) (userID : Bytes)
    (chatID : Option Bytes) :
    Moves R (NotificationsHandler.putSettings request userID chatID : Svc σ Response) := by
  refine (moves_parse _).bind fun _ => (moves_convert _).bind fun _ =>
    (moves_readMutedUntil _).bind fun mutedUntil => ?_
  cases mutedUntil with
  | none => exact Moves.pure _
  | some mutedUntil => exact (moves_upsert h _).bind fun _ => Moves.pure _

end Steps

/-! ## Bodies -/

/-- The concrete method that an identifier names. -/
def HandlerId.body : HandlerId → Request → RouteContext → Svc σ Response
  | .createProfile => ProfileHandler.handleCreateProfile
  | .getMyProfile => ProfileHandler.handleGetMyProfile
  | .getProfileByID => ProfileHandler.handleGetProfileByID
  | .updateProfile => ProfileHandler.handleUpdateProfile
  | .uploadAvatar => ProfileHandler.handleUploadAvatar
  | .deleteAvatar => ProfileHandler.handleDeleteAvatar
  | .getContacts => ContactsHandler.handleGetContacts
  | .addContact => ContactsHandler.handleAddContact
  | .deleteContact => ContactsHandler.handleDeleteContact
  | .getPrivacy => PrivacyHandler.handleGetPrivacy
  | .updatePrivacy => PrivacyHandler.handleUpdatePrivacy
  | .getFavorites => FavoritesHandler.handleGetFavorites
  | .addFavorite => FavoritesHandler.handleAddFavorite
  | .removeFavorite => FavoritesHandler.handleRemoveFavorite
  | .getNotifications => NotificationsHandler.handleGetNotifications
  | .getChatNotifications => NotificationsHandler.handleGetChatNotifications
  | .updateNotifications => NotificationsHandler.handleUpdateNotifications
  | .updateChatNotifications => NotificationsHandler.handleUpdateChatNotifications

/-- The bodies that only read. -/
def HandlerId.IsRead : HandlerId → Prop
  | .getMyProfile | .getProfileByID | .getContacts | .getPrivacy | .getFavorites
  | .getNotifications | .getChatNotifications => True
  | _ => False

/-- The method of the route of a body. -/
def HandlerId.method : HandlerId → Verb
  | .createProfile | .uploadAvatar | .addContact | .addFavorite => .post
  | .getMyProfile | .getProfileByID | .getContacts | .getPrivacy | .getFavorites
  | .getNotifications | .getChatNotifications => .get
  | .updateProfile => .patch
  | .deleteAvatar | .deleteContact | .removeFavorite => .delete
  | .updatePrivacy | .updateNotifications | .updateChatNotifications => .put

lemma HandlerId.isRead_iff {id : HandlerId} : id.IsRead ↔ id.method = .get := by
  cases id <;> simp [HandlerId.IsRead, HandlerId.method]

/-- The world on entry into a body. -/
def World.entering (w : World σ) (id : HandlerId) : World σ :=
  { w with bodies := w.bodies ++ [id] }

/-- The program enters the body, moves along `R` and returns a response. -/
def EntersAs (id : HandlerId) (R : World σ → World σ → Prop) (x : Svc σ Response) : Prop :=
  ∀ env w, ∃ resp w', x.run env w = (.ok resp, w') ∧ R (w.entering id) w'

/-- A body that catches every exception. -/
lemma entersAs_tryCatch {id : HandlerId} {R : World σ → World σ → Prop} [Std.Refl R]
    [IsTrans (World σ) R] {core : Svc σ Response} {answer : Exn → Response}
    (h : Moves R core) :
    EntersAs id R (do enter id; tryCatch core fun e => pure (answer e)) := by
  intro env w
  obtain ⟨resp, w', hrun⟩ :=
    Prog.tryCatch_returns (x := core) (h := fun e => pure (answer e)) (e := env)
      (fun err s => ⟨answer err, s, rfl⟩) (w.entering id)
  have hmove := h.tryCatch (fun e => Moves.pure (answer e)) env (w.entering id)
  rw [hrun] at hmove
  exact ⟨resp, w', hrun, hmove⟩

section Bodies

variable {R : World σ → World σ → Prop} [Std.Refl R] [IsTrans (World σ) R]

/-- The bodies of a GET go along what reading goes along. -/
lemma readBody_moves (h : ReadSteps R) {id : HandlerId} (hid : id.IsRead) (request : Request)
    (context : RouteContext) : EntersAs id R (id.body request context : Svc σ Response) := by
  cases id with
  | getMyProfile =>
    exact entersAs_tryCatch ((moves_getByID h _).bind fun _ => moves_dumpResponse _ _ _)
  | getProfileByID =>
    refine entersAs_tryCatch ?_
    split
    · exact Moves.pure _
    · exact (moves_getByID h _).bind fun _ => moves_dumpResponse _ _ _
  | getContacts =>
    exact entersAs_tryCatch ((moves_listContacts h _).bind fun _ => moves_dumpResponse _ _ _)
  | getPrivacy =>
    exact entersAs_tryCatch ((moves_getPrivacy h _).bind fun _ => moves_dumpResponse _ _ _)
  | getFavorites =>
    exact entersAs_tryCatch ((moves_listFavorites h _).bind fun _ => moves_dumpResponse _ _ _)
  | getNotifications =>
    exact entersAs_tryCatch
      ((moves_getNotifications h _ _).bind fun _ => moves_dumpResponse _ _ _)
  | getChatNotifications =>
    refine entersAs_tryCatch ?_
    split
    · exact Moves.pure _
    · exact ((moves_getNotifications h _ _).tryCatch fun _ => moves_getNotifications h _ _).bind
        fun _ => moves_dumpResponse _ _ _
  | createProfile | updateProfile | uploadAvatar | deleteAvatar | addContact | deleteContact
  | updatePrivacy | addFavorite | removeFavorite | updateNotifications
  | updateChatNotifications => exact absurd hid (by simp [HandlerId.IsRead])

/-- Every body goes along what its steps go along. -/
lemma body_moves (h : Steps R) {id : HandlerId}
    (hupload : id = .uploadAvatar → ∀ userId data contentType,
      Moves R (ProfileHandler.upload userId data contentType : Svc σ Bytes))
    (hdelete : id = .deleteAvatar → ∀ userId,
      Moves R (ProfileHandler.deleteObject userId : Svc σ Unit))
    (request : Request) (context : RouteContext) :
    EntersAs id R (id.body request context : Svc σ Response) := by
  cases id with
  | getMyProfile | getProfileByID | getContacts | getPrivacy | getFavorites | getNotifications
  | getChatNotifications =>
    refine readBody_moves h.reads ?_ request context
    exact True.intro
  | createProfile =>
    exact entersAs_tryCatch ((moves_parse _).bind fun _ => (moves_convert _).bind fun _ =>
      Moves.ite (Moves.pure _) ((moves_create h _).bind fun _ => moves_dumpResponse _ _ _))
  | updateProfile =>
    exact entersAs_tryCatch ((moves_parse _).bind fun _ => (moves_getByID h.reads _).bind fun _ =>
      (moves_convert _).bind fun _ => (moves_update h _).bind fun _ => moves_dumpResponse _ _ _)
  | uploadAvatar =>
    refine entersAs_tryCatch ((moves_parse _).bind fun _ => ?_)
    split
    · exact Moves.pure _
    · exact (moves_convert _).bind fun _ => (moves_convert _).bind fun _ =>
        Moves.ite (Moves.pure _) ((hupload rfl _ _ _).bind fun _ =>
          (moves_executeModify h _ _).bind fun _ => moves_dumpResponse _ _ _)
  | deleteAvatar =>
    exact entersAs_tryCatch ((hdelete rfl _).bind fun _ =>
      (moves_executeModify h _ _).bind fun _ => Moves.pure _)
  | addContact =>
    exact entersAs_tryCatch ((moves_parse _).bind fun _ => (moves_convert _).bind fun _ =>
      Moves.ite (Moves.pure _) ((moves_convert _).bind fun _ =>
        (moves_executeModify h _ _).bind fun _ => moves_dumpResponse _ _ _))
  | updatePrivacy =>
    exact entersAs_tryCatch ((moves_parse _).bind fun _ => (moves_convert _).bind fun _ =>
      (moves_convert _).bind fun _ => (moves_convert _).bind fun _ =>
      (moves_executeModify h _ _).bind fun _ => Moves.pure _)
  | deleteContact | addFavorite | removeFavorite =>
    refine entersAs_tryCatch ?_
    split
    · exact Moves.pure _
    · exact (moves_executeModify h _ _).bind fun _ => Moves.pure _
  | updateNotifications => exact entersAs_tryCatch (moves_putSettings h _ _ _)
  | updateChatNotifications =>
    refine entersAs_tryCatch ?_
    split
    · exact Moves.pure _
    · exact moves_putSettings h _ _ _

end Bodies

lemma reads_upload (userId : Bytes) (data : List UInt8) (contentType : Bytes) :
    Moves Reads (ProfileHandler.upload userId data contentType : Svc σ Bytes) :=
  fun _ _ => ⟨⟨le_rfl, rfl⟩, rfl⟩

lemma reads_deleteObject (userId : Bytes) :
    Moves Reads (ProfileHandler.deleteObject userId : Svc σ Unit) :=
  fun _ _ => ⟨⟨le_rfl, rfl⟩, rfl⟩

/-- Every body enters itself, and no other, and returns a response. -/
theorem body_enters (id : HandlerId) (request : Request) (context : RouteContext) :
    EntersAs id Runs (id.body request context : Svc σ Response) :=
  body_moves runs_steps
    (fun _ userId data contentType =>
      (reads_upload userId data contentType).mono fun _ _ => Reads.toRuns)
    (fun _ userId => (reads_deleteObject userId).mono fun _ _ => Reads.toRuns) request context

end ProfileService
