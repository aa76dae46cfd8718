/-
# Two runs of a handler body

Two runs at the same place on the tape, in environments that differ in their databases at
most, go on alike as long as their statements return rows that are read as the same values:
nothing but the rows of a statement shows what is in the tables.
-/
import ProfileService.Frames

namespace ProfileService

open Bytes (str)
open Prog (Couples Outcomes)

variable {σ : Type}

/-! ## Rows that are read as the same values -/

/-- Two fields that are read as the same value. -/
structure SameField (f f' : Field) : Prop where
  text : f.text = f'.text
  value : f.getValue = f'.getValue

/-- Two rows with the same columns, which are read as the same values. -/
def SameRow (row row' : Row) : Prop :=
  List.Forall₂ (fun c c' => c.1 = c'.1 ∧ SameField c.2 c'.2) row row'

section SameRow

variable {row row' : Row}

lemma SameField.refl (f : Field) : SameField f f := ⟨rfl, rfl⟩

lemma SameRow.refl (row : Row) : SameRow row row :=
  List.forall₂_same.mpr fun c _ => ⟨rfl, SameField.refl c.2⟩

lemma SameRow.at (h : SameRow row row') (column : String) :
    Outcomes SameField (row.at column) (row'.at column) := by
  rw [Row.at, Row.at]
  induction h with
  | nil => exact .error _
  | @cons c c' row row' hc _ ih =>
    obtain ⟨name, f⟩ := c
    obtain ⟨name', f'⟩ := c'
    obtain ⟨rfl, hf⟩ := hc
    simp only [List.lookup_cons]
    rcases column == name with _ | _
    · exact ih
    · exact .ok hf

lemma SameRow.getStringValue (h : SameRow row row') (column : String) :
    row.getStringValue column = row'.getStringValue column := by
  have hat := h.at column
  rw [Row.getStringValue, Row.getStringValue, Row.isNull, Row.isNull, Row.getValue, Row.getValue]
  generalize row.at column = r, row'.at column = r' at hat
  cases hat with
  | error err => rfl
  | ok hf => rw [Except.map, Except.map, Except.map, Except.map, hf.text, hf.value]

lemma SameRow.getBoolValue (h : SameRow row row') (column : String) :
    row.getBoolValue column = row'.getBoolValue column := by
  have hat := h.at column
  rw [Row.getBoolValue, Row.getBoolValue, Row.isNull, Row.isNull, Row.getValue, Row.getValue]
  generalize row.at column = r, row'.at column = r' at hat
  cases hat with
  | error err => rfl
  | ok hf => rw [Except.map, Except.map, Except.map, Except.map, hf.text, hf.value]

end SameRow

/-! ## Steps of a body -/

/-- The environments agree on everything but the database and the storage, and related worlds
are at the same reading of the clock; what no statement is involved in keeps them related. -/
structure Parallel (env env' : Env σ) (R : World σ → World σ → Prop) : Prop where
  json : env.json = env'.json
  clock : env.clock = env'.clock
  mktime : env.mktime = env'.mktime
  readings : ∀ {w w'}, R w w' → w.readings = w'.readings
  reads : ∀ {w w'}, R w w' → R (w.afterReadings 1) (w'.afterReadings 1)
  enters : ∀ {w w'} id, R w w' → R (w.entering id) (w'.entering id)

namespace Parallel

variable {env env' : Env σ} {R : World σ → World σ → Prop} {row row' : Row}

lemma convert {α : Type} (x : Except Exn α) :
    Couples env env' R (fun a b => a = b ∧ x = .ok a) (convert x : Svc σ α)
      (ProfileService.convert x) := by
  refine Couples.ofExcept ?_
  cases x with
  | error err => exact .error err
  | ok a => exact .ok ⟨rfl, rfl⟩

lemma getStringValue (h : SameRow row row') (column : String) :
    Couples env env' R Eq (getStringValue row column : Svc σ (Option Bytes))
      (ProfileService.getStringValue row' column) :=
  Couples.ofExcept (Prog.outcomes_eq_iff.mpr (h.getStringValue column))

lemma getBoolValue (h : SameRow row row') (column : String) :
    Couples env env' R Eq (getBoolValue row column : Svc σ (Option Bool))
      (ProfileService.getBoolValue row' column) :=
  Couples.ofExcept (Prog.outcomes_eq_iff.mpr (h.getBoolValue column))

variable (h : Parallel env env' R)
include h

lemma now : Couples env env' R Eq (now : Svc σ TimePoint) ProfileService.now := by
  intro w w' hw
  refine ⟨?_, h.reads hw⟩
  rw [Prog.run, Prog.run, ProfileService.now, ProfileService.now, h.clock, h.readings hw]
  exact .ok rfl

lemma parse (text : Bytes) :
    Couples env env' R (fun j j' => j = j' ∧ env.json.parse text = .ok j)
      (parse text : Svc σ Json) (ProfileService.parse text) := by
  intro w w' hw
  refine ⟨?_, hw⟩
  rw [Prog.run, Prog.run, ProfileService.parse, ProfileService.parse, ← h.json]
  rcases env.json.parse text with err | j
  · exact .error err
  · exact .ok ⟨rfl, rfl⟩

lemma dumpResponse (status : ℕ) (request : Request) (j : Json) :
    Couples env env' R Eq (dumpResponse status request j : Svc σ Response)
      (ProfileService.dumpResponse status request j) := by
  have hdump : Couples env env' R Eq (dump j : Svc σ Bytes) (dump j) := by
    intro w w' hw
    refine ⟨Prog.outcomes_eq_iff.mpr ?_, hw⟩
    rw [Prog.run, Prog.run, dump, dump, h.json]
  exact hdump.bind_eq fun text => Couples.pure rfl

lemma localTime (tm : Tm) :
    Couples env env' R Eq (NotificationsHandler.localTime tm : Svc σ TimePoint)
      (NotificationsHandler.localTime tm) := by
  intro w w' hw
  refine ⟨Prog.outcomes_eq_iff.mpr ?_, hw⟩
  rw [Prog.run, Prog.run, NotificationsHandler.localTime, NotificationsHandler.localTime, h.mktime]

lemma readMutedUntil (j : Json) :
    Couples env env' R Eq (NotificationsHandler.readMutedUntil j : Svc σ _)
      (NotificationsHandler.readMutedUntil j) := by
  rw [NotificationsHandler.readMutedUntil]
  split
  · exact Couples.pure rfl
  · exact Couples.pure rfl
  · refine (convert _).bind ?_
    rintro text _ ⟨rfl, -⟩
    refine Couples.ite (fun _ => Couples.pure rfl) fun _ => ?_
    rcases getTime rfc3339Format text with _ | tm
    · exact Couples.pure rfl
    · exact (h.localTime tm).bind_eq fun _ => Couples.pure rfl

/-- A body answers an exception by its text, and its core decides the rest. -/
lemma answering {id : HandlerId} {core : Svc σ Response} (answer : Exn → Response)
    (hcore : Couples env env' R Eq core core) :
    Couples env env' R Eq
      (do enter id; tryCatch core fun err => pure (answer err) : Svc σ Response)
      (do enter id; tryCatch core fun err => pure (answer err)) := by
  have henter : Couples env env' R Eq (enter id : Svc σ Unit) (enter id) :=
    fun w w' hw => ⟨.ok rfl, h.enters id hw⟩
  exact henter.bind_eq fun _ => hcore.tryCatch fun err => Couples.pure rfl

/-! ## The mappers -/

lemma profileMapRow (hrow : SameRow row row') :
    Couples env env' R Eq (profileMapRow row : Svc σ Profile)
      (ProfileService.profileMapRow row') :=
  (getStringValue hrow _).bind_eq fun _ => (getStringValue hrow _).bind_eq fun _ =>
    (getStringValue hrow _).bind_eq fun _ => (getStringValue hrow _).bind_eq fun _ =>
    (getStringValue hrow _).bind_eq fun _ => (getStringValue hrow _).bind_eq fun _ =>
    h.now.bind_eq fun _ => h.now.bind_eq fun _ => Couples.pure rfl

lemma contactMapRow (hrow : SameRow row row') :
    Couples env env' R Eq (contactMapRow row : Svc σ Contact)
      (ProfileService.contactMapRow row') :=
  (getStringValue hrow _).bind_eq fun _ => (getStringValue hrow _).bind_eq fun _ =>
    (getStringValue hrow _).bind_eq fun _ => h.now.bind_eq fun _ => Couples.pure rfl

lemma favoriteMapRow (hrow : SameRow row row') :
    Couples env env' R Eq (favoriteMapRow row : Svc σ Favorite)
      (ProfileService.favoriteMapRow row') :=
  (getStringValue hrow _).bind_eq fun _ => (getStringValue hrow _).bind_eq fun _ =>
    h.now.bind_eq fun _ => Couples.pure rfl

omit h

lemma privacySettingsMapRow (hrow : SameRow row row') :
    Couples env env' R Eq (privacySettingsMapRow row : Svc σ PrivacySettings)
      (ProfileService.privacySettingsMapRow row') :=
  (getStringValue hrow _).bind_eq fun _ => (getStringValue hrow _).bind_eq fun _ =>
    (getStringValue hrow _).bind_eq fun _ => (getStringValue hrow _).bind_eq fun _ =>
    Couples.pure rfl

lemma notificationMapRow (hrow : SameRow row row') :
    Couples env env' R Eq (notificationMapRow row : Svc σ NotificationSettings)
      (ProfileService.notificationMapRow row') :=
  (getStringValue hrow _).bind_eq fun _ => (getStringValue hrow _).bind_eq fun _ =>
    (getStringValue hrow _).bind_eq fun _ => (getBoolValue hrow _).bind_eq fun _ =>
    Couples.pure rfl

/-! ## The repositories -/

/-- The runs of the statement return rows that are read as the same values. -/
def Selects (env env' : Env σ) (R : World σ → World σ → Prop) (query : Query)
    (params : List DbValue) : Prop :=
  Couples env env' R (List.Forall₂ SameRow) (executeSelect query params : Svc σ (List Row))
    (executeSelect query params)

/-- The first row is mapped, or there is none. -/
lemma firstRow {α : Type} {query : Query} {params : List DbValue} {none none' : Svc σ α}
    {map map' : Row → Svc σ α} (hselect : Selects env env' R query params)
    (hnone : Couples env env' R Eq none none')
    (hmap : ∀ {row row'}, SameRow row row' → Couples env env' R Eq (map row) (map' row')) :
    Couples env env' R Eq
      (do match ← executeSelect query params with
          | [] => none
          | row :: _ => map row)
      (do match ← executeSelect query params with
          | [] => none'
          | row :: _ => map' row) := by
  refine hselect.bind fun rows rows' hrows => ?_
  cases hrows with
  | nil => exact hnone
  | cons hrow _ => exact hmap hrow

variable (h : Parallel env env' R)
include h

lemma create {userId : Bytes} (hselect : Selects env env' R .createProfile [.string userId]) :
    Couples env env' R Eq (ProfileRepository.create userId : Svc σ Profile)
      (ProfileRepository.create userId) :=
  firstRow hselect (Couples.throw _) h.profileMapRow

lemma getByID {userId : Bytes} (hselect : Selects env env' R .getProfileByID [.string userId]) :
    Couples env env' R Eq (ProfileRepository.getByID userId : Svc σ Profile)
      (ProfileRepository.getByID userId) :=
  firstRow hselect (Couples.throw _) h.profileMapRow

lemma listContacts {userId : Bytes} (hselect : Selects env env' R .listContacts [.string userId]) :
    Couples env env' R Eq (ContactsRepository.list userId : Svc σ (List Contact))
      (ContactsRepository.list userId) :=
  hselect.bind fun _ _ => Couples.mapM_eq fun _ _ hrow => h.contactMapRow hrow

lemma listFavorites {userId : Bytes}
    (hselect : Selects env env' R .listFavorites [.string userId]) :
    Couples env env' R Eq (FavoriteRepository.list userId : Svc σ (List Favorite))
      (FavoriteRepository.list userId) :=
  hselect.bind fun _ _ => Couples.mapM_eq fun _ _ hrow => h.favoriteMapRow hrow

omit h

lemma getPrivacy {userId : Bytes} (hselect : Selects env env' R .getPrivacy [.string userId]) :
    Couples env env' R Eq (PrivacyRepository.get userId : Svc σ PrivacySettings)
      (PrivacyRepository.get userId) :=
  firstRow hselect (Couples.pure rfl) privacySettingsMapRow

lemma getGlobal {userId : Bytes}
    (hselect : Selects env env' R .getGlobalNotifications [.string userId]) :
    Couples env env' R Eq (NotificationRepository.get userId none : Svc σ NotificationSettings)
      (NotificationRepository.get userId none) :=
  firstRow hselect (Couples.pure rfl) notificationMapRow

lemma getChat {userId chatId : Bytes}
    (hselect : Selects env env' R .getChatNotifications [.string userId, .string chatId]) :
    Couples env env' R Eq
      (NotificationRepository.get userId (some chatId) : Svc σ NotificationSettings)
      (NotificationRepository.get userId (some chatId)) :=
  firstRow hselect (Couples.pure rfl) notificationMapRow

end Parallel

/-! ## The bodies of a GET -/

/-- The statements that the body of a GET may execute. -/
def HandlerId.selects (context : RouteContext) : HandlerId → List (Query × List DbValue)
  | .getMyProfile => [(.getProfileByID, [.string context.userID])]
  | .getProfileByID =>
      (context.find (str "user_id")).toList.map fun userId => (.getProfileByID, [.string userId])
  | .getContacts => [(.listContacts, [.string context.userID])]
  | .getPrivacy => [(.getPrivacy, [.string context.userID])]
  | .getFavorites => [(.listFavorites, [.string context.userID])]
  | .getNotifications => [(.getGlobalNotifications, [.string context.userID])]
  | .getChatNotifications =>
      (.getGlobalNotifications, [.string context.userID]) ::
        (context.find (str "chat_id")).toList.map fun chatId =>
          (.getChatNotifications, [.string context.userID, .string chatId])
  | _ => []

/-- A GET answers the same in two runs whose statements return rows that are read as the
same values. -/
theorem readBody_couples {env env' : Env σ} {R : World σ → World σ → Prop}
    (h : Parallel env env' R) (request : Request) (context : RouteContext) {id : HandlerId}
    (hread : id.IsRead)
    (hselects : ∀ s ∈ id.selects context, Parallel.Selects env env' R s.1 s.2) :
    Couples env env' R Eq (id.body request context : Svc σ Response) (id.body request context) := by
  cases id with
  | getMyProfile =>
    have hselect := hselects _ (List.mem_singleton_self _)
    exact h.answering _ ((h.getByID hselect).bind_eq fun _ => h.dumpResponse _ _ _)
  | getContacts =>
    have hselect := hselects _ (List.mem_singleton_self _)
    exact h.answering _ ((h.listContacts hselect).bind_eq fun _ => h.dumpResponse _ _ _)
  | getPrivacy =>
    have hselect := hselects _ (List.mem_singleton_self _)
    exact h.answering _ ((Parallel.getPrivacy hselect).bind_eq fun _ => h.dumpResponse _ _ _)
  | getFavorites =>
    have hselect := hselects _ (List.mem_singleton_self _)
    exact h.answering _ ((h.listFavorites hselect).bind_eq fun _ => h.dumpResponse _ _ _)
  | getNotifications =>
    have hselect := hselects _ (List.mem_singleton_self _)
    exact h.answering _ ((Parallel.getGlobal hselect).bind_eq fun _ => h.dumpResponse _ _ _)
  | getProfileByID =>
    refine h.answering _ ?_
    rcases hv : context.find (str "user_id") with _ | userId
    · exact Couples.pure rfl
    · have hselect := hselects (.getProfileByID, [.string userId])
        (by simp [HandlerId.selects, hv])
      exact (h.getByID hselect).bind_eq fun _ => h.dumpResponse _ _ _
  | getChatNotifications =>
    refine h.answering _ ?_
    rcases hv : context.find (str "chat_id") with _ | chatId
    · exact Couples.pure rfl
    · have hchat := hselects (.getChatNotifications, [.string context.userID, .string chatId])
        (by simp [HandlerId.selects, hv])
      have hglobal := hselects (.getGlobalNotifications, [.string context.userID])
        (by simp [HandlerId.selects])
      exact ((Parallel.getChat hchat).tryCatch fun _ => Parallel.getGlobal hglobal).bind_eq
        fun _ => h.dumpResponse _ _ _
  | createProfile | updateProfile | uploadAvatar | deleteAvatar | addContact | deleteContact
  | updatePrivacy | addFavorite | removeFavorite | updateNotifications
  | updateChatNotifications => exact absurd hread (by simp [HandlerId.IsRead])

end ProfileService
