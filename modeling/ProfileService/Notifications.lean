/-
# Notification settings

Two conventions meet in the settings of a user that are not of a chat.  The repository
writes them under the empty chat id and reads them where the chat id is null; and it signals
that there is no row for a chat by returning defaults, while the handler waits for an
exception before it falls back.  Both results here say exactly when this does not show.
-/
import ProfileService.Reachable
import ProfileService.Reads
import ProfileService.Standalone

namespace ProfileService

open Bytes (str)

variable {σ : Type}

/-! ## The fallback of a chat -/

/-- The row of the user `u` for the chat `c`. -/
def chatRow (db : Database) (st : Store) (u c : Bytes) : Option NotificationRow := do
  let k ← db.idKey u
  let c ← db.idKey c
  st.notifications k (some c)

/-- The global row of the user `u`, as the repository reads it. -/
def globalRow (db : Database) (st : Store) (u : Bytes) : Option NotificationRow := do
  let k ← db.idKey u
  st.notifications k none

/-- Whether the chat `c` is muted for the user `u`: its row says so, without one the global
row, and without that it is not. -/
def effectiveMuted (db : Database) (st : Store) (u c : Bytes) : Bool :=
  (((chatRow db st u c).or (globalRow db st u)).map NotificationRow.muted).getD false

/-- The answer to a GET for the chat `c` shows the settings in effect and, when the chat has
no row, what `GET /notifications` shows. -/
structure FallsBack (env : Env σ) (w : World σ) (request : Request) (c : Bytes) : Prop where
  effective : ∃ j, Shows env w request j ∧ j.member? (str "chat_id") = some (.string c) ∧
    j.member? (str "muted") =
      some (.bool (effectiveMuted env.db w.store (extractUserID request) c))
  agrees : chatRow env.db w.store (extractUserID request) c = none → ∃ j j',
    Shows env w request j ∧ Shows env w { request with target := str "/notifications" } j' ∧
      j.member? (str "muted") = j'.member? (str "muted")

section Chat

variable {env : Env σ} {w : World σ} {request : Request} {c k : Bytes}

lemma chatRow_of_key (hk : env.db.idKey (extractUserID request) = some k) {c' : Bytes}
    (hc : env.db.idKey c = some c') :
    chatRow env.db w.store (extractUserID request) c = w.store.notifications k (some c') := by
  rw [chatRow, hk, hc]
  rfl

lemma chatRow_of_refused (hc : env.db.idKey c = none) (u : Bytes) :
    chatRow env.db w.store u c = none := by
  rw [chatRow, hc]
  cases env.db.idKey u <;> rfl

lemma globalRow_of_key (hk : env.db.idKey (extractUserID request) = some k) :
    globalRow env.db w.store (extractUserID request) = w.store.notifications k none := by
  rw [globalRow, hk]
  rfl

/-- What `GET /notifications` shows in place of the GET for a chat. -/
lemma getNotifications_shows_same (havail : env.Available) (hv : w.store.Valid env.db.schema)
    (hm : request.method = .get) (hu : extractUserID request ≠ [])
    (hk : env.db.idKey (extractUserID request) = some k) :
    Shows env w { request with target := str "/notifications" }
      (NotificationsHandler.globalJson
        (readSettings (extractUserID request) none (w.store.notifications k none))) := by
  refine getNotifications_shows havail hv ?_ rfl ?_ ?_
  · exact hm
  · exact hu
  · exact hk

lemma FallsBack.not_of_fails (h : AnswersWith env w request 500) : ¬ FallsBack env w request c := by
  intro hfalls
  obtain ⟨j, hj, -⟩ := hfalls.effective
  exact absurd (h.unique hj.answersWith) (by decide)

/-- The statement for the chat is refused, and the handler falls back. -/
lemma fallsBack_of_refused (havail : env.Available) (hv : w.store.Valid env.db.schema)
    (hm : request.method = .get) (hu : extractUserID request ≠ [])
    (hk : env.db.idKey (extractUserID request) = some k) (hc : env.db.idKey c = none)
    (hshows : Shows env w request (NotificationsHandler.chatJson c
      (readSettings (extractUserID request) none (w.store.notifications k none)))) :
    FallsBack env w request c where
  effective := by
    refine ⟨_, hshows, chatJson_chatId _ _, ?_⟩
    rw [chatJson_muted, readSettings_muted, effectiveMuted, chatRow_of_refused hc,
      globalRow_of_key hk, Option.none_or]
  agrees := by
    intro _
    refine ⟨_, _, hshows, getNotifications_shows_same havail hv hm hu hk, ?_⟩
    rw [chatJson_muted, globalJson_muted]

/-- The statement for the chat finds a row. -/
lemma fallsBack_of_row (hk : env.db.idKey (extractUserID request) = some k) {c' : Bytes}
    (hc : env.db.idKey c = some c') {r : NotificationRow}
    (hrow : w.store.notifications k (some c') = some r)
    (hshows : Shows env w request (NotificationsHandler.chatJson c
      (readSettings (extractUserID request) (some c) (some r)))) :
    FallsBack env w request c where
  effective := by
    refine ⟨_, hshows, chatJson_chatId _ _, ?_⟩
    rw [chatJson_muted, effectiveMuted, chatRow_of_key hk hc, hrow]
    rfl
  agrees := by
    intro hnone
    rw [chatRow_of_key hk hc, hrow] at hnone
    exact absurd hnone (by simp)

/-- The statement for the chat finds no row, and its defaults hide the global row. -/
lemma fallsBack_of_default_iff (havail : env.Available) (hv : w.store.Valid env.db.schema)
    (hm : request.method = .get) (hu : extractUserID request ≠ [])
    (hk : env.db.idKey (extractUserID request) = some k) {c' : Bytes}
    (hc : env.db.idKey c = some c') (hrow : w.store.notifications k (some c') = none)
    (hshows : Shows env w request (NotificationsHandler.chatJson c
      (readSettings (extractUserID request) (some c) none))) :
    FallsBack env w request c ↔
      ∀ r, globalRow env.db w.store (extractUserID request) = some r → r.muted = false := by
  have heffective : effectiveMuted env.db w.store (extractUserID request) c =
      ((w.store.notifications k none).map NotificationRow.muted).getD false := by
    rw [effectiveMuted, chatRow_of_key hk hc, hrow, globalRow_of_key hk, Option.none_or]
  rw [globalRow_of_key hk]
  constructor
  · intro h r hr
    obtain ⟨j, hj, -, hmuted⟩ := h.effective
    rw [hj.unique hshows, chatJson_muted, heffective, hr] at hmuted
    exact (Json.bool.inj (Option.some.inj hmuted)).symm
  · intro h
    have hglobal : ((w.store.notifications k none).map NotificationRow.muted).getD false =
        false := by
      rcases hr : w.store.notifications k none with _ | r
      · rfl
      · exact h r hr
    refine ⟨⟨_, hshows, chatJson_chatId _ _, ?_⟩, fun _ => ?_⟩
    · rw [chatJson_muted, heffective, hglobal]
      rfl
    · refine ⟨_, _, hshows, getNotifications_shows_same havail hv hm hu hk, ?_⟩
      rw [chatJson_muted, globalJson_muted, readSettings_muted, readSettings_muted, hglobal]
      rfl

end Chat

/-- A GET for a chat shows the settings in effect exactly when the user id and the chat id
are texts that the database and the answer can take and the fallback makes no difference:
the chat has a row, or its id is refused, or the global row does not mute. -/
theorem chat_fallsBack_iff (env : Env σ) (havail : env.Available) (w : World σ)
    (hv : w.store.Valid env.db.schema) (request : Request) (c : Bytes)
    (hm : request.method = .get) (ht : request.target = str "/notifications/" ++ c)
    (hu : extractUserID request ≠ []) :
    FallsBack env w request c ↔
      env.db.idKey (extractUserID request) ≠ none ∧ c.ValidUtf8 ∧
        (chatRow env.db w.store (extractUserID request) c ≠ none ∨ env.db.idKey c = none ∨
          ∀ r, globalRow env.db w.store (extractUserID request) = some r → r.muted = false) := by
  have hstart : str "/notifications/" <+: request.target := ⟨c, ht.symm⟩
  have hdrop : request.target.drop 15 = c := by
    rw [ht]
    rfl
  rcases hk : env.db.idKey (extractUserID request) with _ | k
  · have hfails := getChatNotifications_fails havail hv hm hstart hu (Or.inl hk)
    exact iff_of_false (FallsBack.not_of_fails hfails) fun h => h.1 rfl
  rcases hc : env.db.idKey c with _ | c'
  · by_cases hutf8 : c.ValidUtf8
    · have hshows := getChatNotifications_shows_fallback havail hv hm hstart hu hk
        (by rw [hdrop]; exact hc) (by rw [hdrop]; exact hutf8)
      rw [hdrop] at hshows
      exact iff_of_true (fallsBack_of_refused havail hv hm hu hk hc hshows)
        ⟨by simp, hutf8, Or.inr (Or.inl rfl)⟩
    · have hfails := getChatNotifications_fails havail hv hm hstart hu
        (Or.inr (by rw [hdrop]; exact hutf8))
      exact iff_of_false (FallsBack.not_of_fails hfails) fun h => hutf8 h.2.1
  · have hutf8 := Database.valid_of_compared hc
    have hshows := getChatNotifications_shows (havail _) hv hm hstart hu hk
      (by rw [hdrop]; exact hc)
    rw [hdrop] at hshows
    rcases hrow : w.store.notifications k (some c') with _ | r
    · rw [hrow] at hshows
      rw [fallsBack_of_default_iff havail hv hm hu hk hc hrow hshows, chatRow_of_key hk hc, hrow]
      simp [hutf8]
    · rw [hrow] at hshows
      rw [chatRow_of_key hk hc, hrow]
      exact iff_of_true (fallsBack_of_row hk hc hrow hshows)
        ⟨by simp, hutf8, Or.inl (by simp)⟩

/-- The global settings of a user who has muted everything. -/
def mutedStore : Store :=
  { Store.empty with
    profiles := [⟨str "alice", none, none, none, none, none, 0, 0⟩]
    notificationSettings := [⟨(numbered 0).1, str "alice", none, true, none, some 0, some 0⟩] }

/-- A chat without a row, on a database that is up. -/
theorem chat_fallsBack_iff_muted :
    ¬ FallsBack (Env.standalone .migrations) ⟨mutedStore, (), 0, 0, []⟩
      (requestBy (str "alice") .get (str "/notifications/42") []) (str "42") := by
  rw [chat_fallsBack_iff _ (fun _ => rfl) _ (by decide) _ _ rfl rfl (by decide)]
  decide

/-- The global row mutes, there is no row for the chat, and the answer says that the chat is
not muted. -/
theorem chat_not_muted :
    mutedStore.Valid .migrations ∧
      ¬ FallsBack (Env.standalone .migrations) ⟨mutedStore, (), 0, 0, []⟩
        (requestBy (str "alice") .get (str "/notifications/42") []) (str "42") := by
  refine ⟨by decide, fun h => ?_⟩
  obtain ⟨j, hj, -, hmuted⟩ := h.effective
  have hshows : Shows (Env.standalone .migrations) ⟨mutedStore, (), 0, 0, []⟩
      (requestBy (str "alice") .get (str "/notifications/42") []) _ :=
    getChatNotifications_shows (k := str "alice") (c := str "42") rfl (by decide) rfl
      (by decide) (by decide) (by decide) (by decide)
  rw [hj.unique hshows, chatJson_muted] at hmuted
  exact absurd (Json.bool.inj (Option.some.inj hmuted)) (by decide)

/-! ## The global settings -/

/-- The database reads the times that the service binds. -/
def Env.ReadsTimes (env : Env σ) : Prop :=
  ∀ t, (env.db.timestamptzIn (strftime (gmtime (TimePoint.toSeconds (fromTimeT t))))).isSome

/-- The first row ids on the tape are all different. -/
def Env.DistinctIds (env : Env σ) (n : ℕ) : Prop :=
  ∀ i j, i < j → j ≤ n → (env.rowId i).1 ≠ (env.rowId j).1

/-- The flag of a valid body for settings; `none` when the body is not valid. -/
def bodyMuted (env : Env σ) (request : Request) : Option Bool := do
  let j ← bodyJson env request
  let muted ← (value getBool j (str "muted") false).toOption
  let _ ← bodyMutedUntil j
  some muted

/-- The user with the id `k` has a profile. -/
def Store.HasProfile (st : Store) (k : Bytes) : Prop := k ∈ st.profiles.map ProfileRow.userId

instance (st : Store) (k : Bytes) : Decidable (st.HasProfile k) :=
  inferInstanceAs (Decidable (k ∈ st.profiles.map ProfileRow.userId))

/-- What an answered request writes to the global settings of the user: the flag of a
`PUT /notifications` by the user that was answered with 204. -/
def globalPut (env : Env σ) (k : Bytes) : Request × Except Exn Response → Option Bool
  | (request, .ok response) =>
      if request.method = .put ∧ request.target = str "/notifications" ∧
          IsBy env k request ∧ response.status = 204 then
        bodyMuted env request
      else none
  | (_, .error _) => none

/-- The global settings of the user are a register after the requests: every valid
`PUT /notifications` by the user with a profile was accepted, and `GET /notifications` shows
the flag of the latest one, whatever other requests there were. -/
structure IsRegister (env : Env σ) (storage : σ) (k : Bytes) (requests : List Request) : Prop where
  accepted : ∀ before request rest, requests = before ++ request :: rest →
    request.method = .put → request.target = str "/notifications" → IsBy env k request →
    (bodyMuted env request).isSome → (after env storage before).store.HasProfile k →
    AnswersWith env (after env storage before) request 204
  shown : (after env storage requests).store.HasProfile k →
    ∀ request, request.method = .get → request.target = str "/notifications" →
      IsBy env k request → ∃ j, Shows env (after env storage requests) request j ∧
        j.member? (str "muted") = some (.bool
          ((Mealy.latest (globalPut env k) (history env storage requests)).getD false))

/-! ### Rows for chats only -/

/-- No row is global and the ids were drawn by the first `m` statements. -/
def ChatRows (env : Env σ) (st : Store) (m : ℕ) : Prop :=
  ∀ r ∈ st.notificationSettings, r.chatId ≠ none ∧ ∃ n < m, r.id = (env.rowId n).1

/-- Only the upsert touches the settings, and it writes the row of a chat. -/
lemma refines_chatRows (env : Env σ) : Refines env fun _ st m => ChatRows env st m where
  start := by simp [ChatRows, Store.empty]
  mono := by
    intro _ st m n h hmn r hr
    obtain ⟨hchat, i, hi, hid⟩ := h r hr
    exact ⟨hchat, i, hi.trans_le hmn, hid⟩
  step := by
    intro _ st n event wr h _ _ _ _ r hr
    have hold : ∀ r ∈ st.notificationSettings, r.chatId ≠ none ∧
        ∃ i < n + 1, r.id = (env.rowId i).1 := by
      intro r hr
      obtain ⟨hchat, i, hi, hid⟩ := h r hr
      exact ⟨hchat, i, by omega, hid⟩
    cases wr with
    | upsertNotifications user chat muted mutedUntil =>
      rcases Table.mem_insertOrUpdate hr with hr | ⟨r', hr', -, rfl⟩ | rfl
      · exact hold r hr
      · exact hold r' hr'
      · exact ⟨by simp, n, by omega, rfl⟩
    | createProfile | updateProfile | updateAvatarURL | addContact | removeContact | addFavorite
    | removeFavorite | updatePrivacy => exact hold r hr

/-- What holds of the settings after any requests. -/
structure ChatRowsOnly (env : Env σ) (w : World σ) : Prop where
  valid : w.store.Valid env.db.schema
  rows : ChatRows env w.store w.statements

lemma after_chatRowsOnly (env : Env σ) (storage : σ) (requests : List Request) :
    ChatRowsOnly env (after env storage requests) where
  valid := after_valid env storage requests
  rows := (refines_chatRows env).holds env storage requests

/-- Without a global row `GET /notifications` shows the default. -/
lemma shows_not_muted {env : Env σ} {w : World σ} {request : Request} {k : Bytes}
    (havail : env.Available) (h : ChatRowsOnly env w) (hm : request.method = .get)
    (ht : request.target = str "/notifications") (hby : IsBy env k request) :
    ∃ j, Shows env w request j ∧ j.member? (str "muted") = some (.bool false) := by
  refine ⟨_, getNotifications_shows havail h.valid hm ht hby.1 hby.2, ?_⟩
  have hnone : w.store.notifications k none = none := by
    rw [Store.notifications, List.find?_eq_none]
    intro r hr hkey
    have hchat : r.chatId = none := by
      simp only [NotificationRow.hasKey, Bool.and_eq_true, beq_iff_eq] at hkey
      exact hkey.2
    exact (h.rows r hr).1 hchat
  rw [globalJson_muted, hnone]
  rfl

/-! ### The upsert -/

/-- The upsert of a user with a profile meets the constraints when the row id is new, if there is
no row for the chat. -/
lemma upsert_constraints {st : Store} (hc : st.Constraints) {user chat : Bytes} {muted : Bool}
    {mutedUntil : Option ℤ} {schema : Schema} {now : ℤ} {rowId : Uuid}
    (hprofile : st.HasProfile user)
    (hid : st.notificationSettings.any (NotificationRow.hasKey user (some chat)) = false →
      ∀ r ∈ st.notificationSettings, r.id ≠ rowId.1) :
    (Write.apply schema now rowId (.upsertNotifications user chat muted mutedUntil)
      st).Constraints := by
  refine { hc with
    notification_pkey := ?_, notification_user_id_chat_id_key := ?_,
    notification_user_id_fkey := ?_ }
  · have hids : ∀ t : List NotificationRow,
        t.map NotificationRow.id = t.filterMap fun r => some r.id := fun t => by simp
    have hnodup := hc.notification_pkey
    rw [hids] at hnodup ⊢
    refine Table.nodup_insertOrUpdate (fun r _ => rfl) (fun hany r hr x hx => ?_) hnodup
    rw [← Option.some.inj hx]
    exact fun h => hid hany r hr (Option.some.inj h)
  · refine Table.nodup_insertOrUpdate (fun r _ => rfl) (fun hany r hr x hx => ?_)
      hc.notification_user_id_chat_id_key
    obtain rfl := Option.some.inj hx
    intro hkey
    -- a row with the key would have been updated
    obtain ⟨c, hchat, hpair⟩ := Option.map_eq_some_iff.mp hkey
    obtain ⟨huser, rfl⟩ := Prod.mk.inj hpair
    have hhit : NotificationRow.hasKey user (some c) r = true := by
      simp [NotificationRow.hasKey, huser, hchat]
    rw [List.any_eq_false] at hany
    exact hany r hr hhit
  · intro r hr
    rcases Table.mem_insertOrUpdate hr with hr | ⟨r', hr', -, rfl⟩ | rfl
    · exact hc.notification_user_id_fkey r hr
    · exact hc.notification_user_id_fkey r' hr'
    · exact hprofile

/-- A value that is compared and can be held is stored. -/
lemma Database.stored_of_compared {db : Database} {T : ColumnType} {s v : Bytes}
    (h : db.compared T s = some v) (hv : T.Holds v) : db.stored T s = some v := by
  obtain ⟨r, hr, hoperand⟩ := Option.bind_eq_some_iff.mp h
  refine Option.bind_eq_some_iff.mpr ⟨r, hr, ?_⟩
  cases T with
  | varchar limit =>
    obtain rfl := Option.some.inj hoperand
    exact hv.input_self
  | text | uuid | enum => exact hoperand

/-- A bound time is stored. -/
lemma storedMutedUntil_isSome {env : Env σ} (htimes : env.ReadsTimes) {j : Json}
    {tm : Option Tm} (h : bodyMutedUntil j = some tm) : ∃ t, storedMutedUntil env j = some t := by
  rw [storedMutedUntil, h]
  cases tm with
  | none => exact ⟨none, rfl⟩
  | some tm =>
    have hascii := strftime_ascii (gmtime (TimePoint.toSeconds (fromTimeT (env.mktime tm))))
    have hutf8 := Bytes.validUtf8_of_ascii fun c hc => (hascii c hc).2
    have hnul : Bytes.NulFree (strftime (gmtime (TimePoint.toSeconds
        (fromTimeT (env.mktime tm))))) := fun h0 => absurd (hascii 0 h0).1 (by decide)
    obtain ⟨t, ht⟩ := Option.isSome_iff_exists.mp (htimes (env.mktime tm))
    refine ⟨some t, ?_⟩
    simp only [Option.bind_eq_bind, Option.bind_some, env.db.receive_verbatim hutf8 hnul, ht]

/-- The request puts settings: for a chat, or for no chat, which is written as the empty id. -/
def PutsSettings (request : Request) (chatID : Option Bytes) : Prop :=
  request.method = .put ∧
    (request.target = str "/notifications" ∧ chatID = none ∨
      str "/notifications/" <+: request.target ∧ chatID = some (request.target.drop 15))

/-- The two handlers put settings alike. -/
lemma serve_putSettings {request : Request} {chatID : Option Bytes}
    (h : PutsSettings request chatID) (hu : extractUserID request ≠ []) :
    ∃ id : HandlerId, ∀ (env : Env σ) (w : World σ), serve env w request = (do
      enter id
      tryCatch (NotificationsHandler.putSettings request (extractUserID request) chatID)
        fun e => pure (errorResponse 400 request.version e.what) : Svc σ Response).run env w := by
  obtain ⟨hm, ⟨ht, rfl⟩ | ⟨ht, rfl⟩⟩ := h
  · have hid : request.method = HandlerId.updateNotifications.method := hm
    exact ⟨.updateNotifications, fun env w => serve_eq_body hid ht (Or.inr hu)⟩
  · have hid : request.method = HandlerId.updateChatNotifications.method := hm
    refine ⟨.updateChatNotifications, fun env w => (serve_eq_body hid ht (Or.inr hu)).trans ?_⟩
    simp only [HandlerId.body, NotificationsHandler.handleUpdateChatNotifications,
      Request.find_notifications ht]
    rfl

/-- The write of a body whose values the columns take is made when its result meets the
constraints. -/
lemma run_putSettings_of_event {env : Env σ} {w : World σ} {request : Request}
    {chatID : Option Bytes} {user chat : Bytes} {muted : Bool} {mutedUntil : Option ℤ}
    (hfault : env.fault w.statements = none)
    (hevent : notificationsSetEvent env request (chatID.getD []) =
      some (.notificationsSet user chat muted mutedUntil))
    (hc : (Write.apply env.db.schema (env.txnTime w.statements) (env.rowId w.statements)
      (.upsertNotifications user chat muted mutedUntil) w.store).Constraints) :
    (NotificationsHandler.putSettings request (extractUserID request) chatID).run env w =
      (.ok (jsonResponse 204 request.version []), w.afterStatement
        (Write.apply env.db.schema (env.txnTime w.statements) (env.rowId w.statements)
          (.upsertNotifications user chat muted mutedUntil) w.store)) := by
  obtain ⟨j, hj, hevent⟩ := Option.bind_eq_some_iff.mp hevent
  obtain ⟨user', huser, hevent⟩ := Option.bind_eq_some_iff.mp hevent
  obtain ⟨chat', hchat, hevent⟩ := Option.bind_eq_some_iff.mp hevent
  obtain ⟨muted', hmuted, hevent⟩ := Option.bind_eq_some_iff.mp hevent
  obtain ⟨mutedUntil', huntil, hevent⟩ := Option.bind_eq_some_iff.mp hevent
  obtain ⟨rfl, rfl, rfl, rfl⟩ := Event.notificationsSet.inj (Option.some.inj hevent)
  rcases readMutedUntil_cases env j w with ⟨tm, -, hread⟩ | ⟨hnone, -⟩
  swap
  · rw [storedMutedUntil, hnone] at huntil
    exact absurd huntil (by simp)
  rw [NotificationsHandler.putSettings, Prog.run_bind_ok (run_parse w hj),
    Prog.run_bind_ok (run_convert env w hmuted), Prog.run_bind_ok hread]
  have huser' : env.db.stored env.db.schema.idType (extractUserID request) = some user' := huser
  have hbool := receive_bool env.db muted'
  rcases storedMutedUntil_eq hread with ⟨hnone, hstored⟩ | ⟨t, ht, hstored⟩
  · obtain rfl := Option.some.inj (hstored.symm.trans huntil)
    have hwrite : Query.upsertNotifications.write env.db
        ([.string (extractUserID request), .string (chatID.getD []), .bool muted'].map
          convertValueToPQXX) = some (.upsertNotifications user' chat' muted' none) := by
      refine Option.bind_eq_some_iff.mpr ⟨user', huser', ?_⟩
      refine Option.bind_eq_some_iff.mpr ⟨chat', hchat, ?_⟩
      exact Option.bind_eq_some_iff.mpr ⟨muted', hbool, rfl⟩
    rw [hnone]
    exact Prog.run_bind_ok (run_executeModify hfault hwrite hc)
  · obtain ⟨t', hbound, rfl⟩ := Option.map_eq_some_iff.mp (hstored.symm.trans huntil)
    have hwrite : Query.upsertNotificationsUntil.write env.db
        ([.string (extractUserID request), .string (chatID.getD []), .bool muted',
          .string (strftime (gmtime (TimePoint.toSeconds t)))].map convertValueToPQXX) =
        some (.upsertNotifications user' chat' muted' (some t')) := by
      refine Option.bind_eq_some_iff.mpr ⟨user', huser', ?_⟩
      refine Option.bind_eq_some_iff.mpr ⟨chat', hchat, ?_⟩
      refine Option.bind_eq_some_iff.mpr ⟨muted', hbool, ?_⟩
      exact Option.bind_eq_some_iff.mpr ⟨t', hbound, rfl⟩
    rw [ht]
    exact Prog.run_bind_ok (run_executeModify hfault hwrite hc)

/-- The write of a valid body is made when its result meets the constraints. -/
lemma run_putSettings {env : Env σ} (htimes : env.ReadsTimes) {w : World σ}
    (hfault : env.fault w.statements = none) {request : Request} {chatID : Option Bytes}
    {muted : Bool} {user chat : Bytes}
    (hbody : bodyMuted env request = some muted)
    (huser : storedUser env request = some user)
    (hchat : env.db.stored env.db.schema.idType (chatID.getD []) = some chat)
    (hc : ∀ mutedUntil, (Write.apply env.db.schema (env.txnTime w.statements)
      (env.rowId w.statements) (.upsertNotifications user chat muted mutedUntil)
      w.store).Constraints) :
    ∃ w', (NotificationsHandler.putSettings request (extractUserID request) chatID).run env w =
      (.ok (jsonResponse 204 request.version []), w') := by
  obtain ⟨j, hj, hbody⟩ := Option.bind_eq_some_iff.mp hbody
  obtain ⟨muted', hmuted, hbody⟩ := Option.bind_eq_some_iff.mp hbody
  obtain ⟨tm, htm, hbody⟩ := Option.bind_eq_some_iff.mp hbody
  obtain rfl := Option.some.inj hbody
  obtain ⟨mutedUntil, huntil⟩ := storedMutedUntil_isSome htimes htm
  refine ⟨_, run_putSettings_of_event hfault ?_ (hc mutedUntil)⟩
  refine Option.bind_eq_some_iff.mpr ⟨j, hj, Option.bind_eq_some_iff.mpr ⟨user, huser, ?_⟩⟩
  refine Option.bind_eq_some_iff.mpr ⟨chat, hchat, ?_⟩
  refine Option.bind_eq_some_iff.mpr ⟨muted', hmuted, ?_⟩
  exact Option.bind_eq_some_iff.mpr ⟨mutedUntil, huntil, rfl⟩

/-- A valid `PUT` by a user with a profile is accepted. -/
lemma putSettings_accepted {env : Env σ} (htimes : env.ReadsTimes) {w : World σ}
    (hfault : env.fault w.statements = none) (h : ChatRowsOnly env w)
    (hids : env.DistinctIds w.statements) {request : Request} {chatID : Option Bytes}
    {user chat : Bytes} {muted : Bool} (hput : PutsSettings request chatID)
    (hu : extractUserID request ≠ []) (hbody : bodyMuted env request = some muted)
    (huser : storedUser env request = some user)
    (hchat : env.db.stored env.db.schema.idType (chatID.getD []) = some chat)
    (hprofile : w.store.HasProfile user) :
    ∃ w', serve env w request = (.ok (jsonResponse 204 request.version []), w') := by
  obtain ⟨id, hserve⟩ := serve_putSettings (σ := σ) hput hu
  have hnew : ∀ r ∈ (w.entering id).store.notificationSettings,
      r.id ≠ (env.rowId (w.entering id).statements).1 := by
    intro r hr hid
    obtain ⟨-, n, hn, hrow⟩ := h.rows r hr
    exact hids n w.statements hn le_rfl (hrow.symm.trans hid)
  obtain ⟨w', hrun⟩ := run_putSettings htimes (w := w.entering id) hfault hbody huser hchat
    fun mutedUntil => upsert_constraints h.valid.constraints hprofile fun _ => hnew
  exact ⟨w', (hserve env w).trans (Prog.run_tryCatch_ok (s := w.entering id) hrun)⟩

/-- With the empty string for a chat id, a valid `PUT /notifications` by a user with a profile
is accepted. -/
lemma put_accepted {env : Env σ} (htimes : env.ReadsTimes) {w : World σ}
    (hfault : env.fault w.statements = none) (h : ChatRowsOnly env w)
    (hids : env.DistinctIds w.statements) (hschema : env.db.schema = .migrations)
    {request : Request} {k : Bytes} (hm : request.method = .put)
    (ht : request.target = str "/notifications") (hby : IsBy env k request) {muted : Bool}
    (hbody : bodyMuted env request = some muted) (hprofile : w.store.HasProfile k) :
    AnswersWith env w request 204 := by
  obtain ⟨r, hr, rfl⟩ := List.mem_map.mp hprofile
  have huser : storedUser env request = some r.userId :=
    Database.stored_of_compared hby.2 (h.valid.typed.profiles r hr).1
  have hchat : env.db.stored env.db.schema.idType ((none : Option Bytes).getD []) = some [] := by
    rw [hschema]
    exact env.db.stored_of_holds (ColumnType.holds_nil_varchar 255)
  obtain ⟨w', hserve⟩ := putSettings_accepted htimes hfault h hids ⟨hm, Or.inl ⟨ht, rfl⟩⟩ hby.1
    hbody huser hchat hprofile
  exact ⟨_, w', hserve, rfl⟩

/-- Settings that were written are those of a user with a profile, and no profile has changed. -/
lemma settings_written {env : Env σ} {w w' : World σ} {request : Request} {response : Response}
    (h : Effect env w request response w') {user chat : Bytes} {muted : Bool}
    {mutedUntil : Option ℤ} (hevent : eventOf env (request, .ok response) =
      some (.notificationsSet user chat muted mutedUntil)) :
    w'.store.profiles = w.store.profiles ∧ w.store.HasProfile user := by
  cases h with
  | unchanged _ _ hidle =>
    rw [eventOf_of_idle hidle] at hevent
    exact absurd hevent (by simp)
  | written event wr n _ _ hevent' hmakes _ hstore hc =>
    obtain rfl := Option.some.inj (hevent'.symm.trans hevent)
    obtain rfl : wr = .upsertNotifications user chat muted mutedUntil := hmakes
    have hprofiles : w'.store.profiles = w.store.profiles := by
      rw [hstore]
      rfl
    refine ⟨hprofiles, ?_⟩
    -- the row that was written refers to the profile
    have hany : w'.store.notificationSettings.any
        (NotificationRow.hasKey user (some chat)) = true := by
      rw [hstore]
      refine Table.any_insertOrUpdate ?_ ?_ _
      · exact fun r hr => hr
      · simp [NotificationRow.hasKey]
    obtain ⟨r, hr, hhit⟩ := List.any_eq_true.mp hany
    have hrow : r.userId = user := by
      simp only [NotificationRow.hasKey, Bool.and_eq_true, beq_iff_eq] at hhit
      exact hhit.1
    have hfkey := hc.notification_user_id_fkey r hr
    rwa [hprofiles, hrow] at hfkey

/-- A `PUT /notifications` that was accepted has written a row under the empty chat id, for a
user with a profile. -/
lemma put_written {env : Env σ} {w : World σ} (hv : w.store.Valid env.db.schema)
    {request : Request} (hm : request.method = .put) (ht : request.target = str "/notifications")
    (h : AnswersWith env w request 204) :
    env.db.stored env.db.schema.idType [] ≠ none ∧
      (serve env w request).2.store.profiles = w.store.profiles ∧
      ∀ user, storedUser env request = some user → w.store.HasProfile user := by
  obtain ⟨response, w', hserve, hstatus⟩ := h
  obtain ⟨response', w'', hserve', heffect⟩ := serve_effect env hv request
  obtain ⟨hresponse, rfl⟩ := Prod.mk.inj (hserve.symm.trans hserve')
  obtain rfl := Except.ok.inj hresponse
  rw [hserve]
  obtain ⟨event, hevent⟩ := heffect.exists_event (by omega) (by simp [hm])
  have hset := hevent
  rw [eventOf_of_accepts .updateNotifications hm ht (by omega)] at hset
  obtain ⟨j, -, hset⟩ := Option.bind_eq_some_iff.mp hset
  obtain ⟨user, huser, hset⟩ := Option.bind_eq_some_iff.mp hset
  obtain ⟨chat, hchat, hset⟩ := Option.bind_eq_some_iff.mp hset
  obtain ⟨muted, -, hset⟩ := Option.bind_eq_some_iff.mp hset
  obtain ⟨mutedUntil, -, hset⟩ := Option.bind_eq_some_iff.mp hset
  obtain rfl := Option.some.inj hset
  obtain ⟨hprofiles, hprofile⟩ := settings_written heffect hevent
  refine ⟨by simp [hchat], hprofiles, fun user' huser' => ?_⟩
  rwa [← Option.some.inj (huser.symm.trans huser')]

/-! ### The result -/

lemma statements_le_run (env : Env σ) {w : World σ} (hv : w.store.Valid env.db.schema)
    (requests : List Request) : w.statements ≤ (Mealy.run (serve env) w requests).statements := by
  have hstep : ∀ (w' : World σ) (request : Request),
      w'.store.Valid env.db.schema ∧ w.statements ≤ w'.statements →
        (serve env w' request).2.store.Valid env.db.schema ∧
          w.statements ≤ (serve env w' request).2.statements := by
    rintro w' request ⟨hv', hle⟩
    obtain ⟨response, w'', hserve, heffect⟩ := serve_effect env hv' request
    rw [hserve]
    exact ⟨heffect.valid hv', hle.trans heffect.statements_le⟩
  exact (Mealy.invariant_run
    (fun w' : World σ => w'.store.Valid env.db.schema ∧ w.statements ≤ w'.statements) hstep
    ⟨hv, le_rfl⟩ requests).2

section Register

variable {env : Env σ} {storage : σ}

/-- A valid `PUT /notifications` of a user with a profile, after which the settings are still a
register: the schema takes the empty chat id, and what is shown next is not set. -/
lemma put_condition (havail : env.Available) {k : Bytes} {before : List Request}
    {request : Request} (hregister : IsRegister env storage k (before ++ [request]))
    (hm : request.method = .put) (ht : request.target = str "/notifications")
    (hby : IsBy env k request) (hbody : (bodyMuted env request).isSome)
    (hprofile : (after env storage before).store.HasProfile k) :
    env.db.schema = .migrations ∧ bodyMuted env request = some false := by
  have hchats := after_chatRowsOnly env storage
  have haccepted := hregister.accepted before request [] rfl hm ht hby hbody hprofile
  obtain ⟨hstored, hprofiles, -⟩ := put_written (hchats before).valid hm ht haccepted
  constructor
  · rcases hschema : env.db.schema with _ | _
    · -- the empty string is no UUID
      refine absurd ?_ hstored
      rw [hschema, Database.stored, env.db.receive_verbatim Bytes.validUtf8_nil (by decide)]
      rfl
    · rfl
  · have hafter : after env storage (before ++ [request]) =
        (serve env (after env storage before) request).2 := Mealy.run_concat _ _ _
    have hprofile' : (after env storage (before ++ [request])).store.HasProfile k := by
      rw [Store.HasProfile, hafter, hprofiles]
      exact hprofile
    -- the flag that is shown next
    obtain ⟨j, hj, hmuted⟩ := hregister.shown hprofile' { request with method := .get } rfl ht hby
    have hdefault : ∃ j, Shows env (after env storage (before ++ [request]))
        { request with method := .get } j ∧ j.member? (str "muted") = some (.bool false) := by
      refine shows_not_muted havail (hchats (before ++ [request])) ?_ ?_ hby
      · rfl
      · exact ht
    obtain ⟨j', hj', hmuted'⟩ := hdefault
    rw [hj.unique hj', hmuted'] at hmuted
    have hflag := Json.bool.inj (Option.some.inj hmuted)
    obtain ⟨response, w', hserve, hstatus⟩ := haccepted
    obtain ⟨muted, hmutedBody⟩ := Option.isSome_iff_exists.mp hbody
    have hput : globalPut env k (request, (serve env (after env storage before) request).1) =
        some muted := by
      rw [hserve]
      exact (if_pos ⟨hm, ht, hby, hstatus⟩).trans hmutedBody
    rw [history, Mealy.trace_concat, Mealy.latest_concat, hput] at hflag
    rw [hmutedBody]
    exact congrArg some hflag.symm

/-- The latest flag that was accepted comes from a valid `PUT /notifications` of the run, by the
user, who had a profile. -/
lemma exists_put_of_latest {k : Bytes} {requests : List Request} {flag : Bool}
    (hprofile : (after env storage requests).store.HasProfile k)
    (h : Mealy.latest (globalPut env k) (history env storage requests) = some flag) :
    ∃ before request rest, requests = before ++ request :: rest ∧ request.method = .put ∧
      request.target = str "/notifications" ∧ IsBy env k request ∧
      bodyMuted env request = some flag ∧ (after env storage before).store.HasProfile k := by
  obtain ⟨e, he, hput⟩ := Mealy.exists_of_latest h
  obtain ⟨before, request, rest, hsplit, rfl⟩ := Mealy.mem_trace he
  rcases hserve : serve env (after env storage before) request with ⟨err | response, w'⟩
  · rw [hserve] at hput
    exact absurd hput (by simp [globalPut])
  rw [hserve] at hput
  simp only [globalPut] at hput
  split_ifs at hput with hput'
  obtain ⟨hm, ht, hby, hstatus⟩ := hput'
  obtain ⟨-, -, hholder⟩ :=
    put_written (after_valid env storage before) hm ht ⟨response, w', hserve, hstatus⟩
  obtain ⟨r, hr, rfl⟩ := List.mem_map.mp hprofile
  have huser : storedUser env request = some r.userId :=
    Database.stored_of_compared hby.2 ((after_valid env storage requests).typed.profiles r hr).1
  exact ⟨before, request, rest, hsplit, hm, ht, hby, hput, hholder _ huser⟩

end Register

/-- The global settings are a register throughout a run exactly when every valid
`PUT /notifications` by a user with a profile meets the schema of the migrations and a flag
that is not set. -/
theorem global_register_iff (env : Env σ) (havail : env.Available) (htimes : env.ReadsTimes)
    (storage : σ) (requests : List Request)
    (hids : env.DistinctIds (after env storage requests).statements) :
    (∀ k before rest, requests = before ++ rest → IsRegister env storage k before) ↔
      ∀ k before request rest, requests = before ++ request :: rest → request.method = .put →
        request.target = str "/notifications" → IsBy env k request →
        (bodyMuted env request).isSome → (after env storage before).store.HasProfile k →
        env.db.schema = .migrations ∧ bodyMuted env request = some false := by
  have hchats := after_chatRowsOnly env storage
  constructor
  · intro h k before request rest hsplit hm ht hby hbody hprofile
    have hregister := h k (before ++ [request]) rest (by simp [hsplit])
    exact put_condition havail hregister hm ht hby hbody hprofile
  · intro h k before rest hsplit
    refine ⟨fun before' request rest' hsplit' hm ht hby hbody hprofile => ?_,
      fun hprofile request hm ht hby => ?_⟩
    · have hsplit'' : requests = before' ++ request :: (rest' ++ rest) := by
        simp [hsplit, hsplit']
      obtain ⟨hschema, hmuted⟩ := h k before' request _ hsplit'' hm ht hby hbody hprofile
      have hle : (after env storage before').statements ≤
          (after env storage requests).statements := by
        rw [hsplit'', after, after, Mealy.run_append]
        exact statements_le_run env (hchats before').valid _
      exact put_accepted htimes (havail _) (hchats before')
        (fun i j hij hj => hids i j hij (hj.trans hle)) hschema hm ht hby hmuted hprofile
    · obtain ⟨j, hj, hmuted⟩ := shows_not_muted havail (hchats before) hm ht hby
      refine ⟨j, hj, hmuted.trans ?_⟩
      rcases hlatest : Mealy.latest (globalPut env k) (history env storage before) with _ | flag
      · rfl
      obtain ⟨before', request', rest', hsplit', hm', ht', hby', hflag, hprofile'⟩ :=
        exists_put_of_latest hprofile hlatest
      have hsplit'' : requests = before' ++ request' :: (rest' ++ rest) := by
        simp [hsplit, hsplit']
      obtain ⟨-, hfalse⟩ := h k before' request' _ hsplit'' hm' ht' hby' (by simp [hflag])
        hprofile'
      obtain rfl := Option.some.inj (hflag.symm.trans hfalse)
      rfl

/-- A user gets a profile and mutes everything. -/
def muteRun : List Request :=
  [requestBy (str "gateway") .post (str "/internal/profiles")
      (str "\x7b\"user_id\":\"alice\"\x7d"),
    requestBy (str "alice") .put (str "/notifications") (str "\x7b\"muted\":true\x7d")]

/-- On the standalone deployment the run does not meet the condition. -/
theorem global_register_iff_mute :
    ¬ ∀ k before rest, muteRun = before ++ rest →
      IsRegister (Env.standalone .migrations) () k before := by
  intro h
  have hids : (Env.standalone .migrations).DistinctIds
      (after (Env.standalone .migrations) () muteRun).statements := by
    have hcount : (after (Env.standalone .migrations) () muteRun).statements = 2 := by decide
    have hdistinct : ∀ j ≤ 2, ∀ i < j, (numbered i).1 ≠ (numbered j).1 := by decide
    rw [hcount]
    exact fun i j hij hj => hdistinct j hj i hij
  have hcondition := (global_register_iff (Env.standalone .migrations) (fun _ => rfl)
    (fun _ => rfl) () muteRun hids).mp h (str "alice") (muteRun.take 1)
    (requestBy (str "alice") .put (str "/notifications") (str "\x7b\"muted\":true\x7d")) [] rfl
    rfl rfl (by decide) (by decide) (by decide)
  exact absurd hcondition.2 (by decide)

/-- The flag that was accepted is not shown. -/
theorem global_not_muted : ¬ IsRegister (Env.standalone .migrations) () (str "alice") muteRun := by
  intro h
  have hby : IsBy (Env.standalone .migrations) (str "alice")
      (requestBy (str "alice") .get (str "/notifications") []) := by decide
  obtain ⟨j, hj, hmuted⟩ := h.shown (by decide) _ rfl rfl hby
  obtain ⟨j', hj', hmuted'⟩ :=
    shows_not_muted (fun _ => rfl) (after_chatRowsOnly _ () muteRun) rfl rfl hby
  rw [hj.unique hj', hmuted'] at hmuted
  exact absurd (Json.bool.inj (Option.some.inj hmuted)) (by decide)

end ProfileService
