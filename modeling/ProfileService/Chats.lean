/-
# Notification settings of a chat

The settings of a user for a chat are a register that the accepted `PUT`s for that chat write,
whatever is sent to other chats, to the global settings or by other users.  What is read back of
the register is the flag: the time until which the chat is muted is stored, but no GET shows it.
-/
import ProfileService.Notifications

namespace ProfileService

open Bytes (str)
open Decimal (decimal)

variable {σ : Type}

/-- A `PUT /notifications/{chat_id}` that was answered with 204, by the user and for the chat
that the database stores as `k` and `c`. -/
def IsChatPut (env : Env σ) (k c : Bytes) : Request × Except Exn Response → Prop
  | (request, .ok response) =>
      request.method = .put ∧ str "/notifications/" <+: request.target ∧
        storedUser env request = some k ∧
        env.db.stored env.db.schema.idType (request.target.drop 15) = some c ∧
        response.status = 204
  | (_, .error _) => False

instance (env : Env σ) (k c : Bytes) : DecidablePred (IsChatPut env k c)
  | (_, .ok _) => inferInstanceAs (Decidable (_ ∧ _))
  | (_, .error _) => inferInstanceAs (Decidable False)

/-- The flag that an answered request writes to the settings of the chat. -/
def chatPut (env : Env σ) (k c : Bytes) (e : Request × Except Exn Response) : Option Bool :=
  if IsChatPut env k c e then bodyMuted env e.1 else none

/-- The settings that an event makes for the chat. -/
def Event.onChat (k c : Bytes) : Event → Option (Bool × Option ℤ)
  | .notificationsSet user chat muted mutedUntil =>
      if user = k ∧ chat = c then some (muted, mutedUntil) else none
  | _ => none

/-! ## The row of a chat -/

/-- The flag and the time of a row. -/
def NotificationRow.settings (r : NotificationRow) : Bool × Option ℤ := (r.muted, r.mutedUntil)

/-- The row of a chat has what the latest event for the chat has made. -/
lemma refines_chats (env : Env σ) : Refines env fun es st _ => ∀ k c,
    (st.notifications k (some c)).map NotificationRow.settings =
      Mealy.latest (Event.onChat k c) es where
  start := fun _ _ => rfl
  mono := fun h _ => h
  step := by
    intro es st n event wr h _ hmakes _ _ k c
    rw [Mealy.latest_concat, ← h k c]
    cases event with
    | notificationsSet user chat muted mutedUntil =>
      obtain rfl : wr = .upsertNotifications user chat muted mutedUntil := hmakes
      by_cases hkey : user = k ∧ chat = c
      · obtain ⟨rfl, rfl⟩ := hkey
        rw [Event.onChat, if_pos ⟨rfl, rfl⟩, Option.some_or]
        have hfind : (Write.apply env.db.schema (env.txnTime n) (env.rowId n)
            (.upsertNotifications user chat muted mutedUntil) st).notifications user (some chat) =
              some (((st.notifications user (some chat)).map fun r =>
                { r with muted := muted, mutedUntil := mutedUntil }).getD
                  ⟨(env.rowId n).1, user, some chat, muted, mutedUntil,
                    env.db.schema.stamp (env.txnTime n), env.db.schema.stamp (env.txnTime n)⟩) := by
          refine Table.find?_insertOrUpdate ?_ ?_ _
          · exact fun r hr => hr
          · simp [NotificationRow.hasKey]
        rw [hfind]
        cases st.notifications user (some chat) <;> rfl
      · rw [Event.onChat, if_neg hkey, Option.none_or]
        -- the row of another key stays
        refine congrArg (Option.map NotificationRow.settings)
          (Table.find?_insertOrUpdate_of_ne (fun r hr => ?_) ?_ st.notificationSettings)
        · have hne : NotificationRow.hasKey k (some c) r = false := by
            simp only [NotificationRow.hasKey, Bool.and_eq_true, beq_iff_eq] at hr
            simp only [NotificationRow.hasKey, hr, Bool.and_eq_false_imp, beq_iff_eq]
            rintro rfl
            simpa using fun hc => hkey ⟨rfl, hc⟩
          exact ⟨hne, hne⟩
        · simp only [NotificationRow.hasKey, Bool.and_eq_false_imp, beq_iff_eq]
          rintro rfl
          simpa using fun hc => hkey ⟨rfl, hc⟩
    | patched =>
      obtain ⟨r, -, -, rfl⟩ := hmakes
      rfl
    | created | avatarSet | contactAdded | contactRemoved | favoriteAdded | favoriteRemoved
    | privacySet =>
      rw [show wr = _ from hmakes]
      rfl

/-! ## The answers to a `PUT` -/

/-- An update of settings is answered with 204 or reports a failure. -/
lemma putSettings_returns (request : Request) (userID : Bytes) (chatID : Option Bytes) :
    Prog.Returns (fun response : Response => response.status = 204 ∨ 400 ≤ response.status)
      (NotificationsHandler.putSettings request userID chatID : Svc σ Response) := by
  refine .bind fun j => .bind fun muted => .bind fun mutedUntil => ?_
  cases mutedUntil with
  | none => exact .pure (Or.inr (by simp))
  | some mutedUntil => exact .bind fun _ => .pure (Or.inl rfl)

lemma updateChatNotifications_returns (request : Request) (context : RouteContext) :
    Prog.Returns (fun response : Response => response.status = 204 ∨ 400 ≤ response.status)
      (NotificationsHandler.handleUpdateChatNotifications request context :
        Svc σ Response) := by
  refine .bind fun _ => .tryCatch ?_ fun e => .pure (Or.inr (by simp))
  split
  · exact .pure (Or.inr (by simp))
  · exact putSettings_returns _ _ _

section Events

variable {env : Env σ} {request : Request} {k c : Bytes}

/-- The parts of an event of settings. -/
lemma notificationsSetEvent_eq {chatId user chat : Bytes} {muted : Bool} {mutedUntil : Option ℤ}
    (h : notificationsSetEvent env request chatId =
      some (.notificationsSet user chat muted mutedUntil)) :
    storedUser env request = some user ∧
      env.db.stored env.db.schema.idType chatId = some chat ∧
      bodyMuted env request = some muted := by
  obtain ⟨j, hj, h⟩ := Option.bind_eq_some_iff.mp h
  obtain ⟨user', huser, h⟩ := Option.bind_eq_some_iff.mp h
  obtain ⟨chat', hchat, h⟩ := Option.bind_eq_some_iff.mp h
  obtain ⟨muted', hmuted, h⟩ := Option.bind_eq_some_iff.mp h
  obtain ⟨mutedUntil', huntil, h⟩ := Option.bind_eq_some_iff.mp h
  obtain ⟨rfl, rfl, rfl, rfl⟩ := Event.notificationsSet.inj (Option.some.inj h)
  obtain ⟨tm, htm, -⟩ := Option.bind_eq_some_iff.mp huntil
  refine ⟨huser, hchat, ?_⟩
  rw [bodyMuted, hj]
  simp [hmuted, htm]

/-- The empty chat id is stored as it is, if it is stored. -/
lemma Database.stored_idType_nil {db : Database} (h : db.stored db.schema.idType [] = some c) :
    c = [] := by
  rw [Database.stored, db.receive_verbatim Bytes.validUtf8_nil (by decide)] at h
  cases hschema : db.schema <;> rw [hschema] at h
  · have hnone : (some []).bind Schema.docker.idType.input = none := rfl
    exact absurd (hnone.symm.trans h) (by simp)
  · exact (Option.some.inj h).symm

/-- An answered request is an event of the settings of a chat exactly when it is an accepted
`PUT` for the chat. -/
lemma eventOf_eq_notificationsSet {w : World σ} (hv : w.store.Valid env.db.schema)
    (hc : c ≠ []) :
    IsChatPut env k c (request, (serve env w request).1) ↔
      ∃ muted mutedUntil, eventOf env (request, (serve env w request).1) =
        some (.notificationsSet k c muted mutedUntil) := by
  obtain ⟨response, w', hserve, heffect⟩ := serve_effect env hv request
  rw [hserve]
  constructor
  · rintro ⟨hm, ht, huser, hchat, hstatus⟩
    obtain ⟨event, hevent⟩ := heffect.exists_event (by omega) (by simp [hm])
    have hset := hevent
    rw [eventOf_of_accepts .updateChatNotifications hm ht (by omega)] at hset
    obtain ⟨j, -, hset⟩ := Option.bind_eq_some_iff.mp hset
    obtain ⟨user, huser', hset⟩ := Option.bind_eq_some_iff.mp hset
    obtain ⟨chat, hchat', hset⟩ := Option.bind_eq_some_iff.mp hset
    obtain ⟨muted, -, hset⟩ := Option.bind_eq_some_iff.mp hset
    obtain ⟨mutedUntil, -, hset⟩ := Option.bind_eq_some_iff.mp hset
    obtain rfl := Option.some.inj (huser.symm.trans huser')
    obtain rfl := Option.some.inj (hchat.symm.trans hchat')
    exact ⟨muted, mutedUntil, hevent.trans hset.symm⟩
  · rintro ⟨muted, mutedUntil, hevent⟩
    have hok := status_of_event hevent
    obtain ⟨id, hid, hm, ht, -, hevent, hrun⟩ := handler_of_event hserve hevent
    rcases List.mem_pair.mp hid with rfl | rfl
    · obtain ⟨-, hchat, -⟩ := notificationsSetEvent_eq hevent
      exact absurd (Database.stored_idType_nil hchat) hc
    · obtain ⟨huser, hchat, -⟩ := notificationsSetEvent_eq hevent
      refine ⟨hm, ht, huser, hchat, ?_⟩
      have hreturns := updateChatNotifications_returns request request.context env w response w'
        hrun
      omega

/-- What an answered request writes to the settings of a chat is what its event makes of them. -/
lemma chatPut_eq {w : World σ} (hv : w.store.Valid env.db.schema) (hc : c ≠ []) :
    chatPut env k c (request, (serve env w request).1) =
      ((eventOf env (request, (serve env w request).1)).bind (Event.onChat k c)).map
        Prod.fst := by
  rw [chatPut]
  split_ifs with hput
  · obtain ⟨muted, mutedUntil, hevent⟩ := (eventOf_eq_notificationsSet hv hc).mp hput
    rw [hevent, Option.bind_some, Event.onChat, if_pos ⟨rfl, rfl⟩]
    rcases hserve : (serve env w request).1 with err | response
    · rw [hserve] at hput
      exact hput.elim
    · rw [hserve] at hput hevent
      obtain ⟨hm, ht, -, -, hstatus⟩ := hput
      rw [eventOf_of_accepts .updateChatNotifications hm ht (by omega)] at hevent
      exact (notificationsSetEvent_eq hevent).2.2
  · rcases hevent : eventOf env (request, (serve env w request).1) with _ | event
    · rfl
    rcases honChat : Event.onChat k c event with _ | settings
    · rw [Option.bind_some, honChat]
      rfl
    · -- the event would be one of the chat
      refine absurd ((eventOf_eq_notificationsSet hv hc).mpr ?_) hput
      cases event with
      | notificationsSet user chat muted mutedUntil =>
        rw [Event.onChat] at honChat
        split_ifs at honChat with hkey
        obtain ⟨rfl, rfl⟩ := hkey
        exact ⟨muted, mutedUntil, hevent⟩
      | created | patched | avatarSet | contactAdded | contactRemoved | favoriteAdded
      | favoriteRemoved | privacySet => exact absurd honChat (by simp [Event.onChat])

end Events

/-! ## The register -/

section Register

variable {env : Env σ} {storage : σ} {requests : List Request} {k c : Bytes}

/-- The flag of the row of a chat is the one of the latest accepted `PUT`. -/
lemma row_muted (hc : c ≠ []) :
    ((after env storage requests).store.notifications k (some c)).map NotificationRow.muted =
      Mealy.latest (chatPut env k c) (history env storage requests) := by
  have hrow := (refines_chats env).holds env storage requests k c
  have hwrites : Mealy.latest (chatPut env k c) (history env storage requests) =
      (Mealy.latest (Event.onChat k c) (events env storage requests)).map Prod.fst := by
    rw [events, Mealy.latest_filterMap, ← Mealy.latest_map]
    refine Mealy.latest_congr fun e he => ?_
    obtain ⟨before, request, rest, -, rfl⟩ := Mealy.mem_trace he
    exact chatPut_eq (after_valid env storage before) hc
  rw [hwrites, ← hrow, Option.map_map]
  rfl

/-- There is at most one row for a user and a chat. -/
lemma rows_le_one {schema : Schema} {st : Store} (hv : st.Valid schema) (k c : Bytes) :
    (st.notificationSettings.filter (NotificationRow.hasKey k (some c))).length ≤ 1 := by
  have hsub := (List.filter_sublist
    (p := NotificationRow.hasKey k (some c)) (l := st.notificationSettings)).filterMap
      NotificationRow.key
  have hnodup := hv.constraints.notification_user_id_chat_id_key.sublist hsub
  have hkeys : (st.notificationSettings.filter (NotificationRow.hasKey k (some c))).filterMap
      NotificationRow.key =
        (st.notificationSettings.filter (NotificationRow.hasKey k (some c))).map
          fun _ => (k, c) := by
    rw [← List.filterMap_eq_map]
    refine List.filterMap_congr fun r hr => ?_
    have hhit := (List.mem_filter.mp hr).2
    simp only [NotificationRow.hasKey, Bool.and_eq_true, beq_iff_eq] at hhit
    simp [NotificationRow.key, hhit.1, hhit.2]
  rw [hkeys, List.map_const', List.nodup_replicate] at hnodup
  exact hnodup

/-- A GET for a chat after any requests. -/
lemma getChat_shows (hfault : env.fault (after env storage requests).statements = none)
    {request : Request} {chatId : Bytes} (hm : request.method = .get)
    (ht : request.target = str "/notifications/" ++ chatId) (hby : IsBy env k request)
    (hc : env.db.idKey chatId = some c) :
    Shows env (after env storage requests) request (NotificationsHandler.chatJson chatId
      (readSettings (extractUserID request) (some chatId)
        ((after env storage requests).store.notifications k (some c)))) := by
  have hstart : str "/notifications/" <+: request.target := ⟨chatId, ht.symm⟩
  have hdrop : request.target.drop 15 = chatId := by
    rw [ht]
    rfl
  rw [← hdrop] at hc
  have hshows := getChatNotifications_shows hfault (after_valid env storage requests)
    hm hstart hby.1 hby.2 hc
  rwa [hdrop] at hshows

end Register

/-- After any requests there is at most one row for a user and a chat, and once a `PUT` for the
chat by the user was accepted, a GET by the user for the chat shows the flag of the latest one,
whatever other requests there were and whichever statements failed. -/
theorem chat_register (env : Env σ) (storage : σ) (requests : List Request) (k c : Bytes)
    (hc : c ≠ []) :
    ((after env storage requests).store.notificationSettings.filter
        (NotificationRow.hasKey k (some c))).length ≤ 1 ∧
      ∀ muted, Mealy.latest (chatPut env k c) (history env storage requests) = some muted →
        env.fault (after env storage requests).statements = none →
        ∀ request chatId, request.method = .get →
          request.target = str "/notifications/" ++ chatId → IsBy env k request →
          env.db.idKey chatId = some c → ∃ j, Shows env (after env storage requests) request j ∧
            j.member? (str "muted") = some (.bool muted) := by
  refine ⟨rows_le_one (after_valid env storage requests) k c, ?_⟩
  intro muted hlatest hfault request chatId hm ht hby hkey
  refine ⟨_, getChat_shows hfault hm ht hby hkey, ?_⟩
  rw [chatJson_muted, readSettings_muted, row_muted hc, hlatest]
  rfl

/-- A user mutes one chat and then sets everything else to the contrary. -/
def chatRun : List Request :=
  [requestBy (str "gateway") .post (str "/internal/profiles")
      (str "\x7b\"user_id\":\"alice\"\x7d"),
    requestBy (str "alice") .put (str "/notifications/42") (str "\x7b\"muted\":true\x7d"),
    requestBy (str "alice") .put (str "/notifications/7") (str "\x7b\"muted\":false\x7d"),
    requestBy (str "alice") .put (str "/notifications") (str "\x7b\"muted\":false\x7d")]

/-- On the standalone deployment the chat is shown as muted. -/
theorem chat_register_muted :
    ∃ j, Shows (Env.standalone .migrations) (after (Env.standalone .migrations) () chatRun)
      (requestBy (str "alice") .get (str "/notifications/42") []) j ∧
        j.member? (str "muted") = some (.bool true) :=
  (chat_register (Env.standalone .migrations) () chatRun (str "alice") (str "42")
    (by decide)).2 true (by decide) rfl _ (str "42") rfl rfl (by decide) (by decide)

/-! ## The time until which a chat is muted -/

/-- `t` in the form `YYYY-MM-DDTHH:MM:SSZ`. -/
def rfc3339 (t : ℤ) : Bytes :=
  let tm := gmtime t
  decimal (tm.year + 1900) ++ str "-" ++ twoDigits (tm.mon + 1) ++ str "-" ++
    twoDigits tm.mday ++ str "T" ++ twoDigits tm.hour ++ str ":" ++ twoDigits tm.min ++
    str ":" ++ twoDigits tm.sec ++ str "Z"

/-- The body sets `mutedUntil` to a second of the years 1970 to 9999. -/
def SetsUntil (j : Json) (t : ℤ) : Prop :=
  0 ≤ t ∧ t < 253402300800 ∧ j.member? (str "mutedUntil") = some (.string (rfc3339 t))

/-- What is shown gives back the `mutedUntil` of the body. -/
structure ShowsUntil (j shown : Json) : Prop where
  set : ∀ t, SetsUntil j t → shown.member? (str "mutedUntil") = some (.integer t)
  unset : j.member? (str "mutedUntil") = none → shown.member? (str "mutedUntil") = none

/-- After the requests, every GET for the chat by the user gives back the `mutedUntil` of the
latest accepted `PUT` for the chat. -/
def KeepsUntil (env : Env σ) (storage : σ) (k c : Bytes) (requests : List Request) : Prop :=
  ∀ before request rest j, requests = before ++ request :: rest →
    IsChatPut env k c (request, (serve env (after env storage before) request).1) →
    (∀ e ∈ Mealy.trace (serve env) (after env storage (before ++ [request])) rest,
      ¬ IsChatPut env k c e) →
    bodyJson env request = some j →
    ∀ read chatId, read.method = .get → read.target = str "/notifications/" ++ chatId →
      IsBy env k read → env.db.idKey chatId = some c →
      ∃ shown, Shows env (after env storage requests) read shown ∧ ShowsUntil j shown

section Until

variable {env : Env σ} {storage : σ} {k c : Bytes}

/-- No GET shows the time of a row. -/
lemma chatJson_mutedUntil (chatId userId : Bytes) (r : Option NotificationRow) :
    (NotificationsHandler.chatJson chatId (readSettings userId (some chatId) r)).member?
      (str "mutedUntil") = none := by
  rw [NotificationsHandler.chatJson, Json.member?_ofMembers, NotificationsHandler.mutedUntilJson,
    readSettings_mutedUntil]
  rfl

/-- A valid `PUT` for a chat by a user with a profile is accepted. -/
lemma chatPut_accepted (htimes : env.ReadsTimes) {w : World σ}
    (hfault : env.fault w.statements = none) (h : ChatRowsOnly env w)
    (hids : env.DistinctIds w.statements) {request : Request} (hm : request.method = .put)
    (ht : str "/notifications/" <+: request.target) (hu : extractUserID request ≠ [])
    (huser : storedUser env request = some k)
    (hchat : env.db.stored env.db.schema.idType (request.target.drop 15) = some c)
    (hprofile : w.store.HasProfile k) (hbody : (bodyMuted env request).isSome) :
    IsChatPut env k c (request, (serve env w request).1) := by
  obtain ⟨muted, hbody⟩ := Option.isSome_iff_exists.mp hbody
  have hput : PutsSettings request (some (request.target.drop 15)) := ⟨hm, Or.inr ⟨ht, rfl⟩⟩
  obtain ⟨w', hserve⟩ := putSettings_accepted htimes hfault h hids hput hu hbody huser hchat
    hprofile
  rw [hserve]
  exact ⟨hm, ht, huser, hchat, rfl⟩

/-- An accepted `PUT` for a chat has a valid body and is by a user with a profile. -/
lemma chatPut_valid {w : World σ} (hv : w.store.Valid env.db.schema) {request : Request}
    (hc : c ≠ []) (h : IsChatPut env k c (request, (serve env w request).1)) :
    w.store.HasProfile k ∧ (bodyMuted env request).isSome ∧ extractUserID request ≠ [] := by
  have hchat : chatPut env k c (request, (serve env w request).1) = _ := chatPut_eq hv hc
  obtain ⟨muted, mutedUntil, hevent⟩ := (eventOf_eq_notificationsSet hv hc).mp h
  rw [hevent, chatPut, if_pos h, Option.bind_some, Event.onChat, if_pos ⟨rfl, rfl⟩] at hchat
  obtain ⟨response, w', hserve, heffect⟩ := serve_effect env hv request
  rw [hserve] at hevent h
  refine ⟨(settings_written heffect hevent).2, by simp [hchat], ?_⟩
  rcases serve_cases env request with ⟨response', hidle, hserve'⟩ | ⟨id, hm, -, hu, -⟩
  · obtain ⟨hresponse, -⟩ := Prod.mk.inj (hserve.symm.trans (hserve' w))
    obtain rfl := Except.ok.inj hresponse
    rw [eventOf_of_idle (hidle.imp_right fun h => by simp [h])] at hevent
    exact absurd hevent (by simp)
  · refine hu.resolve_left ?_
    rintro rfl
    exact absurd (hm.symm.trans h.1) (by decide)

/-- After an accepted `PUT` that set the time, a GET for the chat does not give it back. -/
lemma not_keepsUntil {before : List Request} {request : Request} {j : Json} {t : ℤ}
    (hfault : env.fault (after env storage (before ++ [request])).statements = none) (hk : k ≠ [])
    (hprofile : (after env storage before).store.HasProfile k)
    (hput : IsChatPut env k c (request, (serve env (after env storage before) request).1))
    (hj : bodyJson env request = some j) (hset : SetsUntil j t) :
    ¬ KeepsUntil env storage k c (before ++ [request]) := by
  intro h
  obtain ⟨response, hserve⟩ : ∃ response,
      (serve env (after env storage before) request).1 = .ok response := by
    rcases hserve : (serve env (after env storage before) request).1 with err | response
    · rw [hserve] at hput
      exact hput.elim
    · exact ⟨response, rfl⟩
  -- the user reads the chat under the ids that are stored
  have hkey : env.db.idKey k = some k := by
    obtain ⟨r, hr, rfl⟩ := List.mem_map.mp hprofile
    exact env.db.compared_of_holds ((after_valid env storage before).typed.profiles r hr).1
  have hchat : env.db.idKey c = some c := by
    rw [hserve] at hput
    exact env.db.compared_of_holds (Database.stored_holds hput.2.2.2.1)
  have hby : IsBy env k (requestBy k .get (str "/notifications/" ++ c) []) := ⟨hk, hkey⟩
  obtain ⟨shown, hshown, huntil⟩ := h before request [] j rfl hput (by simp [Mealy.trace]) hj
    (requestBy k .get (str "/notifications/" ++ c) []) c rfl rfl hby hchat
  rw [hshown.unique (getChat_shows hfault rfl rfl hby hchat)] at huntil
  exact absurd ((chatJson_mutedUntil _ _ _).symm.trans (huntil.set t hset)) (by simp)

end Until

/-- In every state of a run, every GET for a chat gives back the `mutedUntil` of the latest
accepted `PUT` for the chat, exactly when no valid `PUT` for a chat by a user with a profile
sets one; the statement of a `PUT` or a GET in any of the states is not to fail by itself, others
may. -/
theorem until_kept_iff (env : Env σ) (htimes : env.ReadsTimes) (storage : σ)
    (requests : List Request)
    (hfault : ∀ before, before <+: requests →
      env.fault (after env storage before).statements = none)
    (hids : env.DistinctIds (after env storage requests).statements) :
    (∀ k c before rest, k ≠ [] → c ≠ [] → requests = before ++ rest →
      KeepsUntil env storage k c before) ↔
      ∀ k c before request rest j t, k ≠ [] → c ≠ [] → requests = before ++ request :: rest →
        request.method = .put → str "/notifications/" <+: request.target →
        extractUserID request ≠ [] → storedUser env request = some k →
        env.db.stored env.db.schema.idType (request.target.drop 15) = some c →
        (after env storage before).store.HasProfile k → (bodyMuted env request).isSome →
        bodyJson env request = some j → ¬ SetsUntil j t := by
  have hchats := after_chatRowsOnly env storage
  constructor
  · intro h k c before request rest j t hk hc hsplit hm ht hu huser hchat hprofile hbody hj hset
    have hle : (after env storage before).statements ≤ (after env storage requests).statements := by
      rw [hsplit, after, after, Mealy.run_append]
      exact statements_le_run env (hchats before).valid _
    have hbefore : before ++ [request] <+: requests := ⟨rest, by simp [hsplit]⟩
    have hput := chatPut_accepted htimes (hfault before ⟨_, hsplit.symm⟩) (hchats before)
      (fun i j hij hj => hids i j hij (hj.trans hle)) hm ht hu huser hchat hprofile hbody
    exact not_keepsUntil (hfault _ hbefore) hk hprofile hput hj hset
      (h k c (before ++ [request]) rest hk hc (by simp [hsplit]))
  · intro h k c before rest hk hc hsplit before' request rest' j hsplit' hput _ hj read chatId hm
      ht hby hkey
    refine ⟨_, getChat_shows (hfault before ⟨rest, hsplit.symm⟩) hm ht hby hkey, fun t hset => ?_,
      fun _ => chatJson_mutedUntil _ _ _⟩
    obtain ⟨hprofile, hbody, hu⟩ := chatPut_valid (hchats before').valid hc hput
    obtain ⟨response, w', hserve, -⟩ := serve_effect env (hchats before').valid request
    rw [hserve] at hput
    obtain ⟨hmethod, htarget, huser, hchat, -⟩ := hput
    exact absurd hset (h k c before' request (rest' ++ rest) j t hk hc (by simp [hsplit, hsplit'])
      hmethod htarget hu huser hchat hprofile hbody hj)

/-- A user gets a profile and mutes a chat until the first second of 2030. -/
def untilRun : List Request :=
  [requestBy (str "gateway") .post (str "/internal/profiles")
      (str "\x7b\"user_id\":\"alice\"\x7d"),
    requestBy (str "alice") .put (str "/notifications/42")
      (str "\x7b\"mutedUntil\":\"2030-01-01T00:00:00Z\"\x7d")]

/-- The body of its second request. -/
def untilBody : Json := .object [(str "mutedUntil", .string (str "2030-01-01T00:00:00Z"))]

lemma untilBody_sets : SetsUntil untilBody 1893456000 := by
  refine ⟨by decide, by decide, ?_⟩
  have htext : rfc3339 1893456000 = str "2030-01-01T00:00:00Z" := by decide
  rw [htext]
  rfl

/-- On the standalone deployment the run does not meet the condition. -/
theorem until_kept_iff_set :
    ¬ ∀ k c before rest, k ≠ [] → c ≠ [] → untilRun = before ++ rest →
      KeepsUntil (Env.standalone .migrations) () k c before := by
  intro h
  have hids : (Env.standalone .migrations).DistinctIds
      (after (Env.standalone .migrations) () untilRun).statements := by
    have hcount : (after (Env.standalone .migrations) () untilRun).statements = 2 := by decide
    have hdistinct : ∀ j ≤ 2, ∀ i < j, (numbered i).1 ≠ (numbered j).1 := by decide
    rw [hcount]
    exact fun i j hij hj => hdistinct j hj i hij
  exact (until_kept_iff (Env.standalone .migrations) (fun _ => rfl) () untilRun
    (fun _ _ => rfl) hids).mp h (str "alice") (str "42") (untilRun.take 1) _ [] untilBody
    1893456000 (by decide) (by decide) rfl rfl (by decide) (by decide) (by decide) (by decide)
    (by decide) (by decide) rfl untilBody_sets

/-- The time that was accepted is not shown. -/
theorem until_not_kept :
    ¬ KeepsUntil (Env.standalone .migrations) () (str "alice") (str "42") untilRun := by
  have hsplit : untilRun = untilRun.take 1 ++ [requestBy (str "alice") .put
      (str "/notifications/42") (str "\x7b\"mutedUntil\":\"2030-01-01T00:00:00Z\"\x7d")] := rfl
  rw [hsplit]
  exact not_keepsUntil rfl (by decide) (by decide) (by decide) rfl untilBody_sets

end ProfileService
