/-
# The times of the latest changes

Of the rows that have an `updated_at`, those of `profiles` get the time of every statement that
writes them.  The two upserts of settings set it in the row they insert and leave it as it was in
the row they change: a row has the time of the latest request that wrote it as long as no PUT
finds a row that is there already.
-/
import ProfileService.Lib.Stamps
import ProfileService.PrivacySettings

namespace ProfileService

open Bytes (str)

variable {σ : Type}

/-! ## Events with their times -/

/-- The service answers a request; its last transaction started at the time. -/
def timedServe (env : Env σ) (w : World σ) (request : Request) :
    (Except Exn Response × ℤ) × World σ :=
  (((serve env w request).1, env.txnTime ((serve env w request).2.statements - 1)),
    (serve env w request).2)

/-- The event of a request that was answered, with the time. -/
def timedEvent (env : Env σ) (e : Request × (Except Exn Response × ℤ)) : Option (Event × ℤ) :=
  (eventOf env (e.1, e.2.1)).map fun event => (event, e.2.2)

/-- What was achieved by the requests, in order, with the times of the transactions. -/
def timedEvents (env : Env σ) (storage : σ) (requests : List Request) : List (Event × ℤ) :=
  (Mealy.trace (timedServe env) (World.start storage) requests).filterMap (timedEvent env)

lemma run_timedServe (env : Env σ) (storage : σ) (requests : List Request) :
    Mealy.run (timedServe env) (World.start storage) requests = after env storage requests := rfl

lemma timedEvents_concat (env : Env σ) (storage : σ) (requests : List Request)
    (request : Request) :
    timedEvents env storage (requests ++ [request]) = timedEvents env storage requests ++
      (timedEvent env
        (request, (timedServe env (after env storage requests) request).1)).toList := by
  rw [timedEvents, Mealy.trace_concat, List.filterMap_append, run_timedServe]
  congr 1

/-- The time at which an event wrote the row, if it did. -/
def ProfileRow.written (r : ProfileRow) : Event × ℤ → Option ℤ
  | (.created user, t) | (.patched user _ _ _ _, t) | (.avatarSet user _, t) =>
      if r.hasId user then some t else none
  | _ => none

@[inherit_doc ProfileRow.written]
def PrivacyRow.written (r : PrivacyRow) : Event × ℤ → Option ℤ
  | (.privacySet user _ _ _, t) => if r.hasUser user then some t else none
  | _ => none

@[inherit_doc ProfileRow.written]
def NotificationRow.written (r : NotificationRow) : Event × ℤ → Option ℤ
  | (.notificationsSet user chat _ _, t) => if r.hasKey user (some chat) then some t else none
  | _ => none

/-- In every row of the three tables `updated_at` is the time of the latest event that wrote the
row. -/
structure UpToDate (es : List (Event × ℤ)) (st : Store) : Prop where
  profiles : Table.Stamped (fun r => some r.updatedAt) ProfileRow.written es st.profiles
  privacySettings : Table.Stamped PrivacyRow.updatedAt PrivacyRow.written es st.privacySettings
  notificationSettings :
    Table.Stamped NotificationRow.updatedAt NotificationRow.written es st.notificationSettings

/-! ## The write of an event -/

section Write

variable {es : List (Event × ℤ)} {st : Store} {event : Event} {wr : Write} {now : ℤ}
  {rowId : Uuid}

/-- The event writes a row of settings that is there already, with another time in it. -/
def Stales (event : Event) (now : ℤ) (st : Store) : Prop :=
  (∃ r ∈ st.privacySettings, (r.written (event, now)).isSome ∧ r.updatedAt ≠ some now) ∨
    ∃ r ∈ st.notificationSettings, (r.written (event, now)).isSome ∧ r.updatedAt ≠ some now

/-- The write of an event that finds no settings with another time keeps the rows up to date. -/
lemma UpToDate.write (h : UpToDate es st) (hmakes : event.Makes st wr)
    (hfresh : ¬ Stales event now st) :
    UpToDate (es ++ [(event, now)]) (wr.apply .migrations now rowId st) := by
  rw [Stales, not_or] at hfresh
  cases event with
  | created user =>
    obtain rfl := hmakes
    refine ⟨h.profiles.insertOrUpdate (fun r hhit => ?_) (fun r _ hhit => ?_) ?_,
      h.privacySettings.concat fun _ => rfl, h.notificationSettings.concat fun _ => rfl⟩
    · simp [ProfileRow.written, hhit]
    · exact ⟨now, if_pos hhit, rfl⟩
    · exact ⟨now, by simp [ProfileRow.written, ProfileRow.hasId], rfl⟩
  | patched user firstName lastName username bio =>
    obtain ⟨_, -, -, rfl⟩ := hmakes
    refine ⟨h.profiles.update (fun r hhit => ?_) fun r _ hhit => ⟨now, if_pos hhit, rfl⟩,
      h.privacySettings.concat fun _ => rfl, h.notificationSettings.concat fun _ => rfl⟩
    simp [ProfileRow.written, hhit]
  | avatarSet user avatarUrl =>
    obtain rfl := hmakes
    refine ⟨h.profiles.update (fun r hhit => ?_) fun r _ hhit => ⟨now, if_pos hhit, rfl⟩,
      h.privacySettings.concat fun _ => rfl, h.notificationSettings.concat fun _ => rfl⟩
    simp [ProfileRow.written, hhit]
  | privacySet user profileVisibility lastSeenVisibility avatarVisibility =>
    obtain rfl := hmakes
    refine ⟨h.profiles.concat fun _ => rfl, h.privacySettings.insertOrUpdate (fun r hhit => ?_)
      (fun r hr hhit => ?_) ?_, h.notificationSettings.concat fun _ => rfl⟩
    · simp [PrivacyRow.written, hhit]
    · -- the row keeps its time, which is the time of the write
      refine ⟨now, if_pos hhit, ?_⟩
      by_contra hne
      exact hfresh.1 ⟨r, hr, by simp [PrivacyRow.written, hhit], hne⟩
    · exact ⟨now, by simp [PrivacyRow.written, PrivacyRow.hasUser], rfl⟩
  | notificationsSet user chat muted mutedUntil =>
    obtain rfl := hmakes
    refine ⟨h.profiles.concat fun _ => rfl, h.privacySettings.concat fun _ => rfl,
      h.notificationSettings.insertOrUpdate (fun r hhit => ?_) (fun r hr hhit => ?_) ?_⟩
    · simp [NotificationRow.written, hhit]
    · refine ⟨now, if_pos hhit, ?_⟩
      by_contra hne
      exact hfresh.2 ⟨r, hr, by simp [NotificationRow.written, hhit], hne⟩
    · exact ⟨now, by simp [NotificationRow.written, NotificationRow.hasKey], rfl⟩
  | contactAdded | contactRemoved | favoriteAdded | favoriteRemoved =>
    obtain rfl := hmakes
    exact ⟨h.profiles.concat fun _ => rfl, h.privacySettings.concat fun _ => rfl,
      h.notificationSettings.concat fun _ => rfl⟩

/-- Settings that were written over keep their time. -/
lemma UpToDate.not_stales (hmakes : event.Makes st wr)
    (h : UpToDate (es ++ [(event, now)]) (wr.apply .migrations now rowId st)) :
    ¬ Stales event now st := by
  rintro (⟨r, hr, hwritten, hne⟩ | ⟨r, hr, hwritten, hne⟩)
  · cases event with
    | privacySet user profileVisibility lastSeenVisibility avatarVisibility =>
      obtain rfl := hmakes
      have hhit : r.hasUser user = true := by
        by_contra hmiss
        simp [PrivacyRow.written, hmiss] at hwritten
      exact hne (h.privacySettings.eq_of_written (Table.mem_insertOrUpdate_of_hit hr hhit)
        (if_pos hhit))
    | created | patched | avatarSet | contactAdded | contactRemoved | favoriteAdded
    | favoriteRemoved | notificationsSet => exact absurd hwritten (by simp [PrivacyRow.written])
  · cases event with
    | notificationsSet user chat muted mutedUntil =>
      obtain rfl := hmakes
      have hhit : r.hasKey user (some chat) = true := by
        by_contra hmiss
        simp [NotificationRow.written, hmiss] at hwritten
      exact hne (h.notificationSettings.eq_of_written (Table.mem_insertOrUpdate_of_hit hr hhit)
        (if_pos hhit))
    | created | patched | avatarSet | contactAdded | contactRemoved | favoriteAdded
    | favoriteRemoved | privacySet => exact absurd hwritten (by simp [NotificationRow.written])

end Write

/-! ## The PUTs -/

section Put

variable {env : Env σ} {w w' : World σ} {request : Request} {response : Response}

/-- The request is a PUT of an identified user whose statement does not fail by itself, and its
event writes settings that are there already, with another time in them. -/
structure Overwrites (env : Env σ) (w : World σ) (request : Request) : Prop where
  method : request.method = .put
  user : extractUserID request ≠ []
  up : env.fault w.statements = none
  stales : ∃ event, (∀ response, requestedEvent env request response = some event) ∧
    Stales event (env.txnTime w.statements) w.store

/-- Rows of settings belong to profiles. -/
lemma hasProfile_of_privacy (hc : w.store.Constraints) {r : PrivacyRow} {k : Bytes}
    (hr : r ∈ w.store.privacySettings) (hhit : r.hasUser k = true) : w.store.HasProfile k := by
  rw [← beq_iff_eq.mp hhit]
  exact hc.privacy_user_id_fkey r hr

lemma exists_notificationsSet {event : Event} {chatId : Bytes}
    (h : notificationsSetEvent env request chatId = some event) :
    ∃ user chat muted mutedUntil, event = .notificationsSet user chat muted mutedUntil := by
  simp only [notificationsSetEvent, Option.bind_eq_bind, Option.bind_eq_some_iff,
    Option.some.injEq] at h
  obtain ⟨_, -, user, -, chat, -, muted, -, mutedUntil, -, rfl⟩ := h
  exact ⟨user, chat, muted, mutedUntil, rfl⟩

/-- The event of a PUT is known from the request. -/
lemma put_of_requested {event : Event} (hm : request.method = .put)
    (h : requestedEvent env request response = some event) :
    (request.target = str "/me/privacy" ∧ privacySetEvent env request = some event) ∨
    ∃ chatID, PutsSettings request chatID ∧
      notificationsSetEvent env request (chatID.getD []) = some event := by
  simp only [requestedEvent, hm] at h
  split_ifs at h with hprivacy hglobal hchat
  · exact Or.inl ⟨hprivacy, h⟩
  · exact Or.inr ⟨none, ⟨hm, Or.inl ⟨hglobal, rfl⟩⟩, h⟩
  · exact Or.inr ⟨_, ⟨hm, Or.inr ⟨by simpa using hchat, rfl⟩⟩, h⟩

/-- A PUT that writes settings over is answered, after one statement. -/
lemma Overwrites.answered (h : Overwrites env w request) (hc : w.store.Constraints) :
    ∃ w', serve env w request = (.ok (jsonResponse 204 request.version []), w') ∧
      w'.statements = w.statements + 1 := by
  obtain ⟨event, hevent, hstales⟩ := h.stales
  rcases put_of_requested h.method (hevent (jsonResponse 204 request.version [])) with
    ⟨ht, hset⟩ | ⟨chatID, hput, hset⟩
  · obtain ⟨user, p, l, a, rfl⟩ := exists_privacySet hset
    rcases hstales with ⟨r, hr, hwritten, -⟩ | ⟨r, -, hwritten, -⟩
    · have hhit : r.hasUser user = true := by
        by_contra hmiss
        simp [PrivacyRow.written, hmiss] at hwritten
      have htakes : TakesPrivacy env w request :=
        ⟨h.method, ht, h.user, h.up, user, p, l, a, hset, hasProfile_of_privacy hc hr hhit⟩
      obtain ⟨user', p', l', a', -, hserve⟩ := htakes.accepted hc
      exact ⟨_, hserve, rfl⟩
    · exact absurd hwritten (by simp [NotificationRow.written])
  · obtain ⟨user, chat, muted, mutedUntil, rfl⟩ := exists_notificationsSet hset
    rcases hstales with ⟨r, -, hwritten, -⟩ | ⟨r, hr, hwritten, -⟩
    · exact absurd hwritten (by simp [PrivacyRow.written])
    · have hhit : r.hasKey user (some chat) = true := by
        by_contra hmiss
        simp [NotificationRow.written, hmiss] at hwritten
      obtain ⟨id, hserve⟩ := serve_putSettings (σ := σ) hput h.user
      have hprofile : w.store.HasProfile user := by
        have hkey := hhit
        simp only [NotificationRow.hasKey, Bool.and_eq_true, beq_iff_eq] at hkey
        rw [← hkey.1]
        exact hc.notification_user_id_fkey r hr
      have hrun := run_putSettings_of_event (w := w.entering id) h.up hset
        (upsert_constraints hc hprofile fun hany => by
          rw [List.any_eq_false] at hany
          exact absurd hhit (hany r hr))
      exact ⟨_, (hserve env w).trans (Prog.run_tryCatch_ok (s := w.entering id) hrun), rfl⟩

/-- A request with a status of success whose event writes settings over is such a PUT. -/
lemma overwrites_of_stales (hserve : serve env w request = (.ok response, w')) {event : Event}
    {n : ℕ} (hevent : eventOf env (request, .ok response) = some event)
    (hlast : n + 1 = w'.statements)
    (hstales : Stales event (env.txnTime n) w.store) : Overwrites env w request := by
  have hok := status_of_event hevent
  have hrequested : requestedEvent env request response = some event :=
    (if_pos hok).symm.trans hevent
  obtain ⟨id, hid, hm, ht, huser, -, hrun⟩ := handler_of_event hserve hevent
  suffices h : request.method = .put ∧ env.fault w.statements = none ∧
      w'.statements = w.statements + 1 by
    obtain ⟨hput, hup, hstatements⟩ := h
    obtain rfl : n = w.statements := by omega
    refine ⟨hput, huser.resolve_left ?_, hup, event, fun response' => ?_, hstales⟩
    · rintro rfl
      exact absurd (hput.symm.trans hm) (by decide)
    · rw [← hrequested]
      simp only [requestedEvent, hput]
  cases event with
  | privacySet =>
    obtain rfl := List.mem_singleton.mp hid
    have hcore := core_of_ok hrun (fun e => by simp) (by omega)
    obtain ⟨hup, hstatements⟩ := runsOneStatement_updatePrivacy _ _ _ _ _ _ hcore (by omega)
    exact ⟨hm, hup, hstatements⟩
  | notificationsSet =>
    have hput : ∃ chatID, PutsSettings request chatID := by
      rcases List.mem_pair.mp hid with rfl | rfl
      · exact ⟨none, hm, Or.inl ⟨ht, rfl⟩⟩
      · exact ⟨_, hm, Or.inr ⟨ht, rfl⟩⟩
    obtain ⟨chatID, hput⟩ := hput
    have hu : extractUserID request ≠ [] := by
      refine huser.resolve_left ?_
      rintro rfl
      exact absurd (hput.1.symm.trans hm) (by decide)
    obtain ⟨id', hserve'⟩ := serve_putSettings (σ := σ) hput hu
    have hcore := core_of_ok ((hserve' env w).symm.trans hserve) (fun e => by simp) (by omega)
    obtain ⟨hup, hstatements⟩ := runsOneStatement_putSettings _ _ _ _ _ _ _ hcore (by omega)
    exact ⟨hput.1, hup, hstatements⟩
  | created | patched | avatarSet | contactAdded | contactRemoved | favoriteAdded
  | favoriteRemoved =>
    rcases hstales with ⟨r, -, hwritten, -⟩ | ⟨r, -, hwritten, -⟩
    · exact absurd hwritten (by simp [PrivacyRow.written])
    · exact absurd hwritten (by simp [NotificationRow.written])

end Put

/-! ## The result -/

/-- A request adds its event, if it is one, with the time of its write. -/
lemma timedEvents_write (env : Env σ) (storage : σ) (before : List Request) (request : Request) :
    (eventOf env (request, (serve env (after env storage before) request).1) = none ∧
      timedEvents env storage (before ++ [request]) = timedEvents env storage before ∧
      (after env storage (before ++ [request])).store = (after env storage before).store) ∨
    ∃ event wr n rowId response w', serve env (after env storage before) request =
        (.ok response, w') ∧
      eventOf env (request, .ok response) = some event ∧ n + 1 = w'.statements ∧
      event.Makes (after env storage before).store wr ∧
      timedEvents env storage (before ++ [request]) =
        timedEvents env storage before ++ [(event, env.txnTime n)] ∧
      (after env storage (before ++ [request])).store =
        wr.apply env.db.schema (env.txnTime n) rowId (after env storage before).store := by
  obtain ⟨response, w', hserve, heffect⟩ :=
    serve_effect env (after_valid env storage before) request
  have hafter : after env storage (before ++ [request]) = w' := by
    rw [after, Mealy.run_concat]
    exact congrArg Prod.snd hserve
  have htimed : timedEvent env (request, (timedServe env (after env storage before) request).1) =
      (eventOf env (request, .ok response)).map fun event =>
        (event, env.txnTime (w'.statements - 1)) := by
    simp only [timedEvent, timedServe, hserve]
  rw [timedEvents_concat, htimed, hafter]
  cases heffect with
  | unchanged hle hstore hidle =>
    rw [hserve, eventOf_of_idle hidle]
    exact Or.inl ⟨rfl, List.append_nil _, hstore⟩
  | written event wr n hle hlast hevent hmakes hfits hstore hc =>
    have hn : w'.statements - 1 = n := by omega
    rw [hevent, hn]
    exact Or.inr ⟨event, wr, n, _, response, w', hserve, hevent, hlast, hmakes, rfl, hstore⟩

/-- The step of a run under `migrations/001_init.sql`. -/
lemma timedEvents_step {env : Env σ} (hschema : env.db.schema = .migrations) (storage : σ)
    (before : List Request) (request : Request) :
    (eventOf env (request, (serve env (after env storage before) request).1) = none ∧
      timedEvents env storage (before ++ [request]) = timedEvents env storage before ∧
      (after env storage (before ++ [request])).store = (after env storage before).store) ∨
    ∃ event wr n rowId response w', serve env (after env storage before) request =
        (.ok response, w') ∧
      eventOf env (request, .ok response) = some event ∧ n + 1 = w'.statements ∧
      event.Makes (after env storage before).store wr ∧
      timedEvents env storage (before ++ [request]) =
        timedEvents env storage before ++ [(event, env.txnTime n)] ∧
      (after env storage (before ++ [request])).store =
        wr.apply .migrations (env.txnTime n) rowId (after env storage before).store := by
  rw [← hschema]
  exact timedEvents_write env storage before request

/-- Under `migrations/001_init.sql`, in every state of a run `updated_at` is in every row the time
of the latest successful request that wrote it, exactly when no PUT of the run that is taken finds
settings that are there already, with another time in them. -/
theorem updated_at_iff (env : Env σ) (hschema : env.db.schema = .migrations) (storage : σ)
    (requests : List Request) :
    (∀ before, before <+: requests →
      UpToDate (timedEvents env storage before) (after env storage before).store) ↔
    ∀ before request, before ++ [request] <+: requests →
      ¬ Overwrites env (after env storage before) request := by
  constructor
  · intro h before request hstep hover
    have hafter := h _ hstep
    obtain ⟨w₁, hanswer, hstatements⟩ :=
      hover.answered (after_valid env storage before).constraints
    obtain ⟨event, hrequested, hstales⟩ := hover.stales
    have hok : 200 ≤ (jsonResponse 204 request.version []).status ∧
        (jsonResponse 204 request.version []).status < 300 := by simp
    have hevent :
        eventOf env (request, .ok (jsonResponse 204 request.version [])) = some event := by
      rw [eventOf, if_pos hok]
      exact hrequested _
    rcases timedEvents_step hschema storage before request with ⟨hnone, -⟩ |
      ⟨event', wr, n, rowId, response, w', hserve, hevent', hlast, hmakes, htimed, hstore⟩
    · rw [hanswer, hevent] at hnone
      exact absurd hnone (by simp)
    · obtain ⟨hresponse, rfl⟩ := Prod.mk.inj (hanswer.symm.trans hserve)
      obtain rfl := Except.ok.inj hresponse
      obtain rfl := Option.some.inj (hevent.symm.trans hevent')
      obtain rfl : n = (after env storage before).statements := by omega
      rw [htimed, hstore] at hafter
      exact hafter.not_stales hmakes hstales
  · intro hgood before hbefore
    induction before using List.reverseRecOn with
    | nil => exact ⟨.nil, .nil, .nil⟩
    | append_singleton before request ih =>
      replace ih := ih ((List.prefix_append before [request]).trans hbefore)
      rcases timedEvents_step hschema storage before request with ⟨-, htimed, hstore⟩ |
        ⟨event, wr, n, rowId, response, w', hserve, hevent, hlast, hmakes, htimed, hstore⟩
      · rwa [htimed, hstore]
      · rw [htimed, hstore]
        refine ih.write hmakes fun hstales => hgood before request hbefore ?_
        exact overwrites_of_stales hserve hevent hlast hstales

/-- The user lets nobody see the profile. -/
def putNobody : Request :=
  requestBy (str "alice") .put (str "/me/privacy")
    (str "\x7b\"profile_visibility\":\"nobody\"\x7d")

/-- A user puts settings once, and the rows are up to date. -/
theorem updated_at_iff_once :
    UpToDate (timedEvents (Env.standalone .migrations) () (aliceRun ++ [putNobody]))
      (after (Env.standalone .migrations) () (aliceRun ++ [putNobody])).store := by
  refine (updated_at_iff (Env.standalone .migrations) rfl () (aliceRun ++ [putNobody])).mpr ?_ _
    (List.prefix_refl _)
  intro before request hstep hover
  rcases List.prefix_concat_iff.mp hstep with heq | hprefix
  · obtain ⟨rfl, -⟩ := List.append_inj' heq rfl
    have hnone : (after (Env.standalone .migrations) () aliceRun).store.privacySettings = [] ∧
        (after (Env.standalone .migrations) () aliceRun).store.notificationSettings = [] := by
      decide
    obtain ⟨event, -, ⟨r, hr, -⟩ | ⟨r, hr, -⟩⟩ := hover.stales
    · rw [hnone.1] at hr
      exact absurd hr (by simp)
    · rw [hnone.2] at hr
      exact absurd hr (by simp)
  · have hmem : request ∈ aliceRun := hprefix.subset (by simp)
    obtain rfl := List.mem_singleton.mp hmem
    exact absurd hover.method (by decide)

/-- A second PUT of settings leaves the time of the first one. -/
theorem stale_updated_at :
    ∃ r ∈ (after (Env.standalone .migrations) ()
        (aliceRun ++ [putFriends, putNobody])).store.privacySettings,
      r.profileVisibility = str "nobody" ∧ r.updatedAt = some 1000000 ∧
      Mealy.latest r.written (timedEvents (Env.standalone .migrations) ()
        (aliceRun ++ [putFriends, putNobody])) = some 2000000 := by
  decide

end ProfileService
