/-
# What the reads show

On a database that is up, the answer to each GET as a function of the tables: the JSON of
the rows that its statement selects, or the default or failure when there is none.
-/
import ProfileService.Effects

namespace ProfileService

open Bytes (str)

variable {σ : Type}

/-- No statement fails for reasons of its own. -/
def Env.Available (env : Env σ) : Prop := ∀ n, env.fault n = none

/-- The request is answered with the status 200 and this JSON value. -/
def Shows (env : Env σ) (w : World σ) (request : Request) (j : Json) : Prop :=
  ∃ response w', serve env w request = (.ok response, w') ∧ response.status = 200 ∧
    env.json.parse response.body = .ok j

/-- The request is answered with this status. -/
def AnswersWith (env : Env σ) (w : World σ) (request : Request) (status : ℕ) : Prop :=
  ∃ response w', serve env w request = (.ok response, w') ∧ response.status = status

/-- The request is by the user with the id `k`. -/
def IsBy (env : Env σ) (k : Bytes) (request : Request) : Prop :=
  extractUserID request ≠ [] ∧ env.db.idKey (extractUserID request) = some k

instance (env : Env σ) (k : Bytes) (request : Request) : Decidable (IsBy env k request) :=
  inferInstanceAs (Decidable (_ ∧ _))

section Shows

variable {env : Env σ} {w : World σ} {request : Request}

lemma Shows.unique {j j' : Json} (h : Shows env w request j) (h' : Shows env w request j') :
    j = j' := by
  obtain ⟨response, w₁, hserve, -, hj⟩ := h
  obtain ⟨response', w₂, hserve', -, hj'⟩ := h'
  obtain ⟨hresponse, -⟩ := Prod.mk.inj (hserve.symm.trans hserve')
  obtain rfl := Except.ok.inj hresponse
  exact Except.ok.inj (hj.symm.trans hj')

lemma Shows.answersWith {j : Json} (h : Shows env w request j) :
    AnswersWith env w request 200 := by
  obtain ⟨response, w', hserve, hstatus, -⟩ := h
  exact ⟨response, w', hserve, hstatus⟩

lemma AnswersWith.unique {n n' : ℕ} (h : AnswersWith env w request n)
    (h' : AnswersWith env w request n') : n = n' := by
  obtain ⟨response, w₁, hserve, rfl⟩ := h
  obtain ⟨response', w₂, hserve', rfl⟩ := h'
  obtain ⟨hresponse, -⟩ := Prod.mk.inj (hserve.symm.trans hserve')
  rw [Except.ok.inj hresponse]

/-- A request whose body prints a value is answered with its text. -/
lemma answer_of_run {id : HandlerId} {core : Svc σ Response} {answer : Exn → Svc σ Response}
    {w' : World σ} {j : Json}
    (hserve : serve env w request = (do enter id; tryCatch core answer : Svc σ Response).run env w)
    (hrun : core.run env (w.entering id) = (dumpResponse 200 request j).run env w')
    (hutf8 : j.Utf8) :
    ∃ text, env.json.dump j = .ok text ∧
      serve env w request = (.ok (jsonResponse 200 request.version text), w') := by
  obtain ⟨text, htext, hdump⟩ := run_dumpResponse env w' 200 request hutf8
  exact ⟨text, htext,
    hserve.trans (Prog.run_tryCatch_ok (s := w.entering id) (hrun.trans hdump))⟩

/-- A request whose body prints a value shows it. -/
lemma shows_of_run {id : HandlerId} {core : Svc σ Response} {answer : Exn → Svc σ Response}
    {w' : World σ} {j : Json}
    (hserve : serve env w request = (do enter id; tryCatch core answer : Svc σ Response).run env w)
    (hrun : core.run env (w.entering id) = (dumpResponse 200 request j).run env w')
    (hutf8 : j.Utf8) (hsorted : j.Sorted) : Shows env w request j := by
  obtain ⟨text, htext, hbody⟩ := answer_of_run hserve hrun hutf8
  exact ⟨_, _, hbody, rfl, env.json.parse_dump hutf8 hsorted htext⟩

/-- What a request shows whose body prints a value or reports a failure. -/
lemma Shows.eq_of_dump {α : Type} {id : HandlerId} {x : Svc σ α} {f : α → Json}
    {answer : Exn → Response} {j : Json} (h : Shows env w request j)
    (hserve : serve env w request = (do
      enter id
      tryCatch
        (do
          let a ← x
          dumpResponse 200 request (f a))
        fun e => pure (answer e) : Svc σ Response).run env w)
    (hanswer : ∀ e, (answer e).status ≠ 200) (hsorted : ∀ a, (f a).Sorted) :
    ∃ a w', x.run env (w.entering id) = (.ok a, w') ∧ j = f a := by
  obtain ⟨response, w₁, hresponse, hstatus, hparse⟩ := h
  rw [hserve] at hresponse
  have hfail : ∀ {err : Exn} {w₂ : World σ}, (do
      let a ← x
      dumpResponse 200 request (f a) : Svc σ Response).run env (w.entering id) =
        (.error err, w₂) → False := by
    intro err w₂ hrun
    have hanswered := (Prog.run_tryCatch_error (h := fun e => pure (answer e)) hrun).symm.trans
      hresponse
    exact hanswer err (Except.ok.inj (Prod.mk.inj hanswered).1 ▸ hstatus)
  rcases hrun : x.run env (w.entering id) with ⟨err | a, w'⟩
  · exact (hfail (Prog.run_bind_error hrun)).elim
  refine ⟨a, w', rfl, ?_⟩
  by_cases hutf8 : (f a).Utf8
  · obtain ⟨text, htext, hdump⟩ := run_dumpResponse env w' 200 request hutf8
    have hanswered := (Prog.run_tryCatch_ok (h := fun e => pure (answer e))
      ((Prog.run_bind_ok hrun).trans hdump)).symm.trans hresponse
    rw [← Except.ok.inj (Prod.mk.inj hanswered).1] at hparse
    exact Except.ok.inj (hparse.symm.trans (env.json.parse_dump hutf8 (hsorted a) htext))
  · obtain ⟨err, herr⟩ := env.json.dump_error hutf8
    have hdump : (dumpResponse 200 request (f a) : Svc σ Response).run env w' =
        (.error err, w') := by
      refine Prog.run_bind_error ?_
      simp only [Prog.run, dump, herr]
    exact (hfail ((Prog.run_bind_ok hrun).trans hdump)).elim

/-- A request whose body throws is answered by the handler of the exception. -/
lemma answer_of_throw {id : HandlerId} {core : Svc σ Response} {answer : Exn → Response}
    {w' : World σ} {err : Exn}
    (hserve : serve env w request =
      (do enter id; tryCatch core fun e => pure (answer e) : Svc σ Response).run env w)
    (hrun : core.run env (w.entering id) = (.error err, w')) :
    serve env w request = (.ok (answer err), w') :=
  hserve.trans (Prog.run_tryCatch_error (s := w.entering id) hrun)

lemma answersWith_of_throw {id : HandlerId} {core : Svc σ Response} {answer : Exn → Response}
    {w' : World σ} {err : Exn} {status : ℕ}
    (hserve : serve env w request =
      (do enter id; tryCatch core fun e => pure (answer e) : Svc σ Response).run env w)
    (hrun : core.run env (w.entering id) = (.error err, w'))
    (hstatus : (answer err).status = status) : AnswersWith env w request status :=
  ⟨_, _, answer_of_throw hserve hrun, hstatus⟩

end Shows

/-! ## Steps that succeed -/

/-- A conversion that succeeds. -/
lemma run_convert (env : Env σ) (w : World σ) {α : Type} {x : Except Exn α} {a : α}
    (h : x.toOption = some a) : (convert x : Svc σ α).run env w = (.ok a, w) := by
  cases x with
  | error err => exact absurd h (by simp [Except.toOption])
  | ok b =>
    rw [← Option.some.inj h]
    rfl

lemma run_convert_error (env : Env σ) (w : World σ) {α : Type} {x : Except Exn α} {err : Exn}
    (h : x = .error err) : (convert x : Svc σ α).run env w = (.error err, w) := by
  rw [h]
  rfl

/-- The body of the request is parsed. -/
lemma run_parse {env : Env σ} (w : World σ) {request : Request} {j : Json}
    (h : bodyJson env request = some j) :
    (parse request.body : Svc σ Json).run env w = (.ok j, w) := run_convert env w h

section Statements

variable {env : Env σ}

lemma run_executeSelect {w : World σ} (hfault : env.fault w.statements = none)
    {query : Query} {params : List DbValue} {rows : List Row}
    (hwrite : query.write env.db (params.map convertValueToPQXX) = none)
    (hrows : query.select env.db w.store (params.map convertValueToPQXX) = some rows) :
    (executeSelect query params : Svc σ (List Row)).run env w =
      (.ok rows, w.afterStatement w.store) := by
  have hs : Succeeds env w query params w.store rows :=
    ⟨hfault, by rw [Query.exec_select hwrite, hrows]; rfl⟩
  exact hs.run

lemma run_executeSelect_refused {w : World σ} (hfault : env.fault w.statements = none)
    {query : Query} {params : List DbValue}
    (hwrite : query.write env.db (params.map convertValueToPQXX) = none)
    (hrows : query.select env.db w.store (params.map convertValueToPQXX) = none) :
    (executeSelect query params : Svc σ (List Row)).run env w =
      (.error (env.refusal w.statements), w.afterStatement w.store) := by
  simp only [executeSelect, executeParams, Prog.run, hfault,
    Query.exec_select hwrite, hrows]
  rfl

/-- A statement that fails for a reason of its own. -/
lemma run_executeSelect_fault {w : World σ} {err : Exn}
    (hfault : env.fault w.statements = some err) (query : Query) (params : List DbValue) :
    (executeSelect query params : Svc σ (List Row)).run env w =
      (.error err, w.afterStatement w.store) := by
  simp only [executeSelect, executeParams, Prog.run, hfault]
  rfl

/-- A `SELECT` that fails or is refused. -/
lemma run_executeSelect_unread {w : World σ} (query : Query) (params : List DbValue)
    (hwrite : query.write env.db (params.map convertValueToPQXX) = none)
    (hrows : env.fault w.statements = none →
      query.select env.db w.store (params.map convertValueToPQXX) = none) :
    ∃ err, (executeSelect query params : Svc σ (List Row)).run env w =
      (.error err, w.afterStatement w.store) := by
  rcases hfault : env.fault w.statements with _ | err
  · exact ⟨_, run_executeSelect_refused hfault hwrite (hrows hfault)⟩
  · exact ⟨err, run_executeSelect_fault hfault query params⟩

/-- A write whose result meets the constraints is made. -/
lemma run_executeModify {w : World σ} (hfault : env.fault w.statements = none)
    {query : Query} {params : List DbValue} {wr : Write}
    (hwrite : query.write env.db (params.map convertValueToPQXX) = some wr)
    (hc : (wr.apply env.db.schema (env.txnTime w.statements) (env.rowId w.statements)
      w.store).Constraints) :
    (executeModify query params : Svc σ Unit).run env w =
      (.ok (), w.afterStatement
        (wr.apply env.db.schema (env.txnTime w.statements) (env.rowId w.statements) w.store)) := by
  have hs : Succeeds env w query params _ _ :=
    ⟨hfault, (Query.exec_write hwrite).trans (if_pos hc)⟩
  exact Prog.run_bind_ok hs.run

end Statements

/-! ## Profiles -/

/-- The profile with the id. -/
def Store.profile (st : Store) (k : Bytes) : Option ProfileRow :=
  st.profiles.find? (ProfileRow.hasId k)

lemma Store.profile_mem {st : Store} {k : Bytes} {r : ProfileRow} (h : st.profile k = some r) :
    r ∈ st.profiles ∧ r.userId = k := by
  refine ⟨List.mem_of_find?_eq_some h, ?_⟩
  have hhit := List.find?_some h
  simpa [ProfileRow.hasId] using hhit

/-- The ids are unique, so any row with the id is the one that is found. -/
lemma Store.profile_of_mem {st : Store} (hc : st.Constraints) {r : ProfileRow}
    (h : r ∈ st.profiles) : st.profile r.userId = some r := by
  rcases hf : st.profile r.userId with _ | r'
  · rw [Store.profile, List.find?_eq_none] at hf
    exact absurd (by simp [ProfileRow.hasId]) (hf r h)
  · obtain ⟨hmem, hid⟩ := Store.profile_mem hf
    rw [List.inj_on_of_nodup_map hc.profiles_pkey hmem h hid]

section Profiles

variable {env : Env σ}

/-- The profile that is made of a row, with two readings of the clock. -/
def ProfileRow.read (env : Env σ) (w : World σ) (r : ProfileRow) : Profile :=
  ⟨r.userId, r.firstName, r.lastName, r.username, r.bio, r.avatarUrl,
    env.clock w.readings, env.clock (w.readings + 1)⟩

lemma run_getByID {w : World σ} (hfault : env.fault w.statements = none) {v k : Bytes}
    {r : ProfileRow}
    (hk : env.db.idKey v = some k) (hr : w.store.profile k = some r) :
    (ProfileRepository.getByID v).run env w =
      (.ok (r.read env w), (w.afterStatement w.store).afterReadings 2) := by
  have hselect : Query.getProfileByID.select env.db w.store
      ([.string v].map convertValueToPQXX) =
        some ((w.store.profiles.filter (ProfileRow.hasId k)).map (ProfileRow.result env.db)) :=
    Option.bind_eq_some_iff.mpr ⟨k, hk, rfl⟩
  rw [ProfileRepository.getByID, Prog.run_bind_ok (run_executeSelect hfault rfl hselect)]
  rw [Store.profile, ← List.head?_filter] at hr
  obtain ⟨rest, hrows⟩ := List.head?_eq_some_iff.mp hr
  rw [hrows]
  exact run_profileMapRow env _ env.db r

lemma run_getByID_fault {w : World σ} {err : Exn} (hfault : env.fault w.statements = some err)
    (v : Bytes) :
    (ProfileRepository.getByID v).run env w = (.error err, w.afterStatement w.store) :=
  Prog.run_bind_error (run_executeSelect_fault hfault _ _)

lemma run_getByID_none {w : World σ} (hfault : env.fault w.statements = none) {v : Bytes}
    (h : ∀ k, env.db.idKey v = some k → w.store.profile k = none) :
    ∃ err w', (ProfileRepository.getByID v).run env w = (.error err, w') := by
  rcases hk : env.db.idKey v with _ | k
  · have hselect : Query.getProfileByID.select env.db w.store
        ([.string v].map convertValueToPQXX) = none := Option.bind_eq_none_iff.mpr
      fun k h => absurd (hk.symm.trans h) (by simp)
    exact ⟨_, _, Prog.run_bind_error (run_executeSelect_refused hfault rfl hselect)⟩
  · have hselect : Query.getProfileByID.select env.db w.store
        ([.string v].map convertValueToPQXX) =
          some ((w.store.profiles.filter (ProfileRow.hasId k)).map (ProfileRow.result env.db)) :=
      Option.bind_eq_some_iff.mpr ⟨k, hk, rfl⟩
    have hnone := h k hk
    rw [Store.profile, ← List.head?_filter, List.head?_eq_none_iff] at hnone
    rw [ProfileRepository.getByID, Prog.run_bind_ok (run_executeSelect hfault rfl hselect),
      hnone]
    exact ⟨_, _, rfl⟩

/-- A GET of the profile of `u`: `GET /me` by `u`, or `GET /u` when it is routed so. -/
def ReadsProfile (u : Bytes) (request : Request) : Prop :=
  request.method = .get ∧ extractUserID request ≠ [] ∧
    ((request.target = str "/me" ∧ extractUserID request = u) ∨
      (u ≠ [] ∧ request.target = str "/" ++ u ∧
        ∃ info, resolveRoute request.target .get = some info ∧ info.id = .getProfileByID))

variable {w : World σ} {request : Request} {u : Bytes}

variable (env w) in
lemma serve_getProfile (h : ReadsProfile u request) :
    ∃ id, serve env w request = (do
      enter id
      tryCatch
        (do
          let profile ← ProfileRepository.getByID u
          dumpResponse 200 request (ProfileHandler.profileJson profile))
        fun _ => pure (errorResponse 404 request.version (str "profile not found")) :
        Svc σ Response).run env w := by
  obtain ⟨hm, huser, ⟨ht, rfl⟩ | ⟨hu, ht, info, hroute, hid⟩⟩ := h
  · have hid : request.method = HandlerId.getMyProfile.method := hm
    exact ⟨.getMyProfile, serve_eq_body hid ht (Or.inr huser)⟩
  · obtain ⟨-, haccepts, -⟩ := resolveRoute_sound hroute
    rw [hid] at haccepts
    have hid' : request.method = HandlerId.getProfileByID.method := hm
    have hdrop : request.target.drop 1 = u := by
      rw [ht]
      rfl
    have hfind : request.context.find (str "user_id") = some u := by
      rw [Request.find_profile haccepts, hdrop, if_neg hu]
    refine ⟨.getProfileByID, (serve_eq_body hid' haccepts (Or.inr huser)).trans ?_⟩
    simp only [HandlerId.body, ProfileHandler.handleGetProfileByID, hfind]

lemma profileJson_utf8 {schema : Schema} {st : Store} (hv : st.Valid schema) {r : ProfileRow}
    (hr : r ∈ st.profiles) (env : Env σ) (w : World σ) :
    (ProfileHandler.profileJson (r.read env w)).Utf8 := by
  obtain ⟨hid, hfirst, hlast, huser, hbio, havatar⟩ := hv.typed.profiles r hr
  have hname := Schema.nameType_holds_nil schema
  refine Json.ofMembers_utf8 ?_
  simp only [List.forall_mem_cons, Json.utf8_string, Json.utf8_integer]
  exact ⟨⟨rfl, hid.utf8⟩, ⟨rfl, (hfirst.getD hname).utf8⟩,
    ⟨rfl, (hlast.getD hname).utf8⟩,
    ⟨rfl, (huser.getD (Schema.usernameType_holds_nil schema)).utf8⟩,
    ⟨rfl, (hbio.getD ColumnType.holds_nil_text).utf8⟩,
    ⟨rfl, (havatar.getD ColumnType.holds_nil_text).utf8⟩, ⟨rfl, trivial⟩,
    ⟨rfl, trivial⟩, by simp⟩

/-- A GET of a profile is answered with the JSON of its row. -/
lemma getProfile_answer (hfault : env.fault w.statements = none)
    (hv : w.store.Valid env.db.schema) (h : ReadsProfile u request) {k : Bytes} {r : ProfileRow}
    (hk : env.db.idKey u = some k) (hr : w.store.profile k = some r) :
    ∃ text, env.json.dump (ProfileHandler.profileJson (r.read env w)) = .ok text ∧
      (serve env w request).1 = .ok (jsonResponse 200 request.version text) := by
  obtain ⟨id, hserve⟩ := serve_getProfile env w h
  have hget := run_getByID (w := w.entering id) hfault hk hr
  obtain ⟨text, htext, hanswer⟩ := answer_of_run hserve (Prog.run_bind_ok hget)
    (profileJson_utf8 hv (Store.profile_mem hr).1 env w)
  exact ⟨text, htext, congrArg Prod.fst hanswer⟩

/-- A GET of a profile shows its row. -/
lemma getProfile_shows (hfault : env.fault w.statements = none)
    (hv : w.store.Valid env.db.schema)
    (h : ReadsProfile u request) {k : Bytes} {r : ProfileRow} (hk : env.db.idKey u = some k)
    (hr : w.store.profile k = some r) :
    Shows env w request (ProfileHandler.profileJson (r.read env w)) := by
  obtain ⟨id, hserve⟩ := serve_getProfile env w h
  have hget := run_getByID (w := w.entering id) hfault hk hr
  exact shows_of_run hserve (Prog.run_bind_ok hget)
    (profileJson_utf8 hv (Store.profile_mem hr).1 env w) (Json.ofMembers_sorted (by simp))

/-- A GET of a profile that there is not, or whose statement fails. -/
lemma getProfile_missing (h : ReadsProfile u request)
    (hnone : env.fault w.statements = none →
      ∀ k, env.db.idKey u = some k → w.store.profile k = none) :
    (serve env w request).1 =
      .ok (errorResponse 404 request.version (str "profile not found")) := by
  obtain ⟨id, hserve⟩ := serve_getProfile env w h
  obtain ⟨err, w', hget⟩ : ∃ err w',
      (ProfileRepository.getByID u).run env (w.entering id) = (.error err, w') := by
    rcases hfault : env.fault w.statements with _ | err
    · exact run_getByID_none (w := w.entering id) hfault (hnone hfault)
    · exact ⟨_, _, run_getByID_fault (w := w.entering id) hfault u⟩
  exact congrArg Prod.fst (answer_of_throw hserve (Prog.run_bind_error hget))

/-- A GET of a profile that there is not. -/
lemma getProfile_fails (h : ReadsProfile u request)
    (hnone : ∀ k, env.db.idKey u = some k → w.store.profile k = none) :
    AnswersWith env w request 404 :=
  ⟨_, _, Prod.ext (getProfile_missing h fun _ => hnone) rfl, rfl⟩

end Profiles

/-! ## Notification settings -/

/-- The settings of a user for a chat, and with `none` the global ones: the first row that
the server returns. -/
def Store.notifications (st : Store) (k : Bytes) (c : Option Bytes) : Option NotificationRow :=
  st.notificationSettings.find? (NotificationRow.hasKey k c)

/-- What `NotificationRepository::Get` makes of the first row, or of there being none. -/
def readSettings (userId : Bytes) (chatId : Option Bytes) :
    Option NotificationRow → NotificationSettings
  | some r => ⟨r.id, r.userId, r.chatId, r.muted, none⟩
  | none => ⟨[], userId, some (chatId.getD []), false, none⟩

lemma readSettings_muted (userId : Bytes) (chatId : Option Bytes) (r : Option NotificationRow) :
    (readSettings userId chatId r).muted = (r.map NotificationRow.muted).getD false := by
  cases r <;> rfl

lemma readSettings_mutedUntil (userId : Bytes) (chatId : Option Bytes)
    (r : Option NotificationRow) : (readSettings userId chatId r).mutedUntil = none := by
  cases r <;> rfl

section Notifications

variable {env : Env σ}

/-- The global settings are read when the statement does not fail by itself. -/
lemma run_getGlobal_of_fault {w : World σ} (hfault : env.fault w.statements = none)
    {userId k : Bytes} (hk : env.db.idKey userId = some k) :
    (NotificationRepository.get userId none).run env w =
      (.ok (readSettings userId none (w.store.notifications k none)),
        w.afterStatement w.store) := by
  have hselect : Query.getGlobalNotifications.select env.db w.store
      ([.string userId].map convertValueToPQXX) =
        some ((w.store.notificationSettings.filter (NotificationRow.hasKey k none)).map
          (NotificationRow.result env.db)) := Option.bind_eq_some_iff.mpr ⟨k, hk, rfl⟩
  rw [NotificationRepository.get, Prog.run_bind_ok (run_executeSelect hfault rfl hselect),
    Store.notifications, ← List.head?_filter]
  -- the first row is mapped
  cases w.store.notificationSettings.filter (NotificationRow.hasKey k none) with
  | nil => rfl
  | cons r rs => exact run_notificationMapRow env _ env.db r

lemma run_getGlobal (havail : env.Available) (w : World σ) {userId k : Bytes}
    (hk : env.db.idKey userId = some k) :
    (NotificationRepository.get userId none).run env w =
      (.ok (readSettings userId none (w.store.notifications k none)),
        w.afterStatement w.store) := run_getGlobal_of_fault (havail _) hk

lemma run_getGlobal_refused (havail : env.Available) (w : World σ) {userId : Bytes}
    (hk : env.db.idKey userId = none) :
    (NotificationRepository.get userId none).run env w =
      (.error (env.refusal w.statements), w.afterStatement w.store) := by
  have hselect : Query.getGlobalNotifications.select env.db w.store
      ([.string userId].map convertValueToPQXX) = none := Option.bind_eq_none_iff.mpr
    fun k h => absurd (hk.symm.trans h) (by simp)
  rw [NotificationRepository.get,
    Prog.run_bind_error (run_executeSelect_refused (havail _) rfl hselect)]

lemma run_getChat {w : World σ} (hfault : env.fault w.statements = none)
    {userId chatId k c : Bytes} (hk : env.db.idKey userId = some k)
    (hc : env.db.idKey chatId = some c) :
    (NotificationRepository.get userId (some chatId)).run env w =
      (.ok (readSettings userId (some chatId) (w.store.notifications k (some c))),
        w.afterStatement w.store) := by
  have hselect : Query.getChatNotifications.select env.db w.store
      ([.string userId, .string chatId].map convertValueToPQXX) =
        some ((w.store.notificationSettings.filter (NotificationRow.hasKey k (some c))).map
          (NotificationRow.result env.db)) :=
    Option.bind_eq_some_iff.mpr ⟨k, hk, Option.bind_eq_some_iff.mpr ⟨c, hc, rfl⟩⟩
  rw [NotificationRepository.get, Prog.run_bind_ok (run_executeSelect hfault rfl hselect),
    Store.notifications, ← List.head?_filter]
  -- the first row is mapped
  cases w.store.notificationSettings.filter (NotificationRow.hasKey k (some c)) with
  | nil => rfl
  | cons r rs => exact run_notificationMapRow env _ env.db r

lemma run_getChat_refused (havail : env.Available) (w : World σ) {userId chatId : Bytes}
    (h : env.db.idKey userId = none ∨ env.db.idKey chatId = none) :
    (NotificationRepository.get userId (some chatId)).run env w =
      (.error (env.refusal w.statements), w.afterStatement w.store) := by
  have hselect : Query.getChatNotifications.select env.db w.store
      ([.string userId, .string chatId].map convertValueToPQXX) = none := by
    refine Option.bind_eq_none_iff.mpr fun k hk => Option.bind_eq_none_iff.mpr fun c hc => ?_
    rcases h with h | h
    · exact absurd (h.symm.trans hk) (by simp)
    · exact absurd (h.symm.trans hc) (by simp)
  rw [NotificationRepository.get,
    Prog.run_bind_error (run_executeSelect_refused (havail _) rfl hselect)]

lemma Store.notifications_typed {st : Store} {schema : Schema} (hv : st.Valid schema) {k : Bytes}
    {c : Option Bytes} {r : NotificationRow} (h : st.notifications k c = some r) :
    schema.rowIdType.Holds r.id ∧ schema.idType.Holds r.userId ∧
      HoldsOption schema.idType r.chatId :=
  hv.typed.notificationSettings r (List.mem_of_find?_eq_some h)

/-- The settings that are read print. -/
lemma readSettings_utf8 {st : Store} {schema : Schema} (hv : st.Valid schema) {userId k : Bytes}
    (hu : userId.ValidUtf8) {chatId c : Option Bytes} (hc : ∀ s, chatId = some s → s.ValidUtf8) :
    (readSettings userId chatId (st.notifications k c)).id.ValidUtf8 ∧
      (readSettings userId chatId (st.notifications k c)).userID.ValidUtf8 ∧
      ∀ s, (readSettings userId chatId (st.notifications k c)).chatID = some s → s.ValidUtf8 := by
  rcases h : st.notifications k c with _ | r
  · refine ⟨Bytes.validUtf8_nil, hu, fun s hs => ?_⟩
    obtain rfl := Option.some.inj hs
    cases chatId with
    | none => exact Bytes.validUtf8_nil
    | some s => exact hc s rfl
  · obtain ⟨h1, h2, h3⟩ := Store.notifications_typed hv h
    exact ⟨h1.utf8, h2.utf8, fun s hs => (h3 s hs).utf8⟩

lemma globalJson_utf8 {settings : NotificationSettings} (hid : settings.id.ValidUtf8)
    (hu : settings.userID.ValidUtf8) (hc : ∀ s, settings.chatID = some s → s.ValidUtf8)
    (huntil : settings.mutedUntil = none) :
    (NotificationsHandler.globalJson settings).Utf8 := by
  refine Json.ofMembers_utf8 ?_
  rw [NotificationsHandler.mutedUntilJson, huntil]
  rcases hchat : settings.chatID with _ | c
  · simp only [List.append_nil, List.forall_mem_cons, Json.utf8_string, Json.utf8_bool]
    exact ⟨⟨rfl, hid⟩, ⟨rfl, hu⟩, ⟨rfl, trivial⟩, by simp⟩
  · simp only [List.append_nil, List.cons_append, List.nil_append, List.forall_mem_cons,
      Json.utf8_string, Json.utf8_bool]
    exact ⟨⟨rfl, hid⟩, ⟨rfl, hu⟩, ⟨rfl, trivial⟩, ⟨rfl, hc c hchat⟩,
      by simp⟩

lemma globalJson_sorted (settings : NotificationSettings) :
    (NotificationsHandler.globalJson settings).Sorted := by
  refine Json.ofMembers_sorted ?_
  rcases settings with ⟨id, userID, chatID, muted, mutedUntil⟩
  cases chatID <;> cases mutedUntil <;> simp [NotificationsHandler.mutedUntilJson]

lemma chatJson_chatId (chatId : Bytes) (settings : NotificationSettings) :
    (NotificationsHandler.chatJson chatId settings).member? (str "chat_id") =
      some (.string chatId) := by
  rw [NotificationsHandler.chatJson, Json.member?_ofMembers]
  rcases settings with ⟨id, userID, chatID, muted, mutedUntil⟩
  cases mutedUntil <;> rfl

lemma chatJson_muted (chatId : Bytes) (settings : NotificationSettings) :
    (NotificationsHandler.chatJson chatId settings).member? (str "muted") =
      some (.bool settings.muted) := by
  rw [NotificationsHandler.chatJson, Json.member?_ofMembers]
  rcases settings with ⟨id, userID, chatID, muted, mutedUntil⟩
  cases mutedUntil <;> rfl

lemma globalJson_muted (settings : NotificationSettings) :
    (NotificationsHandler.globalJson settings).member? (str "muted") =
      some (.bool settings.muted) := by
  rw [NotificationsHandler.globalJson, Json.member?_ofMembers]
  rcases settings with ⟨id, userID, chatID, muted, mutedUntil⟩
  cases chatID <;> cases mutedUntil <;> rfl

lemma chatJson_utf8 {chatId : Bytes} {settings : NotificationSettings}
    (hid : settings.id.ValidUtf8) (hu : settings.userID.ValidUtf8)
    (huntil : settings.mutedUntil = none) :
    (NotificationsHandler.chatJson chatId settings).Utf8 ↔ chatId.ValidUtf8 := by
  constructor
  · intro h
    have hchat := Json.member?_utf8 h (chatJson_chatId chatId settings)
    rwa [Json.utf8_string] at hchat
  · intro hchat
    refine Json.ofMembers_utf8 ?_
    rw [NotificationsHandler.mutedUntilJson, huntil]
    simp only [List.append_nil, List.forall_mem_cons, Json.utf8_string, Json.utf8_bool]
    exact ⟨⟨rfl, hid⟩, ⟨rfl, hu⟩, ⟨rfl, hchat⟩, ⟨rfl, trivial⟩, by simp⟩

lemma chatJson_sorted (chatId : Bytes) (settings : NotificationSettings) :
    (NotificationsHandler.chatJson chatId settings).Sorted := by
  refine Json.ofMembers_sorted ?_
  rcases settings with ⟨id, userID, chatID, muted, mutedUntil⟩
  cases mutedUntil <;> simp [NotificationsHandler.mutedUntilJson]

variable {w : World σ} {request : Request}

/-- `GET /notifications` shows the first global row, or the default. -/
lemma getNotifications_shows (havail : env.Available) (hv : w.store.Valid env.db.schema)
    (hm : request.method = .get) (ht : request.target = str "/notifications")
    (hu : extractUserID request ≠ []) {k : Bytes}
    (hk : env.db.idKey (extractUserID request) = some k) :
    Shows env w request (NotificationsHandler.globalJson
      (readSettings (extractUserID request) none (w.store.notifications k none))) := by
  have hid : request.method = HandlerId.getNotifications.method := hm
  have hnone : ∀ s : Bytes, (none : Option Bytes) = some s → s.ValidUtf8 := by simp
  obtain ⟨h1, h2, h3⟩ := readSettings_utf8 hv (k := k) (c := none)
    (Database.valid_of_compared hk) hnone
  exact shows_of_run (serve_eq_body hid ht (Or.inr hu))
    (Prog.run_bind_ok (run_getGlobal havail _ hk))
    (globalJson_utf8 h1 h2 h3 (readSettings_mutedUntil _ _ _)) (globalJson_sorted _)

/-- The inside of the body of `GET /notifications/{chat_id}`. -/
lemma serve_getChat (hm : request.method = .get) (ht : str "/notifications/" <+: request.target)
    (hu : extractUserID request ≠ []) :
    serve env w request = (do
      enter .getChatNotifications
      tryCatch
        (do
          let settings ← tryCatch
            (NotificationRepository.get (extractUserID request) (some (request.target.drop 15)))
            fun _ => NotificationRepository.get (extractUserID request) none
          dumpResponse 200 request
            (NotificationsHandler.chatJson (request.target.drop 15) settings))
        fun _ => pure (errorResponse 500 request.version (str "failed to get settings")) :
        Svc σ Response).run env w := by
  rw [serve_eq_body (show request.method = HandlerId.getChatNotifications.method from hm) ht
    (Or.inr hu)]
  simp only [HandlerId.body, NotificationsHandler.handleGetChatNotifications,
    Request.find_notifications ht, Request.context_userID]

/-- `GET /notifications/{chat_id}` shows the row of the chat, or the default. -/
lemma getChatNotifications_shows (hfault : env.fault w.statements = none)
    (hv : w.store.Valid env.db.schema) (hm : request.method = .get)
    (ht : str "/notifications/" <+: request.target) (hu : extractUserID request ≠ []) {k c : Bytes}
    (hk : env.db.idKey (extractUserID request) = some k)
    (hc : env.db.idKey (request.target.drop 15) = some c) :
    Shows env w request (NotificationsHandler.chatJson (request.target.drop 15)
      (readSettings (extractUserID request) (some (request.target.drop 15))
        (w.store.notifications k (some c)))) := by
  have hchat : ∀ s : Bytes, some (request.target.drop 15) = some s → s.ValidUtf8 := by
    intro s hs
    rw [← Option.some.inj hs]
    exact Database.valid_of_compared hc
  obtain ⟨h1, h2, -⟩ := readSettings_utf8 hv (k := k) (c := some c)
    (Database.valid_of_compared hk) hchat
  have hget := run_getChat (w := w.entering .getChatNotifications) hfault hk hc
  exact shows_of_run (serve_getChat hm ht hu)
    (Prog.run_bind_ok (Prog.run_tryCatch_ok hget))
    ((chatJson_utf8 h1 h2 (readSettings_mutedUntil _ _ _)).mpr (Database.valid_of_compared hc))
    (chatJson_sorted _ _)

/-- The fallback is taken for a chat id that the database refuses. -/
lemma getChatNotifications_shows_fallback (havail : env.Available)
    (hv : w.store.Valid env.db.schema) (hm : request.method = .get)
    (ht : str "/notifications/" <+: request.target) (hu : extractUserID request ≠ []) {k : Bytes}
    (hk : env.db.idKey (extractUserID request) = some k)
    (hc : env.db.idKey (request.target.drop 15) = none)
    (hutf8 : Bytes.ValidUtf8 (request.target.drop 15)) :
    Shows env w request (NotificationsHandler.chatJson (request.target.drop 15)
      (readSettings (extractUserID request) none (w.store.notifications k none))) := by
  have hnone : ∀ s : Bytes, (none : Option Bytes) = some s → s.ValidUtf8 := by simp
  obtain ⟨h1, h2, -⟩ := readSettings_utf8 hv (k := k) (c := none)
    (Database.valid_of_compared hk) hnone
  have hkey : env.db.idKey (extractUserID request) = none ∨
      env.db.idKey (request.target.drop 15) = none := Or.inr hc
  have hrefused := run_getChat_refused havail (w.entering .getChatNotifications) hkey
  have hget := run_getGlobal havail
    ((w.entering .getChatNotifications).afterStatement (w.entering .getChatNotifications).store) hk
  exact shows_of_run (serve_getChat hm ht hu)
    (Prog.run_bind_ok ((Prog.run_tryCatch_error hrefused).trans hget))
    ((chatJson_utf8 h1 h2 (readSettings_mutedUntil _ _ _)).mpr hutf8) (chatJson_sorted _ _)

/-- Without an id of a user, or with a chat id that does not print, nothing is shown. -/
lemma getChatNotifications_fails (havail : env.Available) (hv : w.store.Valid env.db.schema)
    (hm : request.method = .get) (ht : str "/notifications/" <+: request.target)
    (hu : extractUserID request ≠ [])
    (h : env.db.idKey (extractUserID request) = none ∨
      ¬ Bytes.ValidUtf8 (request.target.drop 15)) :
    AnswersWith env w request 500 := by
  have hkey : env.db.idKey (extractUserID request) = none ∨
      env.db.idKey (request.target.drop 15) = none := by
    refine h.imp_right fun hutf8 => ?_
    rw [Option.eq_none_iff_forall_ne_some]
    exact fun c hc => hutf8 (Database.valid_of_compared hc)
  have hrefused := run_getChat_refused havail (w.entering .getChatNotifications) hkey
  rcases hk : env.db.idKey (extractUserID request) with _ | k
  · have hglobal := run_getGlobal_refused havail
      ((w.entering .getChatNotifications).afterStatement
        (w.entering .getChatNotifications).store) hk
    exact answersWith_of_throw (serve_getChat hm ht hu)
      (Prog.run_bind_error ((Prog.run_tryCatch_error hrefused).trans hglobal)) rfl
  · have hutf8 := h.resolve_left (by simp [hk])
    have hglobal := run_getGlobal havail
      ((w.entering .getChatNotifications).afterStatement
        (w.entering .getChatNotifications).store) hk
    have hnone : ∀ s : Bytes, (none : Option Bytes) = some s → s.ValidUtf8 := by simp
    obtain ⟨h1, h2, -⟩ := readSettings_utf8 hv (k := k) (c := none)
      (Database.valid_of_compared hk) hnone
    obtain ⟨err, herr⟩ := env.json.dump_error
      (mt (chatJson_utf8 h1 h2 (readSettings_mutedUntil _ _ _)).mp hutf8)
    have hdump : ∀ w' : World σ, (dumpResponse 200 request (NotificationsHandler.chatJson
        (request.target.drop 15) (readSettings (extractUserID request) none
          (w.store.notifications k none)))).run env w' = (.error err, w') := by
      intro w'
      refine Prog.run_bind_error ?_
      simp only [Prog.run, dump, herr]
    exact answersWith_of_throw (serve_getChat hm ht hu)
      ((Prog.run_bind_ok ((Prog.run_tryCatch_error hrefused).trans hglobal)).trans (hdump _)) rfl

end Notifications

end ProfileService
