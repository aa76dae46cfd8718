/-
# Avatars in two stores

An avatar is an object in the avatar storage and an address of it in the row of the user.  A
request changes the one and then the other, without a common transaction: what the first step
did stays when the `UPDATE` fails.  Along a run the addresses lead to objects and failed requests
leave both stores alone exactly if this never happens.
-/
import ProfileService.Avatars
import ProfileService.Lib.PercentEncoding

namespace ProfileService

open Bytes (str NulFree)
open Prog (Moves)

variable {σ : Type}

/-! ## A storage that keeps objects -/

/-- The storage keeps objects: what stands under an address is owned by a user.  An upload puts
the data under the address it returns, a deletion removes the objects of the user, neither
touches the objects of others, and when one throws nothing has changed. -/
structure KeepsObjects (storage : AvatarStorage σ)
    (object : σ → Bytes → Option (Bytes × List UInt8)) : Prop where
  upload_ok : ∀ {userId data contentType s url s'},
    storage.upload userId data contentType s = (.ok url, s') →
      object s' url = some (userId, data) ∧ url.NulFree
  upload_others : ∀ {userId data contentType s url s'},
    storage.upload userId data contentType s = (.ok url, s') →
      ∀ {url' o}, object s url' = some o → o.1 ≠ userId → object s' url' = some o
  upload_error : ∀ {userId data contentType s e s'},
    storage.upload userId data contentType s = (.error e, s') → s' = s
  delete_ok : ∀ {userId s s'}, storage.delete userId s = (.ok (), s') →
    ∀ url o, object s' url = some o → o.1 ≠ userId
  delete_others : ∀ {userId s s'}, storage.delete userId s = (.ok (), s') →
    ∀ {url' o}, object s url' = some o → o.1 ≠ userId → object s' url' = some o
  delete_error : ∀ {userId s e s'}, storage.delete userId s = (.error e, s') → s' = s

/-- An upload or a deletion of an avatar. -/
def IsAvatarWrite (request : Request) : Prop :=
  (request.method = .post ∨ request.method = .delete) ∧ request.target = str "/me/avatar"

/-- Along a run, the addresses in the table lead to objects, and a request that answers 500
leaves the storage and the addresses as they were. -/
structure AvatarsConsistent (env : Env σ) (object : σ → Bytes → Option (Bytes × List UInt8))
    (storage : σ) (requests : List Request) : Prop where
  resolves : ∀ before, before <+: requests → ∀ r ∈ (after env storage before).store.profiles,
    ∀ url, r.avatarUrl = some url → url ≠ [] →
      ∃ o, object (after env storage before).storage url = some o
  unchanged : ∀ before request, before ++ [request] <+: requests → IsAvatarWrite request →
    AnswersWith env (after env storage before) request 500 →
      (after env storage (before ++ [request])).storage = (after env storage before).storage ∧
      ∀ k, ((after env storage (before ++ [request])).store.profile k).map ProfileRow.avatarUrl =
        ((after env storage before).store.profile k).map ProfileRow.avatarUrl

/-! ## The two steps of a request -/

/-- What an upload reads from the body: the data of the image and its type. -/
def uploadInput (env : Env σ) (request : Request) : Option (List UInt8 × Bytes) := do
  let jsonBody ← bodyJson env request
  let imageData ← jsonBody.member? (str "image_data")
  let base64Data ← (getString imageData).toOption
  let contentType ←
    (value getString jsonBody (str "content_type") (str "image/jpeg")).toOption
  if decodeBase64 base64Data = [] then none else some (decodeBase64 base64Data, contentType)

/-- The step of the request in the avatar storage, when it succeeds: the address that is to be
written and the storage after it. -/
def storageStep (env : Env σ) (s : σ) (request : Request) : Option (Bytes × σ) :=
  if request.method = .post then do
    let (data, contentType) ← uploadInput env request
    let (url, s') := env.avatarStorage.upload (extractUserID request) data contentType s
    url.toOption.map fun url => (url, s')
  else
    let (res, s') := env.avatarStorage.delete (extractUserID request) s
    res.toOption.map fun _ => ([], s')

lemma storageStep_post {env : Env σ} {s s' : σ} {request : Request} {url : Bytes}
    (hm : request.method = .post) (hstep : storageStep env s request = some (url, s')) :
    ∃ data contentType, uploadInput env request = some (data, contentType) ∧
      env.avatarStorage.upload (extractUserID request) data contentType s = (.ok url, s') := by
  rw [storageStep, if_pos hm] at hstep
  obtain ⟨⟨data, contentType⟩, hinput, hstep⟩ := Option.bind_eq_some_iff.mp hstep
  refine ⟨data, contentType, hinput, ?_⟩
  rcases hupload : env.avatarStorage.upload (extractUserID request) data contentType s
    with ⟨err | url₁, s₁⟩
  · simp [hupload, Except.toOption] at hstep
  · obtain ⟨rfl, rfl⟩ : url₁ = url ∧ s₁ = s' := by
      simpa [hupload, Except.toOption] using hstep
    rfl

lemma storageStep_delete {env : Env σ} {s s' : σ} {request : Request} {url : Bytes}
    (hm : request.method = .delete) (hstep : storageStep env s request = some (url, s')) :
    url = [] ∧ env.avatarStorage.delete (extractUserID request) s = (.ok (), s') := by
  rw [storageStep, if_neg (by simp [hm])] at hstep
  rcases hdelete : env.avatarStorage.delete (extractUserID request) s with ⟨err | u, s₁⟩
  · simp [hdelete, Except.toOption] at hstep
  · obtain ⟨rfl, rfl⟩ : [] = url ∧ s₁ = s' := by
      simpa [hdelete, Except.toOption] using hstep
    exact ⟨rfl, rfl⟩

/-- The `UPDATE` of the request fails: for a reason of its own, or it is refused. -/
def UpdateFails (env : Env σ) (w : World σ) (request : Request) (url : Bytes) : Prop :=
  env.fault w.statements ≠ none ∨ env.db.stored .text url = none ∨
    env.db.idKey (extractUserID request) = none

/-- The request changes the storage and then its `UPDATE` fails. -/
def Strands (env : Env σ) (w : World σ) (request : Request) : Prop :=
  IsAvatarWrite request ∧ extractUserID request ≠ [] ∧
    ∃ url s', storageStep env w.storage request = some (url, s') ∧ s' ≠ w.storage ∧
      UpdateFails env w request url

/-! ## The `UPDATE` -/

section Update

variable {env : Env σ} {w : World σ} {request : Request} {url : Bytes}

/-- The ids and the usernames are as they were, so the tables meet the constraints. -/
lemma updateAvatarURL_constraints {st : Store} (hc : st.Constraints) (schema : Schema) (now : ℤ)
    (rowId : Uuid) (avatarUrl user : Bytes) :
    (Write.apply schema now rowId (.updateAvatarURL avatarUrl user) st).Constraints := by
  have hids : (Write.apply schema now rowId (.updateAvatarURL avatarUrl user) st).profiles.map
      ProfileRow.userId = st.profiles.map ProfileRow.userId := by
    refine Table.map_update ?_ st.profiles
    intro r _
    rfl
  have hnames : (Write.apply schema now rowId (.updateAvatarURL avatarUrl user)
      st).profiles.filterMap ProfileRow.username = st.profiles.filterMap ProfileRow.username := by
    refine Table.filterMap_update ?_ st.profiles
    intro r _
    rfl
  -- the other tables name a profile by its id alone
  exact { hc with
    profiles_pkey := hids ▸ hc.profiles_pkey
    profiles_username_key := hnames ▸ hc.profiles_username_key
    contacts_owner_id_fkey := hids ▸ hc.contacts_owner_id_fkey
    contacts_contact_id_fkey := hids ▸ hc.contacts_contact_id_fkey
    privacy_user_id_fkey := hids ▸ hc.privacy_user_id_fkey
    favorites_user_id_fkey := hids ▸ hc.favorites_user_id_fkey
    notification_user_id_fkey := hids ▸ hc.notification_user_id_fkey }

/-- An `UPDATE` that fails changes no table. -/
lemma run_updateAvatarURL_fails (h : UpdateFails env w request url) :
    ∃ err, (ProfileRepository.updateAvatarURL (extractUserID request) url).run env w =
      (.error err, w.afterStatement w.store) := by
  rcases executeParams_cases env w .updateAvatarURL
    [.string url, .string (extractUserID request)] with ⟨err, hrun, -⟩ | ⟨store, rows, hs, -⟩
  · exact ⟨err, Prog.run_bind_error hrun⟩
  · obtain ⟨wr, hwr, -⟩ := hs.write fun _ _ => rfl
    obtain ⟨v, hv, hwr⟩ := Option.bind_eq_some_iff.mp hwr
    obtain ⟨k, hk, -⟩ := Option.bind_eq_some_iff.mp hwr
    -- a statement that succeeds met no fault and had both operands taken
    rcases h with h | h | h
    · exact absurd hs.1 h
    · exact absurd (hv.symm.trans h) (by simp)
    · exact absurd (hk.symm.trans h) (by simp)

/-- An `UPDATE` that does not fail writes the address to the row of the user. -/
lemma run_updateAvatarURL (hv : w.store.Valid env.db.schema)
    (h : ¬ UpdateFails env w request url) :
    ∃ v k, env.db.stored .text url = some v ∧ env.db.idKey (extractUserID request) = some k ∧
      (ProfileRepository.updateAvatarURL (extractUserID request) url).run env w =
        (.ok (), w.afterStatement (Write.apply env.db.schema (env.txnTime w.statements)
          (env.rowId w.statements) (.updateAvatarURL v k) w.store)) := by
  rw [UpdateFails, not_or, not_or, Ne, not_not] at h
  obtain ⟨hfault, hurl, hkey⟩ := h
  obtain ⟨v, hstored⟩ := Option.ne_none_iff_exists'.mp hurl
  obtain ⟨k, hk⟩ := Option.ne_none_iff_exists'.mp hkey
  refine ⟨v, k, hstored, hk, run_executeModify hfault ?_
    (updateAvatarURL_constraints hv.constraints _ _ _ _ _)⟩
  exact Option.bind_eq_some_iff.mpr ⟨v, hstored, Option.bind_eq_some_iff.mpr ⟨k, hk, rfl⟩⟩

end Update

/-! ## The bodies -/

section Bodies

variable {env : Env σ} {w : World σ} {request : Request} {url : Bytes} {s' : σ}

/-- The two steps of a body are left: the `UPDATE` and the answer. -/
structure Reduces (env : Env σ) (w : World σ) (request : Request) (url : Bytes) (s' : σ)
    (id : HandlerId) (print : Svc σ Response) (answer : Exn → Response) : Prop where
  serve : serve env w request = (tryCatch
    (do
      ProfileRepository.updateAvatarURL (extractUserID request) url
      print)
    fun e => pure (answer e) : Svc σ Response).run env { w.entering id with storage := s' }
  print : url.ValidUtf8 → (extractUserID request).ValidUtf8 → ∀ w' : World σ,
    ∃ response, response.status < 400 ∧ print.run env w' = (.ok response, w')
  answer : ∀ e, (answer e).status = 500

lemma deleteAvatar_none (hkeeps : ∀ {e s'}, env.avatarStorage.delete (extractUserID request)
      w.storage = (.error e, s') → s' = w.storage) (hm : request.method = .delete)
    (ht : request.target = str "/me/avatar") (hu : extractUserID request ≠ [])
    (hstep : storageStep env w.storage request = none) :
    (serve env w request).2 = w.entering .deleteAvatar := by
  have hid : request.method = HandlerId.deleteAvatar.method := hm
  rcases hdelete : env.avatarStorage.delete (extractUserID request) w.storage with ⟨err | u, s'⟩
  · have hrun : (ProfileHandler.deleteObject (extractUserID request) : Svc σ Unit).run env
        (w.entering .deleteAvatar) = (.error err, w.entering .deleteAvatar) := by
      simp only [ProfileHandler.deleteObject, Prog.run, World.entering, hdelete, hkeeps hdelete]
    exact congrArg Prod.snd (answer_of_throw (serve_eq_body hid ht (Or.inr hu))
      (Prog.run_bind_error hrun))
  · simp [storageStep, hm, hdelete, Except.toOption] at hstep

lemma deleteAvatar_reduces (hm : request.method = .delete)
    (ht : request.target = str "/me/avatar") (hu : extractUserID request ≠ [])
    (hstep : storageStep env w.storage request = some (url, s')) :
    ∃ id print answer, Reduces env w request url s' id print answer := by
  have hid : request.method = HandlerId.deleteAvatar.method := hm
  refine ⟨.deleteAvatar, pure (jsonResponse 204 request.version []),
    fun _ => errorResponse 500 request.version (str "delete failed"), ?_, fun _ _ w' =>
      ⟨_, by simp, rfl⟩, fun _ => by simp⟩
  obtain ⟨rfl, hdelete⟩ := storageStep_delete hm hstep
  have hrun : (ProfileHandler.deleteObject (extractUserID request) : Svc σ Unit).run env
      (w.entering .deleteAvatar) =
        (.ok (), { w.entering .deleteAvatar with storage := s' }) := by
    simp only [ProfileHandler.deleteObject, Prog.run, World.entering, hdelete]
  exact (serve_eq_body hid ht (Or.inr hu)).trans
    (Prog.run_tryCatch_congr (s := w.entering .deleteAvatar) (Prog.run_bind_ok hrun))

/-- The answer to an upload. -/
def uploadedJson (request : Request) (url : Bytes) : Json :=
  .ofMembers [(str "user_id", .string (extractUserID request)), (str "avatar_url", .string url)]

/-- What is left of an upload when the body has been read. -/
lemma uploadAvatar_reads (hm : request.method = .post) (ht : request.target = str "/me/avatar")
    (hu : extractUserID request ≠ []) {data : List UInt8} {contentType : Bytes}
    (hinput : uploadInput env request = some (data, contentType)) :
    serve env w request = (tryCatch
      (do
        let avatarUrl ← ProfileHandler.upload (extractUserID request) data contentType
        ProfileRepository.updateAvatarURL (extractUserID request) avatarUrl
        dumpResponse 200 request (uploadedJson request avatarUrl))
      fun e => pure (errorResponse 500 request.version (str "upload failed: " ++ e.what)) :
        Svc σ Response).run env (w.entering .uploadAvatar) := by
  have hid : request.method = HandlerId.uploadAvatar.method := hm
  obtain ⟨j, hj, h⟩ := Option.bind_eq_some_iff.mp hinput
  obtain ⟨imageData, himage, h⟩ := Option.bind_eq_some_iff.mp h
  obtain ⟨base64Data, hbase64, h⟩ := Option.bind_eq_some_iff.mp h
  obtain ⟨contentType', htype, h⟩ := Option.bind_eq_some_iff.mp h
  split_ifs at h with hdata
  obtain ⟨rfl, rfl⟩ := Prod.mk.inj (Option.some.inj h)
  refine (serve_eq_body hid ht (Or.inr hu)).trans
    (Prog.run_tryCatch_congr (s := w.entering .uploadAvatar) ?_)
  rw [Prog.run_bind_ok (run_parse _ hj)]
  simp only [himage]
  rw [Prog.run_bind_ok (run_convert env _ hbase64), Prog.run_bind_ok (run_convert env _ htype),
    if_neg hdata]
  rfl

/-- An upload whose body is refused does nothing. -/
lemma uploadAvatar_refused (hm : request.method = .post) (ht : request.target = str "/me/avatar")
    (hu : extractUserID request ≠ []) (hinput : uploadInput env request = none) :
    (serve env w request).2 = w.entering .uploadAvatar := by
  have hid : request.method = HandlerId.uploadAvatar.method := hm
  rw [serve_eq_body hid ht (Or.inr hu)]
  refine (Prog.run_tryCatch_pure _ _ _ (w.entering .uploadAvatar)).trans ?_
  -- the body ends at the step at which `uploadInput` fails, before the storage is asked
  rcases hj : env.json.parse request.body with err | j
  · have hparse : (parse request.body : Svc σ Json).run env (w.entering .uploadAvatar) =
        (.error err, w.entering .uploadAvatar) := run_convert_error env _ hj
    rw [Prog.run_bind_error hparse]
  have hbody : bodyJson env request = some j := by
    rw [bodyJson, hj]
    rfl
  rw [Prog.run_bind_ok (run_parse _ hbody)]
  rcases himage : j.member? (str "image_data") with _ | imageData
  · rfl
  dsimp only
  rcases hbase64 : getString imageData with err | base64Data
  · rw [Prog.run_bind_error (run_convert_error env _ rfl)]
  rw [Prog.run_bind_ok (run_convert env _ rfl)]
  rcases htype : value getString j (str "content_type") (str "image/jpeg") with err | contentType
  · rw [Prog.run_bind_error (run_convert_error env _ rfl)]
  rw [Prog.run_bind_ok (run_convert env _ rfl)]
  by_cases hdata : decodeBase64 base64Data = []
  · rw [if_pos hdata]
    rfl
  · simp [uploadInput, hbody, himage, hbase64, htype, hdata, Except.toOption] at hinput

lemma uploadAvatar_none (hkeeps : ∀ {data contentType e s'}, env.avatarStorage.upload
      (extractUserID request) data contentType w.storage = (.error e, s') → s' = w.storage)
    (hm : request.method = .post) (ht : request.target = str "/me/avatar")
    (hu : extractUserID request ≠ []) (hstep : storageStep env w.storage request = none) :
    (serve env w request).2 = w.entering .uploadAvatar := by
  rcases hinput : uploadInput env request with _ | ⟨data, contentType⟩
  · exact uploadAvatar_refused hm ht hu hinput
  rcases hupload : env.avatarStorage.upload (extractUserID request) data contentType w.storage
    with ⟨err | url, s'⟩
  · have hrun : (ProfileHandler.upload (extractUserID request) data contentType :
        Svc σ Bytes).run env (w.entering .uploadAvatar) =
          (.error err, w.entering .uploadAvatar) := by
      simp only [ProfileHandler.upload, Prog.run, World.entering, hupload, hkeeps hupload]
    rw [uploadAvatar_reads hm ht hu hinput]
    exact congrArg Prod.snd (Prog.run_tryCatch_error (Prog.run_bind_error hrun))
  · simp [storageStep, hm, hinput, hupload, Except.toOption] at hstep

lemma uploadAvatar_reduces (hm : request.method = .post) (ht : request.target = str "/me/avatar")
    (hu : extractUserID request ≠ [])
    (hstep : storageStep env w.storage request = some (url, s')) :
    ∃ id print answer, Reduces env w request url s' id print answer := by
  refine ⟨.uploadAvatar, dumpResponse 200 request (uploadedJson request url),
    fun e => errorResponse 500 request.version (str "upload failed: " ++ e.what), ?_,
      fun hurl huser w' => ?_, fun _ => by simp⟩
  · obtain ⟨data, contentType, hinput, hupload⟩ := storageStep_post hm hstep
    have hrun : (ProfileHandler.upload (extractUserID request) data contentType :
        Svc σ Bytes).run env (w.entering .uploadAvatar) =
          (.ok url, { w.entering .uploadAvatar with storage := s' }) := by
      simp only [ProfileHandler.upload, Prog.run, World.entering, hupload]
    exact (uploadAvatar_reads hm ht hu hinput).trans
      (Prog.run_tryCatch_congr (Prog.run_bind_ok hrun))
  · have hjson : (uploadedJson request url).Utf8 := by
      refine Json.ofMembers_utf8 ?_
      simp only [List.forall_mem_cons, Json.utf8_string]
      exact ⟨⟨rfl, huser⟩, ⟨rfl, hurl⟩, by simp⟩
    obtain ⟨text, -, hdump⟩ := run_dumpResponse env w' 200 request hjson
    exact ⟨_, by simp, hdump⟩

end Bodies

/-! ## The step of a request -/

section Step

variable {env : Env σ} {w : World σ} {request : Request} {url : Bytes} {s' : σ}
  {object : σ → Bytes → Option (Bytes × List UInt8)}

/-- A request without a user runs no body. -/
lemma serve_of_nobody (hw : IsAvatarWrite request) (hu : extractUserID request = []) :
    (serve env w request).2 = w := by
  rcases serve_cases env request with ⟨response, -, hidle⟩ | ⟨id, -, ht, huser, -⟩
  · rw [hidle w]
  · obtain rfl := huser.resolve_right (not_not_intro hu)
    rw [HandlerId.Accepts, hw.2] at ht
    exact absurd ht (by decide)

/-- A request whose step in the storage does not succeed changes nothing. -/
lemma avatarWrite_none (hkeeps : KeepsObjects env.avatarStorage object)
    (hw : IsAvatarWrite request) (hu : extractUserID request ≠ [])
    (hstep : storageStep env w.storage request = none) :
    (serve env w request).2.storage = w.storage ∧ (serve env w request).2.store = w.store := by
  obtain ⟨hm | hm, ht⟩ := hw
  · rw [uploadAvatar_none hkeeps.upload_error hm ht hu hstep]
    exact ⟨rfl, rfl⟩
  · rw [deleteAvatar_none hkeeps.delete_error hm ht hu hstep]
    exact ⟨rfl, rfl⟩

/-- A request whose step in the storage succeeds is left with the `UPDATE` and the answer. -/
lemma avatarWrite_reduces (hw : IsAvatarWrite request) (hu : extractUserID request ≠ [])
    (hstep : storageStep env w.storage request = some (url, s')) :
    ∃ id print answer, Reduces env w request url s' id print answer := by
  obtain ⟨hm | hm, ht⟩ := hw
  · exact uploadAvatar_reduces hm ht hu hstep
  · exact deleteAvatar_reduces hm ht hu hstep

/-- When the `UPDATE` fails then the storage stays changed. -/
lemma avatarWrite_fails (hw : IsAvatarWrite request) (hu : extractUserID request ≠ [])
    (hstep : storageStep env w.storage request = some (url, s'))
    (hfails : UpdateFails env w request url) :
    AnswersWith env w request 500 ∧ (serve env w request).2.storage = s' ∧
      (serve env w request).2.store = w.store := by
  obtain ⟨id, print, answer, hserve, -, hanswer⟩ := avatarWrite_reduces hw hu hstep
  obtain ⟨err, hrun⟩ := run_updateAvatarURL_fails
    (w := { w.entering id with storage := s' }) hfails
  have hfailed : serve env w request =
      (.ok (answer err), ({ w.entering id with storage := s' } : World σ).afterStatement w.store) :=
    hserve.trans (Prog.run_tryCatch_error (Prog.run_bind_error hrun))
  refine ⟨⟨_, _, hfailed, hanswer err⟩, ?_, ?_⟩
  · rw [hfailed]
    rfl
  · rw [hfailed]
    rfl

/-- When the `UPDATE` does not fail then the row has the address. -/
lemma avatarWrite_done (hv : w.store.Valid env.db.schema) (hw : IsAvatarWrite request)
    (hu : extractUserID request ≠ [])
    (hstep : storageStep env w.storage request = some (url, s'))
    (hfails : ¬ UpdateFails env w request url) :
    (∃ status < 400, AnswersWith env w request status) ∧
      (serve env w request).2.storage = s' ∧
      ∃ v k, env.db.stored .text url = some v ∧ env.db.idKey (extractUserID request) = some k ∧
        (serve env w request).2.store = Write.apply env.db.schema (env.txnTime w.statements)
          (env.rowId w.statements) (.updateAvatarURL v k) w.store := by
  obtain ⟨id, print, answer, hserve, hprint, -⟩ := avatarWrite_reduces hw hu hstep
  obtain ⟨v, k, hstored, hk, hrun⟩ := run_updateAvatarURL
    (w := { w.entering id with storage := s' }) hv hfails
  -- what the database takes is valid UTF-8, so that the answer prints
  obtain ⟨response, hstatus, hresponse⟩ := hprint (Database.valid_of_stored hstored)
    (Database.valid_of_compared hk) _
  have hdone := hserve.trans (Prog.run_tryCatch_ok ((Prog.run_bind_ok hrun).trans hresponse))
  refine ⟨⟨response.status, hstatus, _, _, hdone, rfl⟩, ?_, v, k, hstored, hk, ?_⟩
  · rw [hdone]
    rfl
  · rw [hdone]
    rfl

end Step

/-! ## Other requests -/

/-- The avatar storage is as it was. -/
def KeepsStorage (w w' : World σ) : Prop := w'.storage = w.storage

instance : Std.Refl (KeepsStorage (σ := σ)) := ⟨fun _ => rfl⟩

instance : IsTrans (World σ) KeepsStorage := ⟨fun _ _ _ h h' => h'.trans h⟩

lemma keepsStorage_steps : Steps (KeepsStorage (σ := σ)) where
  now := fun _ _ => rfl
  execute := by
    intro query params env w
    rcases executeParams_cases env w query params with ⟨err, h, -⟩ | ⟨store, rows, -, h⟩
    · rw [h]
      rfl
    · rw [h]
      rfl

section Others

variable {env : Env σ} {w : World σ} {request : Request}

/-- The avatar of a row that a write leaves, unless it writes one: there is none, or a row of the
user had it before. -/
lemma avatarUrl_of_write {schema : Schema} {now : ℤ} {rowId : Uuid} {wr : Write} {st : Store}
    (hwr : ∀ v k, wr ≠ .updateAvatarURL v k) :
    ∀ r' ∈ (wr.apply schema now rowId st).profiles, r'.avatarUrl = none ∨
      ∃ r ∈ st.profiles, r.userId = r'.userId ∧ r.avatarUrl = r'.avatarUrl := by
  intro r' hr'
  cases wr with
  | createProfile user =>
    rcases Table.mem_insertOrUpdate hr' with h | ⟨r, hr, -, rfl⟩ | rfl
    · exact Or.inr ⟨r', h, rfl, rfl⟩
    · exact Or.inr ⟨r, hr, rfl, rfl⟩
    · exact Or.inl rfl
  | updateProfile firstName lastName username bio user =>
    rcases Table.mem_update.mp hr' with ⟨h, -⟩ | ⟨r, hr, -, rfl⟩
    · exact Or.inr ⟨r', h, rfl, rfl⟩
    · exact Or.inr ⟨r, hr, rfl, rfl⟩
  | updateAvatarURL v k => exact absurd rfl (hwr v k)
  | addContact | removeContact | addFavorite | removeFavorite | updatePrivacy
  | upsertNotifications => exact Or.inr ⟨r', hr', rfl, rfl⟩

/-- The other requests are no event of an avatar. -/
lemma event_ne_avatarSet {id : HandlerId} (hupload : id ≠ .uploadAvatar)
    (hdelete : id ≠ .deleteAvatar) (response : Response) (k v : Bytes) :
    id.event env request response ≠ some (.avatarSet k v) := by
  intro h
  rcases List.mem_pair.mp (HandlerId.mem_handlers h) with rfl | rfl
  · exact hupload rfl
  · exact hdelete rfl

/-- The other requests leave the storage alone and write no address. -/
lemma other_request (hv : w.store.Valid env.db.schema)
    (h : ¬ (IsAvatarWrite request ∧ extractUserID request ≠ [])) :
    (serve env w request).2.storage = w.storage ∧
      ∀ r' ∈ (serve env w request).2.store.profiles, r'.avatarUrl = none ∨
        ∃ r ∈ w.store.profiles, r.userId = r'.userId ∧ r.avatarUrl = r'.avatarUrl := by
  obtain ⟨response, w', hserve, heffect⟩ := serve_effect env hv request
  rcases serve_cases env request with ⟨response', -, hidle⟩ | ⟨id, hm, ht, huser, hbody⟩
  · rw [hidle w]
    exact ⟨rfl, fun r hr => Or.inr ⟨r, hr, rfl, rfl⟩⟩
  have hupload : id ≠ .uploadAvatar := by
    rintro rfl
    exact h ⟨⟨Or.inl hm, ht⟩, huser.resolve_left (by simp)⟩
  have hdelete : id ≠ .deleteAvatar := by
    rintro rfl
    exact h ⟨⟨Or.inr hm, ht⟩, huser.resolve_left (by simp)⟩
  obtain ⟨response', w'', hrun, hstorage⟩ := body_moves keepsStorage_steps
    (fun h => absurd h hupload) (fun h => absurd h hdelete) request request.context env w
  obtain ⟨hresponse, rfl⟩ := Prod.mk.inj (hserve.symm.trans ((hbody w).trans hrun))
  rw [hserve]
  refine ⟨hstorage, ?_⟩
  cases heffect with
  | unchanged _ hstore _ =>
    rw [hstore]
    exact fun r hr => Or.inr ⟨r, hr, rfl, rfl⟩
  | written event wr n _ _ hevent hmakes _ hstore _ =>
    rw [hstore]
    refine avatarUrl_of_write fun v k hwr => ?_
    have hok : 200 ≤ response.status ∧ response.status < 300 := by
      by_contra hnot
      simp [eventOf, hnot] at hevent
    rw [eventOf_of_accepts id hm ht hok] at hevent
    cases event with
    | avatarSet user avatarUrl =>
      exact event_ne_avatarSet hupload hdelete response user avatarUrl hevent
    | patched =>
      obtain ⟨r, -, -, hpatch⟩ := hmakes
      exact absurd (hwr.symm.trans hpatch) (by simp)
    | created | contactAdded | contactRemoved | favoriteAdded | favoriteRemoved | privacySet
    | notificationsSet => exact absurd (hwr.symm.trans hmakes) (by simp)

end Others

/-! ## Runs -/

section Runs

variable {env : Env σ} {object : σ → Bytes → Option (Bytes × List UInt8)} {w : World σ}
  {request : Request}

/-- The invariant: the tables are valid and an address leads to an object of the user. -/
structure Resolves (env : Env σ) (object : σ → Bytes → Option (Bytes × List UInt8))
    (w : World σ) : Prop where
  valid : w.store.Valid env.db.schema
  address : ∀ r ∈ w.store.profiles, ∀ url, r.avatarUrl = some url → url ≠ [] →
    ∃ o, object w.storage url = some o ∧ env.db.idKey o.1 = some r.userId

lemma resolves_start (env : Env σ) (object : σ → Bytes → Option (Bytes × List UInt8))
    (storage : σ) : Resolves env object (World.start storage) :=
  ⟨Store.valid_empty _, fun r hr => absurd hr (by simp [World.start, Store.empty])⟩

/-- The rows after an address was written. -/
lemma profiles_of_updateAvatarURL {schema : Schema} {now : ℤ} {rowId : Uuid} {v k : Bytes}
    {st : Store} {r : ProfileRow}
    (h : r ∈ (Write.apply schema now rowId (.updateAvatarURL v k) st).profiles) :
    (r ∈ st.profiles ∧ r.userId ≠ k) ∨ (r.userId = k ∧ r.avatarUrl = some v) := by
  rcases Table.mem_update.mp h with ⟨hr, hne⟩ | ⟨r', -, hid, rfl⟩
  · exact Or.inl ⟨hr, by simpa [ProfileRow.hasId] using hne⟩
  · exact Or.inr ⟨by simpa [ProfileRow.hasId] using hid, rfl⟩

/-- The objects after the step of a request in the storage: those of others are kept, and the
address that is to be written leads to one of the user. -/
lemma storageStep_objects (hkeeps : KeepsObjects env.avatarStorage object)
    (hw : IsAvatarWrite request) {s s' : σ} {url : Bytes}
    (hstep : storageStep env s request = some (url, s')) :
    (∀ {url' o}, object s url' = some o → o.1 ≠ extractUserID request →
      object s' url' = some o) ∧
    (url ≠ [] → url.NulFree ∧ ∃ data, object s' url = some (extractUserID request, data)) := by
  obtain ⟨hm | hm, -⟩ := hw
  · obtain ⟨data, contentType, -, hupload⟩ := storageStep_post hm hstep
    obtain ⟨hobject, hnul⟩ := hkeeps.upload_ok hupload
    exact ⟨hkeeps.upload_others hupload, fun _ => ⟨hnul, data, hobject⟩⟩
  · obtain ⟨rfl, hdelete⟩ := storageStep_delete hm hstep
    exact ⟨hkeeps.delete_others hdelete, fun hne => absurd rfl hne⟩

/-- A request that is not stranded keeps the invariant. -/
lemma resolves_step (hkeeps : KeepsObjects env.avatarStorage object) (w : World σ)
    (request : Request) (h : Resolves env object w) (hgood : ¬ Strands env w request) :
    Resolves env object (serve env w request).2 := by
  obtain ⟨hv, haddress⟩ := h
  refine ⟨serve_valid env w request hv, ?_⟩
  by_cases hw : IsAvatarWrite request ∧ extractUserID request ≠ []
  swap
  · obtain ⟨hstorage, hrows⟩ := other_request hv hw
    intro r' hr' url hurl hne
    rw [hstorage]
    rcases hrows r' hr' with hnone | ⟨r, hr, hid, havatar⟩
    · exact absurd (hnone.symm.trans hurl) (by simp)
    · rw [← hid]
      exact haddress r hr url (havatar.trans hurl) hne
  obtain ⟨hw, hu⟩ := hw
  rcases hstep : storageStep env w.storage request with _ | ⟨url₀, s'⟩
  · obtain ⟨hstorage, hstore⟩ := avatarWrite_none hkeeps hw hu hstep
    rw [hstorage, hstore]
    exact haddress
  by_cases hfails : UpdateFails env w request url₀
  · obtain ⟨-, hstorage, hstore⟩ := avatarWrite_fails hw hu hstep hfails
    have hsame : s' = w.storage := by
      by_contra hne
      exact hgood ⟨hw, hu, url₀, s', hstep, hne, hfails⟩
    rw [hstorage, hstore, hsame]
    exact haddress
  · obtain ⟨-, hstorage, v, k, hstored, hk, hstore⟩ := avatarWrite_done hv hw hu hstep hfails
    obtain ⟨hothers, hown⟩ := storageStep_objects hkeeps hw hstep
    rw [hstorage, hstore]
    intro r hr url hurl hne
    rcases profiles_of_updateAvatarURL hr with ⟨hr, hid⟩ | ⟨hid, havatar⟩
    · -- the row of another user: the object is not of this one
      obtain ⟨o, ho, hkey⟩ := haddress r hr url hurl hne
      refine ⟨o, hothers ho fun heq => hid ?_, hkey⟩
      rw [heq, hk] at hkey
      exact (Option.some.inj hkey).symm
    · obtain rfl : v = url := Option.some.inj (havatar.symm.trans hurl)
      have hne₀ : url₀ ≠ [] := by
        rintro rfl
        exact hne ((Database.stored_text_iff hstored).mpr (by decide))
      obtain ⟨hnul, data, hobject⟩ := hown hne₀
      obtain rfl := (Database.stored_text_iff hstored).mpr hnul
      exact ⟨_, hobject, hid ▸ hk⟩

/-- A request that answers 500 and is not stranded leaves both stores as they were. -/
lemma unchanged_of_failed (hkeeps : KeepsObjects env.avatarStorage object)
    (hv : w.store.Valid env.db.schema) (hw : IsAvatarWrite request)
    (hgood : ¬ Strands env w request) (h500 : AnswersWith env w request 500) :
    (serve env w request).2.storage = w.storage ∧ (serve env w request).2.store = w.store := by
  by_cases hu : extractUserID request = []
  · rw [serve_of_nobody hw hu]
    exact ⟨rfl, rfl⟩
  rcases hstep : storageStep env w.storage request with _ | ⟨url, s'⟩
  · exact avatarWrite_none hkeeps hw hu hstep
  by_cases hfails : UpdateFails env w request url
  · obtain ⟨-, hstorage, hstore⟩ := avatarWrite_fails hw hu hstep hfails
    refine ⟨hstorage.trans ?_, hstore⟩
    by_contra hne
    exact hgood ⟨hw, hu, url, s', hstep, hne, hfails⟩
  · obtain ⟨⟨status, hstatus, hanswer⟩, -⟩ := avatarWrite_done hv hw hu hstep hfails
    have := h500.unique hanswer
    omega

end Runs

/-- For every storage that keeps objects and every pattern of failures: along a run the
addresses in the table lead to objects, and a request that answers 500 leaves the storage and
the addresses as they were, exactly if there is no request in the run that changes the storage
and whose `UPDATE` then fails. -/
theorem avatars_consistent_iff (env : Env σ)
    (object : σ → Bytes → Option (Bytes × List UInt8))
    (hkeeps : KeepsObjects env.avatarStorage object) (storage : σ) (requests : List Request) :
    AvatarsConsistent env object storage requests ↔ ∀ before request,
      before ++ [request] <+: requests → ¬ Strands env (after env storage before) request := by
  constructor
  · rintro ⟨-, hunchanged⟩ before request hprefix ⟨hw, hu, url, s', hstep, hne, hfails⟩
    obtain ⟨h500, hstorage, -⟩ := avatarWrite_fails hw hu hstep hfails
    obtain ⟨hsame, -⟩ := hunchanged before request hprefix hw h500
    rw [after, Mealy.run_concat, hstorage] at hsame
    exact hne hsame
  · intro hgood
    have hresolves : ∀ before, before <+: requests →
        Resolves env object (after env storage before) :=
      Mealy.invariant_of_steps (resolves_step hkeeps) (resolves_start env object storage) hgood
    constructor
    · intro before hbefore r hr url hurl hne
      obtain ⟨o, ho, -⟩ := (hresolves before hbefore).address r hr url hurl hne
      exact ⟨o, ho⟩
    · intro before request hprefix hw h500
      obtain ⟨hstorage, hstore⟩ := unchanged_of_failed hkeeps (after_valid env storage before) hw
        (hgood before request hprefix) h500
      rw [after, Mealy.run_concat]
      exact ⟨hstorage, fun k => by rw [hstore]⟩

/-! ## A storage in memory -/

/-- Every user has one address; it is refused while it leads to the object of another. -/
def memoryStorage : AvatarStorage (Bytes → Option (Bytes × List UInt8)) where
  upload userId data _ s :=
    let url := str "/avatars/" ++ PercentEncoding.encode userId
    if (s url).any (fun o => o.1 != userId) then (.error ⟨str "address is taken"⟩, s)
    else (.ok url, fun x => if x = url then some (userId, data) else s x)
  delete userId s := (.ok (), fun x => (s x).filter fun o => o.1 != userId)

lemma memoryStorage_upload {userId data contentType url : Bytes}
    {s s' : Bytes → Option (Bytes × List UInt8)}
    (h : memoryStorage.upload userId data contentType s = (.ok url, s')) :
    url = str "/avatars/" ++ PercentEncoding.encode userId ∧
      (s url).any (fun o => o.1 != userId) = false ∧
      s' = fun x => if x = url then some (userId, data) else s x := by
  simp only [memoryStorage] at h
  split_ifs at h with htaken
  · exact absurd (Prod.mk.inj h).1 (by simp)
  · obtain ⟨hurl, rfl⟩ := Prod.mk.inj h
    obtain rfl := Except.ok.inj hurl
    exact ⟨rfl, by simpa using htaken, rfl⟩

lemma memoryStorage_keepsObjects : KeepsObjects memoryStorage fun s url => s url where
  upload_ok := by
    intro userId data contentType s url s' h
    obtain ⟨rfl, -, rfl⟩ := memoryStorage_upload h
    refine ⟨if_pos rfl, fun h0 => ?_⟩
    rcases List.mem_append.mp h0 with h0 | h0
    · exact absurd h0 (by decide)
    · exact absurd (PercentEncoding.mem_encode h0).1.1 (by decide)
  upload_others := by
    intro userId data contentType s url s' h url' o ho hne
    obtain ⟨-, hfree, rfl⟩ := memoryStorage_upload h
    refine (if_neg fun heq => ?_).trans ho
    rw [← heq, ho, Option.any_some, bne_eq_false_iff_eq] at hfree
    exact hne hfree
  upload_error := by
    intro userId data contentType s e s' h
    simp only [memoryStorage] at h
    split_ifs at h
    · exact (Prod.mk.inj h).2.symm
    · exact absurd (Prod.mk.inj h).1 (by simp)
  delete_ok := by
    intro userId s s' h url o ho
    obtain ⟨-, rfl⟩ := Prod.mk.inj h
    obtain ⟨-, hne⟩ := Option.filter_eq_some_iff.mp ho
    simpa using hne
  delete_others := by
    intro userId s s' h url' o ho hne
    obtain ⟨-, rfl⟩ := Prod.mk.inj h
    exact Option.filter_eq_some_iff.mpr ⟨ho, by simpa using hne⟩
  delete_error := by
    intro userId s e s' h
    exact absurd (Prod.mk.inj h).1 (by simp)

/-- The standalone deployment with this storage, and a tape on which some statements fail. -/
def memoryEnv (fails : ℕ → Bool) : Env (Bytes → Option (Bytes × List UInt8)) where
  toTape := { Tape.quiet with
    fault := fun n => if fails n then some ⟨str "connection lost"⟩ else none }
  db := (Env.standalone .migrations).db
  json := (Env.standalone .migrations).json
  avatarStorage := memoryStorage
  mktime := timegm

/-- Alice gets a profile and an avatar. -/
def objectRun : List Request :=
  [requestBy (str "gateway") .post (str "/internal/profiles")
      (str "\x7b\"user_id\":\"alice\"\x7d"), uploadBy (str "alice")]

/-- While no statement fails her avatar is consistent. -/
theorem avatars_consistent_iff_alice :
    AvatarsConsistent (memoryEnv fun _ => false) (fun s url => s url) (fun _ => none)
      objectRun := by
  refine (avatars_consistent_iff (memoryEnv fun _ => false) _ memoryStorage_keepsObjects _ _).mpr ?_
  rintro before request hprefix ⟨hw, hu, url, s', hstep, -, hfails⟩
  have hmem : request ∈ objectRun := hprefix.subset (by simp)
  simp only [objectRun, List.mem_cons, List.not_mem_nil, or_false] at hmem
  rcases hmem with rfl | rfl
  · exact absurd hw.2 (by decide)
  obtain ⟨data, contentType, -, hupload⟩ := storageStep_post rfl hstep
  obtain ⟨rfl, -⟩ := memoryStorage_upload hupload
  rcases hfails with h | h | h
  · exact absurd rfl h
  · exact absurd h (by decide)
  · exact absurd h (by decide)

/-- The `UPDATE` of a deletion fails. -/
theorem avatar_stranded :
    KeepsObjects (memoryEnv fun n => n = 2).avatarStorage (fun s url => s url) ∧
    ¬ AvatarsConsistent (memoryEnv fun n => n = 2) (fun s url => s url) (fun _ => none)
      (objectRun ++ [requestBy (str "alice") .delete (str "/me/avatar") []]) := by
  refine ⟨memoryStorage_keepsObjects, fun h => ?_⟩
  have hrow : (after (memoryEnv fun n => n = 2) (fun _ => none)
      (objectRun ++ [requestBy (str "alice") .delete (str "/me/avatar") []])).store.profiles =
        [⟨str "alice", none, none, none, none, some (str "/avatars/alice"), 0, 1000000⟩] := by
    decide
  have hgone : (after (memoryEnv fun n => n = 2) (fun _ => none)
      (objectRun ++ [requestBy (str "alice") .delete (str "/me/avatar") []])).storage
        (str "/avatars/alice") = none := by decide
  obtain ⟨o, ho⟩ := h.resolves _ List.prefix_rfl _ (hrow ▸ List.mem_cons_self) _ rfl (by decide)
  exact absurd (hgone.symm.trans ho) (by simp)

end ProfileService
