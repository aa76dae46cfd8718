/-
# Avatars that were acknowledged

An upload and a deletion of an avatar end in an `UPDATE` that may match no row, and they are
acknowledged all the same.  The next `GET /me` shows what was acknowledged exactly if the user
has a profile, up to what a column of texts can hold.
-/
import ProfileService.Profiles

namespace ProfileService

open Bytes (str NulFree)

variable {σ : Type}

/-- The request is answered with the status 200 and this address of an avatar. -/
def ShowsAvatar (env : Env σ) (w : World σ) (request : Request) (avatarUrl : Bytes) : Prop :=
  ∃ j, Shows env w request j ∧ j.member? (str "avatar_url") = some (.string avatarUrl)

/-- The user of the request has a profile. -/
def HasProfile (env : Env σ) (w : World σ) (request : Request) : Prop :=
  ∃ k r, env.db.idKey (extractUserID request) = some k ∧ w.store.profile k = some r

section Avatars

variable {env : Env σ} {w : World σ} {request read : Request} {u k : Bytes}

/-- What a text column stores of a text is the text if it holds no NUL, and no other. -/
lemma Database.stored_text_iff {db : Database} {s v : Bytes} (h : db.stored .text s = some v) :
    v = s ↔ s.NulFree := by
  constructor
  · rintro rfl
    exact (Database.stored_holds h).nulFree
  · intro hnul
    rw [Database.stored, db.receive_verbatim (Database.valid_of_stored h) hnul] at h
    exact (Option.some.inj h).symm

/-- `GET /me` shows the avatar in the row of the user. -/
lemma showsAvatar_iff (hv : w.store.Valid env.db.schema) (hread : ReadsProfile u read)
    (x : Bytes) :
    ShowsAvatar env w read x ↔ env.fault w.statements = none ∧
      ∃ k r, env.db.idKey u = some k ∧ w.store.profile k = some r ∧ r.avatarUrl.getD [] = x := by
  have havatar : ∀ r : ProfileRow,
      (ProfileHandler.profileJson (r.read env w)).member? (str "avatar_url") =
        some (.string (r.avatarUrl.getD [])) := fun r => by
    rw [ProfileHandler.profileJson, Json.member?_ofMembers]
    rfl
  by_cases hfound : env.fault w.statements = none ∧
      ∃ k r, env.db.idKey u = some k ∧ w.store.profile k = some r
  · obtain ⟨hfault, k, r, hk, hr⟩ := hfound
    have hshows := getProfile_shows hfault hv hread hk hr
    constructor
    · rintro ⟨j, hj, hx⟩
      rw [hj.unique hshows, havatar] at hx
      exact ⟨hfault, k, r, hk, hr, Json.string.inj (Option.some.inj hx)⟩
    · rintro ⟨-, k', r', hk', hr', rfl⟩
      obtain rfl := Option.some.inj (hk.symm.trans hk')
      obtain rfl := Option.some.inj (hr.symm.trans hr')
      exact ⟨_, hshows, havatar r⟩
  · have hmissing := getProfile_missing hread fun hfault k hk =>
      Option.eq_none_iff_forall_ne_some.mpr fun r hr => hfound ⟨hfault, k, r, hk, hr⟩
    constructor
    · rintro ⟨j, ⟨response, w', hserve, hstatus, -⟩, -⟩
      rw [hserve] at hmissing
      obtain rfl := Except.ok.inj hmissing
      exact absurd hstatus (by simp)
    · rintro ⟨hfault, k, r, hk, hr, -⟩
      exact absurd ⟨hfault, k, r, hk, hr⟩ hfound

/-- A request that is not refused is by a user. -/
lemma user_of_status {response : Response} {w' : World σ}
    (hserve : serve env w request = (.ok response, w')) (hok : response.status < 400)
    (hm : request.method ∈ [.post, .delete]) (ht : request.target = str "/me/avatar") :
    extractUserID request ≠ [] := by
  rcases serve_cases env request with ⟨response', hidle, hserve'⟩ | ⟨id, -, haccepts, huser, -⟩
  · obtain rfl := Except.ok.inj (Prod.mk.inj (hserve.symm.trans (hserve' w))).1
    rcases hidle with h | h
    · omega
    · rw [h] at hm
      exact absurd hm (by decide)
  · refine huser.resolve_left ?_
    rintro rfl
    rw [HandlerId.Accepts, ht] at haccepts
    exact absurd haccepts (by decide)

/-- After an avatar was set the row of the user has it, if there is one. -/
lemma profile_avatarSet (hv : w.store.Valid env.db.schema) {avatarUrl : Bytes}
    (hevent : eventOf env (request, (serve env w request).1) = some (.avatarSet k avatarUrl)) :
    ((serve env w request).2.store.profile k).map ProfileRow.avatarUrl =
      (w.store.profile k).map fun _ => some avatarUrl := by
  obtain ⟨response, w', hserve, heffect⟩ := serve_effect env hv request
  rw [hserve] at hevent ⊢
  cases heffect with
  | unchanged _ _ hidle => exact absurd ((eventOf_of_idle hidle).symm.trans hevent) (by simp)
  | written event wr n _ _ hsome hmakes _ hstore _ =>
    obtain rfl := Option.some.inj (hsome.symm.trans hevent)
    obtain rfl : wr = .updateAvatarURL avatarUrl k := hmakes
    rw [hstore, Write.apply, profile_update]
    swap
    · exact fun _ => rfl
    cases w.store.profile k <;> simp

/-- After an avatar was set `GET /me` shows it if the user has a profile. -/
lemma showsAvatar_avatarSet (hv : w.store.Valid env.db.schema) (huser : extractUserID request ≠ [])
    (hk : env.db.idKey (extractUserID request) = some k) {avatarUrl : Bytes}
    (hevent : eventOf env (request, (serve env w request).1) = some (.avatarSet k avatarUrl))
    (hm : read.method = .get) (ht : read.target = str "/me")
    (hsame : extractUserID read = extractUserID request) (x : Bytes) :
    ShowsAvatar env (serve env w request).2 read x ↔ avatarUrl = x ∧
      HasProfile env w request ∧ env.fault (serve env w request).2.statements = none := by
  have hread : ReadsProfile (extractUserID request) read :=
    ⟨hm, hsame ▸ huser, Or.inl ⟨ht, hsame⟩⟩
  have hrow := profile_avatarSet hv hevent
  rw [showsAvatar_iff (serve_valid env w request hv) hread]
  constructor
  · rintro ⟨hfault, k', r, hk', hr, rfl⟩
    obtain rfl := Option.some.inj (hk.symm.trans hk')
    rw [hr] at hrow
    obtain ⟨r₀, hr₀, havatar⟩ := Option.map_eq_some_iff.mp hrow.symm
    exact ⟨by rw [← havatar]; rfl, ⟨k, r₀, hk, hr₀⟩, hfault⟩
  · rintro ⟨rfl, ⟨k', r₀, hk', hr₀⟩, hfault⟩
    obtain rfl := Option.some.inj (hk.symm.trans hk')
    rw [hr₀] at hrow
    obtain ⟨r, hr, havatar⟩ := Option.map_eq_some_iff.mp hrow
    exact ⟨hfault, k, r, hk, hr, by rw [havatar]; rfl⟩

/-- The event of an upload that is answered with an address. -/
lemma upload_event (hv : w.store.Valid env.db.schema) (hm : request.method = .post)
    (ht : request.target = str "/me/avatar") {x : Bytes} (hx : ShowsAvatar env w request x) :
    extractUserID request ≠ [] ∧ ∃ k v, env.db.idKey (extractUserID request) = some k ∧
      env.db.stored .text x = some v ∧
      eventOf env (request, (serve env w request).1) = some (.avatarSet k v) := by
  obtain ⟨j, ⟨response, w', hserve, hstatus, hparse⟩, hj⟩ := hx
  obtain ⟨response', w'', hserve', heffect⟩ := serve_effect env hv request
  obtain ⟨hresponse, -⟩ := Prod.mk.inj (hserve.symm.trans hserve')
  obtain rfl := Except.ok.inj hresponse
  obtain ⟨event, hevent⟩ := heffect.exists_event (by omega) (by simp [hm])
  refine ⟨user_of_status hserve (by omega) (by simp [hm]) ht, ?_⟩
  rw [hserve, hevent]
  rw [eventOf_of_accepts .uploadAvatar hm ht (by omega)] at hevent
  obtain ⟨k, hk, h⟩ := Option.bind_eq_some_iff.mp hevent
  obtain ⟨j', hj', h⟩ := Option.bind_eq_some_iff.mp h
  obtain ⟨url, hurl, h⟩ := Option.bind_eq_some_iff.mp h
  obtain ⟨v, hstored, hset⟩ := Option.bind_eq_some_iff.mp h
  obtain rfl : j = j' := by
    rw [hparse] at hj'
    exact Option.some.inj hj'
  have hvalue : value getString j (str "avatar_url") [] = .ok x := by
    cases j with
    | object ms =>
      simp only [value, hj]
      rfl
    | _ => exact absurd hj (by simp [Json.member?])
  rw [hvalue] at hurl
  obtain rfl := Option.some.inj hurl
  exact ⟨k, v, hk, hstored, hset.symm⟩

/-- The event of a deletion that is answered with success. -/
lemma deleteAvatar_event (hv : w.store.Valid env.db.schema) (hm : request.method = .delete)
    (ht : request.target = str "/me/avatar") (h : AnswersWith env w request 204) :
    extractUserID request ≠ [] ∧ ∃ k, env.db.idKey (extractUserID request) = some k ∧
      eventOf env (request, (serve env w request).1) = some (.avatarSet k []) := by
  obtain ⟨response, w', hserve, hstatus⟩ := h
  obtain ⟨response', w'', hserve', heffect⟩ := serve_effect env hv request
  obtain ⟨hresponse, -⟩ := Prod.mk.inj (hserve.symm.trans hserve')
  obtain rfl := Except.ok.inj hresponse
  obtain ⟨event, hevent⟩ := heffect.exists_event (by omega) (by simp [hm])
  refine ⟨user_of_status hserve (by omega) (by simp [hm]) ht, ?_⟩
  rw [hserve, hevent]
  rw [eventOf_of_accepts .deleteAvatar hm ht (by omega)] at hevent
  obtain ⟨k, hk, h⟩ := Option.bind_eq_some_iff.mp hevent
  exact ⟨k, hk, h.symm⟩

end Avatars

/-- After any requests, an upload that is answered with an address is shown by the next
`GET /me` exactly if the user has a profile, the statement of the GET does not fail and the
address holds no NUL, and a deletion that is answered with 204 exactly if the user has a profile
and the statement of the GET does not fail. -/
theorem avatar_shown_iff (env : Env σ) (storage : σ) (requests : List Request)
    (write read : Request) (ht : write.target = str "/me/avatar") (hm : read.method = .get)
    (hread : read.target = str "/me") (hsame : extractUserID read = extractUserID write) :
    (write.method = .post → ∀ x, ShowsAvatar env (after env storage requests) write x →
      (ShowsAvatar env (serve env (after env storage requests) write).2 read x ↔
        x.NulFree ∧ HasProfile env (after env storage requests) write ∧
          env.fault (serve env (after env storage requests) write).2.statements = none)) ∧
    (write.method = .delete → AnswersWith env (after env storage requests) write 204 →
      (ShowsAvatar env (serve env (after env storage requests) write).2 read [] ↔
        HasProfile env (after env storage requests) write ∧
          env.fault (serve env (after env storage requests) write).2.statements = none)) := by
  have hv := after_valid env storage requests
  constructor
  · intro hpost x hx
    obtain ⟨huser, k, v, hk, hstored, hevent⟩ := upload_event hv hpost ht hx
    rw [showsAvatar_avatarSet hv huser hk hevent hm hread hsame x,
      Database.stored_text_iff hstored]
  · intro hdelete h204
    obtain ⟨huser, k, hk, hevent⟩ := deleteAvatar_event hv hdelete ht h204
    rw [showsAvatar_avatarSet hv huser hk hevent hm hread hsame []]
    simp only [true_and]

/-- Alice gets a profile. -/
def avatarRun : List Request :=
  [requestBy (str "gateway") .post (str "/internal/profiles")
    (str "\x7b\"user_id\":\"alice\"\x7d")]

/-- An upload by a user. -/
def uploadBy (user : Bytes) : Request :=
  requestBy user .post (str "/me/avatar") (str "\x7b\"image_data\":\"AAAA\"\x7d")

/-- Her upload is shown. -/
theorem avatar_shown_iff_alice :
    ShowsAvatar (Env.standalone .migrations)
      (serve (Env.standalone .migrations) (after (Env.standalone .migrations) () avatarRun)
        (uploadBy (str "alice"))).2
      (requestBy (str "alice") .get (str "/me") [])
      (str "http://localhost:9000/avatars/alice/avatar.jpg") := by
  have hprofile : HasProfile (Env.standalone .migrations)
      (after (Env.standalone .migrations) () avatarRun) (uploadBy (str "alice")) :=
    ⟨str "alice", ⟨str "alice", none, none, none, none, none, 0, 0⟩, by decide, by decide⟩
  exact ((avatar_shown_iff (Env.standalone .migrations) () avatarRun (uploadBy (str "alice"))
    (requestBy (str "alice") .get (str "/me") []) rfl rfl rfl rfl).1 rfl _
    ⟨_, ⟨_, _, rfl, rfl, rfl⟩, rfl⟩).mpr ⟨by decide, hprofile, rfl⟩

/-- An upload by Bob, who has no profile, is acknowledged, and then no profile is found; his
deletion likewise. -/
theorem avatar_not_shown :
    (ShowsAvatar (Env.standalone .migrations) (after (Env.standalone .migrations) () avatarRun)
        (uploadBy (str "bob")) (str "http://localhost:9000/avatars/bob/avatar.jpg") ∧
      AnswersWith (Env.standalone .migrations)
        (serve (Env.standalone .migrations) (after (Env.standalone .migrations) () avatarRun)
          (uploadBy (str "bob"))).2 (requestBy (str "bob") .get (str "/me") []) 404) ∧
    AnswersWith (Env.standalone .migrations) (after (Env.standalone .migrations) () avatarRun)
        (requestBy (str "bob") .delete (str "/me/avatar") []) 204 ∧
      AnswersWith (Env.standalone .migrations)
        (serve (Env.standalone .migrations) (after (Env.standalone .migrations) () avatarRun)
          (requestBy (str "bob") .delete (str "/me/avatar") [])).2
        (requestBy (str "bob") .get (str "/me") []) 404 :=
  ⟨⟨⟨_, ⟨_, _, rfl, rfl, rfl⟩, rfl⟩, ⟨_, _, rfl, rfl⟩⟩, ⟨_, _, rfl, rfl⟩, ⟨_, _, rfl, rfl⟩⟩

end ProfileService
