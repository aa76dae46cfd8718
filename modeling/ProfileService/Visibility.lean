/-
# Who sees a profile

`GET /{user_id}` answers from the row of the profile and from nothing else.  Two users who ask
get the same answer whatever the privacy settings and the contacts of the owner are, and two
stores that differ only in the texts of the profile give the same answer only if the texts are
shown alike.
-/
import ProfileService.Noninterference
import ProfileService.Reachable
import ProfileService.Reads

namespace ProfileService

open Bytes (str)
open Prog (Agrees)

variable {σ : Type}

/-- The texts of a profile. -/
structure ProfileTexts where
  firstName : Option Bytes
  lastName : Option Bytes
  username : Option Bytes
  bio : Option Bytes
  avatarUrl : Option Bytes

/-- How a GET shows them: null is the empty text. -/
def ProfileTexts.shown (texts : ProfileTexts) : List Bytes :=
  [texts.firstName.getD [], texts.lastName.getD [], texts.username.getD [], texts.bio.getD [],
    texts.avatarUrl.getD []]

/-- The texts of a row. -/
def ProfileRow.texts (r : ProfileRow) : ProfileTexts :=
  ⟨r.firstName, r.lastName, r.username, r.bio, r.avatarUrl⟩

/-- The row with other texts. -/
def ProfileRow.withTexts (texts : ProfileTexts) (r : ProfileRow) : ProfileRow :=
  { r with
    firstName := texts.firstName, lastName := texts.lastName, username := texts.username,
    bio := texts.bio, avatarUrl := texts.avatarUrl }

/-- The tables with other texts in the profile with the id. -/
def Store.withTexts (st : Store) (k : Bytes) (texts : ProfileTexts) : Store :=
  { st with profiles := Table.update (ProfileRow.hasId k) (ProfileRow.withTexts texts) st.profiles }

/-- The world with these tables. -/
def World.withStore (w : World σ) (store : Store) : World σ := { w with store := store }

section Texts

variable {st : Store} {k : Bytes} {texts : ProfileTexts}

lemma Store.profile_withTexts (st : Store) (k : Bytes) (texts : ProfileTexts) :
    (st.withTexts k texts).profile k = (st.profile k).map (ProfileRow.withTexts texts) := by
  have hid : ∀ r : ProfileRow, r.hasId k → (r.withTexts texts).hasId k = r.hasId k :=
    fun r _ => rfl
  have hfind := Table.find?_update hid st.profiles
  rw [Store.profile, Store.withTexts, hfind, Store.profile]
  exact Option.map_congr fun r hr => if_pos (List.find?_some hr)

/-- Without a profile with the id nothing is changed. -/
lemma Store.withTexts_of_none (h : st.profile k = none) : st.withTexts k texts = st := by
  rw [Store.profile, List.find?_eq_none] at h
  rw [Store.withTexts, Table.update_of_forall_not fun r hr => by simpa using h r hr]

/-- The rows of another user are as they were. -/
lemma ownRowsAgree_withTexts {k' : Bytes} (h : k' ≠ k) :
    OwnRowsAgree k' st (st.withTexts k texts) := by
  refine ⟨(Table.filter_update (fun r hr => ?_) _).symm, rfl, rfl, rfl, rfl⟩
  have hne : ProfileRow.hasId k' r = false := by
    simp only [ProfileRow.hasId, beq_iff_eq] at hr
    simp [ProfileRow.hasId, hr, h.symm]
  exact ⟨hne, hne⟩

end Texts

/-! ## The answer to a GET of a profile -/

section Answer

variable {env : Env σ} {w : World σ} {request : Request} {u k : Bytes} {r : ProfileRow}

/-- Two profiles are answered alike only if their texts are shown alike. -/
lemma shown_of_profileJson_eq {r' : ProfileRow}
    (h : ProfileHandler.profileJson (r.read env w) = ProfileHandler.profileJson (r'.read env w)) :
    r.texts.shown = r'.texts.shown := by
  have hmember : ∀ key : String,
      (ProfileHandler.profileJson (r.read env w)).member? (str key) =
        (ProfileHandler.profileJson (r'.read env w)).member? (str key) := fun key => by rw [h]
  simp only [ProfileHandler.profileJson, Json.member?_ofMembers] at hmember
  have h₁ := Json.string.inj (Option.some.inj (hmember "first_name"))
  have h₂ := Json.string.inj (Option.some.inj (hmember "last_name"))
  have h₃ := Json.string.inj (Option.some.inj (hmember "username"))
  have h₄ := Json.string.inj (Option.some.inj (hmember "bio"))
  have h₅ := Json.string.inj (Option.some.inj (hmember "avatar_url"))
  exact congrArg₂ _ h₁ (congrArg₂ _ h₂ (congrArg₂ _ h₃ (congrArg₂ _ h₄ (congrArg₂ _ h₅ rfl))))

/-- Profiles whose texts are shown alike are answered alike. -/
lemma profileJson_eq_of_shown {texts : ProfileTexts} (h : r.texts.shown = texts.shown) :
    ProfileHandler.profileJson (r.read env w) =
      ProfileHandler.profileJson ((r.withTexts texts).read env w) := by
  simp only [ProfileTexts.shown, ProfileRow.texts, List.cons.injEq, and_true] at h
  obtain ⟨h₁, h₂, h₃, h₄, h₅⟩ := h
  simp only [ProfileHandler.profileJson, ProfileRow.read, ProfileRow.withTexts, h₁, h₂, h₃, h₄, h₅]

/-- The answer to a GET of a profile while the database is up: the same for the texts of the
row and for others exactly when they are shown alike. -/
lemma getProfile_same_of_row (hfault : env.fault w.statements = none)
    (hv : w.store.Valid env.db.schema) (h : ReadsProfile u request)
    (hk : env.db.idKey u = some k) (hr : w.store.profile k = some r) {texts : ProfileTexts}
    (hv' : (w.store.withTexts k texts).Valid env.db.schema) :
    (serve env w request).1 = (serve env (w.withStore (w.store.withTexts k texts)) request).1 ↔
      r.texts.shown = texts.shown := by
  have hr' : (w.withStore (w.store.withTexts k texts)).store.profile k =
      some (r.withTexts texts) := by
    rw [World.withStore, Store.profile_withTexts, hr, Option.map_some]
  obtain ⟨text, htext, hanswer⟩ := getProfile_answer hfault hv h hk hr
  obtain ⟨text', htext', hanswer'⟩ :=
    getProfile_answer (w := w.withStore (w.store.withTexts k texts)) hfault hv' h hk hr'
  rw [hanswer, hanswer']
  constructor
  · intro heq
    have hbody : text = text' := congrArg Response.body (Except.ok.inj heq)
    -- both values are read back from the one text
    have hparse := env.json.parse_dump (profileJson_utf8 hv (Store.profile_mem hr).1 env w)
      (Json.ofMembers_sorted (by simp)) htext
    have hparse' := env.json.parse_dump
      (profileJson_utf8 hv' (Store.profile_mem hr').1 env (w.withStore _))
      (Json.ofMembers_sorted (by simp)) htext'
    rw [hbody] at hparse
    exact shown_of_profileJson_eq (Except.ok.inj (hparse.symm.trans hparse'))
  · intro hshown
    have htexts : ProfileHandler.profileJson (r.read env w) = _ := profileJson_eq_of_shown hshown
    rw [htexts] at htext
    obtain rfl := Except.ok.inj (htext.symm.trans htext')
    rfl

end Answer

/-! ## Stores that differ in a profile -/

section Differ

variable {env : Env σ} {w : World σ} {request : Request} {o k : Bytes}

/-- A GET that is not routed to the profile of a user, by another user. -/
lemma serve_withTexts_of_route (hm : request.method = .get)
    (hstranger : env.db.idKey (extractUserID request) ≠ some k) (texts : ProfileTexts)
    (hroute : ∀ info, resolveRoute request.target .get = some info → info.id ≠ .getProfileByID) :
    (serve env w request).1 =
      (serve env (w.withStore (w.store.withTexts k texts)) request).1 := by
  rcases serve_cases env request with ⟨response, -, hserve⟩ | ⟨id, hid, ht, -, hserve⟩
  · rw [hserve, hserve]
  obtain ⟨info, rfl, hinfo⟩ := resolveRoute_complete ht
  rw [← hid, hm] at hinfo
  have hagrees : Agrees env (ReadsFrom (AgreeFor env (extractUserID request)))
      (info.id.body request request.context : Svc σ Response) :=
    body_agrees request request.context (HandlerId.isRead_iff.mpr (hid.symm.trans hm))
      (hroute info hinfo)
  rw [hserve, hserve]
  refine (hagrees w (w.withStore (w.store.withTexts k texts))
    ⟨rfl, rfl, fun k' hk' => ownRowsAgree_withTexts ?_⟩).1
  rintro rfl
  exact hstranger hk'

/-- A GET of a profile that is not read: there is none, or the statement fails. -/
lemma serve_withTexts_of_unread (h : ReadsProfile o request) (texts : ProfileTexts)
    (hunread : w.store.profile k = none ∨ ∃ err, env.fault w.statements = some err) :
    (serve env w request).1 =
      (serve env (w.withStore (w.store.withTexts k texts)) request).1 := by
  rcases hunread with hnone | ⟨err, herr⟩
  · rw [Store.withTexts_of_none hnone]
    rfl
  · have hfault : env.fault w.statements ≠ none := by simp [herr]
    have hfails : ∀ w' : World σ, w'.statements = w.statements → (serve env w' request).1 =
        .ok (errorResponse 404 request.version (str "profile not found")) :=
      fun w' hw' => getProfile_missing h fun hnone => absurd (hw' ▸ hnone) hfault
    rw [hfails w rfl, hfails (w.withStore (w.store.withTexts k texts)) rfl]

/-- A bare slash names no profile. -/
lemma serve_withTexts_of_slash (hm : request.method = .get) (ht : request.target = str "/")
    (huser : extractUserID request ≠ []) (w' : World σ) :
    (serve env w request).1 = (serve env w' request).1 := by
  have hid : request.method = HandlerId.getProfileByID.method := hm
  have haccepts : HandlerId.getProfileByID.Accepts request.target := by
    rw [ht]
    decide
  have hfind : request.context.find (str "user_id") = none := by
    rw [Request.find_profile haccepts, ht]
    rfl
  rw [serve_eq_body hid haccepts (Or.inr huser), serve_eq_body hid haccepts (Or.inr huser)]
  simp only [HandlerId.body, ProfileHandler.handleGetProfileByID, hfind]
  rfl

/-- Two stores that differ only in the texts of a profile give the same answer exactly if the
texts are shown alike, when the GET reads the profile. -/
lemma serve_withTexts_iff (hv : w.store.Valid env.db.schema) (hk : env.db.idKey o = some k)
    (hm : request.method = .get) (ht : request.target = str "/" ++ o)
    (huser : extractUserID request ≠ []) (hstranger : env.db.idKey (extractUserID request) ≠ some k)
    {texts : ProfileTexts} (hv' : (w.store.withTexts k texts).Valid env.db.schema) :
    (serve env w request).1 = (serve env (w.withStore (w.store.withTexts k texts)) request).1 ↔
      ∀ info r, resolveRoute request.target .get = some info → info.id = .getProfileByID →
        o ≠ [] → env.fault w.statements = none → w.store.profile k = some r →
        r.texts.shown = texts.shown := by
  -- when a condition for reading the row fails, the answers are the same without it
  by_cases hroute : ∃ info, resolveRoute request.target .get = some info ∧
      info.id = .getProfileByID
  swap
  · exact ⟨fun _ info r hinfo hid => absurd ⟨info, hinfo, hid⟩ hroute, fun _ =>
      serve_withTexts_of_route hm hstranger texts fun info hinfo hid => hroute ⟨info, hinfo, hid⟩⟩
  obtain ⟨info, hinfo, hid⟩ := hroute
  by_cases ho : o = []
  · subst ho
    exact ⟨fun _ info' r _ _ hne => absurd rfl hne, fun _ =>
      serve_withTexts_of_slash hm ht huser _⟩
  have hread : ReadsProfile o request := ⟨hm, huser, Or.inr ⟨ho, ht, info, hinfo, hid⟩⟩
  rcases hfault : env.fault w.statements with _ | err
  swap
  · exact ⟨fun _ info' r _ _ _ hnone => absurd hnone (by simp), fun _ =>
      serve_withTexts_of_unread hread texts (Or.inr ⟨err, hfault⟩)⟩
  rcases hr : w.store.profile k with _ | r
  · exact ⟨fun _ info' r _ _ _ _ hsome => absurd hsome (by simp), fun _ =>
      serve_withTexts_of_unread hread texts (Or.inl hr)⟩
  · rw [getProfile_same_of_row hfault hv hread hk hr hv']
    constructor
    · intro hshown info' r' _ _ _ _ hr'
      rwa [← Option.some.inj hr']
    · exact fun h => h info r hinfo hid ho rfl rfl

/-- Whoever asks gets the same answer from all stores with the same profile. -/
lemma serve_of_same_profile (hk : env.db.idKey o = some k) (hm : request.method = .get)
    (ht : request.target = str "/" ++ o) (huser : extractUserID request ≠ [])
    {info : HandlerInfo} (hinfo : resolveRoute request.target .get = some info)
    (hid : info.id = .getProfileByID) {request' : Request} (hm' : request'.method = .get)
    (ht' : request'.target = request.target) (hversion : request'.version = request.version)
    (huser' : extractUserID request' ≠ []) {w' : World σ}
    (hstatements : w'.statements = w.statements) (hreadings : w'.readings = w.readings)
    (hrows : w'.store.profiles.filter (ProfileRow.hasId k) =
      w.store.profiles.filter (ProfileRow.hasId k)) :
    (serve env w' request').1 = (serve env w request).1 := by
  obtain ⟨-, haccepts, -⟩ := resolveRoute_sound hinfo
  rw [hid] at haccepts
  have hmethod : request.method = HandlerId.getProfileByID.method := hm
  have hmethod' : request'.method = HandlerId.getProfileByID.method := hm'
  have haccepts' : HandlerId.getProfileByID.Accepts request'.target := ht' ▸ haccepts
  have hdrop : request.target.drop 1 = o := by
    rw [ht]
    rfl
  have hfind := Request.find_profile haccepts
  rw [hdrop] at hfind
  -- the two requests run the same body
  have hsame : (HandlerId.getProfileByID.body request' request'.context : Svc σ Response) =
      HandlerId.getProfileByID.body request request.context := by
    have hfind' := Request.find_profile haccepts'
    rw [ht', hdrop] at hfind'
    simp only [HandlerId.body, ProfileHandler.handleGetProfileByID, dumpResponse, hfind, hfind',
      hversion]
  have hagrees : Agrees env (ReadsFrom fun st st' =>
        st.profiles.filter (ProfileRow.hasId k) = st'.profiles.filter (ProfileRow.hasId k))
      (HandlerId.getProfileByID.body request request.context : Svc σ Response) := by
    refine getProfileByID_agrees fun v hv st st' hP k' hk' => ?_
    rw [hfind] at hv
    split_ifs at hv
    obtain rfl := Option.some.inj hv
    obtain rfl := Option.some.inj (hk.symm.trans hk')
    exact hP
  rw [serve_eq_body hmethod haccepts (Or.inr huser),
    serve_eq_body hmethod' haccepts' (Or.inr huser'), hsame]
  exact (hagrees w' w ⟨hstatements, hreadings, hrows⟩).1

end Differ

/-- What a user sees of the profile of another does not depend on privacy settings and
contacts.  Two stores that differ only in the texts of the profile give the same answer exactly
if the texts are shown alike, when the GET reads the profile; and whoever asks gets the same
answer from all stores with the same profile. -/
theorem getProfile_same_iff (env : Env σ) (w : World σ) (hv : w.store.Valid env.db.schema)
    {o k : Bytes} (hk : env.db.idKey o = some k) (request : Request) (hm : request.method = .get)
    (ht : request.target = str "/" ++ o) (huser : extractUserID request ≠ [])
    (hstranger : env.db.idKey (extractUserID request) ≠ some k) :
    (∀ texts : ProfileTexts, (w.store.withTexts k texts).Valid env.db.schema →
      ((serve env w request).1 =
          (serve env (w.withStore (w.store.withTexts k texts)) request).1 ↔
        ∀ info r, resolveRoute request.target .get = some info → info.id = .getProfileByID →
          o ≠ [] → env.fault w.statements = none → w.store.profile k = some r →
          r.texts.shown = texts.shown)) ∧
    ∀ (info : HandlerInfo) (request' : Request) (w' : World σ),
      resolveRoute request.target .get = some info → info.id = .getProfileByID →
      request'.method = .get → request'.target = request.target →
      request'.version = request.version → extractUserID request' ≠ [] →
      w'.statements = w.statements → w'.readings = w.readings →
      w'.store.profiles.filter (ProfileRow.hasId k) =
        w.store.profiles.filter (ProfileRow.hasId k) →
      (serve env w' request').1 = (serve env w request).1 := by
  exact ⟨fun texts hv' => serve_withTexts_iff hv hk hm ht huser hstranger hv',
    fun info request' w' hinfo hid hm' ht' hversion huser' hstatements hreadings hrows =>
      serve_of_same_profile hk hm ht huser hinfo hid hm' ht' hversion huser' hstatements hreadings
        hrows⟩

/-- Alice and Bob get profiles, and Alice lets nobody see hers. -/
def hiddenRun : List Request :=
  [requestBy (str "gateway") .post (str "/internal/profiles")
      (str "\x7b\"user_id\":\"alice\"\x7d"),
    requestBy (str "gateway") .post (str "/internal/profiles")
      (str "\x7b\"user_id\":\"bob\"\x7d"),
    requestBy (str "alice") .put (str "/me/privacy")
      (str "\x7b\"profile_visibility\":\"nobody\"\x7d")]

/-- The world after it. -/
def hiddenWorld : World Unit := after (Env.standalone .migrations) () hiddenRun

/-- A name for Alice. -/
def aliceTexts : ProfileTexts := ⟨some (str "Alice"), none, none, none, none⟩

/-- Bob gets the same answer without a name and with an empty one. -/
theorem getProfile_same_iff_empty :
    (serve (Env.standalone .migrations) hiddenWorld
        (requestBy (str "bob") .get (str "/alice") [])).1 =
      (serve (Env.standalone .migrations)
        (hiddenWorld.withStore (hiddenWorld.store.withTexts (str "alice")
          ⟨some [], none, none, none, none⟩))
        (requestBy (str "bob") .get (str "/alice") [])).1 := by
  have hv : hiddenWorld.store.Valid .migrations := by decide
  refine ((getProfile_same_iff (Env.standalone .migrations) hiddenWorld hv (o := str "alice")
    (by decide) _ rfl rfl (by decide) (by decide)).1 _ (by decide)).mpr ?_
  intro info r _ _ _ _ hr
  have hrow : hiddenWorld.store.profile (str "alice") =
      some ⟨str "alice", none, none, none, none, none, 0, 0⟩ := by decide
  rw [← Option.some.inj (hrow.symm.trans hr)]
  decide

/-- Bob sees the name of Alice, who lets nobody see her profile. -/
theorem hidden_profile_seen :
    (hiddenWorld.store.privacySettings.map fun r => (r.userId, r.profileVisibility)) =
      [(str "alice", str "nobody")] ∧
    ∃ response response',
      (serve (Env.standalone .migrations) hiddenWorld
        (requestBy (str "bob") .get (str "/alice") [])).1 = .ok response ∧
      (serve (Env.standalone .migrations)
        (hiddenWorld.withStore (hiddenWorld.store.withTexts (str "alice") aliceTexts))
        (requestBy (str "bob") .get (str "/alice") [])).1 = .ok response' ∧
      response ≠ response' :=
  ⟨by decide, _, _, rfl, rfl, by decide⟩

end ProfileService
