/-
# Reads show a user only the user's own rows

Two runs of a GET from tables that agree on the rows of the user, at the same place on the
tape, give the same answer.  `ReadsFrom` relates the two worlds; the statements of a GET
select rows of the user only, so every step of the body keeps the relation.
-/
import ProfileService.Effects
import ProfileService.Parallel
import ProfileService.Standalone

namespace ProfileService

open Bytes (str)
open Prog (Agrees)

variable {σ : Type}

/-- The tables agree on the rows of a user with the id `k`. -/
structure OwnRowsAgree (k : Bytes) (st st' : Store) : Prop where
  profiles : st.profiles.filter (ProfileRow.hasId k) = st'.profiles.filter (ProfileRow.hasId k)
  contacts : st.contacts.filter (ContactRow.hasOwner k) =
    st'.contacts.filter (ContactRow.hasOwner k)
  privacySettings : st.privacySettings.filter (PrivacyRow.hasUser k) =
    st'.privacySettings.filter (PrivacyRow.hasUser k)
  favorites : st.favorites.filter (FavoriteRow.hasUser k) =
    st'.favorites.filter (FavoriteRow.hasUser k)
  notificationSettings : st.notificationSettings.filter (NotificationRow.hasUser k) =
    st'.notificationSettings.filter (NotificationRow.hasUser k)

/-- Two worlds at the same place on the tape whose tables satisfy `P`. -/
structure ReadsFrom (P : Store → Store → Prop) (w w' : World σ) : Prop where
  statements : w.statements = w'.statements
  readings : w.readings = w'.readings
  store : P w.store w'.store

section Steps

variable {env : Env σ} {P : Store → Store → Prop}

lemma readsFrom_parallel : Parallel env env (ReadsFrom P) where
  json := rfl
  clock := rfl
  mktime := rfl
  readings := ReadsFrom.readings
  reads h := ⟨h.statements, congrArg (· + 1) h.readings, h.store⟩
  enters _ h := ⟨h.statements, h.readings, h.store⟩

/-- A `SELECT` that returns the same rows from both tables. -/
lemma selects_of_rows {query : Query} {params : List DbValue} (hq : query.IsSelect)
    (hrows : ∀ st st', P st st' →
      query.select env.db st (params.map convertValueToPQXX) =
        query.select env.db st' (params.map convertValueToPQXX)) :
    Parallel.Selects env env (ReadsFrom P) query params := by
  intro w w' h
  have hexec : ∀ now rowId st, query.exec env.db now rowId (params.map convertValueToPQXX) st =
      (query.select env.db st (params.map convertValueToPQXX)).map fun rows => (st, rows) :=
    fun _ _ _ => Query.exec_select (hq _ _)
  simp only [Prog.run, executeSelect, executeParams, h.statements, hexec,
    hrows _ _ h.store]
  rcases env.fault w'.statements with _ | err
  · rcases query.select env.db w'.store (params.map convertValueToPQXX) with _ | rows
    · exact ⟨.error _, ⟨rfl, h.readings, h.store⟩⟩
    · exact ⟨.ok (List.forall₂_same.mpr fun row _ => SameRow.refl row),
        ⟨rfl, h.readings, h.store⟩⟩
  · exact ⟨.error err, ⟨rfl, h.readings, h.store⟩⟩

end Steps

/-! ## The bodies of a GET -/

/-- The tables agree on the rows of the user that `u` names to the database. -/
def AgreeFor (env : Env σ) (u : Bytes) (st st' : Store) : Prop :=
  ∀ k, env.db.idKey u = some k → OwnRowsAgree k st st'

/-- The rows under a key are among the rows of the user. -/
lemma filter_hasKey {k : Bytes} {c : Option Bytes} {st st' : Store} (h : OwnRowsAgree k st st') :
    st.notificationSettings.filter (NotificationRow.hasKey k c) =
      st'.notificationSettings.filter (NotificationRow.hasKey k c) := by
  have hsplit : ∀ l : List NotificationRow, l.filter (NotificationRow.hasKey k c) =
      (l.filter (NotificationRow.hasUser k)).filter fun r => r.chatId == c := by
    intro l
    rw [List.filter_filter]
    refine List.filter_congr fun r _ => ?_
    simp [NotificationRow.hasKey, NotificationRow.hasUser, Bool.and_comm]
  rw [hsplit, hsplit, h.notificationSettings]

/-- The body of a GET that looks at the user of the header. -/
theorem body_agrees {env : Env σ} (request : Request) (context : RouteContext) {id : HandlerId}
    (hid : id.IsRead) (hne : id ≠ .getProfileByID) :
    Agrees env (ReadsFrom (AgreeFor env context.userID))
      (id.body request context : Svc σ Response) := by
  refine Prog.agrees_iff.mpr (readBody_couples readsFrom_parallel request context hid ?_)
  intro s hs
  cases id with
  | getMyProfile =>
    obtain rfl := List.mem_singleton.mp hs
    exact selects_of_rows (fun _ _ => rfl) fun st st' h =>
      Option.bind_congr fun k hk => by rw [(h k hk).profiles]
  | getContacts =>
    obtain rfl := List.mem_singleton.mp hs
    exact selects_of_rows (fun _ _ => rfl) fun st st' h =>
      Option.bind_congr fun k hk => by rw [(h k hk).contacts]
  | getPrivacy =>
    obtain rfl := List.mem_singleton.mp hs
    exact selects_of_rows (fun _ _ => rfl) fun st st' h =>
      Option.bind_congr fun k hk => by rw [(h k hk).privacySettings]
  | getFavorites =>
    obtain rfl := List.mem_singleton.mp hs
    exact selects_of_rows (fun _ _ => rfl) fun st st' h =>
      Option.bind_congr fun k hk => by rw [(h k hk).favorites]
  | getNotifications =>
    obtain rfl := List.mem_singleton.mp hs
    exact selects_of_rows (fun _ _ => rfl) fun st st' h =>
      Option.bind_congr fun k hk => by rw [filter_hasKey (h k hk)]
  | getChatNotifications =>
    rcases List.mem_cons.mp hs with rfl | hs
    · exact selects_of_rows (fun _ _ => rfl) fun st st' h =>
        Option.bind_congr fun k hk => by rw [filter_hasKey (h k hk)]
    · obtain ⟨chatId, -, rfl⟩ := List.mem_map.mp hs
      refine selects_of_rows (fun _ _ => rfl) fun st st' h => Option.bind_congr fun k hk => ?_
      simp only [filter_hasKey (h k hk)]
  | getProfileByID => exact absurd rfl hne
  | createProfile | updateProfile | uploadAvatar | deleteAvatar | addContact | deleteContact
  | updatePrivacy | addFavorite | removeFavorite | updateNotifications
  | updateChatNotifications => exact absurd hid (by simp [HandlerId.IsRead])

/-- The body of `GET /{user_id}` looks at the profile of the user of the path. -/
lemma getProfileByID_agrees {env : Env σ} {request : Request} {context : RouteContext}
    {P : Store → Store → Prop}
    (hP : ∀ v, context.find (str "user_id") = some v → ∀ st st', P st st' →
      ∀ k, env.db.idKey v = some k →
        st.profiles.filter (ProfileRow.hasId k) = st'.profiles.filter (ProfileRow.hasId k)) :
    Agrees env (ReadsFrom P) (HandlerId.getProfileByID.body request context :
      Svc σ Response) := by
  refine Prog.agrees_iff.mpr (readBody_couples readsFrom_parallel request context trivial ?_)
  intro s hs
  obtain ⟨v, hv, rfl⟩ := List.mem_map.mp hs
  exact selects_of_rows (fun _ _ => rfl) fun st st' h => Option.bind_congr fun k hk => by
    rw [hP v (Option.mem_toList.mp hv) st st' h k hk]

/-- A GET by a user, other than of a profile by its id, is answered the same from any two
worlds at the same place on the tape whose tables agree on the user's own rows.  A GET of a
profile by its id is answered the same from any two whose tables agree on the row of that
profile. -/
theorem reads_noninterfere (env : Env σ) (w w' : World σ)
    (hstatements : w.statements = w'.statements) (hreadings : w.readings = w'.readings)
    (request : Request) (hget : request.method = .get) :
    ((∀ info, resolveRoute request.target request.method = some info →
        info.id ≠ .getProfileByID) →
      (∀ k, env.db.idKey (extractUserID request) = some k → OwnRowsAgree k w.store w'.store) →
      (serve env w request).1 = (serve env w' request).1) ∧
    ∀ info, resolveRoute request.target request.method = some info →
      info.id = .getProfileByID →
      (∀ k, env.db.idKey (request.target.drop 1) = some k →
        w.store.profiles.filter (ProfileRow.hasId k) =
          w'.store.profiles.filter (ProfileRow.hasId k)) →
      (serve env w request).1 = (serve env w' request).1 := by
  rcases serve_cases env request with ⟨response, -, hserve⟩ | ⟨id, hm, ht, -, hserve⟩
  · rw [hserve w, hserve w']
    exact ⟨fun _ _ => rfl, fun _ _ _ _ => rfl⟩
  obtain ⟨info, hinfo, hroute⟩ := resolveRoute_complete ht
  rw [← hm] at hroute
  have hread : id.IsRead := HandlerId.isRead_iff.mpr (hm.symm.trans hget)
  rw [hserve w, hserve w']
  constructor
  · intro hne hown
    have hagrees : Agrees env (ReadsFrom (AgreeFor env (extractUserID request)))
        (id.body request request.context : Svc σ Response) :=
      body_agrees request request.context hread (hinfo ▸ hne info hroute)
    exact (hagrees w w' ⟨hstatements, hreadings, hown⟩).1
  · intro info' hroute' hid hprofile
    obtain rfl : info = info' := Option.some.inj (hroute.symm.trans hroute')
    obtain rfl : id = .getProfileByID := hinfo.symm.trans hid
    -- the relation is about the profile of the id in the path
    have hagrees : Agrees env (ReadsFrom fun st st' =>
          ∀ k, env.db.idKey (request.target.drop 1) = some k →
            st.profiles.filter (ProfileRow.hasId k) = st'.profiles.filter (ProfileRow.hasId k))
        (HandlerId.getProfileByID.body request request.context : Svc σ Response) := by
      refine getProfileByID_agrees fun v hv st st' hP k hk => hP k ?_
      rw [Request.find_profile ht] at hv
      split at hv
      · exact absurd hv (by simp)
      · rwa [Option.some.inj hv]
    exact (hagrees w w' ⟨hstatements, hreadings, hprofile⟩).1

/-- The profile of another user is not seen in the answer to `GET /me`. -/
theorem reads_noninterfere_stranger :
    (serve (Env.standalone .migrations)
        ⟨{ Store.empty with
            profiles := [⟨str "alice", none, none, none, none, none, 0, 0⟩] }, (), 0, 0, []⟩
        (requestBy (str "alice") .get (str "/me") [])).1 =
      (serve (Env.standalone .migrations)
        ⟨{ Store.empty with
            profiles := [⟨str "bob", none, none, some (str "bob"), none, none, 1, 1⟩,
              ⟨str "alice", none, none, none, none, none, 0, 0⟩] }, (), 0, 0, []⟩
        (requestBy (str "alice") .get (str "/me") [])).1 := by
  refine (reads_noninterfere _ _ _ rfl rfl _ rfl).1 (fun info h => ?_) fun k hk => ?_
  · have hroute : resolveRoute (str "/me") .get =
        some ⟨.get, .getMyProfile, str "profile:read"⟩ := by decide
    rw [← Option.some.inj (hroute.symm.trans h)]
    decide
  · have halice : (Env.standalone .migrations).db.idKey
        (extractUserID (requestBy (str "alice") .get (str "/me") [])) = some (str "alice") := by
      decide
    rw [← Option.some.inj (halice.symm.trans hk)]
    constructor <;> rfl

end ProfileService
