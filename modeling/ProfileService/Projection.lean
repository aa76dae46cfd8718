/-
# What other users decide for a user

A user notices the creation of profiles, patches and the user's own requests.  In two runs in which
these are the same, in the same order, the same requests of the user succeed, and the user has the
same account afterwards, whatever other users did in between.  The bodies of answers are another
matter: a profile of another user shows that user's avatar.
-/
import ProfileService.Views

namespace ProfileService

open Bytes (str)
open Directory (Alike)

variable {σ : Type}

/-- A request that others notice: one for a new profile, or a patch, which may take a username. -/
def IsAnnounced (request : Request) : Prop :=
  (request.method = .post ∧ request.target = str "/internal/profiles") ∨ request.method = .patch

instance (request : Request) : Decidable (IsAnnounced request) :=
  inferInstanceAs (Decidable (_ ∨ _))

/-- The user with the id `k` notices the request: others notice it, or its header names the
user. -/
def Notices (env : Env σ) (k : Bytes) (request : Request) : Prop :=
  IsAnnounced request ∨ env.db.Names (extractUserID request) k

instance (env : Env σ) (k : Bytes) : DecidablePred (Notices env k) :=
  fun _ => inferInstanceAs (Decidable (_ ∨ _))

section Tasks

variable {env : Env σ} {request : Request} {k : Bytes}

lemma Task.ofEvent_eq_make {status n : ℕ} {e : Option Event} {event : Event}
    (h : Task.ofEvent status e = .make n event) : e = some event := by
  cases e with
  | none => exact absurd h (by simp [Task.ofEvent])
  | some e =>
    obtain ⟨-, rfl⟩ := Task.make.inj h
    rfl

/-- The event that a request asks for is the one of its body, or of an avatar. -/
lemma HandlerId.event_of_task {id : HandlerId} {s : σ} {n : ℕ} {event : Event}
    (h : (id.task env request s).1 = .make n event) :
    (id ≠ .uploadAvatar ∧ ∀ response, id.event env request response = some event) ∨
      ∃ data contentType url,
        (env.avatarStorage.upload (extractUserID request) data contentType s).1 = .ok url ∧
          avatarEvent env request url = some event := by
  cases id with
  | createProfile | addContact =>
    simp only [HandlerId.task] at h
    split_ifs at h
    exact Or.inl ⟨by simp, fun _ => Task.ofEvent_eq_make h⟩
  | updateProfile | deleteContact | updatePrivacy | addFavorite | removeFavorite
  | updateNotifications | updateChatNotifications =>
    exact Or.inl ⟨by simp, fun _ => Task.ofEvent_eq_make h⟩
  | uploadAvatar =>
    simp only [HandlerId.task, uploadTask] at h
    rcases hinput : uploadInput env request with _ | ⟨data, contentType⟩
    · rw [hinput] at h
      cases h
    · rw [hinput] at h
      have hevent := Task.ofEvent_eq_make h
      obtain ⟨avatarUrl, hurl, hevent⟩ := Option.bind_eq_some_iff.mp hevent
      obtain ⟨url, hupload, hstored⟩ := Option.bind_eq_some_iff.mp hurl
      refine Or.inr ⟨data, contentType, url, ?_,
        Option.bind_eq_some_iff.mpr ⟨avatarUrl, hstored, hevent⟩⟩
      rcases hres : (env.avatarStorage.upload (extractUserID request) data contentType s).1
        with err | url'
      · rw [hres] at hupload
        cases hupload
      · rw [hres] at hupload
        rw [Option.some.inj hupload]
  | deleteAvatar =>
    have hevent := Task.ofEvent_eq_make h
    obtain ⟨-, -, hevent⟩ := Option.bind_eq_some_iff.mp hevent
    exact Or.inl ⟨by simp, fun _ => hevent⟩
  | getMyProfile =>
    simp only [HandlerId.task, lookTask] at h
    rcases hk : env.db.idKey (extractUserID request) with _ | k <;> rw [hk] at h <;> cases h
  | getProfileByID =>
    simp only [HandlerId.task, lookTask] at h
    split_ifs at h
    rcases hk : env.db.idKey (request.target.drop 1) with _ | k <;> rw [hk] at h <;> cases h
  | getContacts | getPrivacy | getFavorites | getNotifications =>
    simp only [HandlerId.task, listTask] at h
    split_ifs at h
  | getChatNotifications =>
    simp only [HandlerId.task, listTask] at h
    split_ifs at h

/-- What a request asks for that others do not notice is private, and its owner is named in the
header. -/
lemma event_of_unannounced (hprivate : ¬ IsAnnounced request) {s : σ} {n : ℕ} {event : Event}
    (h : (taskOf env request s).1 = .make n event) :
    env.db.Names (extractUserID request) event.owner ∧ ¬ event.IsPublic := by
  obtain ⟨hcreate, hpatch⟩ := not_or.mp hprivate
  rcases taskOf_cases env request with ⟨-, htask, -⟩ | ⟨htask, -⟩ | ⟨id, hm, ht, -, htask⟩
  · rw [htask] at h
    cases h
  · rw [htask] at h
    cases h
  rw [htask] at h
  rcases id.event_of_task h with ⟨-, hevent⟩ | ⟨data, contentType, url, -, hevent⟩
  · -- the event of any answer of success
    have hok : eventOf env (request, .ok (jsonResponse 200 request.version [])) = some event := by
      rw [eventOf_of_accepts id hm ht (by simp)]
      exact hevent _
    refine ⟨names_owner hok hcreate, fun hpublic => ?_⟩
    have hid := HandlerId.mem_handlers (hevent (jsonResponse 200 request.version []))
    cases event with
    | created =>
      obtain rfl := List.mem_singleton.mp hid
      exact hcreate ⟨hm, ht⟩
    | patched =>
      obtain rfl := List.mem_singleton.mp hid
      exact hpatch hm
    | avatarSet | contactAdded | contactRemoved | favoriteAdded | favoriteRemoved | privacySet
    | notificationsSet => exact hpublic
  · obtain ⟨avatarUrl, -, hevent⟩ := Option.bind_eq_some_iff.mp hevent
    obtain ⟨user, huser, hevent⟩ := Option.bind_eq_some_iff.mp hevent
    obtain rfl := Option.some.inj hevent
    exact ⟨Or.inr huser, not_false⟩

/-- Directories that are alike for a user give the same outcome to every task. -/
lemma Directory.Alike.status {d d' : Directory} (h : Alike k d d') (t : Task) :
    t.status d = t.status d' := by
  classical
  cases t with
  | refuse | answer => rfl
  | look user => exact if_congr (h.member user) rfl rfl
  | make status event => exact if_congr (h.admits event) rfl rfl

/-- A task that is done in directories that are alike leaves them alike. -/
lemma Directory.Alike.next {d d' : Directory} (h : Alike k d d') (t : Task) :
    Alike k (t.next d) (t.next d') := by
  cases t with
  | refuse | answer | look => exact h
  | make status event =>
    by_cases hadmits : d.Admits event
    · rw [Task.next, if_pos hadmits, Task.next, if_pos ((h.admits event).mp hadmits)]
      by_cases hshared : event.owner = k ∨ event.IsPublic
      · exact h.apply hshared
      · obtain ⟨howner, hprivate⟩ := not_or.mp hshared
        exact ((h.apply_left (Ne.symm howner) hprivate).symm.apply_left (Ne.symm howner)
          hprivate).symm
    · rw [Task.next, if_neg hadmits, Task.next, if_neg (mt (h.admits event).mpr hadmits)]
      exact h

end Tasks

/-! ## Runs -/

/-- The machine over the directory hides from a user what the user does not notice. -/
lemma registry_unwinds [Subsingleton σ] (env : Env σ) (k : Bytes) :
    Mealy.Unwinds (Registry.step env) (Notices env k) fun g g' => Alike k g.1 g'.1 where
  equivalence := ⟨fun g => Alike.refl k g.1, Alike.symm, Alike.trans⟩
  hidden := by
    rintro ⟨d, s⟩ ⟨d', s'⟩ request h hhidden
    obtain ⟨hprivate, hnames⟩ := not_or.mp hhidden
    show Alike k ((taskOf env request s).1.next d) d'
    cases htask : (taskOf env request s).1 with
    | refuse | answer | look => exact h
    | make n event =>
      obtain ⟨howner, hquiet⟩ := event_of_unannounced hprivate htask
      have hne : k ≠ event.owner := by
        rintro rfl
        exact hnames howner
      rw [Task.next]
      split_ifs
      · exact h.apply_left hne hquiet
      · exact h
  seen := by
    rintro ⟨d, s⟩ ⟨d', s'⟩ request h _
    obtain rfl := Subsingleton.elim s s'
    exact ⟨h.status _, h.next _⟩

/-- When the avatar storage keeps nothing, two runs on databases that are up in which a user
notices the same requests, whatever others there are in between, have the same outcomes of these
requests and leave directories that are alike for the user. -/
theorem runs_projected [Subsingleton σ] (env : Env σ) (havail : env.Available) (storage : σ)
    (k : Bytes) (requests requests' : List Request)
    (hids : env.DistinctIds (after env storage requests).statements)
    (hids' : env.DistinctIds (after env storage requests').statements)
    (hsame : requests.filter (Notices env k) = requests'.filter (Notices env k)) :
    ((history env storage requests).map (Prod.map id outcome)).filter
        (fun e => Notices env k e.1) =
      ((history env storage requests').map (Prod.map id outcome)).filter
        (fun e => Notices env k e.1) ∧
      Alike k (after env storage requests).store.directory
        (after env storage requests').store.directory := by
  obtain ⟨hanswers, halike⟩ := (registry_unwinds env k).run_alike
    (Alike.refl k (Registry.start storage).1) hsame
  rw [trace_registry havail hids, trace_registry havail hids'] at hanswers
  rw [run_registry havail hids, run_registry havail hids'] at halike
  exact ⟨hanswers, halike⟩

/-- Alice and bob have got profiles. -/
def pairRun : List Request :=
  aliceRun ++ [requestBy (str "gateway") .post (str "/internal/profiles")
    (str "\x7b\"user_id\":\"bob\"\x7d")]

/-- Alice mutes a chat. -/
def calmRun : List Request :=
  pairRun ++ [requestBy (str "alice") .put (str "/notifications/7") (str "\x7b\"muted\":true\x7d")]

/-- Bob does, and then alice. -/
def busyRun : List Request :=
  pairRun ++ [requestBy (str "bob") .put (str "/notifications/7") (str "\x7b\"muted\":true\x7d"),
    requestBy (str "alice") .put (str "/notifications/7") (str "\x7b\"muted\":true\x7d")]

/-- What bob mutes is nothing to alice. -/
theorem runs_projected_alice :
    Alike (str "alice") (after (Env.standalone .migrations) () busyRun).store.directory
      (after (Env.standalone .migrations) () calmRun).store.directory := by
  have hids : (Env.standalone .migrations).DistinctIds
      (after (Env.standalone .migrations) () busyRun).statements :=
    standalone_distinctIds (by decide)
  have hids' : (Env.standalone .migrations).DistinctIds
      (after (Env.standalone .migrations) () calmRun).statements :=
    standalone_distinctIds (by decide)
  exact (runs_projected (Env.standalone .migrations) (fun _ => rfl) () (str "alice") busyRun calmRun
    hids hids' (by rfl)).2

end ProfileService
