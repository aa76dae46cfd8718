/-
# The service is its specification

While the statements do not fail by themselves, the service answers like the machine over the
directory and keeps the same directory, over whole runs.  Whatever statements fail, it is that
machine with the requests that failed taken out.  So a request can be sent again until it gets
through.
-/
import ProfileService.Lib.Simulation
import ProfileService.Performance

namespace ProfileService

open Bytes (str)

variable {σ : Type}

/-! ## The step -/

section Step

variable {env : Env σ} {w : World σ} {request : Request}

/-- The step of the specification when a request may be lost: then it fails, and no more than the
avatar storage was asked. -/
noncomputable def Registry.stepLossy (env : Env σ) (g : Registry σ) (e : Request × Bool) :
    Option ℕ × Registry σ :=
  if e.2 then (none, g.1, (taskOf env e.1 g.2).2) else g.step env e.1

/-- Every request is a step of the specification, or it is lost because a statement failed by
itself. -/
lemma step_or_lost (hv : w.store.Valid env.db.schema) (request : Request) :
    w.registry.step env request = Prod.map outcome World.registry (serve env w request) ∨
      ¬ Quiet env w ∧ w.registry.stepLossy env (request, true) =
        Prod.map outcome World.registry (serve env w request) := by
  obtain ⟨hperforms, hstorage⟩ := serve_performs env hv request
  rcases hperforms.cases with ⟨hout, hnext⟩ | ⟨hloud, hout, hkept⟩
  · left
    rw [Registry.step, Prod.map, World.registry, World.registry, hout, hnext, hstorage]
  · right
    refine ⟨hloud, ?_⟩
    rw [Registry.stepLossy, if_pos rfl, Prod.map, World.registry, World.registry, hout, hkept,
      hstorage]

/-- A request in a quiet world is a step of the specification. -/
lemma Quiet.step (hq : Quiet env w) (hv : w.store.Valid env.db.schema) (request : Request) :
    w.registry.step env request = Prod.map outcome World.registry (serve env w request) :=
  (step_or_lost hv request).resolve_right fun h => h.1 hq

end Step

/-! ## Runs -/

section Runs

variable {env : Env σ} {storage : σ}

/-- When no statement fails by itself and the ids of rows are different, every world is quiet. -/
lemma quiet_after (havail : env.Available) {before rest : List Request}
    (hids : env.DistinctIds (after env storage (before ++ rest)).statements) :
    Quiet env (after env storage before) := by
  have hchats := after_chatRowsOnly env storage before
  have hle : (after env storage before).statements ≤
      (after env storage (before ++ rest)).statements := by
    rw [after, after, Mealy.run_append]
    exact statements_le_run env hchats.valid rest
  refine ⟨havail _, havail _, fun r hr hid => ?_⟩
  obtain ⟨-, n, hn, hdrawn⟩ := hchats.rows r hr
  exact hids n _ hn hle (hdrawn.symm.trans hid)

/-- Along such a run every request is a step of the specification. -/
lemma step_of_prefix (havail : env.Available) {requests before : List Request} {request : Request}
    (hids : env.DistinctIds (after env storage requests).statements)
    (hbefore : before ++ [request] <+: requests) :
    (after env storage before).registry.step env request =
      Prod.map outcome World.registry (serve env (after env storage before) request) := by
  obtain ⟨rest, rfl⟩ := hbefore
  rw [List.append_assoc] at hids
  exact (quiet_after havail hids).step (after_valid env storage before) request

lemma trace_registry (havail : env.Available) {requests : List Request}
    (hids : env.DistinctIds (after env storage requests).statements) :
    Mealy.trace (Registry.step env) (Registry.start storage) requests =
      (history env storage requests).map (Prod.map id outcome) :=
  (Mealy.refines_of_steps fun _ _ hbefore => step_of_prefix havail hids hbefore).1

lemma run_registry (havail : env.Available) {requests : List Request}
    (hids : env.DistinctIds (after env storage requests).statements) :
    Mealy.run (Registry.step env) (Registry.start storage) requests =
      (after env storage requests).registry :=
  (Mealy.refines_of_steps fun _ _ hbefore => step_of_prefix havail hids hbefore).2

/-- When no statement fails by itself and the ids of rows are different, the service answers every
run like the machine over the directory, and leaves the directory and the avatar storage that the
machine leaves. -/
theorem service_refines_directory (env : Env σ) (havail : env.Available) (storage : σ)
    (requests : List Request) (hids : env.DistinctIds (after env storage requests).statements) :
    Mealy.trace (Registry.step env) (Registry.start storage) requests =
        (history env storage requests).map (Prod.map id outcome) ∧
      Mealy.run (Registry.step env) (Registry.start storage) requests =
        (after env storage requests).registry :=
  ⟨trace_registry havail hids, run_registry havail hids⟩

/-- The first ids of the standalone deployment are different. -/
lemma standalone_distinctIds {schema : Schema} {n : ℕ} (hn : n ≤ 7) :
    (Env.standalone schema).DistinctIds n := by
  have hdistinct : ∀ j ≤ 7, ∀ i < j, (numbered i).1 ≠ (numbered j).1 := by decide +kernel
  exact fun i j hij hj => hdistinct j (hj.trans hn) i hij

/-- Alice and bob get profiles, and alice adds bob to her contacts and fails to add carol, who has
none; bob hides his profile and mutes a chat, and carol cannot. -/
def townRun : List Request :=
  [requestBy (str "gateway") .post (str "/internal/profiles")
      (str "\x7b\"user_id\":\"alice\"\x7d"),
    requestBy (str "gateway") .post (str "/internal/profiles")
      (str "\x7b\"user_id\":\"bob\"\x7d"),
    requestBy (str "alice") .post (str "/contacts")
      (str "\x7b\"contact_id\":\"bob\",\"alias\":\"neighbour\"\x7d"),
    requestBy (str "alice") .post (str "/contacts") (str "\x7b\"contact_id\":\"carol\"\x7d"),
    requestBy (str "bob") .put (str "/me/privacy")
      (str "\x7b\"profile_visibility\":\"nobody\"\x7d"),
    requestBy (str "bob") .put (str "/notifications/7") (str "\x7b\"muted\":true\x7d"),
    requestBy (str "carol") .put (str "/notifications/7") (str "\x7b\"muted\":true\x7d")]

lemma townRun_distinctIds : (Env.standalone .migrations).DistinctIds
    (after (Env.standalone .migrations) () townRun).statements :=
  standalone_distinctIds (by decide +kernel)

/-- The specification lets the same requests of the run through as the standalone deployment. -/
theorem service_refines_directory_town :
    (Mealy.trace (Registry.step (Env.standalone .migrations)) (Registry.start ()) townRun).map
        Prod.snd = [some 201, some 201, some 201, none, some 204, some 204, none] := by
  rw [(service_refines_directory (Env.standalone .migrations) (fun _ => rfl) () townRun
    townRun_distinctIds).1]
  decide +kernel

/-- Whichever statements fail by themselves, every run of the service is one of the machine over
the directory in which some requests are lost; a request is lost only when one of the next two
statements is to fail by itself or the id for a new row of settings is taken. -/
theorem service_refines_lossy (env : Env σ) (storage : σ) (requests : List Request) :
    ∃ run : List (Request × Bool), run.map Prod.fst = requests ∧
      (∀ before request, before ++ [(request, true)] <+: run →
        ¬ Quiet env (after env storage (before.map Prod.fst))) ∧
      (Mealy.trace (Registry.stepLossy env) (Registry.start storage) run).map
          (Prod.map Prod.fst id) = (history env storage requests).map (Prod.map id outcome) ∧
      Mealy.run (Registry.stepLossy env) (Registry.start storage) run =
        (after env storage requests).registry := by
  have hinv : ∀ (w : World σ) (request : Request), w.store.Valid env.db.schema →
      (serve env w request).2.store.Valid env.db.schema :=
    fun w request hv => serve_valid env w request hv
  have hstep : ∀ (w : World σ) (request : Request), w.store.Valid env.db.schema →
      ∃ lost : Bool, (lost = true → ¬ Quiet env w) ∧
        w.registry.stepLossy env (request, lost) =
          Prod.map outcome World.registry (serve env w request) := by
    intro w request hv
    rcases step_or_lost hv request with hdone | ⟨hloud, hlost⟩
    · exact ⟨false, by simp, hdone⟩
    · exact ⟨true, fun _ => hloud, hlost⟩
  obtain ⟨run, hinputs, hfits, htrace, hrun⟩ :=
    Mealy.exists_refined hinv hstep (after_valid env storage []) requests
  exact ⟨run, hinputs, fun before request hb => hfits before request true hb rfl, htrace, hrun⟩

end Runs

/-! ## Requests that are sent again -/

section Again

variable {env : Env σ} {request : Request}

/-- The avatar storage does not notice that it is asked again. -/
structure AvatarStorage.Repeatable (storage : AvatarStorage σ) : Prop where
  upload : ∀ userId data contentType s,
    storage.upload userId data contentType (storage.upload userId data contentType s).2 =
      storage.upload userId data contentType s
  delete : ∀ userId s,
    storage.delete userId (storage.delete userId s).2 = storage.delete userId s

/-- A request asks for the same when it is sent again. -/
lemma taskOf_again (hstorage : env.avatarStorage.Repeatable) (request : Request) (s : σ) :
    taskOf env request (taskOf env request s).2 = taskOf env request s := by
  have hupload :
      uploadTask env request (uploadTask env request s).2 = uploadTask env request s := by
    rcases hinput : uploadInput env request with _ | ⟨data, contentType⟩
    · simp only [uploadTask, hinput]
    · simp only [uploadTask, hinput, hstorage.upload]
  have hdelete :
      deleteTask env request (deleteTask env request s).2 = deleteTask env request s := by
    simp only [deleteTask, hstorage.delete]
  rcases taskOf_cases env request with ⟨-, htask, -⟩ | ⟨htask, -⟩ | ⟨id, -, -, -, htask⟩
  · simp only [htask]
  · simp only [htask]
  · rw [htask, htask]
    cases id with
    | uploadAvatar => exact hupload
    | deleteAvatar => exact hdelete
    | createProfile | getMyProfile | getProfileByID | updateProfile | getContacts | addContact
    | deleteContact | getPrivacy | updatePrivacy | getFavorites | addFavorite | removeFavorite
    | getNotifications | getChatNotifications | updateNotifications
    | updateChatNotifications => rfl

/-- A task that was done can be done again: it succeeds as before and changes nothing. -/
lemma Task.again (t : Task) (d : Directory) :
    t.status (t.next d) = t.status d ∧ t.next (t.next d) = t.next d := by
  cases t with
  | refuse | look | answer => exact ⟨rfl, rfl⟩
  | make status event =>
    by_cases hadmits : d.Admits event
    · rw [Task.next, if_pos hadmits, Task.status, Task.status, Task.next, if_pos hadmits,
        if_pos hadmits.again, if_pos hadmits.again, Directory.apply_apply]
      exact ⟨rfl, rfl⟩
    · rw [Task.next, if_neg hadmits, Task.next, if_neg hadmits]
      exact ⟨rfl, rfl⟩

/-- A request that is lost, done or both. -/
lemma registry_repeatable (hstorage : env.avatarStorage.Repeatable) (request : Request) :
    Mealy.Repeatable (fun g : Registry σ => (g.step env request).2)
      fun g => (g.stepLossy env (request, true)).2 := by
  have htask := taskOf_again hstorage request
  constructor <;> rintro ⟨d, s⟩ <;>
    simp only [Registry.step, Registry.stepLossy, if_pos, htask, (Task.again _ d).2]

/-- An answer to a request that was sent before. -/
lemma registry_again (hstorage : env.avatarStorage.Repeatable) (request : Request)
    (g : Registry σ) :
    (((g.step env request).2.step env request).1 = (g.step env request).1) ∧
      ((g.stepLossy env (request, true)).2.step env request).1 = (g.step env request).1 := by
  have htask := taskOf_again hstorage request
  obtain ⟨d, s⟩ := g
  simp only [Registry.step, Registry.stepLossy, if_pos, htask, (Task.again _ d).1, true_and]

/-- The requests, each as often as it is sent before the next one. -/
def deliveries (attempts : List (Request × ℕ)) : List Request :=
  attempts.flatMap fun e => List.replicate e.2 e.1

/-- What a request does to the directory that is sent again and again. -/
lemma step_or_lost_again {w : World σ} (hv : w.store.Valid env.db.schema) (request : Request) :
    (serve env w request).2.registry = (w.registry.step env request).2 ∨
      ¬ Quiet env w ∧
        (serve env w request).2.registry = (w.registry.stepLossy env (request, true)).2 := by
  rcases step_or_lost hv request with hdone | ⟨hloud, hlost⟩
  · exact Or.inl (congrArg Prod.snd hdone).symm
  · exact Or.inr ⟨hloud, (congrArg Prod.snd hlost).symm⟩

/-- When the avatar storage does not notice that it is asked again and every request is sent until
one of its deliveries is to a quiet world, the directory is as if every request had been sent once
and none lost; and every delivery to a quiet world is answered like the only one. -/
theorem service_at_least_once (env : Env σ) (hstorage : env.avatarStorage.Repeatable) (storage : σ)
    (attempts : List (Request × ℕ))
    (hquiet : ∀ before request n, before ++ [(request, n)] <+: attempts →
      ∃ i < n, Quiet env (after env storage (deliveries before ++ List.replicate i request))) :
    (after env storage (deliveries attempts)).registry =
        Mealy.run (Registry.step env) (Registry.start storage) (attempts.map Prod.fst) ∧
      ∀ before request n i, before ++ [(request, n)] <+: attempts →
        Quiet env (after env storage (deliveries before ++ List.replicate i request)) →
        outcome (serve env
            (after env storage (deliveries before ++ List.replicate i request)) request).1 =
          ((Mealy.run (Registry.step env) (Registry.start storage) (before.map Prod.fst)).step env
            request).1 := by
  have hinv : ∀ (request : Request) (w : World σ), w.store.Valid env.db.schema →
      (serve env w request).2.store.Valid env.db.schema :=
    fun request w hv => serve_valid env w request hv
  have hstep : ∀ (request : Request) (w : World σ), w.store.Valid env.db.schema →
      (serve env w request).2.registry = (w.registry.step env request).2 ∨
        ¬ Quiet env w ∧
          (serve env w request).2.registry = (w.registry.stepLossy env (request, true)).2 :=
    fun request w hv => step_or_lost_again hv request
  -- after the deliveries of the requests so far
  have hrun : ∀ before, before <+: attempts → (after env storage (deliveries before)).registry =
      Mealy.run (Registry.step env) (Registry.start storage) (before.map Prod.fst) := by
    intro before hbefore
    induction before using List.reverseRecOn with
    | nil => rfl
    | append_singleton before e ih =>
      have hlast := ih ((List.prefix_append ..).trans hbefore)
      obtain ⟨i, hi, hgood⟩ := hquiet before e.1 e.2 hbefore
      rw [after, Mealy.run_append] at hgood
      have hdone := (registry_repeatable hstorage e.1).run_replicate (hinv e.1) (hstep e.1)
        (after_valid env storage (deliveries before)) ⟨i, hi, hgood⟩
      have hsplit : deliveries (before ++ [e]) = deliveries before ++ List.replicate e.2 e.1 := by
        simp [deliveries]
      rw [after, hsplit, Mealy.run_append, hdone, hlast, List.map_append]
      exact (Mealy.run_concat _ _ _).symm
  refine ⟨hrun attempts List.prefix_rfl, fun before request n i hbefore hgood => ?_⟩
  have hanswer := hgood.step (after_valid env storage _) request
  obtain ⟨-, hcases⟩ := (registry_repeatable hstorage request).run_cases (hinv request)
    (hstep request) (after_valid env storage (deliveries before)) i
  obtain ⟨hdone, hlost⟩ := registry_again hstorage request
    (after env storage (deliveries before)).registry
  rw [after, Mealy.run_append] at hanswer ⊢
  have hout : outcome (serve env _ request).1 = _ := (congrArg Prod.fst hanswer).symm
  rw [hout, ← hrun before ((List.prefix_append ..).trans hbefore)]
  -- the request was not sent before, lost, or done
  rcases hcases with h | h | h
  · rw [h]
  · rw [h]
    exact hlost
  · rw [h]
    exact hdone

end Again

/-- The first statement fails by itself. -/
def flakyEnv : Env Unit :=
  { Env.standalone .migrations with
    fault := fun n => if n = 0 then some ⟨str "connection lost"⟩ else none }

lemma minIOStorage_repeatable (endpoint : Bytes) : (MinIOStorage endpoint).Repeatable :=
  ⟨fun _ _ _ _ => rfl, fun _ _ => rfl⟩

/-- The profile of alice is there after the second delivery, as if the first had not been lost. -/
theorem service_at_least_once_alice :
    (after flakyEnv () (aliceRun ++ aliceRun)).registry =
      Mealy.run (Registry.step flakyEnv) (Registry.start ()) aliceRun := by
  have hquiet : ∀ before request n,
      before ++ [(request, n)] <+: aliceRun.map (fun request => (request, 2)) →
        ∃ i < n, Quiet flakyEnv
          (after flakyEnv () (deliveries before ++ List.replicate i request)) := by
    intro before request n hbefore
    obtain ⟨rest, hrest⟩ := hbefore
    rcases before with _ | ⟨e, before⟩
    · obtain ⟨hhead, -⟩ := List.cons.inj hrest
      obtain ⟨rfl, rfl⟩ := Prod.mk.inj hhead
      exact ⟨1, by omega, by decide, by decide, by decide⟩
    · have hlength := congrArg List.length hrest
      simp [aliceRun] at hlength
  exact (service_at_least_once flakyEnv (minIOStorage_repeatable []) () _ hquiet).1

end ProfileService
