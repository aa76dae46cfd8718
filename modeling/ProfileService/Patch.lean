/-
# `PATCH /me` step by step

Every way a PATCH by a user with a profile can end, and when: the body does not parse, the
`SELECT` fails, a member has the wrong type, the `UPDATE` fails, or it succeeds.  The
results on profiles and on usernames are read off this one case analysis.
-/
import ProfileService.Reads

namespace ProfileService

open Bytes (str)

variable {σ : Type}

/-- The request is answered with this response. -/
def Gives (env : Env σ) (w : World σ) (request : Request) (response : Response) : Prop :=
  ∃ w', serve env w request = (.ok response, w')

lemma Gives.unique {env : Env σ} {w : World σ} {request : Request} {r r' : Response}
    (h : Gives env w request r) (h' : Gives env w request r') : r = r' := by
  obtain ⟨w₁, h⟩ := h
  obtain ⟨w₂, h'⟩ := h'
  exact Except.ok.inj (Prod.mk.inj (h.symm.trans h')).1

/-- A PATCH by the user of the row. -/
structure PatchesOwn (env : Env σ) (w : World σ) (request : Request) (r : ProfileRow) : Prop where
  method : request.method = .patch
  target : request.target = str "/me"
  user : extractUserID request ≠ []
  key : env.db.idKey (extractUserID request) = some r.userId
  row : r ∈ w.store.profiles

/-! ## The members of the body -/

/-- The keys of a PATCH body that are looked at. -/
def patchKeys : List String := ["first_name", "last_name", "username", "bio"]

/-- The columns that a PATCH writes, with the keys of their values. -/
def patchColumns (schema : Schema) : List (ColumnType × String) :=
  [(schema.nameType, "first_name"), (schema.nameType, "last_name"),
    (schema.usernameType, "username"), (.text, "bio")]

/-- Every member of the body that is looked at is a string. -/
def AllStrings (j : Json) : Prop :=
  ∀ key ∈ patchKeys, ∀ v, j.member? (str key) = some v → ∃ s, v = .string s

/-- The value of a member after the assignment: the string of the body or the one there was. -/
lemma assignString_cases (j : Json) (key : Bytes) (field : Option Bytes) :
    (∃ v, assignString j key field = .ok v ∧
      ((j.member? key = none ∧ v = field) ∨ ∃ s, j.member? key = some (.string s) ∧ v = some s)) ∨
    ∃ v, j.member? key = some v ∧ (∀ s, v ≠ .string s) ∧
      assignString j key field = .error (typeMustBe (str "string") v) := by
  rw [assignString]
  rcases j.member? key with _ | v
  · exact Or.inl ⟨field, rfl, Or.inl ⟨rfl, rfl⟩⟩
  · cases v with
    | string s => exact Or.inl ⟨some s, rfl, Or.inr ⟨s, rfl, rfl⟩⟩
    | null | bool | integer | float | array | object =>
      exact Or.inr ⟨_, rfl, by simp, rfl⟩

/-- The assignments of a body succeed when every member is a string, and else throw a type
error. -/
lemma patchProfile_cases (j : Json) (profile : Profile) :
    (AllStrings j ∧ ∃ profile', ProfileHandler.patchProfile j profile = .ok profile') ∨
    (¬ AllStrings j ∧ ∃ v, ProfileHandler.patchProfile j profile =
      .error (typeMustBe (str "string") v)) := by
  have hnot : ∀ {key : String} {v : Json}, key ∈ patchKeys →
      j.member? (str key) = some v → (∀ s, v ≠ .string s) → ¬ AllStrings j := by
    intro key v hkey hv hne h
    obtain ⟨s, hs⟩ := h key hkey v hv
    exact hne s hs
  have hstring : ∀ {key : Bytes} {field v x : Option Bytes} {j' : Json},
      ((j.member? key = none ∧ v = field) ∨ ∃ s, j.member? key = some (.string s) ∧ v = some s) →
      j.member? key = some j' → ∃ s, j' = .string s := by
    intro key field v x j' h hj'
    rcases h with ⟨hnone, -⟩ | ⟨s, hs, -⟩
    · exact absurd (hnone.symm.trans hj') (by simp)
    · exact ⟨s, Option.some.inj (hj'.symm.trans hs)⟩
  rw [ProfileHandler.patchProfile]
  rcases assignString_cases j (str "first_name") profile.firstName with
    ⟨v₁, h₁, hv₁⟩ | ⟨v, hv, hne, herr⟩
  swap
  · exact Or.inr ⟨hnot (by simp [patchKeys]) hv hne, v, by rw [herr]; rfl⟩
  rcases assignString_cases j (str "last_name") profile.lastName with
    ⟨v₂, h₂, hv₂⟩ | ⟨v, hv, hne, herr⟩
  swap
  · exact Or.inr ⟨hnot (by simp [patchKeys]) hv hne, v, by rw [h₁, herr]; rfl⟩
  rcases assignString_cases j (str "username") profile.username with
    ⟨v₃, h₃, hv₃⟩ | ⟨v, hv, hne, herr⟩
  swap
  · exact Or.inr ⟨hnot (by simp [patchKeys]) hv hne, v, by rw [h₁, h₂, herr]; rfl⟩
  rcases assignString_cases j (str "bio") profile.bio with ⟨v₄, h₄, hv₄⟩ | ⟨v, hv, hne, herr⟩
  swap
  · exact Or.inr ⟨hnot (by simp [patchKeys]) hv hne, v, by rw [h₁, h₂, h₃, herr]; rfl⟩
  refine Or.inl ⟨fun key hkey j' hj' => ?_, _, by rw [h₁, h₂, h₃, h₄]; rfl⟩
  simp only [patchKeys, List.mem_cons, List.not_mem_nil, or_false] at hkey
  rcases hkey with rfl | rfl | rfl | rfl
  · exact hstring (x := none) hv₁ hj'
  · exact hstring (x := none) hv₂ hj'
  · exact hstring (x := none) hv₃ hj'
  · exact hstring (x := none) hv₄ hj'

/-! ## The update -/

section Update

variable {env : Env σ}

/-- The four values of the update as the columns store them. -/
def StoresAs (env : Env σ) (profile : Profile) (firstName lastName username bio : Bytes) : Prop :=
  env.db.stored env.db.schema.nameType (profile.firstName.getD []) = some firstName ∧
    env.db.stored env.db.schema.nameType (profile.lastName.getD []) = some lastName ∧
    env.db.stored env.db.schema.usernameType (profile.username.getD []) = some username ∧
    env.db.stored .text (profile.bio.getD []) = some bio

lemma updateProfile_write {profile : Profile} {wr : Write} :
    Query.updateProfile.write env.db ((updateParams profile).map convertValueToPQXX) = some wr ↔
      ∃ firstName lastName username bio user,
        StoresAs env profile firstName lastName username bio ∧
          env.db.idKey profile.userID = some user ∧
          wr = .updateProfile firstName lastName username bio user := by
  constructor
  · intro h
    obtain ⟨v₁, h₁, h⟩ := Option.bind_eq_some_iff.mp h
    obtain ⟨v₂, h₂, h⟩ := Option.bind_eq_some_iff.mp h
    obtain ⟨v₃, h₃, h⟩ := Option.bind_eq_some_iff.mp h
    obtain ⟨v₄, h₄, h⟩ := Option.bind_eq_some_iff.mp h
    obtain ⟨user, hu, h⟩ := Option.bind_eq_some_iff.mp h
    exact ⟨v₁, v₂, v₃, v₄, user, ⟨h₁, h₂, h₃, h₄⟩, hu, (Option.some.inj h).symm⟩
  · rintro ⟨v₁, v₂, v₃, v₄, user, ⟨h₁, h₂, h₃, h₄⟩, hu, rfl⟩
    refine Option.bind_eq_some_iff.mpr ⟨v₁, h₁, Option.bind_eq_some_iff.mpr ⟨v₂, h₂, ?_⟩⟩
    refine Option.bind_eq_some_iff.mpr ⟨v₃, h₃, Option.bind_eq_some_iff.mpr ⟨v₄, h₄, ?_⟩⟩
    exact Option.bind_eq_some_iff.mpr ⟨user, hu, rfl⟩

/-- The update of a row meets the constraints when no other row has the username. -/
lemma updateProfile_constraints {st : Store} (hc : st.Constraints) {r : ProfileRow}
    (hr : r ∈ st.profiles) (schema : Schema) (now : ℤ) (rowId : Uuid)
    (firstName lastName username bio : Bytes) :
    (Write.apply schema now rowId (.updateProfile firstName lastName username bio r.userId)
      st).Constraints ↔
      ∀ r' ∈ st.profiles, r'.userId ≠ r.userId → r'.username ≠ some username := by
  have hinj : ∀ r' ∈ st.profiles, r'.userId = r.userId → r' = r := fun r' hr' hid =>
    List.inj_on_of_nodup_map hc.profiles_pkey hr' hr hid
  have hhit : ∀ r' ∈ st.profiles, ProfileRow.hasId r.userId r' = true ↔ r' = r := by
    intro r' hr'
    rw [ProfileRow.hasId, beq_iff_eq]
    exact ⟨hinj r' hr', fun h => by rw [h]⟩
  -- the ids, which the other tables refer to, are as before
  have hids : (Write.apply schema now rowId
      (.updateProfile firstName lastName username bio r.userId) st).profiles.map
        ProfileRow.userId = st.profiles.map ProfileRow.userId := by
    refine Table.map_update ?_ st.profiles
    intro r' _
    rfl
  have hname : ((Write.apply schema now rowId
      (.updateProfile firstName lastName username bio r.userId) st).profiles.filterMap
        ProfileRow.username).Nodup ↔
      ∀ r' ∈ st.profiles, r' ≠ r → r'.username ≠ some username := by
    refine Table.nodup_filterMap_update hr hhit ?_ ?_ ?_
    · exact List.Nodup.of_map _ hc.profiles_pkey
    · rfl
    · exact hc.profiles_username_key
  constructor
  · intro h r' hr' hne
    refine hname.mp h.profiles_username_key r' hr' ?_
    rintro rfl
    exact hne rfl
  · intro h
    refine { hc with
      profiles_pkey := hids ▸ hc.profiles_pkey
      profiles_username_key := hname.mpr fun r' hr' hne => h r' hr' fun hid =>
        hne (hinj r' hr' hid)
      contacts_owner_id_fkey := hids ▸ hc.contacts_owner_id_fkey
      contacts_contact_id_fkey := hids ▸ hc.contacts_contact_id_fkey
      privacy_user_id_fkey := hids ▸ hc.privacy_user_id_fkey
      favorites_user_id_fkey := hids ▸ hc.favorites_user_id_fkey
      notification_user_id_fkey := hids ▸ hc.notification_user_id_fkey }

/-- The update of a row succeeds exactly when no failure comes in, the values fit and no other
row has the username. -/
lemma updateProfile_succeeds {w : World σ} (hv : w.store.Valid env.db.schema) {r : ProfileRow}
    (hr : r ∈ w.store.profiles) {profile : Profile} (hid : profile.userID = r.userId)
    (store : Store) (rows : List Row) :
    Succeeds env w .updateProfile (updateParams profile) store rows ↔
      env.fault w.statements = none ∧ rows = [] ∧ ∃ firstName lastName username bio,
        StoresAs env profile firstName lastName username bio ∧
        (∀ r' ∈ w.store.profiles, r'.userId ≠ r.userId → r'.username ≠ some username) ∧
        store = Write.apply env.db.schema (env.txnTime w.statements) (env.rowId w.statements)
          (.updateProfile firstName lastName username bio r.userId) w.store := by
  have hkey : env.db.idKey profile.userID = some r.userId := by
    rw [hid]
    exact env.db.compared_of_holds (hv.typed.profiles r hr).1
  constructor
  · intro hs
    obtain ⟨wr, hwr, hstore, hc, hrows⟩ := hs.write fun _ _ => rfl
    obtain ⟨v₁, v₂, v₃, v₄, user, hstores, hu, rfl⟩ := updateProfile_write.mp hwr
    obtain rfl := Option.some.inj (hkey.symm.trans hu)
    rw [hstore] at hc
    exact ⟨hs.1, hrows, v₁, v₂, v₃, v₄, hstores,
      (updateProfile_constraints hv.constraints hr _ _ _ _ _ _ _).mp hc, hstore⟩
  · rintro ⟨hfault, rfl, v₁, v₂, v₃, v₄, hstores, hname, rfl⟩
    have hwr := updateProfile_write.mpr ⟨v₁, v₂, v₃, v₄, _, hstores, hkey, rfl⟩
    have hc := (updateProfile_constraints hv.constraints hr env.db.schema
      (env.txnTime w.statements) (env.rowId w.statements) v₁ v₂ v₃ v₄).mpr hname
    exact ⟨hfault, (Query.exec_write hwr).trans (if_pos hc)⟩

end Update

/-! ## The ways a PATCH ends -/

/-- How a PATCH by the user of the row `r` ends. -/
inductive PatchEnds (env : Env σ) (w : World σ) (request : Request) (r : ProfileRow) : Prop
  | unparsed (err : Exn) (parse : env.json.parse request.body = .error err)
      (gives : Gives env w request (ProfileHandler.updateFailed request err))
  | unread (j : Json) (err : Exn) (parse : env.json.parse request.body = .ok j)
      (fault : env.fault w.statements = some err)
      (gives : Gives env w request (ProfileHandler.updateFailed request err))
  | untyped (j v : Json) (parse : env.json.parse request.body = .ok j)
      (up : env.fault w.statements = none) (strings : ¬ AllStrings j)
      (gives : Gives env w request
        (ProfileHandler.updateFailed request (typeMustBe (str "string") v)))
  | unwritten (j : Json) (profile : Profile) (parse : env.json.parse request.body = .ok j)
      (up : env.fault w.statements = none) (strings : AllStrings j)
      (patched : ProfileHandler.patchProfile j (r.read env w) = .ok profile)
      (fails : env.fault (w.statements + 1) ≠ none ∨
        ¬ ∃ firstName lastName username bio, StoresAs env profile firstName lastName username bio ∧
          ∀ r' ∈ w.store.profiles, r'.userId ≠ r.userId → r'.username ≠ some username)
      (gives : Gives env w request
        (errorResponse 409 request.version (str "username already taken")))
  | updated (j : Json) (profile : Profile) (parse : env.json.parse request.body = .ok j)
      (up : env.fault w.statements = none ∧ env.fault (w.statements + 1) = none)
      (strings : AllStrings j)
      (patched : ProfileHandler.patchProfile j (r.read env w) = .ok profile)
      (firstName lastName username bio : Bytes)
      (stores : StoresAs env profile firstName lastName username bio)
      (free : ∀ r' ∈ w.store.profiles, r'.userId ≠ r.userId → r'.username ≠ some username)
      (response : Response) (w' : World σ) (serve : serve env w request = (.ok response, w'))
      (status : response.status = 200)
      (json : env.json.parse response.body = .ok (ProfileHandler.patchedJson profile))
      (store : w'.store = Write.apply env.db.schema (env.txnTime (w.statements + 1))
        (env.rowId (w.statements + 1)) (.updateProfile firstName lastName username bio r.userId)
        w.store)

section Ends

variable {env : Env σ} {w : World σ} {request : Request} {r : ProfileRow}

/-- What is read of the row is kept by the assignments, but for the four fields. -/
lemma patchProfile_keeps {j : Json} {profile profile' : Profile}
    (h : ProfileHandler.patchProfile j profile = .ok profile') :
    profile'.userID = profile.userID ∧ profile'.avatarUrl = profile.avatarUrl := by
  obtain ⟨_, _, _, _, -, -, -, -, rfl⟩ := patchProfile_eq_ok h
  exact ⟨rfl, rfl⟩

/-- The answer to a PATCH prints when its values were stored. -/
lemma patchedJson_utf8 {schema : Schema} {st : Store} (hv : st.Valid schema)
    (hr : r ∈ st.profiles) {profile : Profile} (hid : profile.userID = r.userId)
    (havatar : profile.avatarUrl = r.avatarUrl) {firstName lastName username bio : Bytes}
    (h : StoresAs env profile firstName lastName username bio) :
    (ProfileHandler.patchedJson profile).Utf8 := by
  obtain ⟨h₁, h₂, h₃, h₄⟩ := h
  obtain ⟨hidHolds, -, -, -, -, havatarHolds⟩ := hv.typed.profiles r hr
  refine Json.ofMembers_utf8 ?_
  simp only [List.forall_mem_cons, Json.utf8_string, hid, havatar]
  exact ⟨⟨rfl, hidHolds.utf8⟩, ⟨rfl, Database.valid_of_stored h₁⟩,
    ⟨rfl, Database.valid_of_stored h₂⟩, ⟨rfl, Database.valid_of_stored h₃⟩,
    ⟨rfl, Database.valid_of_stored h₄⟩,
    ⟨rfl, (havatarHolds.getD ColumnType.holds_nil_text).utf8⟩, by simp⟩

/-- A PATCH by a user with a profile ends in one of these ways. -/
theorem patch_ends (hv : w.store.Valid env.db.schema) (h : PatchesOwn env w request r) :
    PatchEnds env w request r := by
  have hm : request.method = HandlerId.updateProfile.method := h.method
  have hserve : serve env w request = (HandlerId.updateProfile.body request request.context :
      Svc σ Response).run env w := serve_eq_body hm h.target (Or.inr h.user)
  -- an exception in the body
  have hthrow : ∀ (err : Exn) (w' : World σ),
      (do
        let jsonBody ← parse request.body
        let profile ← ProfileRepository.getByID (extractUserID request)
        let profile ← convert (ProfileHandler.patchProfile jsonBody profile)
        ProfileRepository.update profile
        dumpResponse 200 request (ProfileHandler.patchedJson profile) :
        Svc σ Response).run env (w.entering .updateProfile) = (.error err, w') →
      Gives env w request (ProfileHandler.updateFailed request err) := fun err w' hrun =>
    ⟨w', hserve.trans (Prog.run_tryCatch_error (s := w.entering .updateProfile) hrun)⟩
  rcases hparse : env.json.parse request.body with err | j
  · refine .unparsed err hparse (hthrow err (w.entering .updateProfile) ?_)
    exact Prog.run_bind_error (by simp only [Prog.run, parse, hparse])
  have hjson : (parse request.body : Svc σ Json).run env (w.entering .updateProfile) =
      (.ok j, w.entering .updateProfile) := by simp only [Prog.run, parse, hparse]
  rcases hfault : env.fault w.statements with _ | err
  swap
  · have hget := run_getByID_fault (w := w.entering .updateProfile) hfault (extractUserID request)
    exact .unread j err hparse hfault
      (hthrow err _ ((Prog.run_bind_ok hjson).trans (Prog.run_bind_error hget)))
  have hget := run_getByID (w := w.entering .updateProfile) hfault h.key
    (Store.profile_of_mem hv.constraints h.row)
  rcases patchProfile_cases j (r.read env w) with ⟨hstrings, profile, hpatched⟩ | ⟨hnot, v, herr⟩
  swap
  · refine .untyped j v hparse hfault hnot (hthrow _
      (((w.entering .updateProfile).afterStatement w.store).afterReadings 2) ?_)
    rw [Prog.run_bind_ok hjson, Prog.run_bind_ok hget]
    exact Prog.run_bind_error (congrArg (·, _) herr)
  obtain ⟨hid, havatar⟩ := patchProfile_keeps hpatched
  -- the second statement, in the world after the first and two readings of the clock
  have hconvert : (convert (ProfileHandler.patchProfile j (r.read env w)) : Svc σ Profile).run env
      (((w.entering .updateProfile).afterStatement w.store).afterReadings 2) =
        (.ok profile, ((w.entering .updateProfile).afterStatement w.store).afterReadings 2) :=
    congrArg (·, _) hpatched
  have hsucceeds := @updateProfile_succeeds _ env
    (((w.entering .updateProfile).afterStatement w.store).afterReadings 2) hv r h.row profile hid
  rcases update_cases env (((w.entering .updateProfile).afterStatement w.store).afterReadings 2)
    profile with ⟨hrun, hfails⟩ | ⟨store, rows, hs, hrun⟩
  · refine .unwritten j profile hparse hfault hstrings hpatched ?_ (hthrow _ _
      ((Prog.run_bind_ok hjson).trans <| (Prog.run_bind_ok hget).trans <|
        (Prog.run_bind_ok hconvert).trans (Prog.run_bind_error hrun)))
    by_contra hok
    obtain ⟨hup, v₁, v₂, v₃, v₄, hstores, hfree⟩ := not_or.mp hok |>.imp not_not.mp not_not.mp
    exact hfails ⟨_, _, (hsucceeds _ _).mpr ⟨hup, rfl, v₁, v₂, v₃, v₄, hstores, hfree, rfl⟩⟩
  · obtain ⟨hup, -, v₁, v₂, v₃, v₄, hstores, hfree, hstore⟩ := (hsucceeds store rows).mp hs
    have hutf8 := patchedJson_utf8 hv h.row hid havatar hstores
    obtain ⟨text, htext, hdump⟩ := run_dumpResponse env
      ((((w.entering .updateProfile).afterStatement w.store).afterReadings 2).afterStatement store)
      200 request hutf8
    have hdone := hserve.trans (Prog.run_tryCatch_ok (s := w.entering .updateProfile)
      ((Prog.run_bind_ok hjson).trans <| (Prog.run_bind_ok hget).trans <|
        (Prog.run_bind_ok hconvert).trans <| (Prog.run_bind_ok hrun).trans hdump))
    exact .updated j profile hparse ⟨hfault, hup⟩ hstrings hpatched v₁ v₂ v₃ v₄ hstores hfree
      _ _ hdone rfl (env.json.parse_dump hutf8 (Json.ofMembers_sorted (by simp)) htext) hstore

end Ends

end ProfileService
