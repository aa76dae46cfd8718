/-
# Profiles

The profile of a user as clients know it is a fold over the successful requests: created
empty, overlaid by a PATCH with the keys of its body, the avatar set and deleted on its own.
The row in the table is this profile with a null for some of the empty fields, and the reads
show it.
-/
import ProfileService.Patch
import ProfileService.Reachable
import ProfileService.Standalone

namespace ProfileService

open Bytes (str)

variable {σ : Type}

/-! ## The profile of a user -/

/-- The fields of a profile that are shown. -/
structure Fields where
  firstName : Bytes
  lastName : Bytes
  username : Bytes
  bio : Bytes
  avatarUrl : Bytes
deriving DecidableEq

/-- A profile that was just created. -/
def Fields.empty : Fields := ⟨[], [], [], [], []⟩

/-- What an event does to the profile of the user with the id `k`. -/
def Event.onProfile (k : Bytes) (p : Option Fields) : Event → Option Fields
  | .created user => if user = k then some (p.getD .empty) else p
  | .patched user firstName lastName username bio =>
      if user = k then
        p.map fun p => { p with
          firstName := firstName.getD p.firstName
          lastName := lastName.getD p.lastName
          username := username.getD p.username
          bio := bio.getD p.bio }
      else p
  | .avatarSet user avatarUrl =>
      if user = k then p.map fun p => { p with avatarUrl := avatarUrl } else p
  | _ => p

/-- The profile of the user with the id `k` after the events. -/
def profileAfter (k : Bytes) (es : List Event) : Option Fields :=
  es.foldl (Event.onProfile k) none

@[simp] lemma profileAfter_nil (k : Bytes) : profileAfter k [] = none := rfl

@[simp] lemma profileAfter_concat (k : Bytes) (es : List Event) (e : Event) :
    profileAfter k (es ++ [e]) = e.onProfile k (profileAfter k es) := by
  simp [profileAfter]

/-- There is a profile exactly if it was created. -/
lemma profileAfter_eq_none (k : Bytes) (es : List Event) :
    profileAfter k es = none ↔ Event.created k ∉ es := by
  induction es using List.reverseRecOn with
  | nil => simp
  | append_singleton es e ih =>
    rw [profileAfter_concat, List.mem_append, not_or, ← ih]
    cases e with
    | created user =>
      by_cases h : user = k
      · simp [Event.onProfile, h]
      · simp [Event.onProfile, h, Ne.symm h]
    | patched user firstName lastName username bio =>
      by_cases h : user = k <;> simp [Event.onProfile, h]
    | avatarSet user avatarUrl =>
      by_cases h : user = k <;> simp [Event.onProfile, h]
    | contactAdded | contactRemoved | favoriteAdded | favoriteRemoved | privacySet
    | notificationsSet => simp [Event.onProfile]

/-! ## The rows -/

/-- The fields of a row: a null is empty. -/
def ProfileRow.fields (r : ProfileRow) : Fields where
  firstName := r.firstName.getD []
  lastName := r.lastName.getD []
  username := r.username.getD []
  bio := r.bio.getD []
  avatarUrl := r.avatarUrl.getD []

/-- The rows are the profiles of their users. -/
def RowsAreProfiles (es : List Event) (st : Store) : Prop :=
  ∀ k, (st.profile k).map ProfileRow.fields = profileAfter k es

/-- An update of the row of a user. -/
lemma profile_update {change : ProfileRow → ProfileRow}
    (hchange : ∀ r, (change r).userId = r.userId) (st : Store) (user k : Bytes) :
    ({ st with
        profiles := Table.update (ProfileRow.hasId user) change st.profiles } : Store).profile k =
      (st.profile k).map fun r => if user = k then change r else r := by
  have hkeep : ∀ r, ProfileRow.hasId user r = true →
      ProfileRow.hasId k (change r) = ProfileRow.hasId k r := by
    intro r _
    rw [ProfileRow.hasId, hchange, ProfileRow.hasId]
  rw [Store.profile, Table.find?_update hkeep, Store.profile]
  refine Option.map_congr fun r hr => ?_
  obtain ⟨-, rfl⟩ := Store.profile_mem hr
  by_cases huser : user = r.userId
  · simp [ProfileRow.hasId, huser]
  · simp [ProfileRow.hasId, huser, Ne.symm huser]

/-- The creation of the row of a user, which keeps one that there is. -/
lemma profile_create {change : ProfileRow → ProfileRow}
    (hchange : ∀ r, (change r).userId = r.userId) (st : Store) {user : Bytes}
    {fresh : ProfileRow} (hfresh : fresh.userId = user) (k : Bytes) :
    ({ st with
        profiles := Table.insertOrUpdate (ProfileRow.hasId user) change fresh
          st.profiles } : Store).profile k =
      if user = k then some (((st.profile k).map change).getD fresh) else st.profile k := by
  by_cases hk : user = k
  · subst hk
    rw [if_pos rfl, Store.profile, Table.find?_insertOrUpdate]
    · rfl
    · intro r hr
      rw [ProfileRow.hasId, hchange]
      exact hr
    · simp [ProfileRow.hasId, hfresh]
  · rw [if_neg hk, Store.profile, Table.find?_insertOrUpdate_of_ne]
    · rfl
    · intro r hr
      have hr : r.userId = user := by simpa [ProfileRow.hasId] using hr
      simp [ProfileRow.hasId, hchange, hr, hk]
    · simp [ProfileRow.hasId, hfresh, hk]

lemma refines_profiles (env : Env σ) : Refines env fun es st _ => RowsAreProfiles es st where
  start := fun _ => rfl
  mono := fun h _ => h
  step := by
    intro es st n event wr h hv hmakes _ _ k
    rw [profileAfter_concat, ← h k]
    cases event with
    | created user =>
      obtain rfl : wr = .createProfile user := hmakes
      rw [Write.apply, profile_create]
      rotate_left
      · exact fun _ => rfl
      · rfl
      by_cases hk : user = k
      · subst hk
        rw [if_pos rfl]
        cases st.profile user <;> simp [Event.onProfile, ProfileRow.fields, Fields.empty]
      · simp only [if_neg hk, Event.onProfile]
    | patched user firstName lastName username bio =>
      obtain ⟨r, hr, rfl, rfl⟩ := hmakes
      rw [Write.apply, profile_update]
      swap
      · exact fun _ => rfl
      by_cases hk : r.userId = k
      · subst hk
        rw [Store.profile_of_mem hv.constraints hr]
        simp [Event.onProfile, ProfileRow.fields]
      · simp only [if_neg hk, Event.onProfile, Option.map_id']
    | avatarSet user avatarUrl =>
      obtain rfl : wr = .updateAvatarURL avatarUrl user := hmakes
      rw [Write.apply, profile_update]
      swap
      · exact fun _ => rfl
      by_cases hk : user = k
      · subst hk
        cases st.profile user <;> simp [Event.onProfile, ProfileRow.fields]
      · simp only [if_neg hk, Event.onProfile, Option.map_id']
    | contactAdded | contactRemoved | favoriteAdded | favoriteRemoved | privacySet
    | notificationsSet =>
      obtain rfl := hmakes
      rfl

/-! ## What the reads show -/

/-- The members of an answer that show a profile. -/
def fieldMembers (k : Bytes) (p : Fields) : List (Bytes × Json) :=
  [(str "user_id", .string k), (str "first_name", .string p.firstName),
    (str "last_name", .string p.lastName), (str "username", .string p.username),
    (str "bio", .string p.bio), (str "avatar_url", .string p.avatarUrl)]

/-- The value shows the profile of the user with the id `k`. -/
def ShowsFields (j : Json) (k : Bytes) (p : Fields) : Prop :=
  ∀ m ∈ fieldMembers k p, j.member? m.1 = some m.2

lemma profileJson_showsFields (env : Env σ) (w : World σ) (r : ProfileRow) :
    ShowsFields (ProfileHandler.profileJson (r.read env w)) r.userId r.fields := by
  intro m hm
  rw [ProfileHandler.profileJson, Json.member?_ofMembers]
  simp only [fieldMembers, List.mem_cons, List.not_mem_nil, or_false] at hm
  rcases hm with rfl | rfl | rfl | rfl | rfl | rfl <;> rfl

lemma patchedJson_showsFields (profile : Profile) :
    ShowsFields (ProfileHandler.patchedJson profile) profile.userID
      ⟨profile.firstName.getD [], profile.lastName.getD [], profile.username.getD [],
        profile.bio.getD [], profile.avatarUrl.getD []⟩ := by
  intro m hm
  rw [ProfileHandler.patchedJson, Json.member?_ofMembers]
  simp only [fieldMembers, List.mem_cons, List.not_mem_nil, or_false] at hm
  rcases hm with rfl | rfl | rfl | rfl | rfl | rfl <;> rfl

section Runs

variable {env : Env σ} {storage : σ} {requests : List Request} {u k : Bytes}

/-- A user with a profile sees it. -/
lemma shows_profileAfter (havail : env.Available) {p : Fields} (hk : env.db.idKey u = some k)
    (hp : profileAfter k (events env storage requests) = some p) {read : Request}
    (hread : ReadsProfile u read) :
    ∃ j, Shows env (after env storage requests) read j ∧ ShowsFields j k p := by
  have hrow := (refines_profiles env).holds env storage requests k
  rw [hp] at hrow
  obtain ⟨r, hr, rfl⟩ := Option.map_eq_some_iff.mp hrow
  obtain ⟨-, rfl⟩ := Store.profile_mem hr
  exact ⟨_, getProfile_shows (havail _) (after_valid env storage requests) hread hk hr,
    profileJson_showsFields _ _ _⟩

/-- Of a user without one nothing is shown. -/
lemma fails_of_not_created
    (h : ∀ k, env.db.idKey u = some k → Event.created k ∉ events env storage requests)
    {read : Request} (hread : ReadsProfile u read) :
    AnswersWith env (after env storage requests) read 404 := by
  refine getProfile_fails hread fun k hk => ?_
  have hrow := (refines_profiles env).holds env storage requests k
  rw [(profileAfter_eq_none k _).mpr (h k hk)] at hrow
  exact Option.map_eq_none_iff.mp hrow

/-! ## The answer to a PATCH -/

/-- A `PATCH /me` by the user with the id `k`. -/
def PatchesMe (env : Env σ) (k : Bytes) (request : Request) : Prop :=
  request.method = .patch ∧ request.target = str "/me" ∧ extractUserID request ≠ [] ∧
    env.db.idKey (extractUserID request) = some k

/-- The texts of the body are stored as they are. -/
def StoredVerbatim (env : Env σ) (request : Request) : Prop :=
  ∀ j, bodyJson env request = some j → ∀ c ∈ patchColumns env.db.schema, ∀ s,
    j.member? (str c.2) = some (.string s) → env.db.stored c.1 s = some s

/-- What is written of a field is what the answer shows of it. -/
lemma written_eq_shown {T : ColumnType} (hT : T.Holds []) {j : Json} {key : Bytes}
    {field value : Option Bytes} (hfield : HoldsOption T field)
    (hassign : assignString j key field = .ok value)
    (hverbatim : ∀ s, j.member? key = some (.string s) → env.db.stored T s = some s) {v : Bytes}
    (hv : env.db.stored T (value.getD []) = some v) : v = value.getD [] := by
  rcases assignString_cases j key field with ⟨x, hx, hcase⟩ | ⟨x, -, -, herr⟩
  · obtain rfl := Except.ok.inj (hassign.symm.trans hx)
    rcases hcase with ⟨-, rfl⟩ | ⟨s, hs, rfl⟩
    · exact Option.some.inj (hv.symm.trans (env.db.stored_of_holds (hfield.getD hT)))
    · exact Option.some.inj (hv.symm.trans (hverbatim s hs))
  · exact absurd (hassign.symm.trans herr) (fun h => by cases h)

/-- A PATCH that shows a value has updated a row. -/
lemma PatchesMe.exists_row (hv : (after env storage requests).store.Valid env.db.schema)
    {patch : Request} (hpatch : PatchesMe env k patch)
    (h : AnswersWith env (after env storage requests) patch 200) :
    ∃ r, r.userId = k ∧ PatchesOwn env (after env storage requests) patch r ∧
      ∃ firstName lastName username bio j, bodyJson env patch = some j ∧
        storedMember env env.db.schema.nameType j "first_name" = some firstName ∧
        storedMember env env.db.schema.nameType j "last_name" = some lastName ∧
        storedMember env env.db.schema.usernameType j "username" = some username ∧
        storedMember env .text j "bio" = some bio ∧
        events env storage (requests ++ [patch]) = events env storage requests ++
          [.patched k firstName lastName username bio] := by
  obtain ⟨hm, ht, huser, hk⟩ := hpatch
  obtain ⟨response, w', hserve, hstatus⟩ := h
  obtain ⟨response', w'', hserve', heffect⟩ := serve_effect env hv patch
  obtain ⟨hresponse, rfl⟩ := Prod.mk.inj (hserve.symm.trans hserve')
  obtain rfl := Except.ok.inj hresponse
  cases heffect with
  | unchanged _ _ hidle =>
    rcases hidle with h | h
    · omega
    · exact absurd (by simp [hm]) h
  | written event wr n _ _ hevent hmakes _ _ _ =>
    have hevents : events env storage (requests ++ [patch]) =
        events env storage requests ++ [event] := by
      rw [events_concat, hserve, hevent]
      rfl
    rw [eventOf_of_accepts .updateProfile hm ht (by omega)] at hevent
    obtain ⟨j, hj, hevent⟩ := Option.bind_eq_some_iff.mp hevent
    obtain ⟨user, hu, hevent⟩ := Option.bind_eq_some_iff.mp hevent
    obtain rfl : k = user := Option.some.inj (hk.symm.trans hu)
    obtain ⟨f, hf, hevent⟩ := Option.bind_eq_some_iff.mp hevent
    obtain ⟨l, hl, hevent⟩ := Option.bind_eq_some_iff.mp hevent
    obtain ⟨n, hn, hevent⟩ := Option.bind_eq_some_iff.mp hevent
    obtain ⟨b, hb, hevent⟩ := Option.bind_eq_some_iff.mp hevent
    obtain rfl := Option.some.inj hevent
    obtain ⟨r, hr, rfl, -⟩ := hmakes
    exact ⟨r, rfl, ⟨hm, ht, huser, hk, hr⟩, f, l, n, b, j, hj, hf, hl, hn, hb, hevents⟩

/-- The answer to a PATCH shows what the next GET shows. -/
lemma patch_shown (havail : env.Available) {patch : Request} (hk : env.db.idKey u = some k)
    (hpatch : PatchesMe env k patch) (hverbatim : StoredVerbatim env patch) {j : Json}
    (hj : Shows env (after env storage requests) patch j) {read : Request}
    (hread : ReadsProfile u read) :
    ∃ p j', ShowsFields j k p ∧ ShowsFields j' k p ∧
      Shows env (after env storage (requests ++ [patch])) read j' := by
  have hv := after_valid env storage requests
  obtain ⟨r, rfl, hown, -⟩ := hpatch.exists_row hv hj.answersWith
  obtain ⟨response, w', hserve, hstatus, hparsed⟩ := hj
  have hnot : ∀ {response' : Response}, Gives env (after env storage requests) patch response' →
      400 ≤ response'.status → False := by
    intro response' hgives hle
    have heq := Gives.unique ⟨w', hserve⟩ hgives
    rw [← heq] at hle
    omega
  cases patch_ends hv hown with
  | unparsed err _ hgives => exact (hnot hgives (updateFailed_status _ _)).elim
  | unread j err _ _ hgives => exact (hnot hgives (updateFailed_status _ _)).elim
  | untyped j v _ _ _ hgives => exact (hnot hgives (updateFailed_status _ _)).elim
  | unwritten j profile _ _ _ _ _ hgives => exact (hnot hgives (by simp)).elim
  | updated body profile hbody _ _ hpatched v₁ v₂ v₃ v₄ hstores _ response' w'' hserve' _ hjson
      hstore =>
    obtain ⟨hresponse, rfl⟩ := Prod.mk.inj (hserve.symm.trans hserve')
    obtain rfl := Except.ok.inj hresponse
    obtain rfl := Except.ok.inj (hparsed.symm.trans hjson)
    obtain ⟨hid, havatar⟩ := patchProfile_keeps hpatched
    obtain ⟨-, hfirst, hlast, huser, hbio, -⟩ := hv.typed.profiles r hown.row
    obtain ⟨f, l, n, b, ha₁, ha₂, ha₃, ha₄, hprofile⟩ := patchProfile_eq_ok hpatched
    have hbody' : bodyJson env patch = some body := by
      rw [bodyJson, hbody]
      rfl
    have hcolumns := hverbatim body hbody'
    simp only [patchColumns, List.forall_mem_cons] at hcolumns
    obtain ⟨hc₁, hc₂, hc₃, hc₄, -⟩ := hcolumns
    obtain ⟨hs₁, hs₂, hs₃, hs₄⟩ := hstores
    subst hprofile
    have hname := Schema.nameType_holds_nil env.db.schema
    obtain rfl := written_eq_shown hname hfirst ha₁ hc₁ hs₁
    obtain rfl := written_eq_shown hname hlast ha₂ hc₂ hs₂
    obtain rfl := written_eq_shown (Schema.usernameType_holds_nil _) huser ha₃ hc₃ hs₃
    obtain rfl := written_eq_shown ColumnType.holds_nil_text hbio ha₄ hc₄ hs₄
    -- the row that the next GET reads
    have hafter : after env storage (requests ++ [patch]) = w' := by
      rw [after, Mealy.run_concat]
      exact congrArg Prod.snd hserve
    obtain ⟨r', hr', hid', hfields⟩ : ∃ r', w'.store.profile r.userId = some r' ∧
        r'.userId = r.userId ∧ r'.fields =
          ⟨f.getD [], l.getD [], n.getD [], b.getD [], r.avatarUrl.getD []⟩ := by
      rw [hstore, Write.apply, profile_update, Store.profile_of_mem hv.constraints hown.row]
      · exact ⟨_, rfl, by simp, by simp [ProfileRow.fields]⟩
      · exact fun _ => rfl
    have hv' : w'.store.Valid env.db.schema := by
      rw [← hafter]
      exact after_valid env storage _
    have hshows := profileJson_showsFields env w' r'
    rw [hid', hfields] at hshows
    rw [hafter]
    exact ⟨_, _, patchedJson_showsFields _, hshows, getProfile_shows (havail _) hv' hread hk hr'⟩

/-! ## PATCHes with different keys -/

/-- No key that is looked at is in both bodies. -/
def DisjointKeys (env : Env σ) (p q : Request) : Prop :=
  ∀ jp jq, bodyJson env p = some jp → bodyJson env q = some jq →
    ∀ key ∈ patchKeys, jp.member? (str key) = none ∨ jq.member? (str key) = none

lemma storedMember_of_none {T : ColumnType} {j : Json} {key : String} {m : Option Bytes}
    (h : storedMember env T j key = some m) (hnone : j.member? (str key) = none) : m = none := by
  have hassign : assignString j (str key) none = .ok none := by rw [assignString, hnone]
  rw [storedMember, hassign] at h
  exact (Option.some.inj h).symm

/-- Overlays of different fields commute. -/
lemma onProfile_comm {f₁ l₁ n₁ b₁ f₂ l₂ n₂ b₂ : Option Bytes} (hf : f₁ = none ∨ f₂ = none)
    (hl : l₁ = none ∨ l₂ = none) (hn : n₁ = none ∨ n₂ = none) (hb : b₁ = none ∨ b₂ = none)
    (p : Option Fields) :
    (Event.patched k f₂ l₂ n₂ b₂).onProfile k ((Event.patched k f₁ l₁ n₁ b₁).onProfile k p) =
      (Event.patched k f₁ l₁ n₁ b₁).onProfile k ((Event.patched k f₂ l₂ n₂ b₂).onProfile k p) := by
  have hgetD : ∀ {a b : Option Bytes} (x : Bytes), a = none ∨ b = none →
      b.getD (a.getD x) = a.getD (b.getD x) := by
    rintro a b x (rfl | rfl) <;> rfl
  cases p with
  | none => simp [Event.onProfile]
  | some p =>
    simp only [Event.onProfile, if_true, Option.map_some, Option.some.injEq, Fields.mk.injEq]
    exact ⟨hgetD _ hf, hgetD _ hl, hgetD _ hn, hgetD _ hb, trivial⟩

/-- Two PATCHes with different keys that succeed in either order leave the same profile. -/
lemma patches_commute {p q : Request} (hp : PatchesMe env k p) (hq : PatchesMe env k q)
    (hkeys : DisjointKeys env p q)
    (hp₁ : AnswersWith env (after env storage requests) p 200)
    (hq₁ : AnswersWith env (after env storage (requests ++ [p])) q 200)
    (hq₂ : AnswersWith env (after env storage requests) q 200)
    (hp₂ : AnswersWith env (after env storage (requests ++ [q])) p 200) :
    profileAfter k (events env storage (requests ++ [p] ++ [q])) =
      profileAfter k (events env storage (requests ++ [q] ++ [p])) := by
  obtain ⟨-, -, -, f₁, l₁, n₁, b₁, jp, hjp, hf₁, hl₁, hn₁, hb₁, hevents₁⟩ :=
    hp.exists_row (after_valid env storage _) hp₁
  obtain ⟨-, -, -, f₂, l₂, n₂, b₂, jq, hjq, hf₂, hl₂, hn₂, hb₂, hevents₂⟩ :=
    hq.exists_row (after_valid env storage _) hq₂
  obtain ⟨-, -, -, f₃, l₃, n₃, b₃, jq', hjq', hf₃, hl₃, hn₃, hb₃, hevents₃⟩ :=
    hq.exists_row (after_valid env storage _) hq₁
  obtain ⟨-, -, -, f₄, l₄, n₄, b₄, jp', hjp', hf₄, hl₄, hn₄, hb₄, hevents₄⟩ :=
    hp.exists_row (after_valid env storage _) hp₂
  -- the event of a PATCH does not depend on the tables
  obtain rfl := Option.some.inj (hjp.symm.trans hjp')
  obtain rfl := Option.some.inj (hjq.symm.trans hjq')
  obtain rfl := Option.some.inj (hf₁.symm.trans hf₄)
  obtain rfl := Option.some.inj (hl₁.symm.trans hl₄)
  obtain rfl := Option.some.inj (hn₁.symm.trans hn₄)
  obtain rfl := Option.some.inj (hb₁.symm.trans hb₄)
  obtain rfl := Option.some.inj (hf₂.symm.trans hf₃)
  obtain rfl := Option.some.inj (hl₂.symm.trans hl₃)
  obtain rfl := Option.some.inj (hn₂.symm.trans hn₃)
  obtain rfl := Option.some.inj (hb₂.symm.trans hb₃)
  have hdisjoint := hkeys jp jq hjp hjq
  rw [hevents₃, hevents₄, hevents₁, hevents₂, profileAfter_concat, profileAfter_concat,
    profileAfter_concat, profileAfter_concat]
  refine onProfile_comm ?_ ?_ ?_ ?_ _
  · exact (hdisjoint "first_name" (by simp [patchKeys])).imp (storedMember_of_none hf₁)
      (storedMember_of_none hf₂)
  · exact (hdisjoint "last_name" (by simp [patchKeys])).imp (storedMember_of_none hl₁)
      (storedMember_of_none hl₂)
  · exact (hdisjoint "username" (by simp [patchKeys])).imp (storedMember_of_none hn₁)
      (storedMember_of_none hn₂)
  · exact (hdisjoint "bio" (by simp [patchKeys])).imp (storedMember_of_none hb₁)
      (storedMember_of_none hb₂)

end Runs

/-! ## The result -/

/-- On a database that is up, a GET of the profile of `u` answers 404 as long as `u` was not
created, and else shows the fold of the successful requests.  The answer to a PATCH whose
texts are stored as they are shows the same as the next GET, and two PATCHes with different
keys that succeed in either order leave the same fields. -/
theorem profiles_refine (env : Env σ) (havail : env.Available) (storage : σ)
    (requests : List Request) (u : Bytes) :
    ((∀ k, env.db.idKey u = some k → Event.created k ∉ events env storage requests) →
      ∀ read, ReadsProfile u read → AnswersWith env (after env storage requests) read 404) ∧
    ∀ k, env.db.idKey u = some k →
      (Event.created k ∈ events env storage requests →
        ∃ p, profileAfter k (events env storage requests) = some p ∧
          ∀ read, ReadsProfile u read →
            ∃ j, Shows env (after env storage requests) read j ∧ ShowsFields j k p) ∧
      (∀ patch j, PatchesMe env k patch → StoredVerbatim env patch →
        Shows env (after env storage requests) patch j → ∀ read, ReadsProfile u read →
          ∃ p j', ShowsFields j k p ∧ ShowsFields j' k p ∧
            Shows env (after env storage (requests ++ [patch])) read j') ∧
      ∀ p q, PatchesMe env k p → PatchesMe env k q → DisjointKeys env p q →
        AnswersWith env (after env storage requests) p 200 →
        AnswersWith env (after env storage (requests ++ [p])) q 200 →
        AnswersWith env (after env storage requests) q 200 →
        AnswersWith env (after env storage (requests ++ [q])) p 200 →
        profileAfter k (events env storage (requests ++ [p] ++ [q])) =
          profileAfter k (events env storage (requests ++ [q] ++ [p])) := by
  refine ⟨fun h read hread => fails_of_not_created h hread, fun k hk => ⟨?_, ?_, ?_⟩⟩
  · intro hcreated
    obtain ⟨p, hp⟩ := Option.ne_none_iff_exists'.mp
      (mt (profileAfter_eq_none k _).mp (not_not.mpr hcreated))
    exact ⟨p, hp, fun read hread => shows_profileAfter havail hk hp hread⟩
  · intro patch j hpatch hverbatim hj read hread
    exact patch_shown havail hk hpatch hverbatim hj hread
  · intro p q hp hq hkeys hp₁ hq₁ hq₂ hp₂
    exact patches_commute hp hq hkeys hp₁ hq₁ hq₂ hp₂

/-- A user gets a profile, writes a bio and deletes an avatar that there is not. -/
def bioRun : List Request :=
  [requestBy (str "gateway") .post (str "/internal/profiles")
      (str "\x7b\"user_id\":\"alice\"\x7d"),
    requestBy (str "alice") .patch (str "/me") (str "\x7b\"bio\":\"hello\"\x7d"),
    requestBy (str "alice") .delete (str "/me/avatar") []]

/-- After the run anyone sees the bio. -/
theorem profiles_refine_bio :
    ∃ j, Shows (Env.standalone .migrations) (after (Env.standalone .migrations) () bioRun)
        (requestBy (str "bob") .get (str "/alice") []) j ∧
      ShowsFields j (str "alice") ⟨[], [], [], str "hello", []⟩ := by
  obtain ⟨p, hp, hshows⟩ := ((profiles_refine (Env.standalone .migrations) (fun _ => rfl) () bioRun
    (str "alice")).2 (str "alice") (by decide)).1 (by decide)
  have hfields : profileAfter (str "alice") (events (Env.standalone .migrations) () bioRun) =
      some ⟨[], [], [], str "hello", []⟩ := by decide
  obtain rfl := Option.some.inj (hp.symm.trans hfields)
  exact hshows _ ⟨rfl, by decide, Or.inr ⟨by decide, rfl,
    ⟨.get, .getProfileByID, str "profile:read"⟩, by decide, rfl⟩⟩

end ProfileService
