/-
# Taken usernames

A PATCH is to be answered with 409 exactly when the username of its body is another user's.
The repository reports every failed `UPDATE` as a taken username, the handler tells the
answers apart by the text of the exception, and a PATCH writes an empty username where there
was none.  The result says for which requests and tables none of this shows.
-/
import ProfileService.Patch
import ProfileService.Reachable
import ProfileService.Standalone

namespace ProfileService

open Bytes (str)

variable {σ : Type}

/-- The text of the exception contains the one that stands for a taken username. -/
def Mentions (err : Exn) : Prop := (err.what.find (str "username already taken") 0).isSome = true

/-- The answer that reports a taken username. -/
def conflict (request : Request) : Response :=
  errorResponse 409 request.version (str "username already taken")

/-- The body has a username, and as the column stores it a profile other than that of the user
with the id `k` has it. -/
def Taken (env : Env σ) (st : Store) (k : Bytes) (request : Request) : Prop :=
  ∃ j s v, bodyJson env request = some j ∧ j.member? (str "username") = some (.string s) ∧
    env.db.stored env.db.schema.usernameType s = some v ∧
    ∃ r ∈ st.profiles, r.userId ≠ k ∧ r.username = some v

/-- The texts of the body fit their columns. -/
def Storable (env : Env σ) (j : Json) : Prop :=
  ∀ c ∈ patchColumns env.db.schema, ∀ s, j.member? (str c.2) = some (.string s) →
    (env.db.stored c.1 s).isSome = true

/-- When the answer to a PATCH by the user of the row `r` is not mistaken about the username:
by what fails first. -/
structure Unmistaken (env : Env σ) (w : World σ) (request : Request) (r : ProfileRow) : Prop where
  /-- The body does not parse: the error does not read like a taken username. -/
  unparsed : ∀ err, env.json.parse request.body = .error err → ¬ Mentions err
  /-- The `SELECT` fails: the error reads so just when the username is taken. -/
  unread : ∀ j err, env.json.parse request.body = .ok j → env.fault w.statements = some err →
    (Mentions err ↔ Taken env w.store r.userId request)
  /-- A member has the wrong type: the username is not taken. -/
  untyped : ∀ j, env.json.parse request.body = .ok j → env.fault w.statements = none →
    ¬ AllStrings j → ¬ Taken env w.store r.userId request
  /-- The `UPDATE` fails on its own or a text does not fit: the username is taken. -/
  unwritten : ∀ j, env.json.parse request.body = .ok j → env.fault w.statements = none →
    AllStrings j → env.fault (w.statements + 1) ≠ none ∨ ¬ Storable env j →
    Taken env w.store r.userId request
  /-- Nothing fails, and there is no username, old or new: no other user has the empty one. -/
  unnamed : ∀ j, env.json.parse request.body = .ok j → env.fault w.statements = none →
    AllStrings j → env.fault (w.statements + 1) = none → Storable env j →
    j.member? (str "username") = none → r.username = none →
    ∀ r' ∈ w.store.profiles, r'.userId ≠ r.userId → r'.username ≠ some []

/-! ## The answers -/

section Answers

variable {env : Env σ} {w : World σ} {request : Request}

/-- The answer to an exception reports a taken username when the text mentions one. -/
lemma gives_conflict_iff {err : Exn}
    (h : Gives env w request (ProfileHandler.updateFailed request err)) :
    Gives env w request (conflict request) ↔ Mentions err := by
  rw [ProfileHandler.updateFailed] at h
  by_cases hm : (err.what.find (str "username already taken") 0).isSome = true
  · rw [if_pos hm] at h
    exact ⟨fun _ => hm, fun _ => h⟩
  · rw [if_neg hm] at h
    refine ⟨fun h' => ?_, fun h' => absurd h' hm⟩
    have hstatus := congrArg Response.status (h.unique h')
    exact absurd hstatus (by simp [conflict])

/-- The error of a wrong type does not mention it. -/
lemma not_mentions_typeMustBe (v : Json) : ¬ Mentions (typeMustBe (str "string") v) := by
  cases v <;> · rw [Mentions, typeMustBe, Json.typeName]; decide

/-- A member after the assignment. -/
lemma assigned {j : Json} {key : Bytes} {field value : Option Bytes}
    (h : assignString j key field = .ok value) :
    (j.member? key = none ∧ value = field) ∨
      ∃ s, j.member? key = some (.string s) ∧ value = some s := by
  rcases assignString_cases j key field with ⟨v, hv, hcase⟩ | ⟨v, -, -, herr⟩
  · obtain rfl := Except.ok.inj (h.symm.trans hv)
    exact hcase
  · exact absurd (h.symm.trans herr) (fun h => by cases h)

/-- A value is stored when the text of the body is, if it has one. -/
lemma assigned_isSome (env : Env σ) {T : ColumnType} (hT : T.Holds []) {j : Json} {key : Bytes}
    {field value : Option Bytes} (hfield : HoldsOption T field)
    (h : assignString j key field = .ok value) :
    (env.db.stored T (value.getD [])).isSome = true ↔
      ∀ s, j.member? key = some (.string s) → (env.db.stored T s).isSome = true := by
  rcases assigned h with ⟨hnone, rfl⟩ | ⟨s, hs, rfl⟩
  · rw [env.db.stored_of_holds (hfield.getD hT)]
    exact ⟨fun _ s hs => absurd (hnone.symm.trans hs) (by simp), fun _ => rfl⟩
  · refine ⟨fun h s' hs' => ?_, fun h => h s hs⟩
    obtain rfl := Json.string.inj (Option.some.inj (hs.symm.trans hs'))
    exact h

/-- The values of the update are stored when the texts of the body are. -/
lemma storable_iff (hv : w.store.Valid env.db.schema) {r : ProfileRow}
    (hr : r ∈ w.store.profiles) {j : Json} {profile : Profile}
    (h : ProfileHandler.patchProfile j (r.read env w) = .ok profile) :
    Storable env j ↔ ∃ firstName lastName username bio,
      StoresAs env profile firstName lastName username bio := by
  obtain ⟨-, hfirst, hlast, huser, hbio, -⟩ := hv.typed.profiles r hr
  obtain ⟨f, l, n, b, h₁, h₂, h₃, h₄, rfl⟩ := patchProfile_eq_ok h
  have hname := Schema.nameType_holds_nil env.db.schema
  have hiff₁ := assigned_isSome env hname hfirst h₁
  have hiff₂ := assigned_isSome env hname hlast h₂
  have hiff₃ := assigned_isSome env (Schema.usernameType_holds_nil _) huser h₃
  have hiff₄ := assigned_isSome env ColumnType.holds_nil_text hbio h₄
  simp only [Storable, patchColumns, List.forall_mem_cons, ← hiff₁, ← hiff₂, ← hiff₃, ← hiff₄]
  constructor
  · rintro ⟨h₁, h₂, h₃, h₄, -⟩
    obtain ⟨v₁, hv₁⟩ := Option.isSome_iff_exists.mp h₁
    obtain ⟨v₂, hv₂⟩ := Option.isSome_iff_exists.mp h₂
    obtain ⟨v₃, hv₃⟩ := Option.isSome_iff_exists.mp h₃
    obtain ⟨v₄, hv₄⟩ := Option.isSome_iff_exists.mp h₄
    exact ⟨v₁, v₂, v₃, v₄, hv₁, hv₂, hv₃, hv₄⟩
  · rintro ⟨v₁, v₂, v₃, v₄, hv₁, hv₂, hv₃, hv₄⟩
    exact ⟨by rw [hv₁]; rfl, by rw [hv₂]; rfl, by rw [hv₃]; rfl, by rw [hv₄]; rfl, by simp⟩

/-- The username of the update is that of the body, the old one, or the empty one for none. -/
lemma username_cases (hv : w.store.Valid env.db.schema) {r : ProfileRow}
    (hr : r ∈ w.store.profiles) {j : Json} {profile : Profile}
    (h : ProfileHandler.patchProfile j (r.read env w) = .ok profile)
    {firstName lastName username bio : Bytes}
    (hstores : StoresAs env profile firstName lastName username bio) :
    (∃ s, j.member? (str "username") = some (.string s) ∧
      env.db.stored env.db.schema.usernameType s = some username) ∨
    (j.member? (str "username") = none ∧
      (r.username = some username ∨ r.username = none ∧ username = [])) := by
  obtain ⟨-, -, -, huser, -, -⟩ := hv.typed.profiles r hr
  obtain ⟨_, _, n, _, -, -, hn, -, rfl⟩ := patchProfile_eq_ok h
  obtain ⟨-, -, hstored, -⟩ := hstores
  rcases assigned hn with ⟨hnone, rfl⟩ | ⟨s, hs, rfl⟩
  · refine Or.inr ⟨hnone, ?_⟩
    have hholds := huser.getD (Schema.usernameType_holds_nil env.db.schema)
    have hsame := (env.db.stored_of_holds hholds).symm.trans hstored
    rcases hold : r.username with _ | old
    · rw [hold] at hsame
      exact Or.inr ⟨rfl, (Option.some.inj hsame).symm⟩
    · rw [hold] at hsame
      exact Or.inl hsame
  · exact Or.inl ⟨s, hs, hstored⟩

/-- No other user has the username of a row. -/
lemma own_free {st : Store} (hc : st.Constraints) {r r' : ProfileRow} (hr : r ∈ st.profiles)
    (hr' : r' ∈ st.profiles) (hne : r'.userId ≠ r.userId) {v : Bytes}
    (hv : r.username = some v) : r'.username ≠ some v := by
  intro hv'
  have hsame : r = r' := Table.eq_of_nodup_filterMap hc.profiles_username_key hr hr' hv hv'
  exact hne (congrArg ProfileRow.userId hsame.symm)

/-- When no other user has the username of the update, that of the body is not taken, and with
none, old or new, no other user has the empty one. -/
lemma not_taken_of_free (hv : w.store.Valid env.db.schema) {r : ProfileRow}
    (hr : r ∈ w.store.profiles) {j : Json} {profile : Profile}
    (hbody : bodyJson env request = some j)
    (h : ProfileHandler.patchProfile j (r.read env w) = .ok profile)
    {firstName lastName username bio : Bytes}
    (hstores : StoresAs env profile firstName lastName username bio)
    (hfree : ∀ r' ∈ w.store.profiles, r'.userId ≠ r.userId → r'.username ≠ some username) :
    ¬ Taken env w.store r.userId request ∧
      (j.member? (str "username") = none → r.username = none →
        ∀ r' ∈ w.store.profiles, r'.userId ≠ r.userId → r'.username ≠ some []) := by
  rcases username_cases hv hr h hstores with ⟨s, hs, hstored⟩ | ⟨hnone, hold⟩
  · refine ⟨?_, fun hnone => absurd (hnone.symm.trans hs) (by simp)⟩
    rintro ⟨j', s', v, hj', hs', hstored', r', hr', hne, hname⟩
    obtain rfl := Option.some.inj (hbody.symm.trans hj')
    obtain rfl := Json.string.inj (Option.some.inj (hs.symm.trans hs'))
    obtain rfl := Option.some.inj (hstored.symm.trans hstored')
    exact hfree r' hr' hne hname
  · constructor
    · rintro ⟨j', s', v, hj', hs', -⟩
      obtain rfl := Option.some.inj (hbody.symm.trans hj')
      exact absurd (hnone.symm.trans hs') (by simp)
    · intro _ hnone'
      rcases hold with hold | ⟨-, rfl⟩
      · exact absurd (hnone'.symm.trans hold) (by simp)
      · exact hfree

/-- When another user has the username of the update, that of the body is taken, unless there
is none, old or new. -/
lemma taken_iff_of_clash (hv : w.store.Valid env.db.schema) {r r' : ProfileRow}
    (hr : r ∈ w.store.profiles) {j : Json} {profile : Profile}
    (hbody : bodyJson env request = some j)
    (h : ProfileHandler.patchProfile j (r.read env w) = .ok profile)
    {firstName lastName username bio : Bytes}
    (hstores : StoresAs env profile firstName lastName username bio)
    (hr' : r' ∈ w.store.profiles) (hne : r'.userId ≠ r.userId)
    (hname : r'.username = some username) :
    Taken env w.store r.userId request ↔
      (j.member? (str "username") = none → r.username = none →
        ∀ r' ∈ w.store.profiles, r'.userId ≠ r.userId → r'.username ≠ some []) := by
  constructor
  · rintro ⟨j', s, v, hj', hs, -⟩ hnone
    obtain rfl := Option.some.inj (hbody.symm.trans hj')
    exact absurd (hnone.symm.trans hs) (by simp)
  · intro hfree
    rcases username_cases hv hr h hstores with ⟨s, hs, hstored⟩ | ⟨hnone, hold⟩
    · exact ⟨j, s, username, hbody, hs, hstored, r', hr', hne, hname⟩
    · rcases hold with hold | ⟨hold, rfl⟩
      · exact absurd hname (own_free hv.constraints hr hr' hne hold)
      · exact absurd hname (hfree hnone hold r' hr' hne)

/-! ## The condition, by what fails first -/

section Condition

variable {j : Json} {r : ProfileRow}

lemma unmistaken_iff_of_error {err : Exn} (hparse : env.json.parse request.body = .error err) :
    Unmistaken env w request r ↔ ¬ Mentions err := by
  have hno : ∀ j, env.json.parse request.body ≠ .ok j := by
    intro j hj
    exact absurd (hparse.symm.trans hj) (by simp)
  constructor
  · exact fun h => h.unparsed err hparse
  · intro hm
    refine ⟨fun err' herr' => ?_, fun j _ hj => absurd hj (hno j), fun j hj => absurd hj (hno j),
      fun j hj => absurd hj (hno j), fun j hj => absurd hj (hno j)⟩
    obtain rfl := Except.error.inj (hparse.symm.trans herr')
    exact hm

lemma unmistaken_iff_of_fault (hparse : env.json.parse request.body = .ok j) {err : Exn}
    (hfault : env.fault w.statements = some err) :
    Unmistaken env w request r ↔ (Mentions err ↔ Taken env w.store r.userId request) := by
  have hdown : env.fault w.statements ≠ none := by simp [hfault]
  constructor
  · exact fun h => h.unread j err hparse hfault
  · intro hm
    refine ⟨fun err' herr' => ?_, fun j' err' _ herr' => ?_, fun _ _ h => absurd h hdown,
      fun _ _ h => absurd h hdown, fun _ _ h => absurd h hdown⟩
    · exact absurd (hparse.symm.trans herr') (by simp)
    · obtain rfl := Option.some.inj (hfault.symm.trans herr')
      exact hm

lemma unmistaken_iff_of_untyped (hparse : env.json.parse request.body = .ok j)
    (hup : env.fault w.statements = none) (hstrings : ¬ AllStrings j) :
    Unmistaken env w request r ↔ ¬ Taken env w.store r.userId request := by
  have hsame : ∀ j', env.json.parse request.body = .ok j' → ¬ AllStrings j' := by
    intro j' hj'
    obtain rfl := Except.ok.inj (hparse.symm.trans hj')
    exact hstrings
  constructor
  · exact fun h => h.untyped j hparse hup hstrings
  · intro hnot
    refine ⟨fun err herr => ?_, fun _ err _ herr => ?_, fun _ _ _ _ => hnot,
      fun j' hj' _ h => absurd h (hsame j' hj'), fun j' hj' _ h => absurd h (hsame j' hj')⟩
    · exact absurd (hparse.symm.trans herr) (by simp)
    · exact absurd (hup.symm.trans herr) (by simp)

lemma unmistaken_iff_of_unwritten (hparse : env.json.parse request.body = .ok j)
    (hup : env.fault w.statements = none) (hstrings : AllStrings j)
    (hbad : env.fault (w.statements + 1) ≠ none ∨ ¬ Storable env j) :
    Unmistaken env w request r ↔ Taken env w.store r.userId request := by
  constructor
  · exact fun h => h.unwritten j hparse hup hstrings hbad
  · intro htaken
    refine ⟨fun err herr => ?_, fun _ err _ herr => ?_, fun j' hj' _ h => ?_,
      fun _ _ _ _ _ => htaken, fun j' hj' _ _ hup' hstorable => ?_⟩
    · exact absurd (hparse.symm.trans herr) (by simp)
    · exact absurd (hup.symm.trans herr) (by simp)
    · obtain rfl := Except.ok.inj (hparse.symm.trans hj')
      exact absurd hstrings h
    · obtain rfl := Except.ok.inj (hparse.symm.trans hj')
      exact absurd hbad (not_or.mpr ⟨not_not.mpr hup', not_not.mpr hstorable⟩)

lemma unmistaken_iff_of_written (hparse : env.json.parse request.body = .ok j)
    (hup : env.fault w.statements = none) (hstrings : AllStrings j)
    (hup' : env.fault (w.statements + 1) = none) (hstorable : Storable env j) :
    Unmistaken env w request r ↔ (j.member? (str "username") = none → r.username = none →
      ∀ r' ∈ w.store.profiles, r'.userId ≠ r.userId → r'.username ≠ some []) := by
  constructor
  · exact fun h => h.unnamed j hparse hup hstrings hup' hstorable
  · intro hfree
    refine ⟨fun err herr => ?_, fun _ err _ herr => ?_, fun j' hj' _ h => ?_,
      fun j' hj' _ _ hbad => ?_, fun j' hj' _ _ _ _ => ?_⟩
    · exact absurd (hparse.symm.trans herr) (by simp)
    · exact absurd (hup.symm.trans herr) (by simp)
    · obtain rfl := Except.ok.inj (hparse.symm.trans hj')
      exact absurd hstrings h
    · obtain rfl := Except.ok.inj (hparse.symm.trans hj')
      exact absurd hbad (not_or.mpr ⟨not_not.mpr hup', not_not.mpr hstorable⟩)
    · obtain rfl := Except.ok.inj (hparse.symm.trans hj')
      exact hfree

end Condition

end Answers

/-- After any requests, the answer to a PATCH by a user with a profile reports a taken username
just when the username of the body is taken, exactly if the PATCH meets the condition for
the first thing in it that fails. -/
theorem conflict_iff_taken (env : Env σ) (storage : σ) (requests : List Request)
    (request : Request) (r : ProfileRow)
    (h : PatchesOwn env (after env storage requests) request r) :
    (Gives env (after env storage requests) request (conflict request) ↔
        Taken env (after env storage requests).store r.userId request) ↔
      Unmistaken env (after env storage requests) request r := by
  have hv := after_valid env storage requests
  generalize after env storage requests = w at h hv ⊢
  have hbody : ∀ {j}, env.json.parse request.body = .ok j → bodyJson env request = some j := by
    intro j hj
    rw [bodyJson, hj]
    rfl
  cases patch_ends hv h with
  | unparsed err hparse hgives =>
    have hnot : ¬ Taken env w.store r.userId request := by
      rintro ⟨j, s, v, hj, -⟩
      rw [bodyJson, hparse] at hj
      exact absurd hj (by simp [Except.toOption])
    rw [gives_conflict_iff hgives, iff_false_right hnot, unmistaken_iff_of_error hparse]
  | unread j err hparse hfault hgives =>
    rw [gives_conflict_iff hgives, unmistaken_iff_of_fault hparse hfault]
  | untyped j v hparse hup hstrings hgives =>
    rw [gives_conflict_iff hgives, iff_false_left (not_mentions_typeMustBe v),
      unmistaken_iff_of_untyped hparse hup hstrings]
  | unwritten j profile hparse hup hstrings hpatched hfails hgives =>
    have hconflict : Gives env w request (conflict request) := hgives
    rw [iff_true_left hconflict]
    by_cases hbad : env.fault (w.statements + 1) ≠ none ∨ ¬ Storable env j
    · rw [unmistaken_iff_of_unwritten hparse hup hstrings hbad]
    -- then it is the constraint on usernames that fails
    obtain ⟨hup', hstorable⟩ := (not_or.mp hbad).imp not_not.mp not_not.mp
    obtain ⟨f, l, n, b, hstores⟩ := (storable_iff hv h.row hpatched).mp hstorable
    obtain ⟨r', hr', hne, hname⟩ : ∃ r' ∈ w.store.profiles, r'.userId ≠ r.userId ∧
        r'.username = some n := by
      by_contra hfree
      push Not at hfree
      exact (hfails.resolve_left (not_not.mpr hup')) ⟨f, l, n, b, hstores, hfree⟩
    rw [unmistaken_iff_of_written hparse hup hstrings hup' hstorable]
    exact taken_iff_of_clash hv h.row (hbody hparse) hpatched hstores hr' hne hname
  | updated j profile hparse hup hstrings hpatched f l n b hstores hfree response w' hserve
      hstatus _ _ =>
    have hstorable := (storable_iff hv h.row hpatched).mpr ⟨f, l, n, b, hstores⟩
    have hno : ¬ Gives env w request (conflict request) := by
      intro hgives
      obtain rfl := hgives.unique ⟨w', hserve⟩
      exact absurd hstatus (by simp [conflict])
    obtain ⟨hnot, hunnamed⟩ :=
      not_taken_of_free hv h.row (hbody hparse) hpatched hstores hfree
    rw [unmistaken_iff_of_written hparse hup.1 hstrings hup.2 hstorable]
    exact iff_of_true (iff_of_false hno hnot) hunnamed

/-- Two users get profiles, and one of them writes a bio. -/
def unnamedRun : List Request :=
  [requestBy (str "gateway") .post (str "/internal/profiles")
      (str "\x7b\"user_id\":\"alice\"\x7d"),
    requestBy (str "gateway") .post (str "/internal/profiles")
      (str "\x7b\"user_id\":\"bob\"\x7d"),
    requestBy (str "alice") .patch (str "/me") (str "\x7b\"bio\":\"hello\"\x7d")]

/-- Then the other one does. -/
def bioPatch : Request :=
  requestBy (str "bob") .patch (str "/me") (str "\x7b\"bio\":\"hi\"\x7d")

/-- The body of the request. -/
def bioBody : Json := .object [(str "bio", .string (str "hi"))]

/-- It has one member. -/
lemma bioBody_member {key : Bytes} {v : Json} (h : bioBody.member? key = some v) :
    key = str "bio" ∧ v = .string (str "hi") := by
  rw [bioBody, Json.member?, List.lookup_cons, List.lookup_nil] at h
  by_cases hkey : key = str "bio"
  · rw [hkey, beq_self_eq_true] at h
    exact ⟨hkey, (Option.some.inj h).symm⟩
  · rw [beq_false_of_ne hkey] at h
    exact absurd h (by simp)

/-- The request does not meet the condition: no text is wrong, and the username is empty. -/
theorem conflict_iff_taken_unnamed :
    ¬ (Gives (Env.standalone .migrations) (after (Env.standalone .migrations) () unnamedRun)
        bioPatch (conflict bioPatch) ↔
      Taken (Env.standalone .migrations)
        (after (Env.standalone .migrations) () unnamedRun).store (str "bob") bioPatch) := by
  intro h
  obtain ⟨r, hr, hid, hname⟩ : ∃ r ∈ (after (Env.standalone .migrations) ()
      unnamedRun).store.profiles, r.userId = str "bob" ∧ r.username = none := by decide
  have hpatch : PatchesOwn (Env.standalone .migrations)
      (after (Env.standalone .migrations) () unnamedRun) bioPatch r :=
    ⟨rfl, rfl, by decide, by rw [hid]; decide, hr⟩
  rw [← hid] at h
  have hcondition := (conflict_iff_taken (Env.standalone .migrations) () unnamedRun bioPatch r
    hpatch).mp h
  obtain ⟨r', hr', hne, hempty⟩ : ∃ r' ∈ (after (Env.standalone .migrations) ()
      unnamedRun).store.profiles, r'.userId ≠ str "bob" ∧ r'.username = some [] := by decide
  have hstrings : AllStrings bioBody := by
    intro key hkey v hv
    exact ⟨str "hi", (bioBody_member hv).2⟩
  have hstorable : Storable (Env.standalone .migrations) bioBody := by
    intro c hc s hs
    obtain ⟨-, hs⟩ := bioBody_member hs
    obtain rfl := Json.string.inj hs
    have hfit : ∀ c ∈ patchColumns .migrations,
        ((Env.standalone .migrations).db.stored c.1 (str "hi")).isSome = true := by decide
    exact hfit c hc
  exact hcondition.unnamed bioBody rfl rfl hstrings rfl hstorable rfl hname r' hr' (hid ▸ hne)
    hempty

/-- A PATCH without a username is answered with 409. -/
theorem username_not_taken :
    Gives (Env.standalone .migrations) (after (Env.standalone .migrations) () unnamedRun)
      bioPatch (conflict bioPatch) ∧
    ¬ Taken (Env.standalone .migrations)
      (after (Env.standalone .migrations) () unnamedRun).store (str "bob") bioPatch := by
  constructor
  · have hresponse : (serve (Env.standalone .migrations)
        (after (Env.standalone .migrations) () unnamedRun) bioPatch).1.toOption =
        some (conflict bioPatch) := by decide
    rcases hserve : serve (Env.standalone .migrations)
        (after (Env.standalone .migrations) () unnamedRun) bioPatch with ⟨err | response, w⟩
    · rw [hserve] at hresponse
      exact absurd hresponse (by simp [Except.toOption])
    · rw [hserve] at hresponse
      exact ⟨w, hserve.trans (by rw [← Option.some.inj hresponse])⟩
  · rintro ⟨j, s, v, hj, hs, -⟩
    obtain rfl : bioBody = j := Option.some.inj hj
    exact absurd (bioBody_member hs).1 (by decide)

end ProfileService
