/-
# The addresses of avatars

`MinIOStorage` keeps nothing: an avatar is the address that it makes of the id of the user and the
extension.  The id is the text of the header and it is put into the address as it is; still no two
profiles have the address of one avatar, whatever the requests and whichever statements fail.
-/
import ProfileService.Projection

namespace ProfileService

open Bytes (str)

/-! ## Addresses -/

/-- The extensions of avatars. -/
def avatarExtensions : List Bytes := [str "png", str "webp", str "jpg"]

/-- What the addresses of an endpoint begin with. -/
def avatarBase (endpoint : Bytes) : Bytes :=
  let baseUrl := if endpoint = [] then str "http://localhost:9000" else endpoint
  if baseUrl.rfind (str "http://") 0 = some 0 ∨ baseUrl.rfind (str "https://") 0 = some 0
  then baseUrl
  else str "http://" ++ baseUrl

/-- The address of an avatar. -/
def avatarAddress (endpoint userId extension : Bytes) : Bytes :=
  avatarBase endpoint ++ str "/" ++ str "avatars" ++ str "/" ++ userId ++ str "/avatar." ++
    extension

/-- An upload gives an address of the user. -/
lemma minIOStorage_upload {endpoint userId url contentType : Bytes} {data : List UInt8} {s : Unit}
    (h : ((MinIOStorage endpoint).upload userId data contentType s).1 = .ok url) :
    ∃ extension ∈ avatarExtensions, url = avatarAddress endpoint userId extension := by
  by_cases hdata : data = []
  · simp only [MinIOStorage, if_pos hdata] at h
    cases h
  simp only [MinIOStorage, if_neg hdata] at h
  refine ⟨_, ?_, (Except.ok.inj h).symm⟩
  split_ifs <;> decide

/-- The last bytes of an address are those of its extension. -/
lemma take_reverse_append (s : Bytes) {extension : Bytes} (h : extension ∈ avatarExtensions) :
    (s ++ extension).reverse.take 3 = extension.reverse.take 3 := by
  have hlength : ∀ e ∈ avatarExtensions, 3 ≤ e.reverse.length := by decide
  rw [List.reverse_append, List.take_append_of_le_length (hlength extension h)]

/-- Avatars with one address are of one user. -/
lemma avatarAddress_inj {endpoint userId userId' extension extension' : Bytes}
    (h : extension ∈ avatarExtensions) (h' : extension' ∈ avatarExtensions)
    (heq : avatarAddress endpoint userId extension = avatarAddress endpoint userId' extension') :
    userId = userId' := by
  have hsame : extension = extension' := by
    have hlast : extension.reverse.take 3 = extension'.reverse.take 3 := by
      rw [← take_reverse_append _ h, ← take_reverse_append _ h']
      exact congrArg (fun s : Bytes => s.reverse.take 3) heq
    have hapart : ∀ e ∈ avatarExtensions, ∀ e' ∈ avatarExtensions,
        e.reverse.take 3 = e'.reverse.take 3 → e = e' := by decide
    exact hapart _ h _ h' hlast
  rw [hsame] at heq
  exact List.append_cancel_left (List.append_cancel_right (List.append_cancel_right heq))

lemma avatarBase_nulFree {endpoint : Bytes} (h : endpoint.NulFree) :
    (avatarBase endpoint).NulFree := by
  have hbase : (0 : UInt8) ∉ if endpoint = [] then str "http://localhost:9000" else endpoint := by
    split_ifs
    · decide
    · exact h
  unfold avatarBase
  generalize (if endpoint = [] then str "http://localhost:9000" else endpoint) = baseUrl at hbase
  dsimp only
  split_ifs
  · exact hbase
  · exact List.not_mem_append (by decide) hbase

lemma avatarAddress_nulFree {endpoint userId extension : Bytes} (hendpoint : endpoint.NulFree)
    (huser : userId.NulFree) (h : extension ∈ avatarExtensions) :
    (avatarAddress endpoint userId extension).NulFree := by
  have hextension : ∀ e ∈ avatarExtensions, (0 : UInt8) ∉ e := by decide
  simp only [Bytes.NulFree, avatarAddress, List.mem_append, not_or]
  exact ⟨⟨⟨⟨⟨⟨avatarBase_nulFree hendpoint, by decide⟩, by decide⟩, by decide⟩, huser⟩,
    by decide⟩, hextension _ h⟩

/-! ## Who has which address -/

section Owners

variable {env : Env Unit} {endpoint : Bytes} {d : Directory} {event : Event} {request : Request}

variable (env endpoint) in
/-- The text is no address, or one that was made for a user with the key. -/
def IsAddressOf (k avatarUrl : Bytes) : Prop :=
  avatarUrl ≠ [] → ∃ userId, env.db.idKey userId = some k ∧
    ∃ extension ∈ avatarExtensions, avatarUrl = avatarAddress endpoint userId extension

variable (env endpoint) in
/-- Every avatar is at an address of its user. -/
def OwnAvatars (d : Directory) : Prop :=
  ∀ k c, (d k).card = some c → IsAddressOf env endpoint k c.avatarUrl

lemma ownAvatars_empty : OwnAvatars env endpoint Directory.empty := by
  intro k c hc
  cases hc

/-- What an event that sets no avatar leaves in a card was there before. -/
lemma Event.avatarUrl_change {p : Account} {c : Card} (hnot : ∀ user v, event ≠ .avatarSet user v)
    (hc : (event.change p).card = some c) :
    c.avatarUrl = [] ∨ ∃ c', p.card = some c' ∧ c'.avatarUrl = c.avatarUrl := by
  cases event with
  | created user =>
    rcases hp : p.card with _ | c'
    · simp only [Event.change, hp] at hc
      rw [← Option.some.inj hc]
      exact Or.inl rfl
    · simp only [Event.change, hp] at hc
      exact Or.inr ⟨c', rfl, congrArg Card.avatarUrl (Option.some.inj hc)⟩
  | patched user firstName lastName username bio =>
    obtain ⟨c', hp, rfl⟩ := Option.map_eq_some_iff.mp hc
    exact Or.inr ⟨c', hp, rfl⟩
  | avatarSet user v => exact absurd rfl (hnot user v)
  | contactAdded | contactRemoved | favoriteAdded | favoriteRemoved | privacySet
  | notificationsSet => exact Or.inr ⟨c, hc, rfl⟩

/-- An event that sets an avatar, if it does, to an address of its user. -/
lemma OwnAvatars.apply (h : OwnAvatars env endpoint d)
    (hevent : ∀ k v, event = .avatarSet k v → IsAddressOf env endpoint k v) :
    OwnAvatars env endpoint (d.apply event) := by
  intro k c hc
  by_cases hk : event.owner = k
  · rw [Directory.apply_of_owner d hk] at hc
    by_cases hset : ∃ user v, event = .avatarSet user v
    · obtain ⟨user, v, rfl⟩ := hset
      obtain ⟨c', -, rfl⟩ := Option.map_eq_some_iff.mp hc
      exact hevent k v (by rw [← hk]; rfl)
    · rcases Event.avatarUrl_change (fun user v he => hset ⟨user, v, he⟩) hc with
        hempty | ⟨c', hc', heq⟩
      · exact fun hne => absurd hempty hne
      · rw [← heq]
        exact h k c' hc'
  · rw [Directory.apply_of_ne d (Ne.symm hk)] at hc
    exact h k c hc

/-- What a request asks for sets no avatar but to an address of the user of the request. -/
lemma taskOf_avatarSet (hstorage : env.avatarStorage = MinIOStorage endpoint)
    (hendpoint : endpoint.NulFree) (huser : (extractUserID request).NulFree) {s : Unit} {n : ℕ}
    {k v : Bytes} (h : (taskOf env request s).1 = .make n (.avatarSet k v)) :
    IsAddressOf env endpoint k v := by
  rcases taskOf_cases env request with ⟨-, htask, -⟩ | ⟨htask, -⟩ | ⟨id, hm, ht, -, htask⟩
  · rw [htask] at h
    cases h
  · rw [htask] at h
    cases h
  rw [htask] at h
  rcases id.event_of_task h with ⟨hnot, hevent⟩ | ⟨data, contentType, url, hupload, hevent⟩
  · -- it is the deletion of the avatar
    have hid := HandlerId.mem_handlers (hevent (jsonResponse 200 request.version []))
    obtain rfl : id = .deleteAvatar := by
      rcases List.mem_pair.mp hid with rfl | rfl
      · exact absurd rfl hnot
      · rfl
    obtain ⟨user, -, hset⟩ := Option.bind_eq_some_iff.mp
      (hevent (jsonResponse 200 request.version []))
    obtain ⟨-, rfl⟩ := Event.avatarSet.inj (Option.some.inj hset)
    exact fun hne => absurd rfl hne
  · obtain ⟨avatarUrl, hstored, hset⟩ := Option.bind_eq_some_iff.mp hevent
    obtain ⟨user, hk, hset⟩ := Option.bind_eq_some_iff.mp hset
    obtain ⟨rfl, rfl⟩ := Event.avatarSet.inj (Option.some.inj hset)
    rw [hstorage] at hupload
    obtain ⟨extension, hextension, rfl⟩ := minIOStorage_upload hupload
    -- the column keeps the address as it is
    have hverbatim := (Database.stored_text_iff hstored).mpr
      (avatarAddress_nulFree hendpoint huser hextension)
    exact fun _ => ⟨extractUserID request, hk, extension, hextension, hverbatim⟩

variable (env endpoint) in
/-- The invariant of the runs. -/
structure Addressed (w : World Unit) : Prop where
  valid : w.store.Valid env.db.schema
  own : OwnAvatars env endpoint w.store.directory

/-- A request that is done or lost keeps the avatars at addresses of their users. -/
lemma Addressed.step {w : World Unit} (h : Addressed env endpoint w)
    (hstorage : env.avatarStorage = MinIOStorage endpoint) (hendpoint : endpoint.NulFree)
    (huser : (extractUserID request).NulFree) :
    Addressed env endpoint (serve env w request).2 := by
  obtain ⟨hv, h⟩ := h
  refine ⟨serve_valid env w request hv, ?_⟩
  have hcases := step_or_lost hv request
  rcases hcases with hdone | ⟨-, hlost⟩
  · have hnext : (serve env w request).2.store.directory =
        (taskOf env request w.storage).1.next w.store.directory :=
      (congrArg (fun x => x.2.1) hdone).symm
    rw [hnext]
    rcases htask : (taskOf env request w.storage).1 with _ | status | user | ⟨status, event⟩
    · exact h
    · exact h
    · exact h
    · by_cases hadmits : w.store.directory.Admits event
      · rw [Task.next, if_pos hadmits]
        refine h.apply fun k v he => taskOf_avatarSet hstorage hendpoint huser (he ▸ htask)
      · rw [Task.next, if_neg hadmits]
        exact h
  · have hkept : (serve env w request).2.store.directory = w.store.directory :=
      (congrArg (fun x => x.2.1) hlost).symm
    rw [hkept]
    exact h

end Owners

/-- On `MinIOStorage`, in every state of a run and whichever statements fail, an avatar is at an
address that was made for its user, and no two profiles have one at the same address. -/
theorem avatars_apart (env : Env Unit) (endpoint : Bytes)
    (hstorage : env.avatarStorage = MinIOStorage endpoint) (hendpoint : endpoint.NulFree)
    (requests : List Request) (husers : ∀ request ∈ requests, (extractUserID request).NulFree) :
    (∀ r ∈ (after env () requests).store.profiles,
      IsAddressOf env endpoint r.userId (r.avatarUrl.getD [])) ∧
    ∀ r ∈ (after env () requests).store.profiles, ∀ r' ∈ (after env () requests).store.profiles,
      r.avatarUrl.getD [] = r'.avatarUrl.getD [] → r.avatarUrl.getD [] ≠ [] → r = r' := by
  have hv := after_valid env () requests
  have hgood : ∀ before request, before ++ [request] <+: requests →
      (extractUserID request).NulFree := fun before request hpre =>
    husers request (hpre.subset (List.mem_append_right _ (List.mem_singleton_self request)))
  have hstart : Addressed env endpoint (World.start ()) :=
    ⟨Store.valid_empty _, ownAvatars_empty⟩
  have hinv : Addressed env endpoint (after env () requests) :=
    Mealy.invariant_of_steps (fun w request h huser => h.step hstorage hendpoint huser) hstart hgood
      requests List.prefix_rfl
  have hrow : ∀ r ∈ (after env () requests).store.profiles,
      IsAddressOf env endpoint r.userId (r.avatarUrl.getD []) := by
    intro r hr
    refine hinv.own r.userId r.card ?_
    rw [Store.directory, Store.account, Store.profile_of_mem hv.constraints hr]
    rfl
  refine ⟨hrow, fun r hr r' hr' hsame hne => ?_⟩
  obtain ⟨u, hk, extension, hextension, haddress⟩ := hrow r hr hne
  obtain ⟨u', hk', extension', hextension', haddress'⟩ := hrow r' hr' (hsame ▸ hne)
  have huser : u = u' :=
    avatarAddress_inj hextension hextension' (haddress.symm.trans (hsame.trans haddress'))
  rw [huser] at hk
  have hid : r.userId = r'.userId := Option.some.inj (hk.symm.trans hk')
  have hfound := Store.profile_of_mem hv.constraints hr
  rw [hid, Store.profile_of_mem hv.constraints hr'] at hfound
  exact (Option.some.inj hfound).symm

/-- Alice and bob get profiles and put an avatar each. -/
def twoAvatarsRun : List Request :=
  [str "alice", str "bob"].flatMap fun user =>
    [requestBy (str "gateway") .post (str "/internal/profiles")
      (str "\x7b\"user_id\":\"" ++ user ++ str "\"\x7d"), uploadBy user]

/-- Both have one, at addresses of their own. -/
theorem avatars_apart_two :
    (∀ r ∈ (after (Env.standalone .migrations) () twoAvatarsRun).store.profiles,
      ∀ r' ∈ (after (Env.standalone .migrations) () twoAvatarsRun).store.profiles,
        r.avatarUrl.getD [] = r'.avatarUrl.getD [] → r.avatarUrl.getD [] ≠ [] → r = r') ∧
    (after (Env.standalone .migrations) () twoAvatarsRun).store.profiles.map
        (fun r => r.avatarUrl.getD []) =
      [avatarAddress [] (str "alice") (str "jpg"), avatarAddress [] (str "bob") (str "jpg")] := by
  refine ⟨(avatars_apart (Env.standalone .migrations) [] rfl (by decide) twoAvatarsRun ?_).2, ?_⟩
  · decide +kernel
  · decide +kernel

end ProfileService
