/-
# What a client reads is the directory

On a database that is up, the answer to every GET of a user shows what the machine over the
directory keeps for the user after the same requests.
-/
import ProfileService.Contacts
import ProfileService.Profiles
import ProfileService.Refinement

namespace ProfileService

open Bytes (str)

variable {σ : Type}

/-- The texts of a card: a missing username is an empty one. -/
def Card.fields (c : Card) : Fields :=
  ⟨c.firstName, c.lastName, c.username.getD [], c.bio, c.avatarUrl⟩

/-- The rows are what a map keeps, each under its key once. -/
structure Lists {κ α : Type} (rows : List (κ × α)) (kept : κ → Option α) : Prop where
  nodup : (rows.map Prod.fst).Nodup
  mem : ∀ x a, (x, a) ∈ rows ↔ kept x = some a

/-- The answers to the GETs of the user with the id `k` show the account. -/
structure ShowsAccount (env : Env σ) (w : World σ) (k : Bytes) (account : Account) : Prop where
  profile : ∀ u request, env.db.idKey u = some k → ReadsProfile u request → ∀ card,
    account.card = some card → ∃ j, Shows env w request j ∧ ShowsFields j k card.fields
  noProfile : ∀ u request, env.db.idKey u = some k → ReadsProfile u request →
    account.card = none → AnswersWith env w request 404
  contacts : ∀ request, request.method = .get → request.target = str "/contacts" →
    IsBy env k request → ∃ js entries, Shows env w request (.array js) ∧
      List.Forall₂ (ShowsContact k) entries js ∧ Lists entries account.contacts
  favorites : ∀ request, request.method = .get → request.target = str "/favorites" →
    IsBy env k request → ∃ js chats, Shows env w request (.array js) ∧
      List.Forall₂ (ShowsFavorite k) chats js ∧ chats.Nodup ∧
        ∀ chat, chat ∈ chats ↔ account.favorites chat
  privacy : ∀ request, request.method = .get → request.target = str "/me/privacy" →
    IsBy env k request → ∃ j, Shows env w request j ∧
      ShowsVisibilities (account.privacy.getD .everyone) j
  notifications : ∀ request chatId c, request.method = .get →
    request.target = str "/notifications/" ++ chatId → IsBy env k request →
    env.db.idKey chatId = some c → ∃ j, Shows env w request j ∧
      j.member? (str "muted") = some (.bool (((account.notifications c).map Prod.fst).getD false))

section Rows

variable {st : Store} {k : Bytes}

/-- The row of a contact is the one with the two ids. -/
lemma Store.account_contacts_iff (hc : st.Constraints) {c a : Bytes} :
    (st.account k).contacts c = some a ↔
      ∃ r ∈ st.contacts, r.ownerId = k ∧ r.contactId = c ∧ r.shownAlias = a := by
  have hunique : ∀ r ∈ st.contacts, ∀ r' ∈ st.contacts,
      some (r.ownerId, r.contactId) = some (k, c) → some (r'.ownerId, r'.contactId) = some (k, c) →
        r = r' := fun r hr r' hr' h h' =>
    List.inj_on_of_nodup_map hc.contacts_pkey hr hr' (Option.some.inj (h.trans h'.symm))
  simp only [account, Option.map_eq_some_iff]
  constructor
  · rintro ⟨r, hr, halias⟩
    obtain ⟨hmem, hkey⟩ := (Table.find?_eq_some_iff_key ContactRow.selects (k := (k, c))
      hunique).mp hr
    obtain ⟨howner, hcontact⟩ := Prod.mk.inj (Option.some.inj hkey)
    exact ⟨r, hmem, howner, hcontact, halias⟩
  · rintro ⟨r, hmem, howner, hcontact, halias⟩
    refine ⟨r, ?_, halias⟩
    exact (Table.find?_eq_some_iff_key ContactRow.selects (k := (k, c)) hunique).mpr
      ⟨hmem, by rw [howner, hcontact]⟩

/-- The contacts that are shown are those of the account. -/
lemma lists_contactsOf (hc : st.Constraints) (k : Bytes) :
    Lists ((st.contactsOf k).map ContactRow.entry) (st.account k).contacts := by
  have hperm : (st.contactsOf k).Perm (st.contacts.filter (ContactRow.hasOwner k)) :=
    List.perm_insertionSort _ _
  have howner : ∀ r, r ∈ st.contacts.filter (ContactRow.hasOwner k) ↔
      r ∈ st.contacts ∧ r.ownerId = k := fun r => by
    rw [List.mem_filter, ContactRow.hasOwner_iff]
  constructor
  · rw [List.map_map]
    refine ((hperm.map _).nodup_iff).mpr ?_
    -- the rows of one owner differ in the contact
    refine (List.nodup_map_iff_inj_on ((List.Nodup.of_map _ hc.contacts_pkey).filter _)).mpr
      fun r hr r' hr' hcontact => ?_
    obtain ⟨hmem, hr⟩ := (howner r).mp hr
    obtain ⟨hmem', hr'⟩ := (howner r').mp hr'
    exact List.inj_on_of_nodup_map hc.contacts_pkey hmem hmem'
      (Prod.ext (hr.trans hr'.symm) hcontact)
  · intro c a
    rw [Store.account_contacts_iff hc, List.mem_map]
    constructor
    · rintro ⟨r, hr, hentry⟩
      obtain ⟨hmem, hid⟩ := (howner r).mp (hperm.mem_iff.mp hr)
      obtain ⟨hcontact, halias⟩ := Prod.mk.inj hentry
      exact ⟨r, hmem, hid, hcontact, halias⟩
    · rintro ⟨r, hmem, hid, hcontact, halias⟩
      exact ⟨r, hperm.mem_iff.mpr ((howner r).mpr ⟨hmem, hid⟩), Prod.ext hcontact halias⟩

/-- The favourites that are shown are those of the account. -/
lemma lists_favoritesOf (hc : st.Constraints) (k : Bytes) :
    ((st.favoritesOf k).map FavoriteRow.chatId).Nodup ∧
      ∀ chat, chat ∈ (st.favoritesOf k).map FavoriteRow.chatId ↔
        (st.account k).favorites chat := by
  have hperm : (st.favoritesOf k).Perm (st.favorites.filter (FavoriteRow.hasUser k)) :=
    List.perm_insertionSort _ _
  have huser : ∀ r, r ∈ st.favorites.filter (FavoriteRow.hasUser k) ↔
      r ∈ st.favorites ∧ r.userId = k := fun r => by
    rw [List.mem_filter, FavoriteRow.hasUser_iff]
  constructor
  · refine ((hperm.map _).nodup_iff).mpr ?_
    refine (List.nodup_map_iff_inj_on ((List.Nodup.of_map _ hc.favorites_pkey).filter _)).mpr
      fun r hr r' hr' hchat => ?_
    obtain ⟨hmem, hr⟩ := (huser r).mp hr
    obtain ⟨hmem', hr'⟩ := (huser r').mp hr'
    exact List.inj_on_of_nodup_map hc.favorites_pkey hmem hmem'
      (Prod.ext (hr.trans hr'.symm) hchat)
  · intro chat
    rw [List.mem_map, Store.account, List.find?_isSome]
    constructor
    · rintro ⟨r, hr, rfl⟩
      obtain ⟨hmem, rfl⟩ := (huser r).mp (hperm.mem_iff.mp hr)
      exact ⟨r, hmem, (FavoriteRow.hasKey_iff r).mpr ⟨rfl, rfl⟩⟩
    · rintro ⟨r, hmem, hkey⟩
      obtain ⟨hid, hchat⟩ := (FavoriteRow.hasKey_iff r).mp hkey
      exact ⟨r, hperm.mem_iff.mpr ((huser r).mpr ⟨hmem, hid⟩), hchat⟩

end Rows

/-- The account that the tables keep is shown. -/
lemma showsAccount {env : Env σ} (havail : env.Available) {w : World σ}
    (hv : w.store.Valid env.db.schema) (k : Bytes) :
    ShowsAccount env w k (w.store.directory k) where
  profile := by
    intro u request hk hread card hcard
    obtain ⟨r, hr, rfl⟩ := Option.map_eq_some_iff.mp hcard
    obtain ⟨-, rfl⟩ := Store.profile_mem hr
    exact ⟨_, getProfile_shows (havail _) hv hread hk hr, profileJson_showsFields env w r⟩
  noProfile := by
    intro u request hk hread hcard
    refine getProfile_fails hread fun k' hk' => ?_
    obtain rfl := Option.some.inj (hk.symm.trans hk')
    exact Option.map_eq_none_iff.mp hcard
  contacts := by
    intro request hm ht hby
    obtain ⟨js, hshows, hentries⟩ := getContacts_shows (havail _) hv hm ht hby
    exact ⟨js, _, hshows, hentries, lists_contactsOf hv.constraints k⟩
  favorites := by
    intro request hm ht hby
    obtain ⟨js, hshows, hchats⟩ := getFavorites_shows (havail _) hv hm ht hby
    exact ⟨js, _, hshows, hchats, lists_favoritesOf hv.constraints k⟩
  privacy := fun request hm ht hby => getPrivacy_shows (havail _) hv hm ht hby
  notifications := by
    intro request chatId c hm ht hby hc
    have hstart : str "/notifications/" <+: request.target := ⟨chatId, ht.symm⟩
    have hdrop : request.target.drop 15 = chatId := by
      rw [ht]
      rfl
    rw [← hdrop] at hc
    refine ⟨_, getChatNotifications_shows (havail _) hv hm hstart hby.1 hby.2 hc, ?_⟩
    rw [chatJson_muted, readSettings_muted]
    have hmuted : NotificationRow.muted = Prod.fst ∘ NotificationRow.settings := rfl
    rw [hmuted, ← Option.map_map]
    rfl

/-- After every run on a database that is up, the GETs of every user show the account that the
machine over the directory keeps for the user after the same requests. -/
theorem reads_show_directory (env : Env σ) (havail : env.Available) (storage : σ)
    (requests : List Request) (hids : env.DistinctIds (after env storage requests).statements)
    (k : Bytes) :
    ShowsAccount env (after env storage requests) k
      ((Mealy.run (Registry.step env) (Registry.start storage) requests).1 k) := by
  rw [run_registry havail hids]
  exact showsAccount havail (after_valid env storage requests) k

/-- The standalone deployment shows alice and bob accounts in which there are the contact and the
settings that were let through. -/
theorem reads_show_directory_town :
    ∃ alice bob : Account,
      ShowsAccount (Env.standalone .migrations) (after (Env.standalone .migrations) () townRun)
        (str "alice") alice ∧
      alice.contacts (str "bob") = some (str "neighbour") ∧ alice.contacts (str "carol") = none ∧
      ShowsAccount (Env.standalone .migrations) (after (Env.standalone .migrations) () townRun)
        (str "bob") bob ∧
      bob.privacy = some ⟨str "nobody", str "everyone", str "everyone"⟩ ∧
      bob.notifications (str "7") = some (true, none) := by
  have hshows := reads_show_directory (Env.standalone .migrations) (fun _ => rfl) () townRun
    townRun_distinctIds
  rw [run_registry (fun _ => rfl) townRun_distinctIds] at hshows
  refine ⟨_, _, hshows (str "alice"), ?_, ?_, hshows (str "bob"), ?_, ?_⟩ <;> decide +kernel

end ProfileService
