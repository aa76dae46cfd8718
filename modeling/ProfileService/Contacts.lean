/-
# Contacts, favourites and privacy

For a user, the requests that succeeded are operations on a roster of contacts and on one of
favourites, and settings of the visibilities.  The rows of the tables are what the operations
make, in the order of their times as long as the clock of the database moves on, and so the
lists that a user gets are these rosters, newest first.
-/
import ProfileService.Lib.Roster
import ProfileService.Listings
import ProfileService.Reachable
import ProfileService.Standalone

namespace ProfileService

open Bytes (str)

variable {σ : Type}

/-- The clock of the database moves on from statement to statement. -/
def Env.Ticks (env : Env σ) : Prop := ∀ m n, m < n → env.txnTime m < env.txnTime n

lemma Env.Ticks.le {env : Env σ} (h : env.Ticks) {m n : ℕ} (hle : m ≤ n) :
    env.txnTime m ≤ env.txnTime n := by
  rcases Nat.lt_or_eq_of_le hle with hlt | rfl
  · exact (h m n hlt).le
  · exact le_rfl

/-! ## The events as operations -/

/-- What an event does to the contacts of the user with the id `k`. -/
def Event.onContacts (k : Bytes) : Event → Option (Roster.Op Bytes Bytes)
  | .contactAdded owner contact contactAlias =>
      if owner = k then some (.put contact contactAlias) else none
  | .contactRemoved owner contact => if owner = k then some (.drop contact) else none
  | _ => none

/-- What an event does to the favourites of the user with the id `k`. -/
def Event.onFavorites (k : Bytes) : Event → Option (Roster.Op Bytes Unit)
  | .favoriteAdded user chat => if user = k then some (.put chat ()) else none
  | .favoriteRemoved user chat => if user = k then some (.drop chat) else none
  | _ => none

/-- The settings that an event makes for the user with the id `k`. -/
def Event.onPrivacy (k : Bytes) : Event → Option Visibilities
  | .privacySet user profileVisibility lastSeenVisibility avatarVisibility =>
      if user = k then some ⟨profileVisibility, lastSeenVisibility, avatarVisibility⟩ else none
  | _ => none

/-- The operations of the events on the contacts of a user. -/
def contactOps (k : Bytes) (es : List Event) : List (Roster.Op Bytes Bytes) :=
  es.filterMap (Event.onContacts k)

/-- The operations of the events on the favourites of a user. -/
def favoriteOps (k : Bytes) (es : List Event) : List (Roster.Op Bytes Unit) :=
  es.filterMap (Event.onFavorites k)

/-! ## The rows -/

/-- The contacts of a user with their aliases, as they were inserted. -/
def Store.contactRoster (st : Store) (k : Bytes) : List (Bytes × Bytes) :=
  Table.view (ContactRow.hasOwner k) ContactRow.entry st.contacts

/-- A favourite on a roster has no value. -/
def FavoriteRow.entry (r : FavoriteRow) : Bytes × Unit := (r.chatId, ())

/-- The favourites of a user, as they were inserted. -/
def Store.favoriteRoster (st : Store) (k : Bytes) : List (Bytes × Unit) :=
  Table.view (FavoriteRow.hasUser k) FavoriteRow.entry st.favorites

/-- The rows of the contacts are what the events make of them, in the order of their times. -/
structure ContactsReplay (env : Env σ) (es : List Event) (st : Store) (n : ℕ) : Prop where
  roster : ∀ k, st.contactRoster k = Roster.replay (contactOps k es)
  times : Table.Chronological ContactRow.createdAt (env.txnTime n) st.contacts

/-- The rows of the favourites are what the events make of them, in the order of their times. -/
structure FavoritesReplay (env : Env σ) (es : List Event) (st : Store) (n : ℕ) : Prop where
  roster : ∀ k, st.favoriteRoster k = Roster.replay (favoriteOps k es)
  times : Table.Chronological FavoriteRow.createdAt (env.txnTime n) st.favorites

section Rows

variable {k c : Bytes}

lemma ContactRow.hasOwner_iff (r : ContactRow) : r.hasOwner k = true ↔ r.ownerId = k := beq_iff_eq

lemma ContactRow.hasKey_iff (r : ContactRow) :
    r.hasKey k c = true ↔ r.ownerId = k ∧ r.entry.1 = c := by
  rw [ContactRow.hasKey, Bool.and_eq_true, beq_iff_eq, beq_iff_eq]
  rfl

lemma FavoriteRow.hasUser_iff (r : FavoriteRow) : r.hasUser k = true ↔ r.userId = k := beq_iff_eq

lemma FavoriteRow.hasKey_iff (r : FavoriteRow) :
    r.hasKey k c = true ↔ r.userId = k ∧ r.entry.1 = c := by
  rw [FavoriteRow.hasKey, Bool.and_eq_true, beq_iff_eq, beq_iff_eq]
  rfl

end Rows

/-- A roster after one more event. -/
lemma replay_filterMap_concat {κ α : Type} [DecidableEq κ] (f : Event → Option (Roster.Op κ α))
    (es : List Event) (e : Event) :
    Roster.replay ((es ++ [e]).filterMap f) =
      (f e).elim (Roster.replay (es.filterMap f))
        (Roster.Op.apply (Roster.replay (es.filterMap f))) := by
  rw [List.filterMap_append]
  cases h : f e <;> simp [h]

lemma refines_contacts (env : Env σ) (hclock : env.Ticks) :
    Refines env (ContactsReplay env) where
  start := ⟨fun _ => rfl, Table.Chronological.nil _ _⟩
  mono := fun h hle => ⟨h.roster, h.times.mono (hclock.le hle)⟩
  step := by
    intro es st n event wr h hv hmakes _ _
    have hlt : env.txnTime n < env.txnTime (n + 1) := hclock n (n + 1) (Nat.lt_succ_self n)
    -- it remains to show what the write does to a roster
    suffices hroster : (∀ k, (wr.apply env.db.schema (env.txnTime n) (env.rowId n)
        st).contactRoster k = (event.onContacts k).elim (st.contactRoster k)
          (Roster.Op.apply (st.contactRoster k))) ∧
        Table.Chronological ContactRow.createdAt (env.txnTime (n + 1))
          (wr.apply env.db.schema (env.txnTime n) (env.rowId n) st).contacts by
      refine ⟨fun k => ?_, hroster.2⟩
      rw [hroster.1, h.roster]
      exact (replay_filterMap_concat _ _ _).symm
    cases event with
    | contactAdded owner contact contactAlias =>
      obtain rfl : wr = .addContact owner contact contactAlias := hmakes
      refine ⟨fun k => ?_, h.times.insertOrUpdate (fun _ => rfl) rfl hlt⟩
      refine (Roster.view_insertOrUpdate (v := contactAlias) ContactRow.hasOwner_iff
        ContactRow.hasKey_iff ?_ ?_ st.contacts).trans ?_
      · exact fun _ => ⟨rfl, rfl⟩
      · exact ⟨rfl, rfl⟩
      · rw [Event.onContacts]
        split <;> rfl
    | contactRemoved owner contact =>
      obtain rfl : wr = .removeContact owner contact := hmakes
      refine ⟨fun k => ?_, (h.times.delete _).mono hlt.le⟩
      refine (Roster.view_delete ContactRow.hasOwner_iff ContactRow.hasKey_iff
        st.contacts).trans ?_
      rw [Event.onContacts]
      split <;> rfl
    | patched user firstName lastName username bio =>
      obtain ⟨r, -, -, rfl⟩ := hmakes
      exact ⟨fun _ => rfl, h.times.mono hlt.le⟩
    | created | avatarSet | favoriteAdded | favoriteRemoved | privacySet | notificationsSet =>
      obtain rfl := hmakes
      exact ⟨fun _ => rfl, h.times.mono hlt.le⟩

lemma refines_favorites (env : Env σ) (hclock : env.Ticks) :
    Refines env (FavoritesReplay env) where
  start := ⟨fun _ => rfl, Table.Chronological.nil _ _⟩
  mono := fun h hle => ⟨h.roster, h.times.mono (hclock.le hle)⟩
  step := by
    intro es st n event wr h hv hmakes _ _
    have hlt : env.txnTime n < env.txnTime (n + 1) := hclock n (n + 1) (Nat.lt_succ_self n)
    suffices hroster : (∀ k, (wr.apply env.db.schema (env.txnTime n) (env.rowId n)
        st).favoriteRoster k = (event.onFavorites k).elim (st.favoriteRoster k)
          (Roster.Op.apply (st.favoriteRoster k))) ∧
        Table.Chronological FavoriteRow.createdAt (env.txnTime (n + 1))
          (wr.apply env.db.schema (env.txnTime n) (env.rowId n) st).favorites by
      refine ⟨fun k => ?_, hroster.2⟩
      rw [hroster.1, h.roster]
      exact (replay_filterMap_concat _ _ _).symm
    cases event with
    | favoriteAdded user chat =>
      obtain rfl : wr = .addFavorite user chat := hmakes
      -- a favourite that is there is left as it is, and so has the value it is put with
      rw [Write.apply, Table.insertOrIgnore_eq]
      refine ⟨fun k => ?_, h.times.insertOrUpdate (fun _ => rfl) rfl hlt⟩
      refine (Roster.view_insertOrUpdate (v := ()) FavoriteRow.hasUser_iff
        FavoriteRow.hasKey_iff ?_ ?_ st.favorites).trans ?_
      · exact fun _ => ⟨rfl, rfl⟩
      · exact ⟨rfl, rfl⟩
      · rw [Event.onFavorites]
        split <;> rfl
    | favoriteRemoved user chat =>
      obtain rfl : wr = .removeFavorite user chat := hmakes
      refine ⟨fun k => ?_, (h.times.delete _).mono hlt.le⟩
      refine (Roster.view_delete FavoriteRow.hasUser_iff FavoriteRow.hasKey_iff
        st.favorites).trans ?_
      rw [Event.onFavorites]
      split <;> rfl
    | patched user firstName lastName username bio =>
      obtain ⟨r, -, -, rfl⟩ := hmakes
      exact ⟨fun _ => rfl, h.times.mono hlt.le⟩
    | created | avatarSet | contactAdded | contactRemoved | privacySet | notificationsSet =>
      obtain rfl := hmakes
      exact ⟨fun _ => rfl, h.times.mono hlt.le⟩

/-- The row of a user has the settings that were made last. -/
lemma refines_privacy (env : Env σ) : Refines env fun es st _ =>
    ∀ k, (st.privacyOf k).map PrivacyRow.visibilities = Mealy.latest (Event.onPrivacy k) es where
  start := fun _ => rfl
  mono := fun h _ => h
  step := by
    intro es st n event wr h hv hmakes _ _ k
    rw [Mealy.latest_concat, ← h k]
    cases event with
    | privacySet user profileVisibility lastSeenVisibility avatarVisibility =>
      obtain rfl : wr = .updatePrivacy user profileVisibility lastSeenVisibility
        avatarVisibility := hmakes
      rw [Write.apply, Store.privacyOf, Event.onPrivacy]
      by_cases hk : user = k
      · subst hk
        rw [if_pos rfl, Table.find?_insertOrUpdate]
        · cases st.privacySettings.find? (PrivacyRow.hasUser user) <;> rfl
        · exact fun _ hr => hr
        · exact beq_self_eq_true user
      · rw [if_neg hk, Table.find?_insertOrUpdate_of_ne]
        · rfl
        · intro r hr
          have hne : PrivacyRow.hasUser k r = false := by
            rw [PrivacyRow.hasUser, beq_iff_eq.mp hr]
            exact beq_false_of_ne hk
          exact ⟨hne, hne⟩
        · exact beq_false_of_ne hk
    | patched user firstName lastName username bio =>
      obtain ⟨r, -, -, rfl⟩ := hmakes
      rfl
    | created | avatarSet | contactAdded | contactRemoved | favoriteAdded | favoriteRemoved
    | notificationsSet =>
      obtain rfl := hmakes
      rfl

/-! ## The result -/

section Result

variable {env : Env σ} {storage : σ} {requests : List Request}

/-- The contacts that the server returns are the roster backwards. -/
lemma contactsOf_eq (hclock : env.Ticks) (k : Bytes) :
    ((after env storage requests).store.contactsOf k).map ContactRow.entry =
      (Roster.replay (contactOps k (events env storage requests))).reverse := by
  have hreplay := (refines_contacts env hclock).holds env storage requests
  rw [Store.contactsOf, Table.orderByDesc_eq_reverse (hreplay.times.filter _).ordered,
    List.map_reverse, ← hreplay.roster k]
  rfl

/-- So are the favourites. -/
lemma favoritesOf_eq (hclock : env.Ticks) (k : Bytes) :
    ((after env storage requests).store.favoritesOf k).map FavoriteRow.entry =
      (Roster.replay (favoriteOps k (events env storage requests))).reverse := by
  have hreplay := (refines_favorites env hclock).holds env storage requests
  rw [Store.favoritesOf, Table.orderByDesc_eq_reverse (hreplay.times.filter _).ordered,
    List.map_reverse, ← hreplay.roster k]
  rfl

/-- A visibility that the body does not have is stored as `everyone`. -/
lemma storedVisibility_omitted (env : Env σ) {ms : List (Bytes × Json)} {key : String}
    (h : (Json.object ms).member? (str key) = none) :
    storedVisibility env (.object ms) key = some (str "everyone") := by
  have hvalue : value getString (Json.object ms) (str key) (str "everyone") =
      .ok (str "everyone") := by
    simp only [value, h]
  have hholds : env.db.schema.visibilityType.Holds (str "everyone") := by
    cases env.db.schema <;> decide
  rw [storedVisibility, hvalue]
  exact env.db.stored_of_holds hholds

end Result

/-- Whichever statements of the run have failed, on a database whose clock moves on the lists that a
user gets are what the successful requests of the user made of them, if the statement of the GET
itself does not fail: each contact or chat whose latest such request
is an addition, once and with its alias, the one that came in last first.  The visibilities
are those of the latest PUT, with `everyone` for what is not in its body. -/
theorem lists_refine (env : Env σ) (hclock : env.Ticks) (storage : σ) (requests : List Request)
    (hfault : env.fault (after env storage requests).statements = none) (k : Bytes) :
    (∃ contacts, Roster.Lists (contactOps k (events env storage requests)) contacts ∧
      ∀ request, request.method = .get → request.target = str "/contacts" → IsBy env k request →
        ∃ js, Shows env (after env storage requests) request (.array js) ∧
          List.Forall₂ (ShowsContact k) contacts js) ∧
    (∃ favorites, Roster.Lists (favoriteOps k (events env storage requests)) favorites ∧
      ∀ request, request.method = .get → request.target = str "/favorites" → IsBy env k request →
        ∃ js, Shows env (after env storage requests) request (.array js) ∧
          List.Forall₂ (ShowsFavorite k) (favorites.map Prod.fst) js) ∧
    (∀ request, request.method = .get → request.target = str "/me/privacy" → IsBy env k request →
      ∃ j, Shows env (after env storage requests) request j ∧
        ShowsVisibilities ((Mealy.latest (Event.onPrivacy k)
          (events env storage requests)).getD .everyone) j) ∧
    ∀ ms key, (Json.object ms).member? (str key) = none →
      storedVisibility env (.object ms) key = some (str "everyone") := by
  have hv := after_valid env storage requests
  refine ⟨⟨_, Roster.lists_replay _, fun request hm ht hby => ?_⟩,
    ⟨_, Roster.lists_replay _, fun request hm ht hby => ?_⟩, fun request hm ht hby => ?_,
    fun ms key h => storedVisibility_omitted env h⟩
  · rw [← contactsOf_eq hclock]
    exact getContacts_shows hfault hv hm ht hby
  · rw [← favoritesOf_eq hclock, List.map_map]
    exact getFavorites_shows hfault hv hm ht hby
  · rw [← (refines_privacy env).holds env storage requests k]
    exact getPrivacy_shows hfault hv hm ht hby

/-- A user adds two contacts and gives the first of them another alias. -/
def contactsRun : List Request :=
  [requestBy (str "gateway") .post (str "/internal/profiles")
      (str "\x7b\"user_id\":\"alice\"\x7d"),
    requestBy (str "gateway") .post (str "/internal/profiles")
      (str "\x7b\"user_id\":\"bob\"\x7d"),
    requestBy (str "alice") .post (str "/contacts")
      (str "\x7b\"contact_id\":\"alice\"\x7d"),
    requestBy (str "alice") .post (str "/contacts")
      (str "\x7b\"contact_id\":\"bob\"\x7d"),
    requestBy (str "alice") .post (str "/contacts")
      (str "\x7b\"contact_id\":\"alice\",\"alias\":\"me\"\x7d")]

/-- The contact that came in last is first, and the other one has its new alias. -/
theorem lists_refine_contacts :
    ∃ js, Shows (Env.standalone .migrations) (after (Env.standalone .migrations) () contactsRun)
        (requestBy (str "alice") .get (str "/contacts") []) (.array js) ∧
      List.Forall₂ (ShowsContact (str "alice"))
        [(str "bob", []), (str "alice", str "me")] js := by
  have hclock : (Env.standalone .migrations).Ticks := by
    intro m n hlt
    show (1000000 * m : ℤ) < 1000000 * n
    omega
  obtain ⟨contacts, hlists, hshows⟩ := (lists_refine (Env.standalone .migrations) hclock ()
    contactsRun rfl (str "alice")).1
  have hcontacts : (Roster.replay (contactOps (str "alice")
      (events (Env.standalone .migrations) () contactsRun))).reverse =
        [(str "bob", []), (str "alice", str "me")] := by decide
  rw [← hcontacts, ← hlists.unique (Roster.lists_replay _)]
  exact hshows _ rfl rfl (by decide)

end ProfileService
