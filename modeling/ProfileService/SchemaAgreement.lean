/-
# The two schemas

The same run on a database created by `docker/init.sql` and on one created by
`migrations/001_init.sql`.  The tables of the first are those of the second without the time
stamps that only the second has; a statement does the same on both as long as both schemas make
the same of its parameters, and its rows are read as the same values, although the columns have
other types.
-/
import ProfileService.Notifications
import ProfileService.Parallel
import ProfileService.Patch

namespace ProfileService

open Bytes (str)
open Prog (Couples)

variable {σ : Type}

/-- The server with one of the schemas. -/
def Database.withSchema (db : Database) (schema : Schema) : Database :=
  { db with schema := schema }

/-- The same environment on one of the schemas. -/
def Env.withSchema (env : Env σ) (schema : Schema) : Env σ :=
  { env with db := env.db.withSchema schema }

@[simp] lemma Database.withSchema_schema (db : Database) (schema : Schema) :
    (db.withSchema schema).schema = schema := rfl

/-! ## The tables -/

/-- The row without the columns that only one schema has. -/
def PrivacyRow.unstamped (r : PrivacyRow) : PrivacyRow :=
  { r with createdAt := none, updatedAt := none }

/-- The row without the columns that only one schema has. -/
def NotificationRow.unstamped (r : NotificationRow) : NotificationRow :=
  { r with createdAt := none, updatedAt := none }

/-- The tables without the columns that only one schema has. -/
def Store.unstamped (st : Store) : Store :=
  { st with
    privacySettings := st.privacySettings.map PrivacyRow.unstamped,
    notificationSettings := st.notificationSettings.map NotificationRow.unstamped }

/-- No constraint looks at the time stamps. -/
lemma Store.constraints_unstamped (st : Store) : st.unstamped.Constraints ↔ st.Constraints := by
  have hprivacy : (st.privacySettings.map PrivacyRow.unstamped).map PrivacyRow.userId =
      st.privacySettings.map PrivacyRow.userId := List.map_map
  have hids : (st.notificationSettings.map NotificationRow.unstamped).map NotificationRow.id =
      st.notificationSettings.map NotificationRow.id := List.map_map
  have hkeys : (st.notificationSettings.map NotificationRow.unstamped).filterMap
      NotificationRow.key = st.notificationSettings.filterMap NotificationRow.key :=
    List.filterMap_map
  have hprivacyUsers : (∀ r ∈ st.unstamped.privacySettings,
      r.userId ∈ st.profiles.map ProfileRow.userId) ↔
        ∀ r ∈ st.privacySettings, r.userId ∈ st.profiles.map ProfileRow.userId :=
    List.forall_mem_map
  have husers : (∀ r ∈ st.unstamped.notificationSettings,
      r.userId ∈ st.profiles.map ProfileRow.userId) ↔
        ∀ r ∈ st.notificationSettings, r.userId ∈ st.profiles.map ProfileRow.userId :=
    List.forall_mem_map
  constructor
  · intro h
    exact
      { h with
        privacy_pkey := hprivacy ▸ h.privacy_pkey
        privacy_user_id_fkey := hprivacyUsers.mp h.privacy_user_id_fkey
        notification_pkey := hids ▸ h.notification_pkey
        notification_user_id_chat_id_key := hkeys ▸ h.notification_user_id_chat_id_key
        notification_user_id_fkey := husers.mp h.notification_user_id_fkey }
  · intro h
    exact
      { h with
        privacy_pkey := hprivacy.symm ▸ h.privacy_pkey
        privacy_user_id_fkey := hprivacyUsers.mpr h.privacy_user_id_fkey
        notification_pkey := hids.symm ▸ h.notification_pkey
        notification_user_id_chat_id_key := hkeys.symm ▸ h.notification_user_id_chat_id_key
        notification_user_id_fkey := husers.mpr h.notification_user_id_fkey }

/-- A write makes the same of both tables. -/
lemma Write.apply_unstamped (now : ℤ) (rowId : Uuid) (wr : Write) (st : Store) :
    wr.apply .docker now rowId st.unstamped = (wr.apply .migrations now rowId st).unstamped := by
  cases wr with
  | updatePrivacy user profileVisibility lastSeenVisibility avatarVisibility =>
    simp only [Write.apply, Store.unstamped, Store.mk.injEq, true_and, and_true]
    symm
    refine Table.map_insertOrUpdate ?_ ?_ _
    · exact fun _ => rfl
    · exact fun _ => rfl
  | upsertNotifications user chat muted mutedUntil =>
    simp only [Write.apply, Store.unstamped, Store.mk.injEq, true_and]
    symm
    refine Table.map_insertOrUpdate ?_ ?_ _
    · exact fun _ => rfl
    · exact fun _ => rfl
  | createProfile | updateProfile | updateAvatarURL | addContact | removeContact | addFavorite
  | removeFavorite => rfl

/-! ## The rows of a result -/

lemma SameField.textField (T T' : ColumnType) (v : Option Bytes) :
    SameField (textField T v) (textField T' v) := by
  refine ⟨rfl, ?_⟩
  cases v with
  | none => rfl
  | some s =>
    have hstring : ∀ T : ColumnType,
        (ProfileService.textField T (some s)).getValue = .string s := by
      intro T
      cases T <;> simp [ProfileService.textField, Field.getValue, typeName]
    rw [hstring, hstring]

lemma SameField.timeField (db : Database) (schema schema' : Schema) (t : Option ℤ) :
    SameField ((db.withSchema schema).timeField t) ((db.withSchema schema').timeField t) :=
  ⟨rfl, rfl⟩

lemma forall₂_sameRow {ρ : Type} {f g : ρ → Row} (h : ∀ r, SameRow (f r) (g r)) (l : List ρ) :
    List.Forall₂ SameRow (l.map f) (l.map g) := by
  simp only [List.forall₂_map_left_iff, List.forall₂_map_right_iff]
  exact List.forall₂_same.mpr fun r _ => h r

section Rows

variable (db : Database) (schema schema' : Schema)

lemma ProfileRow.result_same (r : ProfileRow) :
    SameRow (r.result (db.withSchema schema)) (r.result (db.withSchema schema')) := by
  simp [SameRow, ProfileRow.result, SameField.textField, SameField.timeField]

lemma ContactRow.result_same (r : ContactRow) :
    SameRow (r.result (db.withSchema schema)) (r.result (db.withSchema schema')) := by
  simp [SameRow, ContactRow.result, SameField.textField, SameField.timeField]

lemma FavoriteRow.result_same (r : FavoriteRow) :
    SameRow (r.result (db.withSchema schema)) (r.result (db.withSchema schema')) := by
  simp [SameRow, FavoriteRow.result, SameField.textField, SameField.timeField]

lemma PrivacyRow.result_same (r : PrivacyRow) :
    SameRow (r.unstamped.result (db.withSchema schema)) (r.result (db.withSchema schema')) := by
  simp [SameRow, PrivacyRow.result, PrivacyRow.unstamped, SameField.textField]

lemma NotificationRow.result_same (r : NotificationRow) :
    SameRow (r.unstamped.result (db.withSchema schema)) (r.result (db.withSchema schema')) := by
  simp [SameRow, NotificationRow.result, NotificationRow.unstamped, SameField.textField,
    SameField.timeField, SameField.refl]

end Rows

/-! ## Statements -/

/-- Both schemas make the same of the parameters of the statement. -/
structure Query.SameFor (db : Database) (query : Query) (params : List Bytes) : Prop where
  write : query.write (db.withSchema .docker) params =
    query.write (db.withSchema .migrations) params
  select : ∀ st : Store, Option.Rel (List.Forall₂ SameRow)
    (query.select (db.withSchema .docker) st.unstamped params)
    (query.select (db.withSchema .migrations) st params)

/-- The statement is refused in both, or it does the same. -/
lemma Query.SameFor.exec {db : Database} {query : Query} {params : List Bytes}
    (h : query.SameFor db params) (now : ℤ) (rowId : Uuid) (st : Store) :
    Option.Rel (fun x y => x.1 = y.1.unstamped ∧ List.Forall₂ SameRow x.2 y.2)
      (query.exec (db.withSchema .docker) now rowId params st.unstamped)
      (query.exec (db.withSchema .migrations) now rowId params st) := by
  -- a statement whose parameters make no write is a `SELECT`, or is refused
  rcases hwr : query.write (db.withSchema .migrations) params with _ | wr
  · rw [Query.exec_select (h.write.trans hwr), Query.exec_select hwr]
    have hrows := h.select st
    generalize query.select (db.withSchema .docker) st.unstamped params = x,
      query.select (db.withSchema .migrations) st params = y at hrows ⊢
    cases hrows with
    | none => exact .none
    | some hrows => exact .some ⟨rfl, hrows⟩
  · rw [Query.exec_write (h.write.trans hwr), Query.exec_write hwr]
    rw [Database.withSchema_schema, Database.withSchema_schema, Write.apply_unstamped]
    by_cases hc : (wr.apply .migrations now rowId st).Constraints
    · rw [if_pos hc, if_pos ((Store.constraints_unstamped _).mpr hc)]
      refine .some ⟨rfl, ?_⟩
      -- only the creation of a profile returns rows
      cases wr with
      | createProfile user =>
        exact forall₂_sameRow (ProfileRow.result_same db _ _) _
      | _ => exact List.Forall₂.nil
    · rw [if_neg hc, if_neg (mt (Store.constraints_unstamped _).mp hc)]
      exact .none

/-! ## Parameters -/

/-- A UUID in lower case with hyphens. -/
def IsCanonical (s : Bytes) : Prop := Uuid.canonical s = some s

instance (s : Bytes) : Decidable (IsCanonical s) :=
  inferInstanceAs (Decidable (Uuid.canonical s = some s))

/-- Both schemas store the same for the text. -/
def Database.Alike (db : Database) (T : Schema → ColumnType) (s : Bytes) : Prop :=
  (db.withSchema .docker).stored (T .docker) s =
    (db.withSchema .migrations).stored (T .migrations) s

section Parameters

variable {db : Database} {s : Bytes}

lemma IsCanonical.holds (h : IsCanonical s) (schema : Schema) : schema.idType.Holds s := by
  refine ColumnType.holds_uuid ⟨s, h⟩ ?_
  cases schema
  · exact Or.inl rfl
  · exact Or.inr ⟨255, by decide, rfl⟩

lemma IsCanonical.stored (h : IsCanonical s) (db : Database) (schema : Schema) :
    (db.withSchema schema).stored schema.idType s = some s :=
  Database.stored_of_holds _ (h.holds schema)

lemma IsCanonical.compared (h : IsCanonical s) (db : Database) (schema : Schema) :
    (db.withSchema schema).compared schema.idType s = some s :=
  Database.compared_of_holds _ (h.holds schema)

/-- The text arrives with at most so many characters, or with too many for both schemas. -/
def Postgres.Fits (db : Postgres) (limit : ℕ) (s : Bytes) : Prop :=
  ∀ t, db.receive s = some t →
    t.charLength ≤ limit ∨ (ColumnType.varchar 255).input t = none

lemma alike_varchar {limit : ℕ} (hlimit : limit ≤ 255) (h : db.Fits limit s) :
    db.stored (.varchar limit) s = db.stored (.varchar 255) s := by
  refine Option.bind_congr fun t ht => ?_
  rcases h t ht with hle | hlong
  · rw [ColumnType.input_varchar hle, ColumnType.input_varchar (hle.trans hlimit)]
  · rw [hlong, ColumnType.input_varchar_eq_none hlimit hlong]

lemma alike_name (h : db.Fits 100 s) : db.Alike Schema.nameType s :=
  alike_varchar (by decide) h

lemma alike_username (h : db.Fits 64 s) : db.Alike Schema.usernameType s :=
  alike_varchar (by decide) h

/-- A value that was read back fits. -/
lemma fits_of_holds {limit : ℕ} (h : (ColumnType.varchar limit).Holds s) : db.Fits limit s := by
  intro t ht
  rw [db.receive_verbatim h.utf8 h.nulFree] at ht
  rw [← Option.some.inj ht]
  exact Or.inl h.charLength_le

/-- Every visibility is short enough for the column that is not an enumeration. -/
lemma alike_visibility (h : s ∈ visibilityLabels) : db.Alike Schema.visibilityType s := by
  have hlabels : ∀ s ∈ visibilityLabels, (Schema.visibilityType .docker).Holds s ∧
      (Schema.visibilityType .migrations).Holds s := by decide
  obtain ⟨hdocker, hmigrations⟩ := hlabels s h
  exact (Database.stored_of_holds _ hdocker).trans (Database.stored_of_holds _ hmigrations).symm

end Parameters

section SameFor

variable {db : Database} {u c : Bytes}

lemma sameFor_createProfile (hu : IsCanonical u) : Query.SameFor db .createProfile [u] := by
  refine ⟨?_, fun _ => .none⟩
  unfold Query.write
  simp only [Database.withSchema_schema, hu.stored db]

lemma sameFor_updateProfile (hu : IsCanonical u) {firstName lastName username bio : Bytes}
    (hfirst : db.Alike Schema.nameType firstName) (hlast : db.Alike Schema.nameType lastName)
    (husername : db.Alike Schema.usernameType username) :
    Query.SameFor db .updateProfile [firstName, lastName, username, bio, u] := by
  refine ⟨?_, fun _ => .none⟩
  rw [Database.Alike] at hfirst hlast husername
  unfold Query.write
  simp only [Database.withSchema_schema, hu.compared db, hfirst, hlast, husername]
  rfl

lemma sameFor_updateAvatarURL (hu : IsCanonical u) (url : Bytes) :
    Query.SameFor db .updateAvatarURL [url, u] := by
  refine ⟨?_, fun _ => .none⟩
  unfold Query.write
  simp only [Database.withSchema_schema, hu.compared db]
  rfl

lemma sameFor_addContact (hu : IsCanonical u) (hc : IsCanonical c) {contactAlias : Bytes}
    (halias : db.Alike Schema.nameType contactAlias) :
    Query.SameFor db .addContact [u, c, contactAlias] := by
  refine ⟨?_, fun _ => .none⟩
  rw [Database.Alike] at halias
  unfold Query.write
  simp only [Database.withSchema_schema, hu.stored db, hc.stored db, halias]

lemma sameFor_removeContact (hu : IsCanonical u) (hc : IsCanonical c) :
    Query.SameFor db .removeContact [u, c] := by
  refine ⟨?_, fun _ => .none⟩
  unfold Query.write
  simp only [Database.withSchema_schema, hu.compared db, hc.compared db]

lemma sameFor_addFavorite (hu : IsCanonical u) (hc : IsCanonical c) :
    Query.SameFor db .addFavorite [u, c] := by
  refine ⟨?_, fun _ => .none⟩
  unfold Query.write
  simp only [Database.withSchema_schema, hu.stored db, hc.stored db]

lemma sameFor_removeFavorite (hu : IsCanonical u) (hc : IsCanonical c) :
    Query.SameFor db .removeFavorite [u, c] := by
  refine ⟨?_, fun _ => .none⟩
  unfold Query.write
  simp only [Database.withSchema_schema, hu.compared db, hc.compared db]

lemma sameFor_updatePrivacy (hu : IsCanonical u) {profile lastSeen avatar : Bytes}
    (hprofile : profile ∈ visibilityLabels) (hlastSeen : lastSeen ∈ visibilityLabels)
    (havatar : avatar ∈ visibilityLabels) :
    Query.SameFor db .updatePrivacy [u, profile, lastSeen, avatar] := by
  have hp : db.Alike Schema.visibilityType profile := alike_visibility hprofile
  have hl : db.Alike Schema.visibilityType lastSeen := alike_visibility hlastSeen
  have ha : db.Alike Schema.visibilityType avatar := alike_visibility havatar
  rw [Database.Alike] at hp hl ha
  refine ⟨?_, fun _ => .none⟩
  unfold Query.write
  simp only [Database.withSchema_schema, hu.stored db, hp, hl, ha]

lemma sameFor_upsertUntil (hu : IsCanonical u) (hc : IsCanonical c) (muted mutedUntil : Bytes) :
    Query.SameFor db .upsertNotificationsUntil [u, c, muted, mutedUntil] := by
  refine ⟨?_, fun _ => .none⟩
  unfold Query.write
  simp only [Database.withSchema_schema, hu.stored db, hc.stored db]
  rfl

lemma sameFor_upsert (hu : IsCanonical u) (hc : IsCanonical c) (muted : Bytes) :
    Query.SameFor db .upsertNotifications [u, c, muted] := by
  refine ⟨?_, fun _ => .none⟩
  unfold Query.write
  simp only [Database.withSchema_schema, hu.stored db, hc.stored db]
  rfl

lemma sameFor_getProfileByID (hu : IsCanonical u) : Query.SameFor db .getProfileByID [u] := by
  refine ⟨rfl, fun st => ?_⟩
  unfold Query.select
  simp only [Database.withSchema_schema, hu.compared db]
  exact .some (forall₂_sameRow (ProfileRow.result_same db _ _) _)

lemma sameFor_listContacts (hu : IsCanonical u) : Query.SameFor db .listContacts [u] := by
  refine ⟨rfl, fun st => ?_⟩
  unfold Query.select
  simp only [Database.withSchema_schema, hu.compared db]
  exact .some (forall₂_sameRow (ContactRow.result_same db _ _) _)

lemma sameFor_listFavorites (hu : IsCanonical u) : Query.SameFor db .listFavorites [u] := by
  refine ⟨rfl, fun st => ?_⟩
  unfold Query.select
  simp only [Database.withSchema_schema, hu.compared db]
  exact .some (forall₂_sameRow (FavoriteRow.result_same db _ _) _)

lemma sameFor_getPrivacy (hu : IsCanonical u) : Query.SameFor db .getPrivacy [u] := by
  refine ⟨rfl, fun st => ?_⟩
  unfold Query.select
  simp only [Database.withSchema_schema, hu.compared db, Store.unstamped,
    List.filter_map, List.map_map]
  exact .some (forall₂_sameRow (PrivacyRow.result_same db _ _) _)

lemma sameFor_getGlobal (hu : IsCanonical u) :
    Query.SameFor db .getGlobalNotifications [u] := by
  refine ⟨rfl, fun st => ?_⟩
  unfold Query.select
  simp only [Database.withSchema_schema, hu.compared db, Store.unstamped,
    List.filter_map, List.map_map]
  exact .some (forall₂_sameRow (NotificationRow.result_same db _ _) _)

lemma sameFor_getChat (hu : IsCanonical u) (hc : IsCanonical c) :
    Query.SameFor db .getChatNotifications [u, c] := by
  refine ⟨rfl, fun st => ?_⟩
  unfold Query.select
  simp only [Database.withSchema_schema, hu.compared db, hc.compared db,
    Store.unstamped, List.filter_map, List.map_map]
  exact .some (forall₂_sameRow (NotificationRow.result_same db _ _) _)

end SameFor

/-! ## The worlds of the two runs -/

/-- The worlds differ in the columns that only one schema has. -/
structure SameWorld (w w' : World σ) : Prop where
  eq : w = { w' with store := w'.store.unstamped }
  valid : w.store.Valid .docker

/-- The two runs, one for each schema. -/
lemma sameWorld_parallel (env : Env σ) :
    Parallel (env.withSchema .docker) (env.withSchema .migrations) SameWorld where
  json := rfl
  clock := rfl
  mktime := rfl
  readings h := by rw [h.eq]
  reads h := ⟨by rw [h.eq]; rfl, h.valid⟩
  enters _ h := ⟨by rw [h.eq]; rfl, h.valid⟩

section Runs

variable {env : Env σ}

lemma sameWorld_selects {query : Query} {params : List DbValue}
    (h : query.SameFor env.db (params.map convertValueToPQXX)) :
    Parallel.Selects (env.withSchema .docker) (env.withSchema .migrations) SameWorld query
      params := by
  rintro _ w ⟨rfl, hv⟩
  have hexec := h.exec (env.txnTime w.statements) (env.rowId w.statements) w.store
  have hvalid : ∀ st rows, query.exec (env.db.withSchema .docker) (env.txnTime w.statements)
      (env.rowId w.statements) (params.map convertValueToPQXX) w.store.unstamped =
        some (st, rows) → st.Valid .docker := fun st rows heq => Query.exec_valid heq hv
  simp only [Prog.run, executeSelect, executeParams, Env.withSchema]
  rcases env.fault w.statements with _ | err
  · generalize query.exec (env.db.withSchema .docker) (env.txnTime w.statements)
        (env.rowId w.statements) (params.map convertValueToPQXX) w.store.unstamped = x,
      query.exec (env.db.withSchema .migrations) (env.txnTime w.statements)
        (env.rowId w.statements) (params.map convertValueToPQXX) w.store = y at hexec hvalid ⊢
    cases hexec with
    | none => exact ⟨.error _, rfl, hv⟩
    | @some a b hab =>
      obtain ⟨hstore, hrows⟩ := hab
      refine ⟨.ok hrows, ?_, hvalid _ _ rfl⟩
      simp only [hstore]
  · exact ⟨.error err, rfl, hv⟩

lemma sameWorld_modify {query : Query} {params : List DbValue}
    (h : query.SameFor env.db (params.map convertValueToPQXX)) :
    Couples (env.withSchema .docker) (env.withSchema .migrations) SameWorld Eq
      (executeModify query params : Svc σ Unit) (executeModify query params) :=
  (sameWorld_selects h).bind fun _ _ _ => Couples.pure rfl

end Runs

/-! ## Requests -/

/-- The members of a request body that are ids. -/
def HandlerId.bodyIds : HandlerId → List String
  | .createProfile => ["user_id"]
  | .addContact => ["contact_id"]
  | _ => []

/-- The members of a request body that are visibilities. -/
def HandlerId.bodyVisibilities : HandlerId → List String
  | .updatePrivacy => ["profile_visibility", "last_seen_visibility", "avatar_visibility"]
  | _ => []

/-- The members of a request body that are names, with the length of the shorter column. -/
def HandlerId.bodyNames : HandlerId → List (String × ℕ)
  | .updateProfile => [("first_name", 100), ("last_name", 100), ("username", 64)]
  | .addContact => [("alias", 100)]
  | _ => []

/-- The route of the request leads to the body. -/
def Request.RoutedTo (request : Request) (id : HandlerId) : Prop :=
  ∃ info, resolveRoute request.target request.method = some info ∧ info.id = id

/-- The ids in the header, the path and the body are canonical UUIDs, and the visibilities
are labels. -/
structure HasCanonicalIds (env : Env σ) (request : Request) : Prop where
  header : extractUserID request = [] ∨ IsCanonical (extractUserID request)
  path : ∀ id name v, request.RoutedTo id → id.pathParam = some name →
    request.context.find name = some v → IsCanonical v
  bodyIds : ∀ id j, request.RoutedTo id → bodyJson env request = some j →
    ∀ key ∈ id.bodyIds, ∀ s, j.member? (str key) = some (.string s) → s = [] ∨ IsCanonical s
  bodyVisibilities : ∀ id j, request.RoutedTo id → bodyJson env request = some j →
    ∀ key ∈ id.bodyVisibilities, ∀ s, j.member? (str key) = some (.string s) →
      s ∈ visibilityLabels

/-- Besides, the names fit both schemas or neither, and no global settings are put: the service
binds them under the empty id, which is none under `docker/init.sql`. -/
structure Conforms (env : Env σ) (request : Request) : Prop extends
    HasCanonicalIds env request where
  names : ∀ id j, request.RoutedTo id → bodyJson env request = some j →
    ∀ p ∈ id.bodyNames, ∀ s, j.member? (str p.1) = some (.string s) → env.db.Fits p.2 s
  notGlobal : request.RoutedTo .updateNotifications → extractUserID request ≠ [] →
    bodyMuted env request = none

/-! ## The bodies that write -/

/-- A text that `value` returns is the default or a member of the body. -/
lemma member_of_value {j : Json} {key s default : Bytes}
    (h : value getString j key default = .ok s) :
    s = default ∨ j.member? key = some (.string s) := by
  cases j with
  | object members =>
    rw [value] at h
    rcases hm : (Json.object members).member? key with _ | v
    · rw [hm] at h
      exact Or.inl (Except.ok.inj h).symm
    · rw [hm] at h
      cases v with
      | string t => exact Or.inr (congrArg (some ∘ Json.string) (Except.ok.inj h))
      | _ => exact absurd h (by simp [getString])
  | _ => exact absurd h (by simp [value])

/-- What is assigned from a body fits if the field and the member do. -/
lemma fits_of_assign {db : Postgres} {limit : ℕ} {j : Json} {key : String} {field v : Option Bytes}
    (hfield : db.Fits limit (field.getD []))
    (hmember : ∀ s, j.member? (str key) = some (.string s) → db.Fits limit s)
    (h : assignString j (str key) field = .ok v) : db.Fits limit (v.getD []) := by
  rcases assignString_cases j (str key) field with ⟨v', hv', hcase⟩ | ⟨x, -, -, herr⟩
  · obtain rfl := Except.ok.inj (hv'.symm.trans h)
    rcases hcase with ⟨-, rfl⟩ | ⟨s, hs, rfl⟩
    · exact hfield
    · exact hmember s hs
  · exact absurd (herr.symm.trans h) (by simp)

lemma fits_nil (db : Database) (limit : ℕ) : db.Fits limit [] :=
  fits_of_holds (ColumnType.holds_nil_varchar limit)

section Bodies

variable {env : Env σ} {request : Request}

/-- In the run on each of the schemas the program answers the same. -/
abbrev SchemasAgree (env : Env σ) (x : Svc σ Response) : Prop :=
  Couples (env.withSchema .docker) (env.withSchema .migrations) SameWorld Eq x x

lemma createProfile_agrees (hc : Conforms env request) (hroute : request.RoutedTo .createProfile)
    (context : RouteContext) :
    SchemasAgree env (HandlerId.createProfile.body request context) := by
  have hpar := sameWorld_parallel env
  refine hpar.answering _ ((hpar.parse _).bind ?_)
  rintro j _ ⟨rfl, hj⟩
  refine (Parallel.convert _).bind ?_
  rintro userId _ ⟨rfl, huser⟩
  refine Couples.ite (fun _ => Couples.pure rfl) fun hne => ?_
  have hid : IsCanonical userId := by
    have hmember := (member_of_value huser).resolve_left hne
    exact (hc.bodyIds _ j hroute (congrArg Except.toOption hj) _ (List.mem_singleton_self _) _
      hmember).resolve_left hne
  exact (hpar.create (sameWorld_selects (sameFor_createProfile hid))).bind_eq fun _ =>
    hpar.dumpResponse _ _ _

/-- The profile that is read has a canonical id and names that fit the shorter columns. -/
lemma getByID_fits (hu : IsCanonical (extractUserID request)) :
    Couples (env.withSchema .docker) (env.withSchema .migrations) SameWorld
      (fun p p' => p = p' ∧ IsCanonical p.userID ∧ env.db.Fits 100 (p.firstName.getD []) ∧
        env.db.Fits 100 (p.lastName.getD []) ∧ env.db.Fits 64 (p.username.getD []))
      (ProfileRepository.getByID (extractUserID request) : Svc σ Profile)
      (ProfileRepository.getByID (extractUserID request)) := by
  have hget := (sameWorld_parallel env).getByID (sameWorld_selects (sameFor_getProfileByID hu))
  refine hget.returning fun w w' p w₁ hw hrun => ?_
  obtain ⟨r, hr, -, hp⟩ := getByID_eq_ok hrun
  -- the run is the one under `docker/init.sql`, whose columns are the shorter ones
  obtain ⟨hid, hfirst, hlast, husername, -⟩ := hw.valid.typed.profiles r hr
  have hnil := fun limit => ColumnType.holds_nil_varchar limit
  rw [hp]
  exact ⟨hid.input_self, fits_of_holds (hfirst.getD (hnil _)), fits_of_holds (hlast.getD (hnil _)),
    fits_of_holds (husername.getD (hnil _))⟩

lemma updateProfile_agrees (hc : Conforms env request) (hroute : request.RoutedTo .updateProfile)
    (hu : IsCanonical (extractUserID request)) :
    SchemasAgree env (HandlerId.updateProfile.body request request.context) := by
  have hpar := sameWorld_parallel env
  refine hpar.answering _ ((hpar.parse _).bind ?_)
  rintro j _ ⟨rfl, hj⟩
  refine (getByID_fits hu).bind ?_
  rintro profile _ ⟨rfl, hid, hfirst, hlast, husername⟩
  refine (Parallel.convert _).bind ?_
  rintro patched _ ⟨rfl, hpatched⟩
  obtain ⟨firstName, lastName, username, bio, h₁, h₂, h₃, -, rfl⟩ := patchProfile_eq_ok hpatched
  have hnames := hc.names _ j hroute (congrArg Except.toOption hj)
  -- a name that the body does not set is bound as it was read
  have hfirst' := fits_of_assign hfirst (hnames ("first_name", 100) (by decide)) h₁
  have hlast' := fits_of_assign hlast (hnames ("last_name", 100) (by decide)) h₂
  have husername' := fits_of_assign husername (hnames ("username", 64) (by decide)) h₃
  have hsame : Query.SameFor env.db .updateProfile
      [firstName.getD [], lastName.getD [], username.getD [], bio.getD [], profile.userID] :=
    sameFor_updateProfile hid (alike_name hfirst') (alike_name hlast')
      (alike_username husername')
  have hupdate : Couples (env.withSchema .docker) (env.withSchema .migrations) SameWorld Eq
      (ProfileRepository.update { profile with
        firstName := firstName, lastName := lastName, username := username, bio := bio } :
          Svc σ Unit) (ProfileRepository.update { profile with
        firstName := firstName, lastName := lastName, username := username, bio := bio }) :=
    (sameWorld_modify hsame).tryCatch fun _ => Couples.throw _
  exact hupdate.bind_eq fun _ => hpar.dumpResponse _ _ _

lemma sameWorld_upload (userId : Bytes) (data : List UInt8) (contentType : Bytes) :
    Couples (env.withSchema .docker) (env.withSchema .migrations) SameWorld Eq
      (ProfileHandler.upload userId data contentType : Svc σ Bytes)
      (ProfileHandler.upload userId data contentType) := by
  rintro _ w ⟨rfl, hv⟩
  exact ⟨Prog.outcomes_eq_iff.mpr rfl, rfl, hv⟩

lemma sameWorld_deleteObject (userId : Bytes) :
    Couples (env.withSchema .docker) (env.withSchema .migrations) SameWorld Eq
      (ProfileHandler.deleteObject userId : Svc σ Unit) (ProfileHandler.deleteObject userId) := by
  rintro _ w ⟨rfl, hv⟩
  exact ⟨Prog.outcomes_eq_iff.mpr rfl, rfl, hv⟩

lemma uploadAvatar_agrees (hu : IsCanonical (extractUserID request)) :
    SchemasAgree env (HandlerId.uploadAvatar.body request request.context) := by
  have hpar := sameWorld_parallel env
  refine hpar.answering _ ((hpar.parse _).bind ?_)
  rintro j _ ⟨rfl, -⟩
  rcases j.member? (str "image_data") with _ | imageData
  · exact Couples.pure rfl
  refine (Parallel.convert _).bind ?_
  rintro base64Data _ ⟨rfl, -⟩
  refine (Parallel.convert _).bind ?_
  rintro contentType _ ⟨rfl, -⟩
  refine Couples.ite (fun _ => Couples.pure rfl) fun _ => ?_
  exact (sameWorld_upload _ _ _).bind_eq fun url =>
    (sameWorld_modify (sameFor_updateAvatarURL hu url)).bind_eq fun _ => hpar.dumpResponse _ _ _

lemma deleteAvatar_agrees (hu : IsCanonical (extractUserID request)) :
    SchemasAgree env (HandlerId.deleteAvatar.body request request.context) :=
  (sameWorld_parallel env).answering _ ((sameWorld_deleteObject _).bind_eq fun _ =>
    (sameWorld_modify (sameFor_updateAvatarURL hu [])).bind_eq fun _ => Couples.pure rfl)

lemma addContact_agrees (hc : Conforms env request) (hroute : request.RoutedTo .addContact)
    (hu : IsCanonical (extractUserID request)) :
    SchemasAgree env (HandlerId.addContact.body request request.context) := by
  have hpar := sameWorld_parallel env
  refine hpar.answering _ ((hpar.parse _).bind ?_)
  rintro j _ ⟨rfl, hj⟩
  have hjson : bodyJson env request = some j := congrArg Except.toOption hj
  refine (Parallel.convert _).bind ?_
  rintro contactID _ ⟨rfl, hcontact⟩
  refine Couples.ite (fun _ => Couples.pure rfl) fun hne => ?_
  have hid : IsCanonical contactID := by
    have hmember := (member_of_value hcontact).resolve_left hne
    exact (hc.bodyIds _ j hroute hjson _ (List.mem_singleton_self _) _ hmember).resolve_left hne
  refine (Parallel.convert _).bind ?_
  rintro contactAlias _ ⟨rfl, halias⟩
  have hnone : env.db.Fits 100 ((none : Option Bytes).getD []) := fits_nil env.db 100
  have hfits : env.db.Fits 100 (contactAlias.getD []) :=
    fits_of_assign hnone
      (hc.names _ j hroute hjson ("alias", 100) (List.mem_singleton_self _)) halias
  exact (sameWorld_modify (sameFor_addContact hu hid (alike_name hfits))).bind_eq fun _ =>
    hpar.dumpResponse _ _ _

lemma updatePrivacy_agrees (hc : Conforms env request) (hroute : request.RoutedTo .updatePrivacy)
    (hu : IsCanonical (extractUserID request)) :
    SchemasAgree env (HandlerId.updatePrivacy.body request request.context) := by
  have hpar := sameWorld_parallel env
  refine hpar.answering _ ((hpar.parse _).bind ?_)
  rintro j _ ⟨rfl, hj⟩
  have hlabel : ∀ key ∈ HandlerId.updatePrivacy.bodyVisibilities, ∀ s,
      PrivacyHandler.visibility j key = .ok s → s ∈ visibilityLabels := by
    intro key hkey s hs
    rcases member_of_value hs with rfl | hmember
    · decide
    · exact hc.bodyVisibilities _ j hroute (congrArg Except.toOption hj) key hkey s hmember
  refine (Parallel.convert _).bind ?_
  rintro profile _ ⟨rfl, hprofile⟩
  refine (Parallel.convert _).bind ?_
  rintro lastSeen _ ⟨rfl, hlastSeen⟩
  refine (Parallel.convert _).bind ?_
  rintro avatar _ ⟨rfl, havatar⟩
  have hsame : Query.SameFor env.db .updatePrivacy
      [extractUserID request, profile, lastSeen, avatar] := sameFor_updatePrivacy hu
    (hlabel _ (by simp [HandlerId.bodyVisibilities]) _ hprofile)
    (hlabel _ (by simp [HandlerId.bodyVisibilities]) _ hlastSeen)
    (hlabel _ (by simp [HandlerId.bodyVisibilities]) _ havatar)
  exact (sameWorld_modify hsame).bind_eq fun _ => Couples.pure rfl

/-- A body that runs one statement for the user and the id of the path. -/
lemma pathId_agrees {id : HandlerId} {name : Bytes} (hc : Conforms env request)
    (hroute : request.RoutedTo id) (hparam : id.pathParam = some name)
    {absent : Svc σ Response} {present : Bytes → Svc σ Response} (answer : Exn → Response)
    (habsent : SchemasAgree env absent)
    (hpresent : ∀ v, IsCanonical v → SchemasAgree env (present v)) :
    SchemasAgree env (do
      enter id
      tryCatch (match request.context.find name with
        | none => absent
        | some v => present v) fun err => pure (answer err)) := by
  refine (sameWorld_parallel env).answering _ ?_
  rcases hv : request.context.find name with _ | v
  · exact habsent
  · exact hpresent v (hc.path id name v hroute hparam hv)

lemma deleteContact_agrees (hc : Conforms env request) (hroute : request.RoutedTo .deleteContact)
    (hu : IsCanonical (extractUserID request)) :
    SchemasAgree env (HandlerId.deleteContact.body request request.context) :=
  pathId_agrees hc hroute rfl _ (Couples.pure rfl) fun _ hv =>
    (sameWorld_modify (sameFor_removeContact hu hv)).bind_eq fun _ => Couples.pure rfl

lemma addFavorite_agrees (hc : Conforms env request) (hroute : request.RoutedTo .addFavorite)
    (hu : IsCanonical (extractUserID request)) :
    SchemasAgree env (HandlerId.addFavorite.body request request.context) :=
  pathId_agrees hc hroute rfl _ (Couples.pure rfl) fun _ hv =>
    (sameWorld_modify (sameFor_addFavorite hu hv)).bind_eq fun _ => Couples.pure rfl

lemma removeFavorite_agrees (hc : Conforms env request)
    (hroute : request.RoutedTo .removeFavorite) (hu : IsCanonical (extractUserID request)) :
    SchemasAgree env (HandlerId.removeFavorite.body request request.context) :=
  pathId_agrees hc hroute rfl _ (Couples.pure rfl) fun _ hv =>
    (sameWorld_modify (sameFor_removeFavorite hu hv)).bind_eq fun _ => Couples.pure rfl

/-- The settings are put alike if they are written alike whenever the body is valid. -/
lemma putSettings_agrees {chatID : Option Bytes}
    (hupsert : bodyMuted env request ≠ none → ∀ muted mutedUntil,
      Couples (env.withSchema .docker) (env.withSchema .migrations) SameWorld Eq
        (NotificationRepository.upsert ⟨[], extractUserID request, chatID, muted, mutedUntil⟩ :
          Svc σ Unit)
        (NotificationRepository.upsert ⟨[], extractUserID request, chatID, muted, mutedUntil⟩)) :
    SchemasAgree env
      (NotificationsHandler.putSettings request (extractUserID request) chatID) := by
  have hpar := sameWorld_parallel env
  refine (hpar.parse _).bind ?_
  rintro j _ ⟨rfl, hj⟩
  refine (Parallel.convert _).bind ?_
  rintro muted _ ⟨rfl, hmuted⟩
  -- settings are written only for a body that is valid
  have hvalid : ∀ w w' mutedUntil w₁, SameWorld w w' →
      (NotificationsHandler.readMutedUntil j).run (env.withSchema .docker) w =
        (.ok mutedUntil, w₁) → mutedUntil.isSome → (bodyMutedUntil j).isSome := by
    intro w w' mutedUntil w₁ _ hrun hsome
    obtain ⟨t, rfl⟩ := Option.isSome_iff_exists.mp hsome
    rcases readMutedUntil_cases (env.withSchema .docker) j w with ⟨tm, htm, -⟩ | ⟨-, hnot⟩
    · exact Option.isSome_iff_exists.mpr ⟨tm, htm⟩
    · exact absurd hrun (hnot t w₁)
  refine ((hpar.readMutedUntil j).returning hvalid).bind ?_
  rintro mutedUntil _ ⟨rfl, hbody⟩
  rcases mutedUntil with _ | mutedUntil
  · exact Couples.pure rfl
  · obtain ⟨tm, htm⟩ := Option.isSome_iff_exists.mp (hbody rfl)
    have hjson : bodyJson env request = some j := congrArg Except.toOption hj
    have hmutedBody : bodyMuted env request ≠ none := by
      simp [bodyMuted, hjson, hmuted, htm, Except.toOption]
    exact (hupsert hmutedBody muted mutedUntil).bind_eq fun _ => Couples.pure rfl

lemma updateNotifications_agrees (hc : Conforms env request)
    (hroute : request.RoutedTo .updateNotifications) (hne : extractUserID request ≠ []) :
    SchemasAgree env (HandlerId.updateNotifications.body request request.context) :=
  (sameWorld_parallel env).answering _
    (putSettings_agrees fun hbody => absurd (hc.notGlobal hroute hne) hbody)

lemma updateChatNotifications_agrees (hc : Conforms env request)
    (hroute : request.RoutedTo .updateChatNotifications)
    (hu : IsCanonical (extractUserID request)) :
    SchemasAgree env (HandlerId.updateChatNotifications.body request request.context) := by
  refine pathId_agrees hc hroute rfl _ (Couples.pure rfl) fun chatId hv => ?_
  refine putSettings_agrees fun _ muted mutedUntil => ?_
  cases mutedUntil with
  | none => exact sameWorld_modify (sameFor_upsert hu hv _)
  | some t => exact sameWorld_modify (sameFor_upsertUntil hu hv _ _)

/-- A body that only reads selects for the user of the header and the id of the path. -/
lemma readBody_agrees (hc : Conforms env request) {id : HandlerId} (hroute : request.RoutedTo id)
    (hu : IsCanonical (extractUserID request)) (hread : id.IsRead) :
    SchemasAgree env (id.body request request.context) := by
  refine readBody_couples (sameWorld_parallel env) request request.context hread fun s hs => ?_
  have hpath : ∀ name v, id.pathParam = some name → v ∈ request.context.find name →
      IsCanonical v := fun name v hname hv => hc.path id name v hroute hname hv
  cases id with
  | getMyProfile =>
    obtain rfl := List.mem_singleton.mp hs
    exact sameWorld_selects (sameFor_getProfileByID hu)
  | getProfileByID =>
    obtain ⟨v, hv, rfl⟩ := List.mem_map.mp hs
    exact sameWorld_selects (sameFor_getProfileByID (hpath _ v rfl (Option.mem_toList.mp hv)))
  | getContacts =>
    obtain rfl := List.mem_singleton.mp hs
    exact sameWorld_selects (sameFor_listContacts hu)
  | getPrivacy =>
    obtain rfl := List.mem_singleton.mp hs
    exact sameWorld_selects (sameFor_getPrivacy hu)
  | getFavorites =>
    obtain rfl := List.mem_singleton.mp hs
    exact sameWorld_selects (sameFor_listFavorites hu)
  | getNotifications =>
    obtain rfl := List.mem_singleton.mp hs
    exact sameWorld_selects (sameFor_getGlobal hu)
  | getChatNotifications =>
    rcases List.mem_cons.mp hs with rfl | hs
    · exact sameWorld_selects (sameFor_getGlobal hu)
    · obtain ⟨v, hv, rfl⟩ := List.mem_map.mp hs
      exact sameWorld_selects (sameFor_getChat hu (hpath _ v rfl (Option.mem_toList.mp hv)))
  | createProfile | updateProfile | uploadAvatar | deleteAvatar | addContact | deleteContact
  | updatePrivacy | addFavorite | removeFavorite | updateNotifications
  | updateChatNotifications => exact absurd hread (by simp [HandlerId.IsRead])

/-- Every body answers the same on both schemas. -/
theorem body_agrees_schemas (hc : Conforms env request) {id : HandlerId}
    (hroute : request.RoutedTo id) (huser : id = .createProfile ∨ extractUserID request ≠ []) :
    SchemasAgree env (id.body request request.context) := by
  by_cases hid : id = .createProfile
  · subst hid
    exact createProfile_agrees hc hroute _
  -- only the creation of a profile is served without a user
  have hne := huser.resolve_left hid
  have hu : IsCanonical (extractUserID request) := hc.header.resolve_left hne
  cases id with
  | createProfile => exact absurd rfl hid
  | updateProfile => exact updateProfile_agrees hc hroute hu
  | uploadAvatar => exact uploadAvatar_agrees hu
  | deleteAvatar => exact deleteAvatar_agrees hu
  | addContact => exact addContact_agrees hc hroute hu
  | deleteContact => exact deleteContact_agrees hc hroute hu
  | updatePrivacy => exact updatePrivacy_agrees hc hroute hu
  | addFavorite => exact addFavorite_agrees hc hroute hu
  | removeFavorite => exact removeFavorite_agrees hc hroute hu
  | updateNotifications => exact updateNotifications_agrees hc hroute hne
  | updateChatNotifications => exact updateChatNotifications_agrees hc hroute hu
  | getMyProfile | getProfileByID | getContacts | getPrivacy | getFavorites | getNotifications
  | getChatNotifications => exact readBody_agrees hc hroute hu trivial

/-- A request is answered the same on both schemas, and leaves tables that differ only in the
columns that one schema has. -/
lemma serve_agrees (hc : Conforms env request) {w w' : World σ} (h : SameWorld w w') :
    (serve (env.withSchema .docker) w request).1 =
        (serve (env.withSchema .migrations) w' request).1 ∧
      SameWorld (serve (env.withSchema .docker) w request).2
        (serve (env.withSchema .migrations) w' request).2 := by
  rcases serve_uniform request with ⟨response, -, hserve⟩ | ⟨id, hm, ht, huser, hserve⟩
  · rw [hserve, hserve]
    exact ⟨rfl, h⟩
  · obtain ⟨info, hinfo, hroute⟩ := resolveRoute_complete ht
    rw [← hm] at hroute
    obtain ⟨hout, hnext⟩ := body_agrees_schemas hc ⟨info, hroute, hinfo⟩ huser w w' h
    rw [hserve, hserve]
    exact ⟨Prog.outcomes_eq_iff.mp hout, hnext⟩

end Bodies

/-- Requests with canonical ids, labels for visibilities, and names that fit both schemas or
neither, among them no valid body for the global settings, are answered the same on a database
created by `docker/init.sql` and on one created by `migrations/001_init.sql`. -/
theorem schemas_agree (env : Env σ) (storage : σ) (requests : List Request)
    (hconforms : ∀ request ∈ requests, Conforms env request) :
    history (env.withSchema .docker) storage requests =
      history (env.withSchema .migrations) storage requests :=
  Mealy.trace_eq_of_simulation (fun _ _ _ h hc => serve_agrees hc h)
    (⟨rfl, Store.valid_empty _⟩ : SameWorld (World.start storage) (World.start storage)) hconforms

lemma Request.RoutedTo.unique {request : Request} {id id' : HandlerId}
    (h : request.RoutedTo id) (h' : request.RoutedTo id') : id = id' := by
  obtain ⟨info, hinfo, rfl⟩ := h
  obtain ⟨info', hinfo', rfl⟩ := h'
  rw [Option.some.inj (hinfo.symm.trans hinfo')]

/-- Alice's id. -/
def aliceId : Bytes := str "00000000-0000-4000-8000-00000000000a"

/-- Alice gets a profile and a username. -/
def namedRun (username : String) : List Request :=
  [requestBy aliceId .post (str "/internal/profiles")
      (str "\x7b\"user_id\":\"00000000-0000-4000-8000-00000000000a\"\x7d"),
    requestBy aliceId .patch (str "/me") (str ("\x7b\"username\":\"" ++ username ++ "\"\x7d"))]

lemma namedRun_ids (username : String) :
    ∀ request ∈ namedRun username, HasCanonicalIds (Env.standalone .migrations) request := by
  intro request hrequest
  have halice : IsCanonical aliceId := by decide
  rcases List.mem_cons.mp hrequest with rfl | hrequest
  · have hcreate : Request.RoutedTo (requestBy aliceId .post (str "/internal/profiles")
        (str "\x7b\"user_id\":\"00000000-0000-4000-8000-00000000000a\"\x7d")) .createProfile :=
      ⟨_, rfl, rfl⟩
    refine ⟨Or.inr halice, fun id name v hid hname => ?_, fun id j hid hj => ?_,
      fun id j hid hj => ?_⟩ <;> obtain rfl := hcreate.unique hid
    · exact nomatch hname
    · obtain rfl := Option.some.inj hj
      intro key hkey s hs
      obtain rfl := List.mem_singleton.mp hkey
      obtain rfl := Json.string.inj (Option.some.inj hs)
      exact Or.inr (by decide)
    · exact fun key hkey => absurd hkey List.not_mem_nil
  · obtain rfl := List.mem_singleton.mp hrequest
    have hpatch : Request.RoutedTo (requestBy aliceId .patch (str "/me")
        (str ("\x7b\"username\":\"" ++ username ++ "\"\x7d"))) .updateProfile := ⟨_, rfl, rfl⟩
    refine ⟨Or.inr halice, fun id name v hid hname => ?_, fun id j hid _ => ?_,
      fun id j hid _ => ?_⟩ <;> obtain rfl := hpatch.unique hid
    · exact nomatch hname
    · exact fun key hkey => absurd hkey List.not_mem_nil
    · exact fun key hkey => absurd hkey List.not_mem_nil

/-- A short username is answered the same. -/
theorem schemas_agree_named :
    history ((Env.standalone .migrations).withSchema .docker) () (namedRun "alice") =
      history ((Env.standalone .migrations).withSchema .migrations) () (namedRun "alice") := by
  refine schemas_agree (Env.standalone .migrations) () _ fun request hrequest => ?_
  refine ⟨namedRun_ids _ request hrequest, fun id j hid hj => ?_, fun hid _ => ?_⟩
  · rcases List.mem_cons.mp hrequest with rfl | hrequest
    · obtain rfl : .createProfile = id := Request.RoutedTo.unique ⟨_, rfl, rfl⟩ hid
      exact fun p hp => absurd hp List.not_mem_nil
    · obtain rfl := List.mem_singleton.mp hrequest
      obtain rfl : .updateProfile = id := Request.RoutedTo.unique ⟨_, rfl, rfl⟩ hid
      have hbody : bodyJson (Env.standalone .migrations) (requestBy aliceId .patch (str "/me")
          (str ("\x7b\"username\":\"" ++ "alice" ++ "\"\x7d"))) =
            some (.object [(str "username", .string (str "alice"))]) := rfl
      obtain rfl := Option.some.inj (hbody.symm.trans hj)
      intro p hp s hs
      simp only [HandlerId.bodyNames, List.mem_cons, List.not_mem_nil, or_false] at hp
      rcases hp with rfl | rfl | rfl
      · exact nomatch hs
      · exact nomatch hs
      · obtain rfl := Json.string.inj (Option.some.inj hs)
        exact fits_of_holds (by decide)
  · rcases List.mem_cons.mp hrequest with rfl | hrequest
    · exact absurd (Request.RoutedTo.unique ⟨_, rfl, rfl⟩ hid) (by decide)
    · obtain rfl := List.mem_singleton.mp hrequest
      exact absurd (Request.RoutedTo.unique ⟨_, rfl, rfl⟩ hid) (by decide)

/-- A username of 65 characters is refused by one schema and taken by the other. -/
theorem long_username_disagrees :
    ∃ username, (∀ request ∈ namedRun username,
        HasCanonicalIds (Env.standalone .migrations) request) ∧
      (history ((Env.standalone .migrations).withSchema .docker) () (namedRun username)).map
        (fun e => e.2.toOption.map Response.status) = [some 201, some 409] ∧
      (history ((Env.standalone .migrations).withSchema .migrations) () (namedRun username)).map
        (fun e => e.2.toOption.map Response.status) = [some 201, some 200] :=
  ⟨"aaaaaaaaaabbbbbbbbbbaaaaaaaaaabbbbbbbbbbaaaaaaaaaabbbbbbbbbbaaaaa", namedRun_ids _,
    by decide +kernel, by decide +kernel⟩

end ProfileService
