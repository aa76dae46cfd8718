/-
# What the statements keep

A statement that succeeds either returns rows and changes nothing, or makes the write of
its bound values; and a write of values that fit their columns keeps the tables valid.
-/
import ProfileService.Query

namespace ProfileService

open Bytes (str)

/-- A statement that succeeds reads, or it writes and the result meets the constraints. -/
lemma Query.exec_cases {db : Database} {now : ℤ} {rowId : Uuid} {query : Query}
    {params : List Bytes} {st st' : Store} {rows : List Row}
    (h : query.exec db now rowId params st = some (st', rows)) :
    (∃ wr, query.write db params = some wr ∧ st' = wr.apply db.schema now rowId st ∧
      st'.Constraints ∧ rows = wr.returning db st') ∨
    (query.write db params = none ∧ query.select db st params = some rows ∧ st' = st) := by
  unfold Query.exec at h
  split at h
  · rename_i wr hwr
    obtain ⟨s, hs, h⟩ := Option.bind_eq_some_iff.mp h
    obtain ⟨rfl, hc⟩ := Store.commit_eq_some.mp hs
    obtain ⟨rfl, rfl⟩ := Prod.mk.inj (Option.some.inj h)
    exact Or.inl ⟨wr, hwr, rfl, hc, rfl⟩
  · rename_i hwr
    obtain ⟨rows', hrows, h⟩ := Option.map_eq_some_iff.mp h
    obtain ⟨rfl, rfl⟩ := Prod.mk.inj h
    exact Or.inr ⟨hwr, hrows, rfl⟩

/-- A write succeeds exactly when the result meets the constraints. -/
lemma Query.exec_write {db : Database} {now : ℤ} {rowId : Uuid} {query : Query}
    {params : List Bytes} {st : Store} {wr : Write} (hwr : query.write db params = some wr) :
    query.exec db now rowId params st =
      if (wr.apply db.schema now rowId st).Constraints then
        some (wr.apply db.schema now rowId st,
          wr.returning db (wr.apply db.schema now rowId st))
      else none := by
  simp only [Query.exec, hwr, Store.commit]
  split <;> rfl

/-- A `SELECT` leaves the tables as they are. -/
lemma Query.exec_select {db : Database} {now : ℤ} {rowId : Uuid} {query : Query}
    {params : List Bytes} {st : Store} (hwr : query.write db params = none) :
    query.exec db now rowId params st =
      (query.select db st params).map fun rows => (st, rows) := by
  simp only [Query.exec, hwr]

/-! ## Values that fit -/

/-- The values that the write stores fit their columns. -/
def Write.Fits (schema : Schema) : Write → Prop
  | .createProfile user => schema.idType.Holds user
  | .updateProfile firstName lastName username bio _ =>
      schema.nameType.Holds firstName ∧ schema.nameType.Holds lastName ∧
        schema.usernameType.Holds username ∧ ColumnType.text.Holds bio
  | .updateAvatarURL avatarUrl _ => ColumnType.text.Holds avatarUrl
  | .addContact owner contact contactAlias =>
      schema.idType.Holds owner ∧ schema.idType.Holds contact ∧
        schema.nameType.Holds contactAlias
  | .addFavorite user chat => schema.idType.Holds user ∧ schema.idType.Holds chat
  | .updatePrivacy user profileVisibility lastSeenVisibility avatarVisibility =>
      schema.idType.Holds user ∧ schema.visibilityType.Holds profileVisibility ∧
        schema.visibilityType.Holds lastSeenVisibility ∧
        schema.visibilityType.Holds avatarVisibility
  | .upsertNotifications user chat _ _ =>
      schema.idType.Holds user ∧ schema.idType.Holds chat
  | .removeContact _ _ | .removeFavorite _ _ => True

/-- The values a statement binds fit. -/
lemma Query.write_fits {db : Database} {query : Query} {params : List Bytes} {wr : Write}
    (h : query.write db params = some wr) : wr.Fits db.schema := by
  unfold Query.write at h
  split at h <;>
    simp only [Option.bind_eq_bind, Option.bind_eq_some_iff, Option.some.injEq,
      reduceCtorEq] at h
  · obtain ⟨_, h1, rfl⟩ := h
    exact Database.stored_holds h1
  · obtain ⟨_, h1, _, h2, _, h3, _, h4, _, -, rfl⟩ := h
    exact ⟨Database.stored_holds h1, Database.stored_holds h2, Database.stored_holds h3,
      Database.stored_holds h4⟩
  · obtain ⟨_, h1, _, -, rfl⟩ := h
    exact Database.stored_holds h1
  · obtain ⟨_, h1, _, h2, _, h3, rfl⟩ := h
    exact ⟨Database.stored_holds h1, Database.stored_holds h2, Database.stored_holds h3⟩
  · obtain ⟨_, -, _, -, rfl⟩ := h
    exact True.intro
  · obtain ⟨_, h1, _, h2, rfl⟩ := h
    exact ⟨Database.stored_holds h1, Database.stored_holds h2⟩
  · obtain ⟨_, -, _, -, rfl⟩ := h
    exact True.intro
  · obtain ⟨_, h1, _, h2, _, h3, _, h4, rfl⟩ := h
    exact ⟨Database.stored_holds h1, Database.stored_holds h2, Database.stored_holds h3,
      Database.stored_holds h4⟩
  · obtain ⟨_, h1, _, h2, _, -, _, -, rfl⟩ := h
    exact ⟨Database.stored_holds h1, Database.stored_holds h2⟩
  · obtain ⟨_, h1, _, h2, _, -, rfl⟩ := h
    exact ⟨Database.stored_holds h1, Database.stored_holds h2⟩

lemma holdsOption_none (T : ColumnType) : HoldsOption T none := fun _ h => absurd h (by simp)

lemma holdsOption_some {T : ColumnType} {v : Bytes} (h : T.Holds v) : HoldsOption T (some v) :=
  fun _ hs => Option.some.inj hs ▸ h

/-- A write of values that fit keeps every column well typed. -/
lemma Write.apply_typed {schema : Schema} {wr : Write} {st : Store} (now : ℤ) (rowId : Uuid)
    (hfits : wr.Fits schema) (h : st.Typed schema) :
    (wr.apply schema now rowId st).Typed schema := by
  cases wr with
  | createProfile user =>
    refine ⟨fun r hr => ?_, h.contacts, h.privacySettings, h.favorites, h.notificationSettings⟩
    rcases Table.mem_insertOrUpdate hr with hr | ⟨r', hr', -, rfl⟩ | rfl
    · exact h.profiles r hr
    · exact h.profiles r' hr'
    · exact ⟨hfits, holdsOption_none _, holdsOption_none _, holdsOption_none _,
        holdsOption_none _, holdsOption_none _⟩
  | updateProfile firstName lastName username bio user =>
    obtain ⟨h1, h2, h3, h4⟩ := hfits
    refine ⟨fun r hr => ?_, h.contacts, h.privacySettings, h.favorites, h.notificationSettings⟩
    rcases Table.mem_update.mp hr with ⟨hr, -⟩ | ⟨r', hr', -, rfl⟩
    · exact h.profiles r hr
    · obtain ⟨hid, -, -, -, -, havatar⟩ := h.profiles r' hr'
      exact ⟨hid, holdsOption_some h1, holdsOption_some h2, holdsOption_some h3,
        holdsOption_some h4, havatar⟩
  | updateAvatarURL avatarUrl user =>
    refine ⟨fun r hr => ?_, h.contacts, h.privacySettings, h.favorites, h.notificationSettings⟩
    rcases Table.mem_update.mp hr with ⟨hr, -⟩ | ⟨r', hr', -, rfl⟩
    · exact h.profiles r hr
    · obtain ⟨hid, hfirst, hlast, husername, hbio, -⟩ := h.profiles r' hr'
      exact ⟨hid, hfirst, hlast, husername, hbio, holdsOption_some hfits⟩
  | addContact owner contact contactAlias =>
    obtain ⟨h1, h2, h3⟩ := hfits
    refine ⟨h.profiles, fun r hr => ?_, h.privacySettings, h.favorites, h.notificationSettings⟩
    rcases Table.mem_insertOrUpdate hr with hr | ⟨r', hr', -, rfl⟩ | rfl
    · exact h.contacts r hr
    · exact ⟨(h.contacts r' hr').1, (h.contacts r' hr').2.1, holdsOption_some h3⟩
    · exact ⟨h1, h2, holdsOption_some h3⟩
  | removeContact owner contact =>
    exact ⟨h.profiles, fun r hr => h.contacts r (List.mem_of_mem_filter hr), h.privacySettings,
      h.favorites, h.notificationSettings⟩
  | addFavorite user chat =>
    refine ⟨h.profiles, h.contacts, h.privacySettings, fun r hr => ?_, h.notificationSettings⟩
    rcases Table.mem_insertOrIgnore hr with hr | rfl
    · exact h.favorites r hr
    · exact hfits
  | removeFavorite user chat =>
    exact ⟨h.profiles, h.contacts, h.privacySettings,
      fun r hr => h.favorites r (List.mem_of_mem_filter hr), h.notificationSettings⟩
  | updatePrivacy user profileVisibility lastSeenVisibility avatarVisibility =>
    obtain ⟨h1, h2⟩ := hfits
    refine ⟨h.profiles, h.contacts, fun r hr => ?_, h.favorites, h.notificationSettings⟩
    rcases Table.mem_insertOrUpdate hr with hr | ⟨r', hr', -, rfl⟩ | rfl
    · exact h.privacySettings r hr
    · exact ⟨(h.privacySettings r' hr').1, h2⟩
    · exact ⟨h1, h2⟩
  | upsertNotifications user chat muted mutedUntil =>
    obtain ⟨h1, h2⟩ := hfits
    refine ⟨h.profiles, h.contacts, h.privacySettings, h.favorites, fun r hr => ?_⟩
    rcases Table.mem_insertOrUpdate hr with hr | ⟨r', hr', -, rfl⟩ | rfl
    · exact h.notificationSettings r hr
    · exact h.notificationSettings r' hr'
    · refine ⟨ColumnType.holds_uuid rowId ?_, h1, holdsOption_some h2⟩
      cases schema
      · exact Or.inl rfl
      · exact Or.inr ⟨36, le_rfl, rfl⟩

/-- A statement that succeeds keeps the tables valid. -/
lemma Query.exec_valid {db : Database} {now : ℤ} {rowId : Uuid} {query : Query}
    {params : List Bytes} {st st' : Store} {rows : List Row}
    (h : query.exec db now rowId params st = some (st', rows)) (hv : st.Valid db.schema) :
    st'.Valid db.schema := by
  rcases Query.exec_cases h with ⟨wr, hwr, rfl, hc, -⟩ | ⟨-, -, rfl⟩
  · exact ⟨wr.apply_typed now rowId (Query.write_fits hwr) hv.typed, hc⟩
  · exact hv

end ProfileService
