/-
# Tables

A table is a list of rows.  The statements of a database that change one are described
by the rows they hit: `update`, `insertOrUpdate` (`INSERT … ON CONFLICT DO UPDATE`),
`insertOrIgnore` (`INSERT … ON CONFLICT DO NOTHING`) and `delete`.  For each there is a
lemma on what it does to the rows a query selects, in the three cases callers need: the
selected rows are not among the rows the statement writes (the frame), the query looks a
row up by a key that the statement keeps, and the statement hits selected rows only (the
view).  The last section is about rows that carry the time they were inserted at.
-/
import Mathlib.Data.List.Basic
import Mathlib.Data.List.Pairwise
import Mathlib.Data.List.Sort
import Mathlib.Tactic.Common

namespace Table

variable {ρ κ τ : Type*}

/-- `UPDATE … SET … WHERE`. -/
def update (hit : ρ → Bool) (change : ρ → ρ) (t : List ρ) : List ρ :=
  t.map fun r => if hit r then change r else r

/-- `INSERT … ON CONFLICT … DO UPDATE`. -/
def insertOrUpdate (hit : ρ → Bool) (change : ρ → ρ) (fresh : ρ) (t : List ρ) : List ρ :=
  if t.any hit then update hit change t else t ++ [fresh]

/-- `INSERT … ON CONFLICT … DO NOTHING`. -/
def insertOrIgnore (hit : ρ → Bool) (fresh : ρ) (t : List ρ) : List ρ :=
  if t.any hit then t else t ++ [fresh]

/-- `DELETE … WHERE`. -/
def delete (hit : ρ → Bool) (t : List ρ) : List ρ := t.filter fun r => !hit r

/-- `ORDER BY … DESC`. -/
def orderByDesc (time : ρ → ℤ) (t : List ρ) : List ρ :=
  t.insertionSort fun a b => time b ≤ time a

/-! ## Rows of the result -/

lemma mem_update {hit : ρ → Bool} {change : ρ → ρ} {t : List ρ} {r : ρ} :
    r ∈ update hit change t ↔
      (r ∈ t ∧ hit r = false) ∨ ∃ r' ∈ t, hit r' = true ∧ r = change r' := by
  rw [update, List.mem_map]
  constructor
  · rintro ⟨r', hr', rfl⟩
    by_cases hh : hit r' = true
    · exact Or.inr ⟨r', hr', hh, if_pos hh⟩
    · rw [if_neg hh]
      exact Or.inl ⟨hr', by simpa using hh⟩
  · rintro (⟨hr, hh⟩ | ⟨r', hr', hh, rfl⟩)
    · exact ⟨r, hr, if_neg (by simp [hh])⟩
    · exact ⟨r', hr', if_pos hh⟩

/-- An update that matches no row changes nothing. -/
lemma update_of_forall_not {hit : ρ → Bool} {change : ρ → ρ} {t : List ρ}
    (h : ∀ r ∈ t, hit r = false) : update hit change t = t := by
  rw [update, List.map_congr_left fun r hr => if_neg (by simp [h r hr]), List.map_id']

/-- The rows after it: those that were not hit, those that were, and the new one. -/
lemma mem_insertOrUpdate_cases {hit : ρ → Bool} {change : ρ → ρ} {fresh : ρ} {t : List ρ} {r : ρ}
    (h : r ∈ insertOrUpdate hit change fresh t) :
    r ∈ t ∧ hit r = false ∨ (∃ r' ∈ t, hit r' = true ∧ r = change r') ∨ r = fresh := by
  unfold insertOrUpdate at h
  split at h
  · exact (mem_update.mp h).imp_right Or.inl
  · rename_i hany
    rw [Bool.not_eq_true, List.any_eq_false] at hany
    rcases List.mem_append.mp h with h | h
    · exact Or.inl ⟨h, by simpa using hany r h⟩
    · exact Or.inr (Or.inr (by simpa using h))

lemma mem_insertOrUpdate {hit : ρ → Bool} {change : ρ → ρ} {fresh : ρ} {t : List ρ} {r : ρ}
    (h : r ∈ insertOrUpdate hit change fresh t) :
    r ∈ t ∨ (∃ r' ∈ t, hit r' = true ∧ r = change r') ∨ r = fresh :=
  (mem_insertOrUpdate_cases h).imp_left And.left

/-- A row that is hit is there after it, changed. -/
lemma mem_insertOrUpdate_of_hit {hit : ρ → Bool} {change : ρ → ρ} {fresh : ρ} {t : List ρ}
    {r : ρ} (hr : r ∈ t) (hhit : hit r = true) : change r ∈ insertOrUpdate hit change fresh t := by
  rw [insertOrUpdate, if_pos (List.any_eq_true.mpr ⟨r, hr, hhit⟩)]
  exact mem_update.mpr (Or.inr ⟨r, hr, hhit, rfl⟩)

lemma mem_insertOrIgnore {hit : ρ → Bool} {fresh : ρ} {t : List ρ} {r : ρ}
    (h : r ∈ insertOrIgnore hit fresh t) : r ∈ t ∨ r = fresh := by
  unfold insertOrIgnore at h
  split at h
  · exact Or.inl h
  · simpa using h

/-- To ignore a row that is there is to update it to what it is. -/
lemma insertOrIgnore_eq (hit : ρ → Bool) (fresh : ρ) (t : List ρ) :
    insertOrIgnore hit fresh t = insertOrUpdate hit id fresh t := by
  have hsame : update hit id t = t := by simp [update]
  rw [insertOrIgnore, insertOrUpdate, hsame]

lemma map_update {hit : ρ → Bool} {change : ρ → ρ} {key : ρ → κ}
    (h : ∀ r, hit r = true → key (change r) = key r) (t : List ρ) :
    (update hit change t).map key = t.map key := by
  rw [update, List.map_map]
  refine List.map_congr_left fun r _ => ?_
  by_cases hh : hit r = true
  · simp [hh, h r hh]
  · simp [hh]

lemma filterMap_update {hit : ρ → Bool} {change : ρ → ρ} {key : ρ → Option κ}
    (h : ∀ r, hit r = true → key (change r) = key r) (t : List ρ) :
    (update hit change t).filterMap key = t.filterMap key := by
  rw [update, List.filterMap_map]
  refine List.filterMap_congr fun r _ => ?_
  by_cases hh : hit r = true
  · simp [hh, h r hh]
  · simp [hh]

/-- A key stays unique when the update keeps it and the inserted row has a new one. -/
lemma nodup_insertOrUpdate {hit : ρ → Bool} {change : ρ → ρ} {fresh : ρ} {key : ρ → Option κ}
    {t : List ρ} (hkey : ∀ r, hit r = true → key (change r) = key r)
    (hfresh : t.any hit = false → ∀ r ∈ t, ∀ x, key fresh = some x → key r ≠ some x)
    (h : (t.filterMap key).Nodup) : ((insertOrUpdate hit change fresh t).filterMap key).Nodup := by
  unfold insertOrUpdate
  split
  · rwa [filterMap_update hkey]
  · rename_i hany
    rw [List.filterMap_append, List.nodup_append]
    refine ⟨h, ?_, ?_⟩
    · rcases hk : key fresh with _ | x <;> simp [hk]
    · intro x hx y hy
      rintro rfl
      obtain ⟨r, hr, hrx⟩ := List.mem_filterMap.mp hx
      obtain ⟨r', hr', hfx⟩ := List.mem_filterMap.mp hy
      obtain rfl : r' = fresh := by simpa using hr'
      exact hfresh (by simpa using hany) r hr x hfx hrx

/-- After it there is a row under the key. -/
lemma any_insertOrUpdate {hit : ρ → Bool} {change : ρ → ρ} {fresh : ρ}
    (hchange : ∀ r, hit r = true → hit (change r) = true) (hfresh : hit fresh = true)
    (t : List ρ) : (insertOrUpdate hit change fresh t).any hit = true := by
  unfold insertOrUpdate
  split
  · rename_i hany
    obtain ⟨r, hr, hhit⟩ := List.any_eq_true.mp hany
    exact List.any_eq_true.mpr
      ⟨change r, List.mem_map.mpr ⟨r, hr, if_pos hhit⟩, hchange r hhit⟩
  · simp [hfresh]

/-- Two rows with one unique key are the same. -/
lemma eq_of_nodup_filterMap {key : ρ → Option κ} {t : List ρ} (h : (t.filterMap key).Nodup)
    {r r' : ρ} (hr : r ∈ t) (hr' : r' ∈ t) {x : κ} (hx : key r = some x)
    (hx' : key r' = some x) : r = r' := by
  by_contra hne
  have hpairwise := List.pairwise_filterMap.mp h
  have hsymm : Std.Symm fun a a' : ρ => ∀ b, key a = some b → ∀ b', key a' = some b' → b ≠ b' :=
    ⟨fun _ _ hab b hb b' hb' heq => hab b' hb' b hb heq.symm⟩
  exact hpairwise.forall hr hr' hne x hx x hx' rfl

/-- An update that gives the one row it hits the key `x` keeps the keys unique exactly when no
other row has it. -/
lemma nodup_filterMap_update {hit : ρ → Bool} {change : ρ → ρ} {key : ρ → Option κ} {t : List ρ}
    {r : ρ} {x : κ} (hr : r ∈ t) (hhit : ∀ r' ∈ t, hit r' = true ↔ r' = r) (hnodup : t.Nodup)
    (hkey : key (change r) = some x) (h : (t.filterMap key).Nodup) :
    ((update hit change t).filterMap key).Nodup ↔ ∀ r' ∈ t, r' ≠ r → key r' ≠ some x := by
  obtain ⟨t₁, t₂, rfl⟩ := List.append_of_mem hr
  obtain ⟨hnot, hrest⟩ := List.nodup_cons.mp (List.nodup_middle.mp hnodup)
  have hothers : ∀ r' ∈ t₁ ++ t₂, hit r' = false := by
    intro r' hr'
    rw [← Bool.not_eq_true]
    intro hh
    have hmem : r' ∈ t₁ ++ r :: t₂ := by
      rcases List.mem_append.mp hr' with h' | h' <;> simp [h']
    rw [(hhit r' hmem).mp hh] at hr'
    exact hnot hr'
  have hkeep : ∀ l : List ρ, (∀ r' ∈ l, hit r' = false) → update hit change l = l := by
    intro l hl
    refine (List.map_congr_left fun r' hr' => ?_).trans (List.map_id l)
    rw [hl r' hr']
    rfl
  have hupdate : update hit change (t₁ ++ r :: t₂) = t₁ ++ change r :: t₂ := by
    have h₁ := hkeep t₁ fun r' hr' => hothers r' (by simp [hr'])
    have h₂ := hkeep t₂ fun r' hr' => hothers r' (by simp [hr'])
    rw [update] at h₁ h₂ ⊢
    rw [List.map_append, List.map_cons, h₁, h₂, if_pos ((hhit r hr).mpr rfl)]
  -- the keys of the other rows are unique as they were
  have hsub : ((t₁ ++ t₂).filterMap key).Nodup := by
    refine h.sublist (List.Sublist.filterMap key ?_)
    exact (List.Sublist.refl t₁).append (List.sublist_cons_self r t₂)
  rw [hupdate, List.filterMap_append, List.filterMap_cons_some hkey, List.nodup_middle,
    List.nodup_cons, ← List.filterMap_append]
  refine ⟨fun ⟨hx, _⟩ r' hr' hne hk => hx ?_, fun hne => ⟨fun hx => ?_, hsub⟩⟩
  · refine List.mem_filterMap.mpr ⟨r', ?_, hk⟩
    rcases List.mem_append.mp hr' with h' | h'
    · exact List.mem_append_left _ h'
    · exact List.mem_append_right _ ((List.mem_cons.mp h').resolve_left hne)
  · obtain ⟨r', hr', hk⟩ := List.mem_filterMap.mp hx
    refine hne r' ?_ ?_ hk
    · rcases List.mem_append.mp hr' with h' | h' <;> simp [h']
    · rintro rfl
      exact hnot hr'

/-! ## Frames -/

lemma filter_update {hit p : ρ → Bool} {change : ρ → ρ}
    (h : ∀ r, hit r = true → p r = false ∧ p (change r) = false) (t : List ρ) :
    (update hit change t).filter p = t.filter p := by
  induction t with
  | nil => rfl
  | cons r t ih =>
    rw [update] at ih ⊢
    rw [List.map_cons]
    by_cases hh : hit r = true
    · rw [if_pos hh, List.filter_cons_of_neg (by simp [(h r hh).2]),
        List.filter_cons_of_neg (by simp [(h r hh).1]), ih]
    · rw [if_neg hh]
      by_cases hp : p r = true
      · rw [List.filter_cons_of_pos hp, List.filter_cons_of_pos hp, ih]
      · rw [List.filter_cons_of_neg hp, List.filter_cons_of_neg hp, ih]

lemma filter_insertOrUpdate {hit p : ρ → Bool} {change : ρ → ρ} {fresh : ρ}
    (h : ∀ r, hit r = true → p r = false ∧ p (change r) = false) (hf : p fresh = false)
    (t : List ρ) : (insertOrUpdate hit change fresh t).filter p = t.filter p := by
  unfold insertOrUpdate
  split
  · exact filter_update h t
  · simp [List.filter_append, hf]

lemma filter_insertOrIgnore {hit p : ρ → Bool} {fresh : ρ} (hf : p fresh = false)
    (t : List ρ) : (insertOrIgnore hit fresh t).filter p = t.filter p := by
  unfold insertOrIgnore
  split
  · rfl
  · simp [List.filter_append, hf]

lemma filter_delete {hit p : ρ → Bool} (h : ∀ r, hit r = true → p r = false) (t : List ρ) :
    (delete hit t).filter p = t.filter p := by
  rw [delete, List.filter_filter]
  refine List.filter_congr fun r _ => ?_
  by_cases hh : hit r = true
  · simp [h r hh]
  · simp [hh]

/-! ## Looking a row up -/

lemma find?_update {hit p : ρ → Bool} {change : ρ → ρ}
    (h : ∀ r, hit r = true → p (change r) = p r) (t : List ρ) :
    (update hit change t).find? p =
      (t.find? p).map fun r => if hit r then change r else r := by
  induction t with
  | nil => rfl
  | cons r t ih =>
    rw [update] at ih ⊢
    rw [List.map_cons]
    by_cases hh : hit r = true
    · rw [if_pos hh]
      by_cases hp : p r = true
      · rw [List.find?_cons_of_pos (by rw [h r hh, hp]), List.find?_cons_of_pos hp]
        simp [hh]
      · rw [List.find?_cons_of_neg (by rw [h r hh]; exact hp), List.find?_cons_of_neg hp, ih]
    · rw [if_neg hh]
      by_cases hp : p r = true
      · rw [List.find?_cons_of_pos hp, List.find?_cons_of_pos hp]
        simp [hh]
      · rw [List.find?_cons_of_neg hp, List.find?_cons_of_neg hp, ih]

lemma find?_eq_none_of_any_false {hit p : ρ → Bool} {t : List ρ} (h : t.any hit = false)
    (hp : ∀ r, p r = true → hit r = true) : t.find? p = none := by
  rw [List.find?_eq_none]
  intro r hr hpr
  rw [List.any_eq_false] at h
  exact h r hr (hp r hpr)

/-- The row under the key after it: the one there was, changed, or the new one. -/
lemma find?_insertOrUpdate {hit : ρ → Bool} {change : ρ → ρ} {fresh : ρ}
    (hchange : ∀ r, hit r = true → hit (change r) = true) (hfresh : hit fresh = true)
    (t : List ρ) :
    (insertOrUpdate hit change fresh t).find? hit =
      some (((t.find? hit).map change).getD fresh) := by
  unfold insertOrUpdate
  split
  · rename_i hany
    rw [find?_update fun r hr => by rw [hr, hchange r hr]]
    rcases hf : t.find? hit with _ | r
    · rw [List.find?_eq_none] at hf
      obtain ⟨r, hr, hhit⟩ := List.any_eq_true.mp hany
      exact absurd hhit (hf r hr)
    · simp [List.find?_some hf]
  · rename_i hany
    have hnone : t.find? hit = none :=
      find?_eq_none_of_any_false (by simpa using hany) fun _ h => h
    rw [List.find?_append, hnone]
    simp [hfresh]

/-- There is a row that is hit after it. -/
lemma exists_hit_insertOrUpdate {hit : ρ → Bool} {change : ρ → ρ} {fresh : ρ}
    (hchange : ∀ r, hit r = true → hit (change r) = true) (hfresh : hit fresh = true)
    (t : List ρ) : ∃ r ∈ insertOrUpdate hit change fresh t, hit r = true := by
  have hfind := find?_insertOrUpdate hchange hfresh t
  exact ⟨_, List.mem_of_find?_eq_some hfind, List.find?_some hfind⟩

/-- The other rows are found as before. -/
lemma find?_insertOrUpdate_of_ne {hit p : ρ → Bool} {change : ρ → ρ} {fresh : ρ}
    (h : ∀ r, hit r = true → p r = false ∧ p (change r) = false) (hf : p fresh = false)
    (t : List ρ) : (insertOrUpdate hit change fresh t).find? p = t.find? p := by
  rw [← List.head?_filter, filter_insertOrUpdate h hf, List.head?_filter]

/-! ## Views -/

/-- The selected rows in another form. -/
def view (p : ρ → Bool) (f : ρ → τ) (t : List ρ) : List τ := (t.filter p).map f

section View

variable {p hit : ρ → Bool} {f : ρ → τ} {hit' : τ → Bool}

/-- A statement that hits selected rows only hits what the view shows. -/
lemma any_view (hp : ∀ r, hit r = true → p r = true) (hhit : ∀ r, p r = true → hit' (f r) = hit r)
    (t : List ρ) : (view p f t).any hit' = t.any hit := by
  induction t with
  | nil => rfl
  | cons r t ih =>
    rw [view] at ih ⊢
    rw [List.any_cons]
    by_cases hr : p r = true
    · rw [List.filter_cons_of_pos hr, List.map_cons, List.any_cons, ih, hhit r hr]
    · have hno : hit r = false := Bool.eq_false_iff.mpr (mt (hp r) hr)
      rw [List.filter_cons_of_neg hr, ih, hno, Bool.false_or]

lemma view_update {change : ρ → ρ} {change' : τ → τ} (hp : ∀ r, hit r = true → p r = true)
    (hhit : ∀ r, p r = true → hit' (f r) = hit r)
    (hchange : ∀ r, hit r = true → p (change r) = true ∧ f (change r) = change' (f r))
    (t : List ρ) : view p f (update hit change t) = update hit' change' (view p f t) := by
  induction t with
  | nil => rfl
  | cons r t ih =>
    rw [view, view, update, update] at ih ⊢
    rw [List.map_cons]
    by_cases hh : hit r = true
    · have hr := hp r hh
      rw [if_pos hh, List.filter_cons_of_pos (hchange r hh).1, List.filter_cons_of_pos hr,
        List.map_cons, List.map_cons, List.map_cons, ih, if_pos (by rw [hhit r hr, hh]),
        (hchange r hh).2]
    · rw [if_neg hh]
      by_cases hr : p r = true
      · rw [List.filter_cons_of_pos hr, List.filter_cons_of_pos hr, List.map_cons, List.map_cons,
          List.map_cons, ih, if_neg (by rwa [hhit r hr])]
      · rw [List.filter_cons_of_neg hr, List.filter_cons_of_neg hr, ih]

lemma view_insertOrUpdate {change : ρ → ρ} {change' : τ → τ} {fresh : ρ}
    (hp : ∀ r, hit r = true → p r = true) (hhit : ∀ r, p r = true → hit' (f r) = hit r)
    (hchange : ∀ r, hit r = true → p (change r) = true ∧ f (change r) = change' (f r))
    (hfresh : p fresh = true) (t : List ρ) :
    view p f (insertOrUpdate hit change fresh t) =
      insertOrUpdate hit' change' (f fresh) (view p f t) := by
  rw [insertOrUpdate, insertOrUpdate, any_view hp hhit]
  split
  · exact view_update hp hhit hchange t
  · simp [view, List.filter_append, hfresh]

/-- Every row is mapped. -/
lemma map_insertOrUpdate {change : ρ → ρ} {change' : τ → τ} {fresh : ρ}
    (hhit : ∀ r, hit' (f r) = hit r) (hchange : ∀ r, f (change r) = change' (f r)) (t : List ρ) :
    (insertOrUpdate hit change fresh t).map f =
      insertOrUpdate hit' change' (f fresh) (t.map f) := by
  have h : view (fun _ => true) f (insertOrUpdate hit change fresh t) =
      insertOrUpdate hit' change' (f fresh) (view (fun _ => true) f t) :=
    view_insertOrUpdate (fun _ _ => rfl) (fun r _ => hhit r) (fun r _ => ⟨rfl, hchange r⟩) rfl t
  rwa [view, view, List.filter_true, List.filter_true] at h

lemma view_delete (hhit : ∀ r, p r = true → hit' (f r) = hit r) (t : List ρ) :
    view p f (delete hit t) = delete hit' (view p f t) := by
  rw [view, view, delete, delete, List.filter_map, List.filter_filter, List.filter_filter]
  congr 1
  refine List.filter_congr fun r _ => ?_
  by_cases hr : p r = true
  · simp [hr, hhit r hr]
  · simp [hr]

end View

/-! ## Order -/

/-- The rows stand in the order of their times, all of them before `now`. -/
structure Chronological (time : ρ → ℤ) (now : ℤ) (t : List ρ) : Prop where
  ordered : t.Pairwise fun a b => time a < time b
  past : ∀ r ∈ t, time r < now

namespace Chronological

variable {time : ρ → ℤ} {now later : ℤ} {t : List ρ}

lemma nil (time : ρ → ℤ) (now : ℤ) : Chronological time now [] := ⟨List.Pairwise.nil, by simp⟩

lemma mono (h : Chronological time now t) (hle : now ≤ later) : Chronological time later t :=
  ⟨h.ordered, fun r hr => (h.past r hr).trans_le hle⟩

/-- A row of now comes last. -/
lemma concat (h : Chronological time now t) {fresh : ρ} (hfresh : time fresh = now)
    (hlt : now < later) : Chronological time later (t ++ [fresh]) where
  ordered := by
    rw [List.pairwise_append]
    refine ⟨h.ordered, List.pairwise_singleton _ _, fun r hr r' hr' => ?_⟩
    rw [List.mem_singleton.mp hr', hfresh]
    exact h.past r hr
  past := by
    intro r hr
    rcases List.mem_append.mp hr with hr | hr
    · exact (h.past r hr).trans hlt
    · rwa [List.mem_singleton.mp hr, hfresh]

lemma insertOrUpdate (h : Chronological time now t) {hit : ρ → Bool} {change : ρ → ρ} {fresh : ρ}
    (hchange : ∀ r, time (change r) = time r) (hfresh : time fresh = now) (hlt : now < later) :
    Chronological time later (Table.insertOrUpdate hit change fresh t) := by
  rw [Table.insertOrUpdate]
  split
  · have htime : ∀ r, time (if hit r = true then change r else r) = time r := by
      intro r
      split
      · exact hchange r
      · rfl
    refine ⟨?_, ?_⟩
    · rw [Table.update, List.pairwise_map]
      simp only [htime]
      exact h.ordered
    · intro r hr
      obtain ⟨r', hr', rfl⟩ := List.mem_map.mp hr
      rw [htime]
      exact (h.past r' hr').trans hlt
  · exact h.concat hfresh hlt

lemma filter (h : Chronological time now t) (p : ρ → Bool) :
    Chronological time now (t.filter p) :=
  ⟨h.ordered.filter p, fun r hr => h.past r (List.mem_of_mem_filter hr)⟩

lemma delete (h : Chronological time now t) (hit : ρ → Bool) :
    Chronological time now (Table.delete hit t) := h.filter _

end Chronological

/-- The times of the listed rows do not increase. -/
lemma orderByDesc_times (time : ρ → ℤ) (t : List ρ) :
    ((orderByDesc time t).map time).Pairwise (· ≥ ·) := by
  have htotal : Std.Total fun a b : ρ => time b ≤ time a := ⟨fun a b => le_total (time b) (time a)⟩
  have htrans : IsTrans ρ fun a b => time b ≤ time a := ⟨fun a b c hab hbc => hbc.trans hab⟩
  rw [List.pairwise_map]
  exact List.pairwise_insertionSort _ t

/-- Rows that were appended in the order of their times are listed newest first. -/
lemma orderByDesc_eq_reverse {time : ρ → ℤ} {t : List ρ}
    (h : t.Pairwise fun a b => time a < time b) : orderByDesc time t = t.reverse := by
  induction t with
  | nil => rfl
  | cons r t ih =>
    rw [List.pairwise_cons] at h
    have hlast : ∀ l : List ρ, (∀ x ∈ l, time r < time x) →
        l.orderedInsert (fun a b => time b ≤ time a) r = l ++ [r] := by
      intro l hl
      induction l with
      | nil => rfl
      | cons x l ihl =>
        have hx : ¬ time x ≤ time r := not_le.mpr (hl x (by simp))
        rw [List.orderedInsert_cons, if_neg hx, ihl fun y hy => hl y (by simp [hy]),
          List.cons_append]
    have hsort : orderByDesc time (r :: t) =
        (orderByDesc time t).orderedInsert (fun a b => time b ≤ time a) r := rfl
    rw [hsort, ih h.2, hlast _ fun x hx => h.1 x (List.mem_reverse.mp hx), List.reverse_cons]

end Table
