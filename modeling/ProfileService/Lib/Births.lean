/-
# Rows with the time of their insertion

Entries insert and remove rows by key.  `since` is the time of the entry that inserted the row that
is there after a history: an entry that inserts a key which is there already, and one that only
changes rows, leave it as it was.  A table is dated when it has a row for exactly the keys that are
there, with the time that each is there since.
-/
import ProfileService.Lib.Keyed

namespace Table

variable {ρ κ E : Type*}

/-- What an entry does to the row of a key. -/
inductive Fate
  | inserted (time : ℤ)
  | removed
  | kept
deriving DecidableEq

/-- Since when the row is there, after what happened to it. -/
def Fate.after : Fate → Option ℤ → Option ℤ
  | .inserted time, born => some (born.getD time)
  | .removed, _ => none
  | .kept, born => born

/-- Since when the row of the key is there. -/
def since (fate : κ → E → Fate) (k : κ) (es : List E) : Option ℤ :=
  es.foldl (fun born e => (fate k e).after born) none

/-- The rows that are there, each with the time, as the stamp has it, that it is there since. -/
def Dated (hit : κ → ρ → Bool) (stamp : ρ → Option ℤ) (stamped : ℤ → Option ℤ)
    (fate : κ → E → Fate) (es : List E) (t : List ρ) : Prop :=
  ∀ k, (t.find? (hit k)).map stamp = (since fate k es).map stamped

section Dated

variable {fate : κ → E → Fate} {es : List E} {e : E}

lemma since_concat (k : κ) : since fate k (es ++ [e]) = (fate k e).after (since fate k es) := by
  simp [since]

variable {hit : κ → ρ → Bool} {key : ρ → Option κ} {stamp : ρ → Option ℤ}
  {stamped : ℤ → Option ℤ} {t : List ρ}

lemma Dated.nil : Dated hit stamp stamped fate [] [] := fun _ => rfl

/-- An entry about other tables. -/
lemma Dated.keep (h : Dated hit stamp stamped fate es t) (hkept : ∀ k, fate k e = .kept) :
    Dated hit stamp stamped fate (es ++ [e]) t := by
  intro k
  rw [since_concat, hkept, Fate.after, h k]

/-- A row carries the time that its key is there since. -/
lemma Dated.stamp_eq (h : Dated hit stamp stamped fate es t) {k : κ} {r : ρ}
    (hr : t.find? (hit k) = some r) :
    ∃ time, since fate k es = some time ∧ stamp r = stamped time := by
  have hk := h k
  rw [hr, Option.map_some] at hk
  obtain ⟨time, htime, hstamp⟩ := Option.map_eq_some_iff.mp hk.symm
  exact ⟨time, htime, hstamp.symm⟩

/-- The rows of a table are those of the keys that are there, each with the time. -/
structure RowsSince (key : ρ → Option κ) (stamp : ρ → Option ℤ) (stamped : ℤ → Option ℤ)
    (fate : κ → E → Fate) (es : List E) (t : List ρ) : Prop where
  stamp : ∀ r ∈ t, ∀ k, key r = some k → ∃ time, since fate k es = some time ∧
    stamp r = stamped time
  present : ∀ k, (since fate k es).isSome ↔ ∃ r ∈ t, key r = some k

/-- In a dated table without two rows of one key every row is dated. -/
lemma Dated.rowsSince (h : Dated hit stamp stamped fate es t) (hselects : Selects hit key)
    (hunique : (t.filterMap key).Nodup) : RowsSince key stamp stamped fate es t where
  stamp r hr k hk := by
    refine h.stamp_eq ((find?_eq_some_iff_key hselects ?_).mpr ⟨hr, hk⟩)
    exact fun r₁ h₁ r₂ h₂ hk₁ hk₂ => eq_of_nodup_filterMap hunique h₁ h₂ hk₁ hk₂
  present k := by
    have hsome : (since fate k es).isSome = (t.find? (hit k)).isSome := by
      rw [← Option.isSome_map (f := stamped), ← h k, Option.isSome_map]
    rw [hsome, List.find?_isSome]
    exact exists_congr fun r => and_congr_right fun _ => hselects k r

variable [DecidableEq κ]

/-- Rows are changed, and the changes keep their times. -/
lemma Dated.update (h : Dated hit stamp stamped fate es t) (hselects : Selects hit key)
    (hkept : ∀ k, fate k e = .kept) {change : ρ → ρ} (hchange : ∀ r, key (change r) = key r)
    (hstamp : ∀ r, stamp (change r) = stamp r) (k₀ : κ) :
    Dated hit stamp stamped fate (es ++ [e]) (update (hit k₀) change t) := by
  intro k
  rw [since_concat, hkept, Fate.after, find?_update_key hselects hchange, ← h k]
  by_cases hk : k = k₀
  · rw [if_pos hk, hk, Option.map_map]
    exact Option.map_congr fun r _ => hstamp r
  · rw [if_neg hk]

/-- A row is inserted, or one that is there is changed and keeps its time. -/
lemma Dated.insertOrUpdate (h : Dated hit stamp stamped fate es t) (hselects : Selects hit key)
    (k₀ : κ) {now : ℤ} (hfate : ∀ k, fate k e = if k = k₀ then .inserted now else .kept)
    {change : ρ → ρ} (hchange : ∀ r, key (change r) = key r)
    (hstamp : ∀ r, stamp (change r) = stamp r) {fresh : ρ} (hfresh : key fresh = some k₀)
    (hnow : stamp fresh = stamped now) :
    Dated hit stamp stamped fate (es ++ [e]) (insertOrUpdate (hit k₀) change fresh t) := by
  intro k
  rw [since_concat, hfate, find?_insertOrUpdate_key hselects hchange hfresh]
  by_cases hk : k = k₀
  · subst hk
    rw [if_pos rfl, if_pos rfl, Fate.after]
    have hrow := h k
    rcases hfound : t.find? (hit k) with _ | r
    · rw [hfound] at hrow
      rw [Option.map_eq_none_iff.mp hrow.symm]
      exact congrArg some hnow
    · obtain ⟨time, htime, hold⟩ := h.stamp_eq hfound
      rw [htime]
      exact congrArg some ((hstamp r).trans hold)
  · rw [if_neg hk, if_neg hk, Fate.after, h k]

/-- The row of a key is removed. -/
lemma Dated.delete (h : Dated hit stamp stamped fate es t) (hselects : Selects hit key) (k₀ : κ)
    (hfate : ∀ k, fate k e = if k = k₀ then .removed else .kept) :
    Dated hit stamp stamped fate (es ++ [e]) (delete (hit k₀) t) := by
  intro k
  rw [since_concat, hfate, find?_delete_key hselects]
  by_cases hk : k = k₀
  · rw [if_pos hk, if_pos hk]
    rfl
  · rw [if_neg hk, if_neg hk, Fate.after, h k]

end Dated

end Table
