/-
# Tables read as maps

A table in which rows are found by a key is a map from keys to rows.  The statements that
change it at one key do there what a map does and nothing at any other key.
-/
import Mathlib.Logic.Function.Basic
import ProfileService.Lib.Table

namespace Table

variable {ρ κ : Type*}

/-- `hit k` selects the rows with the key `k`; a row may have no key. -/
def Selects (hit : κ → ρ → Bool) (key : ρ → Option κ) : Prop :=
  ∀ k r, hit k r = true ↔ key r = some k

section Keyed

variable {hit : κ → ρ → Bool} {key : ρ → Option κ}

/-- A row that is selected under one key is not selected under another. -/
lemma Selects.eq_false (h : Selects hit key) {k k' : κ} {r : ρ} (hr : hit k r = true)
    (hne : k' ≠ k) : hit k' r = false := by
  rw [Bool.eq_false_iff]
  intro hr'
  exact hne (Option.some.inj (((h k' r).mp hr').symm.trans ((h k r).mp hr)))

/-- A change that keeps the key keeps what selects the row. -/
lemma Selects.change (h : Selects hit key) {change : ρ → ρ} (hchange : ∀ r, key (change r) = key r)
    (k : κ) (r : ρ) : hit k (change r) = hit k r := by
  rw [Bool.eq_iff_iff, h, h, hchange]

/-- When no two rows have the key, the row that is found is the one with the key. -/
lemma find?_eq_some_iff_key (h : Selects hit key) {t : List ρ} {k : κ}
    (hunique : ∀ r ∈ t, ∀ r' ∈ t, key r = some k → key r' = some k → r = r') {r : ρ} :
    t.find? (hit k) = some r ↔ r ∈ t ∧ key r = some k := by
  constructor
  · intro hr
    exact ⟨List.mem_of_find?_eq_some hr, (h k r).mp (List.find?_some hr)⟩
  · rintro ⟨hr, hkey⟩
    rcases hfound : t.find? (hit k) with _ | r'
    · exact absurd ((h k r).mpr hkey) (List.find?_eq_none.mp hfound r hr)
    · rw [hunique r' (List.mem_of_find?_eq_some hfound) r hr
        ((h k r').mp (List.find?_some hfound)) hkey]

variable [DecidableEq κ]

lemma find?_update_key (h : Selects hit key) {change : ρ → ρ}
    (hchange : ∀ r, key (change r) = key r) (t : List ρ) (k₀ k : κ) :
    (update (hit k₀) change t).find? (hit k) =
      if k = k₀ then (t.find? (hit k₀)).map change else t.find? (hit k) := by
  rw [find?_update fun r _ => h.change hchange k r]
  by_cases hk : k = k₀
  · rw [if_pos hk, hk]
    exact Option.map_congr fun r hr => if_pos (List.find?_some hr)
  · rw [if_neg hk]
    refine (Option.map_congr fun r hr => ?_).trans (Option.map_id' ..)
    exact if_neg (by rw [h.eq_false (List.find?_some hr) (Ne.symm hk)]; simp)

lemma find?_insertOrUpdate_key (h : Selects hit key) {change : ρ → ρ} {fresh : ρ}
    (hchange : ∀ r, key (change r) = key r) {k₀ : κ} (hfresh : key fresh = some k₀) (t : List ρ)
    (k : κ) :
    (insertOrUpdate (hit k₀) change fresh t).find? (hit k) =
      if k = k₀ then some (((t.find? (hit k₀)).map change).getD fresh) else t.find? (hit k) := by
  have hnew : hit k₀ fresh = true := (h k₀ fresh).mpr hfresh
  by_cases hk : k = k₀
  · rw [if_pos hk, hk]
    exact find?_insertOrUpdate (fun r hr => (h.change hchange k₀ r).trans hr) hnew t
  · rw [if_neg hk]
    refine find?_insertOrUpdate_of_ne (fun r hr => ?_) (h.eq_false hnew hk) t
    exact ⟨h.eq_false hr hk, (h.change hchange k r).trans (h.eq_false hr hk)⟩

lemma find?_delete_key (h : Selects hit key) (t : List ρ) (k₀ k : κ) :
    (delete (hit k₀) t).find? (hit k) = if k = k₀ then none else t.find? (hit k) := by
  rw [delete, List.find?_filter]
  by_cases hk : k = k₀
  · rw [if_pos hk, hk, List.find?_eq_none]
    intro r _
    cases hit k₀ r <;> simp
  · rw [if_neg hk]
    refine congrArg (t.find? ·) (funext fun r => ?_)
    rcases hr : hit k r with _ | _
    · simp
    · simp [h.eq_false hr (Ne.symm hk)]

end Keyed

end Table
