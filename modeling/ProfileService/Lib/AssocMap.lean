/-
# Association lists as hash maps

A hash map is the list of its entries in the order it is iterated in.  `assign` is
`m[k] = v`; a lookup after it finds the new value under its key and what was there under
any other.  A map that a sequence of assignments left holds the last value given to each
key, under any injective renaming of the keys, and a map of maps that is filled from its
entries holds the same values in whatever order they come.
-/
import Mathlib.Data.List.Induction
import Mathlib.Data.List.Nodup
import Mathlib.Data.List.Perm.Basic
import Mathlib.Tactic.Common

namespace AssocMap

variable {κ ν : Type*} [BEq κ]

/-- `m[k] = v`. -/
def assign (k : κ) (v : ν) (m : List (κ × ν)) : List (κ × ν) :=
  if (m.lookup k).isSome then m.map fun e => if e.1 == k then (k, v) else e
  else m ++ [(k, v)]

/-! ## Entries and lookups -/

/-- No key has two entries. -/
def Keyed (m : List (κ × ν)) : Prop := (m.map Prod.fst).Nodup

omit [BEq κ] in
lemma keyed_nil : Keyed ([] : List (κ × ν)) := List.nodup_nil

omit [BEq κ] in
lemma Keyed.of_perm {m m' : List (κ × ν)} (h : Keyed m) (hperm : m'.Perm m) : Keyed m' :=
  (hperm.map Prod.fst).nodup_iff.mpr h

variable [LawfulBEq κ]

lemma mem_of_lookup {m : List (κ × ν)} {k : κ} {v : ν} (h : m.lookup k = some v) :
    (k, v) ∈ m := by
  obtain ⟨m₁, m₂, rfl, -⟩ := List.lookup_eq_some_iff.mp h
  simp

/-- A lookup fails exactly for a key that no entry has. -/
lemma lookup_eq_none {m : List (κ × ν)} {k : κ} : m.lookup k = none ↔ k ∉ m.map Prod.fst := by
  rw [List.lookup_eq_none_iff]
  constructor
  · rintro h hmem
    obtain ⟨e, he, rfl⟩ := List.mem_map.mp hmem
    exact absurd (h e he) (by simp)
  · intro h e he
    have hne : k ≠ e.1 := by
      rintro rfl
      exact h (List.mem_map_of_mem he)
    simpa using hne

/-- Where keys are distinct, a lookup finds the entries. -/
lemma Keyed.lookup_eq_some {m : List (κ × ν)} (h : Keyed m) {k : κ} {v : ν} :
    m.lookup k = some v ↔ (k, v) ∈ m := by
  refine ⟨mem_of_lookup, fun hmem => ?_⟩
  induction m with
  | nil => exact absurd hmem (by simp)
  | cons e m ih =>
    obtain ⟨hnot, hm⟩ := List.nodup_cons.mp h
    rcases List.mem_cons.mp hmem with rfl | hmem
    · simp
    · have hne : k ≠ e.1 := by
        rintro rfl
        exact hnot (List.mem_map.mpr ⟨_, hmem, rfl⟩)
      rw [List.lookup_cons, beq_eq_false_iff_ne.mpr hne]
      exact ih hm hmem

/-- The order of the entries does not matter to a lookup. -/
lemma Keyed.lookup_perm {m m' : List (κ × ν)} (h : Keyed m) (hperm : m'.Perm m) (k : κ) :
    m'.lookup k = m.lookup k := by
  ext v
  rw [(h.of_perm hperm).lookup_eq_some, h.lookup_eq_some, hperm.mem_iff]

/-! ## Assignment -/

lemma lookup_replace (k k' : κ) (v : ν) (m : List (κ × ν)) :
    (m.map fun e => if e.1 == k then (k, v) else e).lookup k' =
      if k' == k then (m.lookup k').map fun _ => v else m.lookup k' := by
  induction m with
  | nil => simp
  | cons e m ih =>
    rw [List.map_cons, List.lookup_cons, ih]
    by_cases hk : e.1 = k <;> by_cases hk' : k' = k <;> grind

/-- A lookup after an assignment. -/
lemma lookup_assign (k k' : κ) (v : ν) (m : List (κ × ν)) :
    (assign k v m).lookup k' = if k' == k then some v else m.lookup k' := by
  unfold assign
  split
  · rename_i hsome
    rw [lookup_replace]
    by_cases hk : k' = k
    · subst hk
      obtain ⟨w, hw⟩ := Option.isSome_iff_exists.mp hsome
      simp [hw]
    · simp [hk]
  · rename_i hnone
    have hnone : m.lookup k = none := Option.not_isSome_iff_eq_none.mp hnone
    rw [List.lookup_append, List.lookup_cons, List.lookup_nil]
    by_cases hk : k' = k
    · subst hk
      simp [hnone]
    · simp [beq_eq_false_iff_ne.mpr hk]

lemma keys_assign (k : κ) (v : ν) (m : List (κ × ν)) :
    (assign k v m).map Prod.fst =
      if (m.lookup k).isSome then m.map Prod.fst else m.map Prod.fst ++ [k] := by
  unfold assign
  split
  · rw [List.map_map]
    refine List.map_congr_left fun e _ => ?_
    by_cases hk : e.1 = k <;> simp [hk]
  · simp

omit [LawfulBEq κ] in
/-- An assignment adds no entry but its own. -/
lemma mem_assign {k : κ} {v : ν} {m : List (κ × ν)} {e : κ × ν} (h : e ∈ assign k v m) :
    e = (k, v) ∨ e ∈ m := by
  unfold assign at h
  split at h
  · obtain ⟨e', he', rfl⟩ := List.mem_map.mp h
    split
    · exact Or.inl rfl
    · exact Or.inr he'
  · rcases List.mem_append.mp h with h | h
    · exact Or.inr h
    · exact Or.inl (List.mem_singleton.mp h)

lemma Keyed.assign {m : List (κ × ν)} (h : Keyed m) (k : κ) (v : ν) :
    Keyed (assign k v m) := by
  unfold Keyed
  rw [keys_assign]
  split
  · exact h
  · rename_i hnone
    have hnone : k ∉ m.map Prod.fst := 
      lookup_eq_none.mp (Option.not_isSome_iff_eq_none.mp hnone)
    rw [List.nodup_append]
    refine ⟨h, List.nodup_singleton k, ?_⟩
    rintro a ha b hb rfl
    rw [List.mem_singleton.mp hb] at ha
    exact hnone ha

/-! ## A sequence of assignments -/

/-- The map that assignments leave, from the empty one. -/
def assignAll (es : List (κ × ν)) : List (κ × ν) := es.foldl (fun m e => assign e.1 e.2 m) []

omit [LawfulBEq κ] in
lemma assignAll_concat (es : List (κ × ν)) (e : κ × ν) :
    assignAll (es ++ [e]) = assign e.1 e.2 (assignAll es) := by
  simp [assignAll]

/-- The last assignment to a key counts. -/
theorem lookup_assignAll (es : List (κ × ν)) (k : κ) :
    (assignAll es).lookup k = es.reverse.lookup k := by
  induction es using List.reverseRecOn with
  | nil => rfl
  | append_singleton es e ih =>
    rw [assignAll_concat, lookup_assign, ih, List.reverse_concat, List.lookup_cons]
    cases k == e.1 <;> rfl

omit [LawfulBEq κ] in
lemma mem_of_mem_assignAll {es : List (κ × ν)} {e : κ × ν} (h : e ∈ assignAll es) : e ∈ es := by
  induction es using List.reverseRecOn with
  | nil => exact h
  | append_singleton es e' ih =>
    rw [assignAll_concat] at h
    rcases mem_assign h with rfl | h
    · simp
    · exact List.mem_append_left _ (ih h)

lemma keyed_assignAll (es : List (κ × ν)) : Keyed (assignAll es) := by
  induction es using List.reverseRecOn with
  | nil => exact keyed_nil
  | append_singleton es e ih =>
    rw [assignAll_concat]
    exact ih.assign e.1 e.2

/-! ## Renaming the keys -/

section Rename

variable {κ' : Type*} [BEq κ'] [LawfulBEq κ'] (f : κ → κ')

lemma lookup_rename {m : List (κ × ν)} {k : κ} (hf : ∀ e ∈ m, f e.1 = f k → e.1 = k) :
    (m.map (Prod.map f id)).lookup (f k) = m.lookup k := by
  induction m with
  | nil => rfl
  | cons e m ih =>
    obtain ⟨k', w⟩ := e
    have hm := ih fun e he => hf e (List.mem_cons_of_mem _ he)
    have hbeq : (f k == f k') = (k == k') := by
      rw [Bool.eq_iff_iff, beq_iff_eq, beq_iff_eq]
      exact ⟨fun h => (hf (k', w) List.mem_cons_self h.symm).symm, congrArg f⟩
    rw [List.map_cons, Prod.map_apply, List.lookup_cons, List.lookup_cons, hbeq, hm, id]

/-- A renaming that keeps the keys apart commutes with an assignment. -/
lemma assign_rename {m : List (κ × ν)} {k : κ} (hf : ∀ e ∈ m, f e.1 = f k → e.1 = k) (v : ν) :
    (assign k v m).map (Prod.map f id) = assign (f k) v (m.map (Prod.map f id)) := by
  unfold assign
  rw [lookup_rename f hf]
  split
  · rw [List.map_map, List.map_map]
    refine List.map_congr_left fun e he => ?_
    by_cases hk : e.1 = k
    · simp [hk]
    · have hk' : f e.1 ≠ f k := fun h => hk (hf e he h)
      simp [hk, hk']
  · simp

/-- Assigning under renamed keys is renaming what the assignments left. -/
theorem assignAll_rename {es : List (κ × ν)}
    (hf : ∀ e ∈ es, ∀ e' ∈ es, f e.1 = f e'.1 → e.1 = e'.1) :
    assignAll (es.map (Prod.map f id)) = (assignAll es).map (Prod.map f id) := by
  induction es using List.reverseRecOn with
  | nil => rfl
  | append_singleton es e ih =>
    have hes := ih fun e₁ h₁ e₂ h₂ =>
      hf e₁ (List.mem_append_left _ h₁) e₂ (List.mem_append_left _ h₂)
    have hlast : ∀ e' ∈ assignAll es, f e'.1 = f e.1 → e'.1 = e.1 := fun e' h' =>
      hf e' (List.mem_append_left _ (mem_of_mem_assignAll h')) e (by simp)
    rw [List.map_append, List.map_singleton, assignAll_concat, assignAll_concat, hes,
      assign_rename f hlast]
    rfl

end Rename

/-! ## Maps of maps -/

section Nested

variable {α β : Type*} [BEq α] [LawfulBEq α] [BEq β] [LawfulBEq β]

/-- The value in `m[a][b]`, if both are there. -/
def lookup₂ (a : α) (b : β) (m : List (α × List (β × ν))) : Option ν :=
  (m.lookup a).bind fun inner => inner.lookup b

/-- `m[a][b] = v`, where `m[a]` is the empty map before its first entry. -/
def assign₂ (a : α) (b : β) (v : ν) (m : List (α × List (β × ν))) : List (α × List (β × ν)) :=
  assign a (assign b v ((m.lookup a).getD [])) m

/-- The map of maps that assignments leave. -/
def assignAll₂ (es : List ((α × β) × ν)) : List (α × List (β × ν)) :=
  es.foldl (fun m e => assign₂ e.1.1 e.1.2 e.2 m) []

omit [LawfulBEq α] [LawfulBEq β] in
lemma assignAll₂_concat (es : List ((α × β) × ν)) (e : (α × β) × ν) :
    assignAll₂ (es ++ [e]) = assign₂ e.1.1 e.1.2 e.2 (assignAll₂ es) := by
  simp [assignAll₂]

/-- A lookup after an assignment. -/
lemma lookup₂_assign₂ (a a' : α) (b b' : β) (v : ν) (m : List (α × List (β × ν))) :
    lookup₂ a' b' (assign₂ a b v m) =
      if (a', b') == (a, b) then some v else lookup₂ a' b' m := by
  unfold lookup₂ assign₂
  have hpair : ((a', b') == (a, b)) = (a' == a && b' == b) := rfl
  rw [lookup_assign, hpair]
  by_cases ha : a' = a
  · subst ha
    simp only [BEq.rfl, if_true, Bool.true_and, Option.bind_some, lookup_assign]
    cases m.lookup a' <;> rfl
  · simp [ha]

/-- The last assignment to a pair of keys counts. -/
theorem lookup₂_assignAll₂ (es : List ((α × β) × ν)) (a : α) (b : β) :
    lookup₂ a b (assignAll₂ es) = es.reverse.lookup (a, b) := by
  induction es using List.reverseRecOn with
  | nil => rfl
  | append_singleton es e ih =>
    rw [assignAll₂_concat, lookup₂_assign₂, ih, List.reverse_concat, List.lookup_cons]
    cases (a, b) == e.1 <;> rfl

/-- A map of maps that is filled from the entries of a map, in any order, holds what the map
holds. -/
theorem lookup₂_assignAll₂_perm {m es : List ((α × β) × ν)} (hm : Keyed m) (h : es.Perm m)
    (a : α) (b : β) : lookup₂ a b (assignAll₂ es) = m.lookup (a, b) := by
  rw [lookup₂_assignAll₂]
  exact hm.lookup_perm (es.reverse_perm.trans h) (a, b)

/-- No key has two entries, neither outside nor inside. -/
structure Keyed₂ (m : List (α × List (β × ν))) : Prop where
  outer : Keyed m
  inner : ∀ e ∈ m, Keyed e.2

lemma Keyed₂.assign₂ {m : List (α × List (β × ν))} (h : Keyed₂ m) (a : α) (b : β) (v : ν) :
    Keyed₂ (assign₂ a b v m) where
  outer := h.outer.assign a _
  inner := by
    intro e he
    rcases mem_assign he with rfl | he
    · refine Keyed.assign ?_ b v
      rcases hl : m.lookup a with _ | inner
      · exact keyed_nil
      · exact h.inner _ (mem_of_lookup hl)
    · exact h.inner e he

lemma keyed₂_assignAll₂ (es : List ((α × β) × ν)) : Keyed₂ (assignAll₂ es) := by
  induction es using List.reverseRecOn with
  | nil => exact ⟨keyed_nil, by simp [assignAll₂]⟩
  | append_singleton es e ih =>
    rw [assignAll₂_concat]
    exact ih.assign₂ e.1.1 e.1.2 e.2

/-- Where keys are distinct, a lookup finds the entries. -/
lemma Keyed₂.lookup₂_eq_some {m : List (α × List (β × ν))} (h : Keyed₂ m) {a : α} {b : β}
    {v : ν} : lookup₂ a b m = some v ↔ ∃ inner, (a, inner) ∈ m ∧ (b, v) ∈ inner := by
  rw [lookup₂, Option.bind_eq_some_iff]
  constructor
  · rintro ⟨inner, hinner, hv⟩
    exact ⟨inner, mem_of_lookup hinner, mem_of_lookup hv⟩
  · rintro ⟨inner, hinner, hv⟩
    exact ⟨inner, h.outer.lookup_eq_some.mpr hinner, (h.inner _ hinner).lookup_eq_some.mpr hv⟩

end Nested

end AssocMap
