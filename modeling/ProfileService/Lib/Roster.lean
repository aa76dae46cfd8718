/-
# Rosters

A roster lists keys with values, in the order in which the keys came in.  To put a key that is
on it gives the key a new value in its place, to put another one appends it, and to drop a key
takes it off.  `replay` is the roster after some operations.  The result describes it by the
operations alone: a key is on it exactly if the latest operation that names the key is a put,
with the value of that put, and the keys stand in the order of the puts that brought them in.
-/
import ProfileService.Lib.Mealy
import ProfileService.Lib.Table

namespace Roster

variable {κ α : Type*}

/-- An operation on a roster. -/
inductive Op (κ α : Type*)
  | put (key : κ) (value : α)
  | drop (key : κ)
deriving DecidableEq

variable [DecidableEq κ]

/-- The entries with the key. -/
def hasKey (k : κ) (e : κ × α) : Bool := e.1 == k

lemma hasKey_iff {k : κ} {e : κ × α} : hasKey k e = true ↔ e.1 = k := beq_iff_eq

/-- The roster after the operation. -/
def Op.apply (t : List (κ × α)) : Op κ α → List (κ × α)
  | .put k v => Table.insertOrUpdate (hasKey k) (fun e => (e.1, v)) (k, v) t
  | .drop k => Table.delete (hasKey k) t

/-- The roster after the operations. -/
def replay (ops : List (Op κ α)) : List (κ × α) := ops.foldl Op.apply []

@[simp] lemma replay_nil : replay ([] : List (Op κ α)) = [] := rfl

@[simp] lemma replay_concat (ops : List (Op κ α)) (op : Op κ α) :
    replay (ops ++ [op]) = op.apply (replay ops) := by
  simp [replay]

/-! ## The latest operation on a key -/

/-- What an operation does to a key: `none` when it names another one, and else the value that
the key has after it, if any. -/
def Op.outcome (k : κ) : Op κ α → Option (Option α)
  | .put k' v => if k' = k then some (some v) else none
  | .drop k' => if k' = k then some none else none

/-- The latest operation that names the key puts it with the value. -/
def On (ops : List (Op κ α)) (k : κ) (v : α) : Prop :=
  Mealy.latest (Op.outcome k) ops = some (some v)

lemma on_concat (ops : List (Op κ α)) (op : Op κ α) (k : κ) (v : α) :
    On (ops ++ [op]) k v ↔ (op.outcome k).elim (On ops k v) (· = some v) := by
  rw [On, Mealy.latest_concat]
  cases op.outcome k <;> simp [On]

lemma mem_put (t : List (κ × α)) (k k' : κ) (v v' : α) :
    (k', v') ∈ (Op.put k v).apply t ↔ if k = k' then v' = v else (k', v') ∈ t := by
  rw [Op.apply, Table.insertOrUpdate]
  by_cases hany : t.any (hasKey k) = true
  · obtain ⟨e, he, hk⟩ := List.any_eq_true.mp hany
    rw [hasKey_iff] at hk
    rw [if_pos hany, Table.mem_update]
    split
    · rename_i heq
      constructor
      · rintro (⟨-, hno⟩ | ⟨e', -, -, hv⟩)
        · have hyes : hasKey k (k', v') = true := hasKey_iff.mpr heq.symm
          exact absurd hyes (Bool.eq_false_iff.mp hno)
        · exact (Prod.mk.inj hv).2
      · intro hv
        exact Or.inr ⟨e, he, hasKey_iff.mpr hk, by rw [hk, heq, hv]⟩
    · rename_i hne
      constructor
      · rintro (⟨hmem, -⟩ | ⟨e', -, hk', hv⟩)
        · exact hmem
        · rw [hasKey_iff] at hk'
          exact absurd (hk'.symm.trans (Prod.mk.inj hv).1.symm) hne
      · intro hmem
        exact Or.inl ⟨hmem, Bool.eq_false_iff.mpr (mt hasKey_iff.mp (Ne.symm hne))⟩
  · have hnot : ∀ e ∈ t, e.1 ≠ k := fun e he hk =>
      hany (List.any_eq_true.mpr ⟨e, he, hasKey_iff.mpr hk⟩)
    rw [if_neg hany, List.mem_append, List.mem_singleton, Prod.mk.injEq]
    split
    · rename_i heq
      constructor
      · rintro (hmem | ⟨-, hv⟩)
        · exact absurd heq.symm (hnot _ hmem)
        · exact hv
      · exact fun hv => Or.inr ⟨heq.symm, hv⟩
    · rename_i hne
      exact ⟨fun h => h.resolve_right fun hv => hne hv.1.symm, Or.inl⟩

lemma mem_drop (t : List (κ × α)) (k k' : κ) (v' : α) :
    (k', v') ∈ (Op.drop k).apply t ↔ k ≠ k' ∧ (k', v') ∈ t := by
  rw [Op.apply, Table.delete, List.mem_filter, and_comm, hasKey, Bool.not_eq_true',
    beq_eq_false_iff_ne, ne_comm]

lemma mem_apply (t : List (κ × α)) (op : Op κ α) (k : κ) (v : α) :
    (k, v) ∈ op.apply t ↔ (op.outcome k).elim ((k, v) ∈ t) (· = some v) := by
  cases op with
  | put k' v' =>
    rw [mem_put, Op.outcome]
    by_cases hk : k' = k <;> simp [hk, eq_comm]
  | drop k' =>
    rw [mem_drop, Op.outcome]
    by_cases hk : k' = k <;> simp [hk]

/-- A key is on the roster with the value of the latest put. -/
lemma mem_replay (ops : List (Op κ α)) (k : κ) (v : α) : (k, v) ∈ replay ops ↔ On ops k v := by
  induction ops using List.reverseRecOn with
  | nil => simp [On]
  | append_singleton ops op ih => rw [replay_concat, mem_apply, on_concat, ih]

/-! ## Rosters in a table -/

section View

variable {ρ ω : Type*} [DecidableEq ω] {owner : ρ → ω} {entry : ρ → κ × α} {k o : ω}
  {selected hit : ρ → Bool} {c : κ}

/-- In a table with a roster for every owner, an insertion under the key of an owner is a put
on the roster of that owner. -/
lemma view_insertOrUpdate (hselected : ∀ r, selected r = true ↔ owner r = k)
    (hhit : ∀ r, hit r = true ↔ owner r = o ∧ (entry r).1 = c) {v : α} {change : ρ → ρ} {fresh : ρ}
    (hchange : ∀ r, owner (change r) = owner r ∧ entry (change r) = ((entry r).1, v))
    (hfresh : owner fresh = o ∧ entry fresh = (c, v)) (t : List ρ) :
    Table.view selected entry (Table.insertOrUpdate hit change fresh t) =
      if o = k then (Op.put c v).apply (Table.view selected entry t)
      else Table.view selected entry t := by
  split
  · rename_i hk
    subst hk
    have hkey : ∀ r, selected r = true → hasKey c (entry r) = hit r := by
      intro r hr
      rw [hselected] at hr
      rw [Bool.eq_iff_iff, hasKey_iff, hhit, and_iff_right hr]
    rw [Op.apply, ← hfresh.2]
    refine Table.view_insertOrUpdate ?_ hkey ?_ ?_ t
    · exact fun r hr => (hselected r).mpr ((hhit r).mp hr).1
    · intro r hr
      refine ⟨(hselected _).mpr ?_, (hchange r).2⟩
      rw [(hchange r).1]
      exact ((hhit r).mp hr).1
    · exact (hselected _).mpr hfresh.1
  · rename_i hne
    have hnot : ∀ r, owner r = o → selected r = false := by
      intro r hr
      rw [Bool.eq_false_iff, Ne, hselected, hr]
      exact hne
    rw [Table.view, Table.filter_insertOrUpdate ?_ (hnot fresh hfresh.1), Table.view]
    intro r hr
    have howner := ((hhit r).mp hr).1
    exact ⟨hnot r howner, hnot _ ((hchange r).1.trans howner)⟩

/-- A deletion under the key of an owner is a drop from the roster of that owner. -/
lemma view_delete (hselected : ∀ r, selected r = true ↔ owner r = k)
    (hhit : ∀ r, hit r = true ↔ owner r = o ∧ (entry r).1 = c) (t : List ρ) :
    Table.view selected entry (Table.delete hit t) =
      if o = k then (Op.drop c).apply (Table.view selected entry t)
      else Table.view selected entry t := by
  split
  · rename_i hk
    subst hk
    refine Table.view_delete (fun r hr => ?_) t
    rw [hselected] at hr
    rw [Bool.eq_iff_iff, hasKey_iff, hhit, and_iff_right hr]
  · rename_i hne
    rw [Table.view, Table.filter_delete ?_, Table.view]
    intro r hr
    rw [Bool.eq_false_iff, Ne, hselected, ((hhit r).mp hr).1]
    exact hne

end View

/-! ## The order of the keys -/

/-- The key came in with the operation at `i`: a put when it was not there, and it was not
dropped since. -/
structure Entered (ops : List (Op κ α)) (k : κ) (i : ℕ) : Prop where
  put : ∃ v, ops[i]? = some (.put k v)
  fresh : ∀ v, ¬ On (ops.take i) k v
  kept : ∀ j, i < j → ops[j]? ≠ some (.drop k)

lemma Entered.lt {ops : List (Op κ α)} {k : κ} {i : ℕ} (h : Entered ops k i) :
    i < ops.length := by
  obtain ⟨v, hv⟩ := h.put
  exact (List.getElem?_eq_some_iff.mp hv).1

/-- Any other operation than its drop leaves a key where it came in. -/
lemma Entered.concat {ops : List (Op κ α)} {k : κ} {i : ℕ} (h : Entered ops k i)
    {op : Op κ α} (hop : op ≠ .drop k) : Entered (ops ++ [op]) k i where
  put := by
    rw [List.getElem?_append_left h.lt]
    exact h.put
  fresh := by
    rw [List.take_append_of_le_length h.lt.le]
    exact h.fresh
  kept := by
    intro j hj
    rcases lt_or_ge j ops.length with hlt | hge
    · rw [List.getElem?_append_left hlt]
      exact h.kept j hj
    · rw [List.getElem?_append_right hge]
      intro hdrop
      have hmem := List.mem_of_getElem? hdrop
      exact hop (List.mem_singleton.mp hmem).symm

/-- A key that was not there comes in with its put. -/
lemma entered_put {ops : List (Op κ α)} {k : κ} (h : ∀ v, ¬ On ops k v) (v : α) :
    Entered (ops ++ [.put k v]) k ops.length where
  put := ⟨v, List.getElem?_concat_length⟩
  fresh := by
    rw [List.take_left]
    exact h
  kept := by
    intro j hj hdrop
    have hlt := (List.getElem?_eq_some_iff.mp hdrop).1
    rw [List.length_append, List.length_singleton] at hlt
    omega

/-- The first key came in before the second. -/
def Before (ops : List (Op κ α)) (k k' : κ) : Prop :=
  ∃ i j, Entered ops k i ∧ Entered ops k' j ∧ i < j

lemma Before.concat {ops : List (Op κ α)} {k k' : κ} (h : Before ops k k') {op : Op κ α}
    (hk : op ≠ .drop k) (hk' : op ≠ .drop k') : Before (ops ++ [op]) k k' := by
  obtain ⟨i, j, hi, hj, hlt⟩ := h
  exact ⟨i, j, hi.concat hk, hj.concat hk', hlt⟩

/-- The keys of the roster. -/
lemma mem_keys_replay {ops : List (Op κ α)} {k : κ} :
    k ∈ (replay ops).map Prod.fst ↔ ∃ v, On ops k v := by
  rw [List.mem_map]
  constructor
  · rintro ⟨⟨k', v⟩, hmem, rfl⟩
    exact ⟨v, (mem_replay ops _ v).mp hmem⟩
  · rintro ⟨v, hv⟩
    exact ⟨(k, v), (mem_replay ops k v).mpr hv, rfl⟩

/-- A put of a key keeps the keys, or appends it when it was not there. -/
lemma keys_put (t : List (κ × α)) (k : κ) (v : α) :
    ((Op.put k v).apply t).map Prod.fst =
      if k ∈ t.map Prod.fst then t.map Prod.fst else t.map Prod.fst ++ [k] := by
  have hany : t.any (hasKey k) = true ↔ k ∈ t.map Prod.fst := by
    simp [hasKey_iff, List.any_eq_true]
  rw [Op.apply, Table.insertOrUpdate]
  by_cases h : k ∈ t.map Prod.fst
  · rw [if_pos h, if_pos (hany.mpr h)]
    refine Table.map_update ?_ t
    intro e _
    rfl
  · rw [if_neg h, if_neg (mt hany.mp h), List.map_append, List.map_singleton]

/-- A drop of a key takes it out. -/
lemma keys_drop (t : List (κ × α)) (k : κ) :
    ((Op.drop k).apply t).map Prod.fst = (t.map Prod.fst).filter fun k' => !(k' == k) := by
  rw [Op.apply, Table.delete, List.filter_map]
  rfl

/-- The keys stand in the order in which they came in. -/
lemma ordered_replay (ops : List (Op κ α)) :
    (((replay ops).map Prod.fst).Nodup ∧ ((replay ops).map Prod.fst).Pairwise (Before ops)) ∧
      ∀ k ∈ (replay ops).map Prod.fst, ∃ i, Entered ops k i := by
  induction ops using List.reverseRecOn with
  | nil => simp
  | append_singleton ops op ih =>
    obtain ⟨⟨hnodup, hordered⟩, hentered⟩ := ih
    rw [replay_concat]
    cases op with
    | put k v =>
      have hput : ∀ k', Op.put k v ≠ .drop k' := by simp
      have hordered' := hordered.imp fun h => h.concat (hput _) (hput _)
      rw [keys_put]
      by_cases hk : k ∈ (replay ops).map Prod.fst
      · rw [if_pos hk]
        refine ⟨⟨hnodup, hordered'⟩, fun k' hk' => ?_⟩
        obtain ⟨i, hi⟩ := hentered k' hk'
        exact ⟨i, hi.concat (hput k')⟩
      · have hfresh : ∀ v, ¬ On ops k v := fun v hv => hk (mem_keys_replay.mpr ⟨v, hv⟩)
        rw [if_neg hk]
        refine ⟨⟨List.concat_eq_append ▸ hnodup.concat hk, ?_⟩, ?_⟩
        · rw [List.pairwise_append]
          refine ⟨hordered', List.pairwise_singleton _ _, fun k' hk' k'' hk'' => ?_⟩
          obtain rfl := List.mem_singleton.mp hk''
          obtain ⟨i, hi⟩ := hentered k' hk'
          exact ⟨i, _, hi.concat (hput k'), entered_put hfresh v, hi.lt⟩
        · intro k' hk'
          rcases List.mem_append.mp hk' with hk' | hk'
          · obtain ⟨i, hi⟩ := hentered k' hk'
            exact ⟨i, hi.concat (hput k')⟩
          · obtain rfl := List.mem_singleton.mp hk'
            exact ⟨_, entered_put hfresh v⟩
    | drop k =>
      rw [keys_drop]
      have hne : ∀ k' ∈ ((replay ops).map Prod.fst).filter fun k' => !(k' == k),
          k' ∈ (replay ops).map Prod.fst ∧ (Op.drop k : Op κ α) ≠ .drop k' := by
        intro k' hk'
        obtain ⟨hmem, hdiff⟩ := List.mem_filter.mp hk'
        refine ⟨hmem, ?_⟩
        rintro h
        obtain rfl := Op.drop.inj h
        simp at hdiff
      refine ⟨⟨hnodup.filter _, ?_⟩, fun k' hk' => ?_⟩
      · exact (hordered.filter _).imp_of_mem fun ha hb h => h.concat (hne _ ha).2 (hne _ hb).2
      · obtain ⟨hmem, hdrop⟩ := hne k' hk'
        obtain ⟨i, hi⟩ := hentered k' hmem
        exact ⟨i, hi.concat hdrop⟩

/-- A key is on the roster from the operation on with which it came in. -/
lemma Entered.on {ops : List (Op κ α)} {k : κ} {i : ℕ} (h : Entered ops k i) {m : ℕ} (hm : i < m) :
    ∃ v, On (ops.take m) k v := by
  induction m, hm using Nat.le_induction with
  | base =>
    obtain ⟨v, hv⟩ := h.put
    refine ⟨v, ?_⟩
    rw [List.take_add_one, hv, Option.toList_some, on_concat]
    simp [Op.outcome]
  | succ m hm ih =>
    obtain ⟨v, hv⟩ := ih
    rcases hop : ops[m]? with _ | op
    · rw [List.take_add_one, hop]
      exact ⟨v, by simpa using hv⟩
    · rw [List.take_add_one, hop, Option.toList_some]
      simp only [on_concat]
      cases op with
      | put k' v' =>
        by_cases hk : k' = k
        · exact ⟨v', by simp [Op.outcome, hk]⟩
        · exact ⟨v, by simpa [Op.outcome, hk] using hv⟩
      | drop k' =>
        have hk : k' ≠ k := by
          rintro rfl
          exact h.kept m hm hop
        exact ⟨v, by simpa [Op.outcome, hk] using hv⟩

/-- A key came in with one operation. -/
lemma Entered.unique {ops : List (Op κ α)} {k : κ} {i j : ℕ} (hi : Entered ops k i)
    (hj : Entered ops k j) : i = j := by
  rcases lt_trichotomy i j with hlt | heq | hlt
  · obtain ⟨v, hv⟩ := hi.on hlt
    exact absurd hv (hj.fresh v)
  · exact heq
  · obtain ⟨v, hv⟩ := hj.on hlt
    exact absurd hv (hi.fresh v)

lemma Before.asymm {ops : List (Op κ α)} {k k' : κ} (h : Before ops k k') : ¬ Before ops k' k := by
  rintro ⟨j', i', hj', hi', hlt'⟩
  obtain ⟨i, j, hi, hj, hlt⟩ := h
  have hii := hi.unique hi'
  have hjj := hj.unique hj'
  omega

/-! ## The result -/

/-- The list shows what the operations made: every key whose latest operation is a put, once
and with its value, the one that came in last first. -/
structure Lists (ops : List (Op κ α)) (t : List (κ × α)) : Prop where
  once : (t.map Prod.fst).Nodup
  latest : ∀ k v, (k, v) ∈ t ↔ On ops k v
  newestFirst : (t.map Prod.fst).Pairwise fun k k' => Before ops k' k

/-- Backwards, the roster after the operations shows what they made. -/
theorem lists_replay (ops : List (Op κ α)) : Lists ops (replay ops).reverse where
  once := by
    rw [List.map_reverse, List.nodup_reverse]
    exact (ordered_replay ops).1.1
  latest := by
    intro k v
    rw [List.mem_reverse, mem_replay]
  newestFirst := by
    rw [List.map_reverse, List.pairwise_reverse]
    exact (ordered_replay ops).1.2

/-- Only one list shows what operations made. -/
theorem Lists.unique {ops : List (Op κ α)} {t t' : List (κ × α)} (h : Lists ops t)
    (h' : Lists ops t') : t = t' := by
  have hperm : t.Perm t' := by
    refine (List.perm_ext_iff_of_nodup h.once.of_map h'.once.of_map).mpr ?_
    rintro ⟨k, v⟩
    rw [h.latest, h'.latest]
  refine hperm.eq_of_pairwise ?_ (List.pairwise_map.mp h.newestFirst)
    (List.pairwise_map.mp h'.newestFirst)
  intro e e' _ _ hbefore hbefore'
  exact absurd hbefore' hbefore.asymm

end Roster
