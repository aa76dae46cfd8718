/-
# JSON values

A JSON document as a library for C++ holds it: an object is a map ordered by its keys,
here a list of members with strictly ascending keys, so that equal objects are equal
lists.  `Json.Codec` is what a program may rely on of such a library: that parsed text is
valid UTF-8, that printing fails on invalid UTF-8 only, and that printing is undone by
parsing.
-/
import Mathlib.Algebra.Group.Int.Defs
import Mathlib.Data.List.Induction
import ProfileService.Lib.Bytes

/-- A JSON value.  A number that is not an integer is kept without its value. -/
inductive Json
  | null
  | bool (b : Bool)
  | integer (n : ℤ)
  | float
  | string (s : Bytes)
  | array (items : List Json)
  | object (members : List (Bytes × Json))

namespace Json

/-! ## Objects -/

/-- Assignment to a key of an ordered map. -/
def insert (k : Bytes) (v : Json) : List (Bytes × Json) → List (Bytes × Json)
  | [] => [(k, v)]
  | m :: ms =>
      if k = m.1 then (k, v) :: ms
      else if k < m.1 then (k, v) :: m :: ms
      else m :: insert k v ms

/-- The object with the given members; a later assignment to a key replaces an earlier. -/
def ofMembers (ms : List (Bytes × Json)) : Json :=
  .object (ms.foldl (fun acc m => insert m.1 m.2 acc) [])

/-- The member of an object under a key. -/
def member? (j : Json) (k : Bytes) : Option Json :=
  match j with
  | .object ms => ms.lookup k
  | _ => none

lemma lookup_insert (k : Bytes) (v : Json) (ms : List (Bytes × Json)) (k' : Bytes) :
    (insert k v ms).lookup k' = if k' = k then some v else ms.lookup k' := by
  induction ms with
  | nil =>
    by_cases h : k' = k
    · simp [insert, h]
    · simp [insert, List.lookup_cons, beq_false_of_ne h, h]
  | cons m ms ih =>
    obtain ⟨mk, mv⟩ := m
    simp only [insert]
    by_cases h1 : k = mk
    · subst h1
      by_cases h : k' = k
      · subst h; simp
      · simp [List.lookup_cons, beq_false_of_ne h, h]
    rw [if_neg h1]
    by_cases h2 : k < mk
    · rw [if_pos h2, List.lookup_cons]
      by_cases h : k' = k
      · subst h; simp
      · simp [beq_false_of_ne h, h]
    · rw [if_neg h2, List.lookup_cons, ih, List.lookup_cons]
      by_cases h : k' = mk
      · subst h; simp [Ne.symm h1]
      · simp [beq_false_of_ne h]

/-- Among the assignments to a key the last one counts. -/
lemma member?_ofMembers (ms : List (Bytes × Json)) (k : Bytes) :
    (ofMembers ms).member? k = ms.reverse.lookup k := by
  simp only [ofMembers, member?]
  induction ms using List.reverseRecOn with
  | nil => rfl
  | append_singleton ms m ih =>
    obtain ⟨mk, mv⟩ := m
    rw [List.foldl_append, List.foldl_cons, List.foldl_nil, lookup_insert, ih,
      List.reverse_append, List.reverse_singleton, List.singleton_append, List.lookup_cons]
    by_cases h : k = mk
    · subst h; simp
    · simp [beq_false_of_ne h, h]

/-! ## Well-formed values -/

mutual

/-- Every string and every key is valid UTF-8. -/
def Utf8 : Json → Prop
  | .string s => s.ValidUtf8
  | .array items => Utf8Items items
  | .object ms => Utf8Members ms
  | _ => True

/-- `Utf8` for the items of an array. -/
def Utf8Items : List Json → Prop
  | [] => True
  | j :: js => j.Utf8 ∧ Utf8Items js

/-- `Utf8` for the members of an object. -/
def Utf8Members : List (Bytes × Json) → Prop
  | [] => True
  | (k, j) :: ms => k.ValidUtf8 ∧ j.Utf8 ∧ Utf8Members ms

end

mutual

/-- The keys of every object are strictly ascending. -/
def Sorted : Json → Prop
  | .array items => SortedItems items
  | .object ms => (ms.map Prod.fst).Pairwise (· < ·) ∧ SortedMembers ms
  | _ => True

/-- `Sorted` for the items of an array. -/
def SortedItems : List Json → Prop
  | [] => True
  | j :: js => j.Sorted ∧ SortedItems js

/-- `Sorted` for the values of the members of an object. -/
def SortedMembers : List (Bytes × Json) → Prop
  | [] => True
  | (_, j) :: ms => j.Sorted ∧ SortedMembers ms

end

mutual

/-- `Utf8` is decided along the value. -/
def decUtf8 : (j : Json) → Decidable j.Utf8
  | .null | .bool _ | .integer _ | .float => .isTrue True.intro
  | .string s => inferInstanceAs (Decidable s.ValidUtf8)
  | .array items => decUtf8Items items
  | .object ms => decUtf8Members ms

def decUtf8Items : (js : List Json) → Decidable (Utf8Items js)
  | [] => .isTrue True.intro
  | j :: js => @instDecidableAnd _ _ (decUtf8 j) (decUtf8Items js)

def decUtf8Members : (ms : List (Bytes × Json)) → Decidable (Utf8Members ms)
  | [] => .isTrue True.intro
  | (_, j) :: ms => @instDecidableAnd _ _ _ (@instDecidableAnd _ _ (decUtf8 j) (decUtf8Members ms))

end

instance (j : Json) : Decidable j.Utf8 := decUtf8 j

@[simp] lemma utf8_string {s : Bytes} : (Json.string s).Utf8 ↔ s.ValidUtf8 := Iff.rfl

@[simp] lemma utf8_integer (n : ℤ) : (Json.integer n).Utf8 := True.intro

@[simp] lemma utf8_bool (b : Bool) : (Json.bool b).Utf8 := True.intro

@[simp] lemma sorted_string (s : Bytes) : (Json.string s).Sorted := True.intro

@[simp] lemma sorted_integer (n : ℤ) : (Json.integer n).Sorted := True.intro

@[simp] lemma sorted_bool (b : Bool) : (Json.bool b).Sorted := True.intro

lemma utf8Items_iff {js : List Json} : Utf8Items js ↔ ∀ j ∈ js, j.Utf8 := by
  induction js with
  | nil => exact iff_of_true True.intro (List.forall_mem_nil _)
  | cons j js ih =>
    rw [List.forall_mem_cons, ← ih]
    rfl

lemma utf8Members_iff {ms : List (Bytes × Json)} :
    Utf8Members ms ↔ ∀ m ∈ ms, m.1.ValidUtf8 ∧ m.2.Utf8 := by
  induction ms with
  | nil => exact iff_of_true True.intro (List.forall_mem_nil _)
  | cons m ms ih =>
    rw [List.forall_mem_cons, ← ih, and_assoc]
    rfl

lemma sortedItems_iff {js : List Json} : SortedItems js ↔ ∀ j ∈ js, j.Sorted := by
  induction js with
  | nil => exact iff_of_true True.intro (List.forall_mem_nil _)
  | cons j js ih =>
    rw [List.forall_mem_cons, ← ih]
    rfl

lemma sortedMembers_iff {ms : List (Bytes × Json)} :
    SortedMembers ms ↔ ∀ m ∈ ms, m.2.Sorted := by
  induction ms with
  | nil => exact iff_of_true True.intro (List.forall_mem_nil _)
  | cons m ms ih =>
    rw [List.forall_mem_cons, ← ih]
    rfl

lemma mem_insert {k : Bytes} {v : Json} {ms : List (Bytes × Json)} {m : Bytes × Json}
    (h : m ∈ insert k v ms) : m = (k, v) ∨ m ∈ ms := by
  induction ms with
  | nil => simpa [insert] using h
  | cons m' ms ih =>
    simp only [insert] at h
    split_ifs at h
    · rcases List.mem_cons.mp h with h | h
      · exact Or.inl h
      · exact Or.inr (List.mem_cons_of_mem _ h)
    · rcases List.mem_cons.mp h with h | h
      · exact Or.inl h
      · exact Or.inr h
    · rcases List.mem_cons.mp h with h | h
      · exact Or.inr (by simp [h])
      · rcases ih h with h | h
        · exact Or.inl h
        · exact Or.inr (List.mem_cons_of_mem _ h)

/-- Insertion keeps the keys strictly ascending. -/
lemma insert_ascending (k : Bytes) (v : Json) {ms : List (Bytes × Json)}
    (h : (ms.map Prod.fst).Pairwise (· < ·)) :
    ((insert k v ms).map Prod.fst).Pairwise (· < ·) := by
  induction ms with
  | nil => simp [insert]
  | cons m ms ih =>
    rw [List.map_cons, List.pairwise_cons] at h
    obtain ⟨hm, hms⟩ := h
    simp only [insert]
    split_ifs with h1 h2
    · rw [List.map_cons, List.pairwise_cons, h1]
      exact ⟨hm, hms⟩
    · rw [List.map_cons, List.pairwise_cons, List.map_cons, List.pairwise_cons]
      refine ⟨fun x hx => ?_, hm, hms⟩
      rcases List.mem_cons.mp hx with rfl | hx
      · exact h2
      · exact List.lt_trans h2 (hm x hx)
    · rw [List.map_cons, List.pairwise_cons]
      refine ⟨fun x hx => ?_, ih hms⟩
      obtain ⟨m', hm', rfl⟩ := List.mem_map.mp hx
      rcases mem_insert hm' with rfl | hm'
      · by_contra hlt
        exact h1 (List.le_antisymm (List.not_lt.mp hlt) (List.not_lt.mp h2))
      · exact hm _ (List.mem_map_of_mem hm')

lemma ofMembers_sorted {ms : List (Bytes × Json)} (h : ∀ m ∈ ms, m.2.Sorted) :
    (ofMembers ms).Sorted := by
  have key : ∀ (ms acc : List (Bytes × Json)), (∀ m ∈ ms, m.2.Sorted) →
      (acc.map Prod.fst).Pairwise (· < ·) → (∀ m ∈ acc, m.2.Sorted) →
      ((ms.foldl (fun acc m => insert m.1 m.2 acc) acc).map Prod.fst).Pairwise (· < ·) ∧
        ∀ m ∈ ms.foldl (fun acc m => insert m.1 m.2 acc) acc, m.2.Sorted := by
    intro ms
    induction ms with
    | nil => exact fun acc _ h1 h2 => ⟨h1, h2⟩
    | cons m ms ih =>
      intro acc hms h1 h2
      refine ih _ (fun m' hm' => hms m' (by simp [hm'])) (insert_ascending _ _ h1) ?_
      intro m' hm'
      rcases mem_insert hm' with rfl | hm'
      · exact hms m (by simp)
      · exact h2 m' hm'
  rw [ofMembers, Sorted, sortedMembers_iff]
  exact key ms [] h (by simp) (by simp)

/-- Assignment to a key above all others puts the member at the end. -/
lemma insert_of_lt {k : Bytes} {v : Json} {ms : List (Bytes × Json)}
    (h : ∀ k' ∈ ms.map Prod.fst, k' < k) : insert k v ms = ms ++ [(k, v)] := by
  induction ms with
  | nil => rfl
  | cons m ms ih =>
    rw [List.map_cons, List.forall_mem_cons] at h
    obtain ⟨hm, hms⟩ := h
    have hne : k ≠ m.1 := by
      rintro rfl
      exact List.lt_irrefl _ hm
    have hnot : ¬ k < m.1 := fun hlt => List.lt_irrefl _ (List.lt_trans hm hlt)
    rw [insert, if_neg hne, if_neg hnot, ih hms, List.cons_append]

/-- Members with ascending keys are their object as they stand. -/
lemma ofMembers_of_ascending {ms : List (Bytes × Json)}
    (h : (ms.map Prod.fst).Pairwise (· < ·)) : ofMembers ms = .object ms := by
  rw [ofMembers]
  congr 1
  induction ms using List.reverseRecOn with
  | nil => rfl
  | append_singleton ms m ih =>
    rw [List.map_append, List.pairwise_append] at h
    obtain ⟨hms, -, hlt⟩ := h
    rw [List.foldl_append, ih hms, List.foldl_cons, List.foldl_nil]
    exact insert_of_lt fun k hk => hlt k hk m.1 (by simp)

lemma ofMembers_utf8 {ms : List (Bytes × Json)}
    (h : ∀ m ∈ ms, m.1.ValidUtf8 ∧ m.2.Utf8) : (ofMembers ms).Utf8 := by
  have key : ∀ (ms acc : List (Bytes × Json)), (∀ m ∈ ms, m.1.ValidUtf8 ∧ m.2.Utf8) →
      (∀ m ∈ acc, m.1.ValidUtf8 ∧ m.2.Utf8) →
      ∀ m ∈ ms.foldl (fun acc m => insert m.1 m.2 acc) acc, m.1.ValidUtf8 ∧ m.2.Utf8 := by
    intro ms
    induction ms with
    | nil => exact fun acc _ h2 => h2
    | cons m ms ih =>
      intro acc hms h2
      refine ih _ (fun m' hm' => hms m' (by simp [hm'])) ?_
      intro m' hm'
      rcases mem_insert hm' with rfl | hm'
      · exact hms m (by simp)
      · exact h2 m' hm'
  rw [ofMembers, Utf8, utf8Members_iff]
  exact key ms [] h (by simp)

lemma member?_utf8 {j v : Json} {k : Bytes} (hj : j.Utf8) (h : j.member? k = some v) :
    v.Utf8 := by
  cases j with
  | object ms =>
    rw [Utf8, utf8Members_iff] at hj
    obtain ⟨ms₁, ms₂, rfl, -⟩ := List.lookup_eq_some_iff.mp h
    exact (hj (k, v) (by simp)).2
  | null | bool | integer | float | string | array => exact absurd h (by simp [member?])

/-! ## Text -/

/-- A printer and a parser of JSON text, with what is documented of them. -/
structure Codec (ε : Type) where
  /-- Parse a document. -/
  parse : Bytes → Except ε Json
  /-- Print a value. -/
  dump : Json → Except ε Bytes
  parse_utf8 : ∀ {t j}, parse t = .ok j → j.Utf8
  dump_ok : ∀ {j}, j.Utf8 → ∃ t, dump j = .ok t
  dump_error : ∀ {j}, ¬ j.Utf8 → ∃ err, dump j = .error err
  parse_dump : ∀ {j t}, j.Utf8 → j.Sorted → dump j = .ok t → parse t = .ok j

end Json
