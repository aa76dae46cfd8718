/-
# Path templates

A path is a list of segments between separators, and a template is a path some of whose
segments are parameters in braces.  A path matches a template segment by segment: a literal
segment is matched by itself, a parameter by any segment that is not empty.
-/
import Mathlib.Data.List.Forall2
import Mathlib.Tactic.Common

namespace Template

variable {α : Type*}

/-- A segment of a template. -/
inductive Segment (α : Type*)
  | literal (s : List α)
  | param (name : List α)

/-- The segment of a path at its place. -/
def Segment.Matches : Segment α → List α → Prop
  | .literal l, s => s = l
  | .param _, s => s ≠ []

/-- The segment is no parameter. -/
def Segment.IsLiteral : Segment α → Prop
  | .literal _ => True
  | .param _ => False

variable [DecidableEq α]

instance (t : Segment α) (s : List α) : Decidable (t.Matches s) :=
  match t with
  | .literal l => inferInstanceAs (Decidable (s = l))
  | .param _ => inferInstanceAs (Decidable (s ≠ []))

section Read

variable (sep opening closing : α)

/-- A segment in braces is a parameter. -/
def readSegment (s : List α) : Segment α :=
  if s.head? = some opening ∧ s.getLast? = some closing then .param s.tail.dropLast
  else .literal s

/-- The template with the text. -/
def read (text : List α) : List (Segment α) :=
  (text.splitOn sep).map (readSegment opening closing)

/-- The path matches the template segment by segment. -/
def Matches (template : List (Segment α)) (path : List α) : Prop :=
  List.Forall₂ Segment.Matches template (path.splitOn sep)

instance (template : List (Segment α)) (path : List α) : Decidable (Matches sep template path) :=
  inferInstanceAs (Decidable (List.Forall₂ _ _ _))

end Read

/-- No segment of the template is a parameter. -/
def IsLiteral (template : List (Segment α)) : Prop := ∀ t ∈ template, t.IsLiteral

/-! ## What a template matches -/

section

variable {sep opening closing : α}

omit [DecidableEq α] in
/-- Literal segments are matched by themselves. -/
lemma forall₂_literal {ls ss : List (List α)} :
    List.Forall₂ Segment.Matches (ls.map Segment.literal) ss ↔ ss = ls := by
  have heq : (fun (l s : List α) => Segment.Matches (.literal l) s) = Eq := by
    funext l s
    exact propext eq_comm
  rw [List.forall₂_map_left_iff, heq, List.forall₂_eq_eq_eq, eq_comm]

omit [DecidableEq α] in
/-- A parameter after literal segments. -/
lemma forall₂_literal_param {ls ss : List (List α)} {name : List α} :
    List.Forall₂ Segment.Matches (ls.map Segment.literal ++ [.param name]) ss ↔
      ∃ s, s ≠ [] ∧ ss = ls ++ [s] := by
  induction ls generalizing ss with
  | nil => simp [List.forall₂_cons_left_iff, Segment.Matches]
  | cons l ls ih =>
    simp only [List.map_cons, List.cons_append, List.forall₂_cons_left_iff, ih]
    constructor
    · rintro ⟨_, _, rfl, ⟨s, hs, rfl⟩, rfl⟩
      exact ⟨s, hs, rfl⟩
    · rintro ⟨s, hs, rfl⟩
      exact ⟨l, ls ++ [s], rfl, ⟨s, hs, rfl⟩, rfl⟩

/-- A path is the join of its segments. -/
lemma splitOn_injective {s t : List α} (h : s.splitOn sep = t.splitOn sep) : s = t := by
  calc s = [sep].intercalate (s.splitOn sep) := (List.intercalate_splitOn sep).symm
    _ = [sep].intercalate (t.splitOn sep) := by rw [h]
    _ = t := List.intercalate_splitOn sep

/-- No separator is inside a segment. -/
lemma not_mem_of_splitOn_eq_singleton {s t : List α} (h : s.splitOn sep = [t]) : sep ∉ s := by
  intro hmem
  obtain ⟨a, b, rfl⟩ := List.append_of_mem hmem
  have hlen := congrArg List.length h
  rw [List.splitOn_append_cons_self, List.length_append, List.length_singleton] at hlen
  have ha := List.length_pos_of_ne_nil (List.splitOn_ne_nil sep a)
  have hb := List.length_pos_of_ne_nil (List.splitOn_ne_nil sep b)
  omega

/-- The last segment is what stands after the last separator. -/
lemma splitOn_eq_concat_iff {p s t : List α} :
    t.splitOn sep = p.splitOn sep ++ [s] ↔ sep ∉ s ∧ t = p ++ sep :: s := by
  constructor
  · intro h
    have hjoin : ∀ ss : List (List α), ss ≠ [] →
        [sep].intercalate (ss ++ [s]) = [sep].intercalate ss ++ sep :: s := by
      intro ss hss
      induction ss with
      | nil => exact absurd rfl hss
      | cons l ss ih =>
        rcases ss with _ | ⟨l', ss⟩
        · simp
        · rw [List.cons_append, List.cons_append, List.intercalate_cons_cons, ← List.cons_append,
            ih (by simp), List.intercalate_cons_cons, List.append_assoc, List.append_assoc,
            List.append_assoc]
    have ht : t = p ++ sep :: s :=
      calc t = [sep].intercalate (t.splitOn sep) := (List.intercalate_splitOn sep).symm
        _ = [sep].intercalate (p.splitOn sep) ++ sep :: s := by
            rw [h, hjoin _ (List.splitOn_ne_nil sep p)]
        _ = p ++ sep :: s := by rw [List.intercalate_splitOn]
    rw [ht, List.splitOn_append_cons_self] at h
    exact ⟨not_mem_of_splitOn_eq_singleton (List.append_cancel_left h), ht⟩
  · rintro ⟨hs, rfl⟩
    rw [List.splitOn_append_cons_self, List.splitOn_eq_singleton hs]

/-- A segment is a part of its path. -/
lemma mem_of_mem_splitOn {p s : List α} (hs : s ∈ p.splitOn sep) {a : α} (ha : a ∈ s) : a ∈ p := by
  have hjoin : ∀ ss : List (List α), s ∈ ss → a ∈ [sep].intercalate ss := by
    intro ss hss
    induction ss with
    | nil => exact absurd hss (by simp)
    | cons l ss ih =>
      rcases ss with _ | ⟨l', ss⟩
      · rw [List.mem_singleton] at hss
        rwa [List.intercalate_singleton, ← hss]
      · rw [List.intercalate_cons_cons]
        rcases List.mem_cons.mp hss with rfl | hss
        · simp [ha]
        · exact List.mem_append_right _ (ih hss)
  have hmem := hjoin _ hs
  rwa [List.intercalate_splitOn] at hmem

lemma readSegment_literal {s : List α} (h : opening ∉ s) :
    readSegment opening closing s = .literal s :=
  if_neg fun hbraces => h (List.mem_of_mem_head? hbraces.1)

lemma readSegment_param (name : List α) :
    readSegment opening closing (opening :: (name ++ [closing])) = .param name := by
  have hlast : (opening :: (name ++ [closing])).getLast? = some closing := by
    rw [← List.cons_append, List.getLast?_concat]
  rw [readSegment, if_pos ⟨rfl, hlast⟩, List.tail_cons, List.dropLast_concat]

lemma read_literal {text : List α} (h : opening ∉ text) :
    read sep opening closing text = (text.splitOn sep).map .literal :=
  List.map_congr_left fun _ hs => readSegment_literal fun hmem => h (mem_of_mem_splitOn hs hmem)

lemma isLiteral_read {text : List α} (h : opening ∉ text) :
    IsLiteral (read sep opening closing text) := by
  rw [read_literal h]
  intro t ht
  obtain ⟨_, -, rfl⟩ := List.mem_map.mp ht
  trivial

/-- A template without parameters is matched by its own text alone. -/
theorem matches_read_literal {text path : List α} (h : opening ∉ text) :
    Matches sep (read sep opening closing text) path ↔ path = text := by
  rw [Matches, read_literal h, forall₂_literal]
  exact ⟨splitOn_injective, congrArg _⟩

lemma read_param {text name : List α} (h : opening ∉ text)
    (hname : sep ∉ opening :: (name ++ [closing])) :
    read sep opening closing (text ++ sep :: opening :: (name ++ [closing])) =
      (text.splitOn sep).map .literal ++ [.param name] := by
  rw [read, List.splitOn_append_cons_self, List.splitOn_eq_singleton hname, List.map_append,
    List.map_singleton, readSegment_param]
  exact congrArg (· ++ _) (read_literal h)

lemma not_isLiteral_read {text name : List α} (h : opening ∉ text)
    (hname : sep ∉ opening :: (name ++ [closing])) :
    ¬ IsLiteral (read sep opening closing (text ++ sep :: opening :: (name ++ [closing]))) := by
  rw [read_param h hname]
  exact fun hlit => hlit (.param name) (by simp)

/-- A template that ends in a parameter is matched by its text followed by one segment that is
not empty. -/
theorem matches_read_param {text name path : List α} (h : opening ∉ text)
    (hname : sep ∉ opening :: (name ++ [closing])) :
    Matches sep (read sep opening closing (text ++ sep :: opening :: (name ++ [closing]))) path ↔
      ∃ s, s ≠ [] ∧ sep ∉ s ∧ path = text ++ sep :: s := by
  rw [Matches, read_param h hname, forall₂_literal_param]
  simp only [splitOn_eq_concat_iff]

end

end Template
