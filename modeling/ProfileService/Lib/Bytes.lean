/-
# Byte strings

A byte string is a list of octets, with the search functions of a C++ `std::string`
and the validity of UTF-8 as a run of a finite automaton.  The automaton makes the two
facts about ASCII bytes immediate that callers need: a valid string cut just before an
ASCII byte is valid, and valid strings concatenate.
-/
import Mathlib.Data.List.Basic
import Mathlib.Tactic.Common

/-- A string of octets. -/
abbrev Bytes : Type := List UInt8

namespace Bytes

instance : LawfulBEq Bytes := inferInstance

/-- The bytes of a string literal. -/
def str (s : String) : Bytes := s.toUTF8.data.toList

/-! ## Searching -/

/-- `s.find(pat, pos)`: the first position at or after `pos` where `pat` occurs. -/
def find (s pat : Bytes) (pos : ℕ) : Option ℕ :=
  (List.range' pos (s.length + 1 - pos)).find? fun i => pat.isPrefixOf (s.drop i)

/-- `s.rfind(pat, pos)`: the last position at or before `pos` where `pat` occurs. -/
def rfind (s pat : Bytes) (pos : ℕ) : Option ℕ :=
  (List.range (min pos s.length + 1)).reverse.find? fun i => pat.isPrefixOf (s.drop i)

/-- `s.find(pat, 0) == 0` is a test for a prefix. -/
lemma find_eq_zero {s pat : Bytes} : s.find pat 0 = some 0 ↔ pat <+: s := by
  have hr : List.range' 0 (s.length + 1 - 0) = 0 :: List.range' 1 s.length := rfl
  rw [find, hr, List.find?_cons]
  constructor
  · intro h
    by_cases hp : pat.isPrefixOf (s.drop 0) = true
    · simpa using hp
    · simp only [hp] at h
      have hmem := List.mem_of_find?_eq_some h
      simp at hmem
  · intro h
    have hp : pat.isPrefixOf (s.drop 0) = true := by simpa using h
    simp only [hp]

/-- `s.rfind(pat, 0) == 0` is a test for a prefix. -/
lemma rfind_eq_zero {s pat : Bytes} : s.rfind pat 0 = some 0 ↔ pat <+: s := by
  have hr : (List.range (min 0 s.length + 1)).reverse = [0] := by simp
  rw [rfind, hr, List.find?_cons, List.find?_nil]
  constructor
  · intro h
    by_cases hp : pat.isPrefixOf (s.drop 0) = true
    · simpa using hp
    · simp only [hp] at h
      exact absurd h (by simp)
  · intro h
    have hp : pat.isPrefixOf (s.drop 0) = true := by simpa using h
    simp only [hp]

/-- The first occurrence of a byte is behind the part without it. -/
lemma find_byte_append {s t : Bytes} {b : UInt8} (h : b ∉ s) :
    (s ++ b :: t).find [b] 0 = some s.length := by
  rw [find, List.find?_range'_eq_some]
  refine ⟨by simp, ?_, fun i _ hi => ?_⟩
  · rw [List.mem_range'_1, List.length_append, List.length_cons]
    omega
  · have hget : b ≠ s[i] := by
      rintro rfl
      exact h (List.getElem_mem hi)
    rw [List.drop_append_of_le_length (Nat.le_of_lt hi),
      List.drop_eq_getElem_cons hi, List.cons_append]
    simp only [List.isPrefixOf, beq_eq_false_iff_ne.mpr hget, Bool.false_and, Bool.not_false]

/-- A search that fails from position `1` on: no byte after the first starts `pat`. -/
lemma find_byte_eq_none {s : Bytes} {b : UInt8} {pos : ℕ} :
    s.find [b] pos = none ↔ b ∉ s.drop pos := by
  simp only [find, List.find?_eq_none, List.mem_range'_1, Bool.not_eq_true]
  constructor
  · intro h hmem
    obtain ⟨i, hi, hb⟩ := List.getElem_of_mem hmem
    rw [List.length_drop] at hi
    have hnot := h (pos + i) ⟨by omega, by omega⟩
    have hlt : pos + i < s.length := by omega
    have hget : s[pos + i] = b := by simpa using hb
    rw [List.drop_eq_getElem_cons hlt, hget] at hnot
    simp [List.isPrefixOf] at hnot
  · rintro h i ⟨hi, -⟩
    by_contra hp
    have hp' : [b] <+: s.drop i := by simpa using hp
    obtain ⟨t, ht⟩ := hp'
    refine h ?_
    have hsub : s.drop i <:+ s.drop pos := by
      have : s.drop i = (s.drop pos).drop (i - pos) := by
        rw [List.drop_drop]; congr 1; omega
      rw [this]
      exact List.drop_suffix _ _
    exact hsub.subset (by rw [← ht]; simp)

/-! ## UTF-8 -/

namespace Utf8

/-- The states of the automaton: what may follow the bytes read so far. -/
inductive State
  | accept | tail1 | tail2 | tail3 | afterE0 | afterED | afterF0 | afterF4
deriving DecidableEq

/-- One byte of well-formed UTF-8; `none` when the byte cannot follow. -/
def step : State → UInt8 → Option State
  | .accept, b =>
      if b.toNat < 0x80 then some .accept
      else if 0xC2 ≤ b.toNat ∧ b.toNat ≤ 0xDF then some .tail1
      else if b.toNat = 0xE0 then some .afterE0
      else if b.toNat = 0xED then some .afterED
      else if 0xE1 ≤ b.toNat ∧ b.toNat ≤ 0xEF then some .tail2
      else if b.toNat = 0xF0 then some .afterF0
      else if b.toNat = 0xF4 then some .afterF4
      else if 0xF1 ≤ b.toNat ∧ b.toNat ≤ 0xF3 then some .tail3
      else none
  | .tail1, b => if 0x80 ≤ b.toNat ∧ b.toNat ≤ 0xBF then some .accept else none
  | .tail2, b => if 0x80 ≤ b.toNat ∧ b.toNat ≤ 0xBF then some .tail1 else none
  | .tail3, b => if 0x80 ≤ b.toNat ∧ b.toNat ≤ 0xBF then some .tail2 else none
  | .afterE0, b => if 0xA0 ≤ b.toNat ∧ b.toNat ≤ 0xBF then some .tail1 else none
  | .afterED, b => if 0x80 ≤ b.toNat ∧ b.toNat ≤ 0x9F then some .tail1 else none
  | .afterF0, b => if 0x90 ≤ b.toNat ∧ b.toNat ≤ 0xBF then some .tail2 else none
  | .afterF4, b => if 0x80 ≤ b.toNat ∧ b.toNat ≤ 0x8F then some .tail2 else none

/-- The automaton on a whole string. -/
def run (st : State) (s : Bytes) : Option State := s.foldlM step st

@[simp] lemma run_nil (st : State) : run st [] = some st := rfl

@[simp] lemma run_cons (st : State) (b : UInt8) (s : Bytes) :
    run st (b :: s) = (step st b).bind fun st' => run st' s := by
  simp [run]

lemma run_append (st : State) (s t : Bytes) :
    run st (s ++ t) = (run st s).bind fun st' => run st' t := by
  simp [run]

/-- Every byte after the first of a sequence is at least `0x80`. -/
lemma eq_accept_of_step_ascii {st st' : State} {b : UInt8} (hb : b.toNat < 0x80)
    (h : step st b = some st') : st = .accept := by
  cases st with
  | accept => rfl
  | tail1 | tail2 | tail3 | afterE0 | afterED | afterF0 | afterF4 =>
    simp only [step] at h
    split at h
    · omega
    · exact absurd h (by simp)

lemma step_ascii {b : UInt8} (hb : b.toNat < 0x80) : step .accept b = some .accept := by
  simp [step, hb]

end Utf8

/-- Well-formed UTF-8. -/
def ValidUtf8 (s : Bytes) : Prop := Utf8.run .accept s = some .accept

instance (s : Bytes) : Decidable (ValidUtf8 s) :=
  inferInstanceAs (Decidable (Utf8.run .accept s = some .accept))

@[simp] lemma validUtf8_nil : ValidUtf8 [] := rfl

lemma validUtf8_of_ascii {s : Bytes} (h : ∀ b ∈ s, b.toNat < 0x80) : s.ValidUtf8 := by
  induction s with
  | nil => rfl
  | cons b s ih =>
    have hs : ValidUtf8 s := ih fun c hc => h c (List.mem_cons_of_mem _ hc)
    rw [ValidUtf8, Utf8.run_cons, Utf8.step_ascii (h b (by simp))]
    exact hs

/-- A test for plain ASCII without a terminator in it. -/
lemma ascii_of_all {s : Bytes} (h : s.all (fun c => 0 < c.toNat && c.toNat < 0x80) = true) :
    ∀ c ∈ s, 0 < c.toNat ∧ c.toNat < 0x80 := by
  intro c hc
  simpa using List.all_eq_true.mp h c hc

/-- What follows a valid string decides. -/
lemma ValidUtf8.append_iff {s t : Bytes} (hs : s.ValidUtf8) :
    (s ++ t).ValidUtf8 ↔ t.ValidUtf8 := by
  rw [ValidUtf8, Utf8.run_append, hs]
  rfl

lemma ValidUtf8.append {s t : Bytes} (hs : s.ValidUtf8) (ht : t.ValidUtf8) :
    (s ++ t).ValidUtf8 := hs.append_iff.mpr ht

/-- A valid string cut just before an ASCII byte is valid. -/
lemma ValidUtf8.of_append_ascii {s t : Bytes} {b : UInt8} (hb : b.toNat < 0x80)
    (h : (s ++ b :: t).ValidUtf8) : s.ValidUtf8 := by
  rw [ValidUtf8, Utf8.run_append] at h
  obtain ⟨st, hst, h⟩ := Option.bind_eq_some_iff.mp h
  rw [Utf8.run_cons] at h
  obtain ⟨st', hst', -⟩ := Option.bind_eq_some_iff.mp h
  rw [ValidUtf8, hst, Utf8.eq_accept_of_step_ascii hb hst']

/-- The number of characters of a UTF-8 string: the bytes that do not continue one. -/
def charLength (s : Bytes) : ℕ :=
  s.countP fun b => !decide (0x80 ≤ b.toNat ∧ b.toNat ≤ 0xBF)

lemma charLength_append (s t : Bytes) : (s ++ t).charLength = s.charLength + t.charLength :=
  List.countP_append

lemma charLength_of_ascii {s : Bytes} (h : ∀ b ∈ s, b.toNat < 0x80) :
    s.charLength = s.length := by
  rw [charLength, List.countP_eq_length]
  intro b hb
  have := h b hb
  simp
  omega

/-- No byte of the string is zero. -/
def NulFree (s : Bytes) : Prop := 0 ∉ s

instance (s : Bytes) : Decidable (NulFree s) := inferInstanceAs (Decidable (0 ∉ s))

end Bytes
