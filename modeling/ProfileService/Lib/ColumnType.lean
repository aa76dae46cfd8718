/-
# Text columns of a PostgreSQL table

What a column makes of the text of a statement parameter: `input` is the value stored
when the parameter is assigned to the column, `operand` the value it is compared as.
The values a column can hold are fixed by both (`ColumnType.Holds`), so a value that was
read back is stored and found again as it is.
-/
import Mathlib.Algebra.Group.Int.Defs
import ProfileService.Lib.Bytes

open Bytes (str ValidUtf8 NulFree charLength)

/-! ## UUIDs -/

namespace Uuid

/-- A hexadecimal digit, in lower case. -/
def hexDigit (c : UInt8) : Option UInt8 :=
  if 0x30 ≤ c.toNat ∧ c.toNat ≤ 0x39 then some c
  else if 0x61 ≤ c.toNat ∧ c.toNat ≤ 0x66 then some c
  else if 0x41 ≤ c.toNat ∧ c.toNat ≤ 0x46 then some (UInt8.ofNat (c.toNat + 0x20))
  else none

/-- Read the last `n` of the sixteen bytes: a hyphen may follow every second byte. -/
def scan : ℕ → Bytes → Option (Bytes × Bytes)
  | 0, s => some ([], s)
  | n + 1, a :: b :: s => do
      let a ← hexDigit a
      let b ← hexDigit b
      let s := if n % 2 = 0 ∧ 0 < n ∧ s.head? = some 0x2D then s.tail else s
      let (ds, rest) ← scan n s
      some (a :: b :: ds, rest)
  | _, _ => none

/-- Write the digits of the last `n` bytes, with the hyphens of the canonical form. -/
def render : ℕ → Bytes → Bytes
  | n + 1, a :: b :: ds =>
      a :: b :: (if n = 12 ∨ n = 10 ∨ n = 8 ∨ n = 6 then 0x2D :: render n ds else render n ds)
  | _, _ => []

/-- `uuid_in` followed by `uuid_out`: the canonical form of a UUID text, which may be in
upper case, in braces or without hyphens. -/
def canonical (s : Bytes) : Option Bytes :=
  if s.head? = some 0x7B then
    match scan 16 s.tail with
    | some (ds, [0x7D]) => some (render 16 ds)
    | _ => none
  else
    match scan 16 s with
    | some (ds, []) => some (render 16 ds)
    | _ => none

lemma hexDigit_range {c d : UInt8} (h : hexDigit c = some d) :
    (0x30 ≤ d.toNat ∧ d.toNat ≤ 0x39) ∨ (0x61 ≤ d.toNat ∧ d.toNat ≤ 0x66) := by
  unfold hexDigit at h
  split_ifs at h with h1 h2 h3
  · obtain rfl := Option.some.inj h
    exact Or.inl h1
  · obtain rfl := Option.some.inj h
    exact Or.inr h2
  · obtain rfl := Option.some.inj h
    right
    rw [UInt8.toNat_ofNat_of_lt' (by simp [UInt8.size]; omega)]
    omega

/-- A digit in lower case is its own lower case. -/
lemma hexDigit_self {c d : UInt8} (h : hexDigit c = some d) : hexDigit d = some d := by
  rcases hexDigit_range h with hd | hd
  · rw [hexDigit, if_pos hd]
  · rw [hexDigit, if_neg (by omega), if_pos hd]

lemma scan_digits {n : ℕ} {s ds rest : Bytes} (h : scan n s = some (ds, rest)) :
    ds.length = 2 * n ∧ ∀ d ∈ ds, hexDigit d = some d := by
  induction n generalizing s ds rest with
  | zero =>
    obtain ⟨rfl, -⟩ := Prod.mk.inj (Option.some.inj h)
    simp
  | succ n ih =>
    match s, h with
    | a :: b :: s, h =>
      rw [scan] at h
      obtain ⟨a', ha, h⟩ := Option.bind_eq_some_iff.mp h
      obtain ⟨b', hb, h⟩ := Option.bind_eq_some_iff.mp h
      obtain ⟨⟨ds', rest'⟩, hds, h⟩ := Option.bind_eq_some_iff.mp h
      obtain ⟨rfl, -⟩ := Prod.mk.inj (Option.some.inj h)
      obtain ⟨hlen, hhex⟩ := ih hds
      refine ⟨by simp [hlen]; omega, fun d hd => ?_⟩
      rcases List.mem_cons.mp hd with rfl | hd
      · exact hexDigit_self ha
      · rcases List.mem_cons.mp hd with rfl | hd
        · exact hexDigit_self hb
        · exact hhex d hd

/-- The canonical form is read back as its digits. -/
lemma scan_render {n : ℕ} {ds : Bytes} (hlen : ds.length = 2 * n)
    (hhex : ∀ d ∈ ds, hexDigit d = some d) : scan n (render n ds) = some (ds, []) := by
  induction n generalizing ds with
  | zero =>
    obtain rfl : ds = [] := List.length_eq_zero_iff.mp (by omega)
    rfl
  | succ n ih =>
    match ds, hlen, hhex with
    | a :: b :: ds, hlen, hhex =>
      have hlen' : ds.length = 2 * n := by simp only [List.length_cons] at hlen; omega
      have hih := ih hlen' fun d hd => hhex d (by simp [hd])
      have ha : hexDigit a = some a := hhex a (by simp)
      have hb : hexDigit b = some b := hhex b (by simp)
      by_cases hyphen : n = 12 ∨ n = 10 ∨ n = 8 ∨ n = 6
      · have hskip : n % 2 = 0 ∧ 0 < n ∧ (0x2D :: render n ds).head? = some 0x2D :=
          ⟨by omega, by omega, rfl⟩
        rw [render, if_pos hyphen, scan, ha, hb]
        simp [hskip, hih]
      · -- without a hyphen the next byte is a digit, so nothing is skipped
        have hhead : ¬ (n % 2 = 0 ∧ 0 < n ∧ (render n ds).head? = some 0x2D) := by
          rintro ⟨-, hpos, hhd⟩
          match n, ds, hlen', hpos with
          | n + 1, c :: d :: ds, _, _ =>
            have hc : c = 0x2D := by simpa [render] using hhd
            have := hhex c (by simp)
            rw [hc] at this
            exact absurd this (by decide)
        rw [render, if_neg hyphen, scan, ha, hb]
        simp [hhead, hih]

lemma render_ascii {n : ℕ} {ds : Bytes} (hhex : ∀ d ∈ ds, hexDigit d = some d) :
    ∀ c ∈ render n ds, 0 < c.toNat ∧ c.toNat < 0x7B := by
  induction n generalizing ds with
  | zero => simp [render]
  | succ n ih =>
    match ds, hhex with
    | [], _ => simp [render]
    | [a], _ => simp [render]
    | a :: b :: ds, hhex =>
      have hds : ∀ d ∈ ds, hexDigit d = some d := fun d hd => hhex d (by simp [hd])
      have hrest := ih hds
      intro c hc
      rw [render, List.mem_cons, List.mem_cons] at hc
      rcases hc with rfl | rfl | hc
      · have := hexDigit_range (hhex c (by simp)); omega
      · have := hexDigit_range (hhex c (by simp)); omega
      · split at hc
        · rcases List.mem_cons.mp hc with rfl | hc
          · decide
          · exact hrest c hc
        · exact hrest c hc

lemma exists_digits {s v : Bytes} (h : canonical s = some v) :
    ∃ ds, ds.length = 32 ∧ (∀ d ∈ ds, hexDigit d = some d) ∧ v = render 16 ds := by
  unfold canonical at h
  split at h
  · split at h
    · rename_i ds hds
      obtain ⟨hlen, hhex⟩ := scan_digits hds
      exact ⟨ds, hlen, hhex, (Option.some.inj h).symm⟩
    · exact absurd h (by simp)
  · split at h
    · rename_i ds hds
      obtain ⟨hlen, hhex⟩ := scan_digits hds
      exact ⟨ds, hlen, hhex, (Option.some.inj h).symm⟩
    · exact absurd h (by simp)

lemma canonical_ascii {s v : Bytes} (h : canonical s = some v) :
    ∀ c ∈ v, 0 < c.toNat ∧ c.toNat < 0x7B := by
  obtain ⟨ds, -, hhex, rfl⟩ := exists_digits h
  exact render_ascii hhex

/-- The canonical form is canonical. -/
lemma canonical_canonical {s v : Bytes} (h : canonical s = some v) : canonical v = some v := by
  have hascii := canonical_ascii h
  obtain ⟨ds, hlen, hhex, rfl⟩ := exists_digits h
  have hbrace : (render 16 ds).head? ≠ some 0x7B := by
    intro hh
    have := hascii 0x7B (List.mem_of_mem_head? hh)
    exact absurd this.2 (by decide)
  rw [canonical, if_neg hbrace, scan_render hlen hhex]

lemma render_length {n : ℕ} {ds : Bytes} (hlen : ds.length = 2 * n) :
    (render n ds).length = 2 * n + (if 6 < n then 1 else 0) + (if 8 < n then 1 else 0) +
      (if 10 < n then 1 else 0) + (if 12 < n then 1 else 0) := by
  induction n generalizing ds with
  | zero => simp [render]
  | succ n ih =>
    match ds, hlen with
    | a :: b :: ds, hlen =>
      have hlen' : ds.length = 2 * n := by simp only [List.length_cons] at hlen; omega
      have hds := ih hlen'
      rw [render]
      by_cases hyphen : n = 12 ∨ n = 10 ∨ n = 8 ∨ n = 6
      · rw [if_pos hyphen]
        simp only [List.length_cons, hds]
        split_ifs <;> omega
      · rw [if_neg hyphen]
        simp only [List.length_cons, hds]
        split_ifs <;> omega

lemma canonical_length {s v : Bytes} (h : canonical s = some v) : v.length = 36 := by
  obtain ⟨ds, hlen, -, rfl⟩ := exists_digits h
  rw [render_length (by omega)]
  rfl

end Uuid

/-- A row id as `gen_random_uuid()` makes it: a UUID in canonical form. -/
abbrev Uuid : Type := {v : Bytes // Uuid.canonical v = some v}

/-! ## Column types -/

/-- The types of the columns that take a text parameter. -/
inductive ColumnType
  | text
  | varchar (limit : ℕ)
  | uuid
  | enum (labels : List Bytes)
deriving DecidableEq

namespace ColumnType

/-- The value stored when the parameter is assigned to the column, `none` when it is
refused.  An over-long text fits a `varchar(limit)` when the excess is blank; the excess
is then dropped. -/
def input : ColumnType → Bytes → Option Bytes
  | .text, s => some s
  | .varchar limit, s =>
      let kept := s.length - (s.charLength - limit)
      if (s.drop kept).all (· == 0x20) then some (s.take kept) else none
  | .uuid, s => Uuid.canonical s
  | .enum labels, s => if s ∈ labels then some s else none

/-- The value the parameter is compared as in a `WHERE` clause. -/
def operand : ColumnType → Bytes → Option Bytes
  | .text, s => some s
  | .varchar _, s => some s
  | .uuid, s => Uuid.canonical s
  | .enum labels, s => if s ∈ labels then some s else none

/-- A value that a column of the type can hold. -/
structure Holds (T : ColumnType) (v : Bytes) : Prop where
  utf8 : v.ValidUtf8
  nulFree : v.NulFree
  input_self : T.input v = some v

instance (T : ColumnType) (v : Bytes) : Decidable (T.Holds v) :=
  decidable_of_iff (v.ValidUtf8 ∧ v.NulFree ∧ T.input v = some v)
    ⟨fun ⟨h1, h2, h3⟩ => ⟨h1, h2, h3⟩, fun ⟨h1, h2, h3⟩ => ⟨h1, h2, h3⟩⟩

lemma input_varchar {limit : ℕ} {s : Bytes} (h : s.charLength ≤ limit) :
    (varchar limit).input s = some s := by
  have hk : s.length - (s.charLength - limit) = s.length := by omega
  simp [input, hk]

lemma charLength_le_length (s : Bytes) : s.charLength ≤ s.length := List.countP_le_length

/-- A text that is too long for a column is too long for a narrower one. -/
lemma input_varchar_eq_none {narrow wide : ℕ} (hle : narrow ≤ wide) {s : Bytes}
    (h : (varchar wide).input s = none) : (varchar narrow).input s = none := by
  simp only [input, ite_eq_right_iff, reduceCtorEq, imp_false] at h ⊢
  intro hblank
  refine h (List.all_eq_true.mpr fun c hc => List.all_eq_true.mp hblank c ?_)
  exact (List.drop_suffix_drop_left s (by omega)).subset hc

lemma Holds.charLength_le {limit : ℕ} {s : Bytes} (h : (varchar limit).Holds s) :
    s.charLength ≤ limit := by
  have hinput := h.input_self
  rw [input] at hinput
  split at hinput
  · have hlen := congrArg List.length (Option.some.inj hinput)
    have hle := charLength_le_length s
    rw [List.length_take] at hlen
    omega
  · exact absurd hinput (by simp)

/-- A column of an enumeration holds nothing but the labels. -/
lemma Holds.mem_labels {labels : List Bytes} {s : Bytes} (h : (enum labels).Holds s) :
    s ∈ labels := by
  have hinput := h.input_self
  rw [input] at hinput
  split at hinput
  · assumption
  · exact absurd hinput (by simp)

/-- Assignment stores a value the column can hold. -/
lemma input_holds {T : ColumnType} {s v : Bytes} (hs : s.ValidUtf8) (hn : s.NulFree)
    (h : T.input s = some v) : T.Holds v := by
  cases T with
  | text =>
    obtain rfl := Option.some.inj h
    exact ⟨hs, hn, rfl⟩
  | enum labels =>
    rw [input] at h
    split at h
    · rename_i hmem
      obtain rfl := Option.some.inj h
      exact ⟨hs, hn, if_pos hmem⟩
    · exact absurd h (by simp)
  | uuid =>
    have hascii := Uuid.canonical_ascii h
    refine ⟨Bytes.validUtf8_of_ascii fun c hc => ?_, fun h0 => ?_, Uuid.canonical_canonical h⟩
    · have := (hascii c hc).2; omega
    · exact absurd (hascii 0 h0).1 (by decide)
  | varchar limit =>
    rw [input] at h
    split at h
    · rename_i hblank
      obtain rfl := Option.some.inj h
      generalize hk : s.length - (s.charLength - limit) = kept at hblank ⊢
      have hsplit : s.take kept ++ s.drop kept = s := List.take_append_drop kept s
      have hdrop : ∀ c ∈ s.drop kept, c = 0x20 := by simpa using hblank
      -- the dropped blanks are one character each
      have hcount : charLength (s.drop kept) = (s.drop kept).length := by
        refine Bytes.charLength_of_ascii fun c hc => ?_
        rw [hdrop c hc]
        decide
      have hlen : s.charLength = charLength (s.take kept) + (s.length - kept) := by
        have h1 := Bytes.charLength_append (s.take kept) (s.drop kept)
        rw [hsplit, hcount, List.length_drop] at h1
        exact h1
      have hle := charLength_le_length s
      refine ⟨?_, fun h0 => hn (List.mem_of_mem_take h0), input_varchar (by omega)⟩
      rcases hd : s.drop kept with _ | ⟨c, t⟩
      · rw [hd, List.append_nil] at hsplit
        rwa [hsplit]
      · rw [← hsplit, hd] at hs
        have hc : c = 0x20 := hdrop c (by simp [hd])
        exact hs.of_append_ascii (by rw [hc]; decide)
    · exact absurd h (by simp)

/-- A UUID in canonical form is a value of a column for UUIDs or for texts that long. -/
lemma holds_uuid (id : Uuid) {T : ColumnType}
    (hT : T = uuid ∨ ∃ limit ≥ 36, T = varchar limit) : T.Holds id.1 := by
  have hascii := Uuid.canonical_ascii id.2
  have hutf : id.1.ValidUtf8 :=
    Bytes.validUtf8_of_ascii fun c hc => by have := (hascii c hc).2; omega
  have hnul : id.1.NulFree := fun h0 => absurd (hascii 0 h0).1 (by decide)
  rcases hT with rfl | ⟨limit, hlimit, rfl⟩
  · exact ⟨hutf, hnul, id.2⟩
  · have hlen := Uuid.canonical_length id.2
    have hle := charLength_le_length id.1
    exact ⟨hutf, hnul, input_varchar (by omega)⟩

/-- A value of the column is compared as itself. -/
lemma Holds.operand {T : ColumnType} {v : Bytes} (h : T.Holds v) : T.operand v = some v := by
  cases T with
  | text => rfl
  | varchar limit => rfl
  | uuid => exact h.input_self
  | enum labels => exact h.input_self

/-- The empty string is a value of a text column. -/
lemma holds_nil_varchar (limit : ℕ) : (varchar limit).Holds [] :=
  ⟨rfl, by simp [NulFree], by simp [input]⟩

lemma holds_nil_text : text.Holds [] := ⟨rfl, by simp [NulFree], rfl⟩

end ColumnType
