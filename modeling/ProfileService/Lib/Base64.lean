/-
# Base64

Bytes are cut into groups of six bits, from the first bit on, and every group is a character of
an alphabet of 64; the last group is filled up with zeros, and a padding makes the length a
multiple of four.  `Spells` is a text that a lenient reader takes for the encoding: the padding
may be left out, and characters that mean nothing may stand before it.
-/
import Mathlib.Data.Nat.Basic
import ProfileService.Lib.Bytes

namespace Base64

/-- The characters of the numbers below 64. -/
def alphabet : Bytes :=
  Bytes.str "ABCDEFGHIJKLMNOPQRSTUVWXYZabcdefghijklmnopqrstuvwxyz0123456789+/"

/-- The groups of six bits. -/
def sextets : List UInt8 → List ℕ
  | [] => []
  | [a] => [a.toNat / 4, a.toNat % 4 * 16]
  | [a, b] => [a.toNat / 4, a.toNat % 4 * 16 + b.toNat / 16, b.toNat % 16 * 4]
  | a :: b :: c :: bytes =>
      a.toNat / 4 :: (a.toNat % 4 * 16 + b.toNat / 16) ::
        (b.toNat % 16 * 4 + c.toNat / 64) :: c.toNat % 64 :: sextets bytes

/-- What follows the last group. -/
def padding : List UInt8 → Bytes
  | [] => []
  | [_] => [0x3D, 0x3D]
  | [_, _] => [0x3D]
  | _ :: _ :: _ :: bytes => padding bytes

/-- The character of a group. -/
def digit (n : ℕ) : UInt8 := alphabet.getD n 0

def encode (bytes : List UInt8) : Bytes := (sextets bytes).map digit ++ padding bytes

/-- The encoding of the bytes, with the padding or without it and with any characters before it
that are neither in the alphabet nor a padding. -/
def Spells (bytes : List UInt8) (s : Bytes) : Prop :=
  ∃ body tail, s = body ++ tail ∧ 0x3D ∉ body ∧
    body.filter (· ∈ alphabet) = (sextets bytes).map digit ∧
    (tail = [] ∨ tail = padding bytes)

lemma sextets_lt (bytes : List UInt8) : ∀ q ∈ sextets bytes, q < 64 := by
  induction bytes using sextets.induct with
  | case1 => simp [sextets]
  | case2 a =>
    have ha := a.toNat_lt
    intro q hq
    simp only [sextets, List.mem_cons, List.not_mem_nil, or_false] at hq
    omega
  | case3 a b =>
    have ha := a.toNat_lt
    have hb := b.toNat_lt
    intro q hq
    simp only [sextets, List.mem_cons, List.not_mem_nil, or_false] at hq
    omega
  | case4 a b c bytes ih =>
    have ha := a.toNat_lt
    have hb := b.toNat_lt
    have hc := c.toNat_lt
    intro q hq
    simp only [sextets, List.mem_cons] at hq
    rcases hq with rfl | rfl | rfl | rfl | hq
    · omega
    · omega
    · omega
    · omega
    · exact ih q hq

lemma digit_mem : ∀ n < 64, digit n ∈ alphabet := by decide

/-- A padding has no character of the alphabet and starts with an equals sign, if it is there. -/
lemma padding_cases (bytes : List UInt8) :
    padding bytes = [] ∨ ∃ rest, padding bytes = 0x3D :: rest := by
  induction bytes using padding.induct with
  | case1 => exact Or.inl rfl
  | case2 => exact Or.inr ⟨_, rfl⟩
  | case3 => exact Or.inr ⟨_, rfl⟩
  | case4 a b c bytes ih => exact ih

/-- The part of such a text before the first equals sign has the groups of the bytes. -/
lemma Spells.takeWhile {bytes : List UInt8} {s : Bytes} (h : Spells bytes s) :
    (s.takeWhile fun c => c ≠ 0x3D).filter (· ∈ alphabet) = (sextets bytes).map digit := by
  obtain ⟨body, tail, rfl, hbody, hfilter, htail⟩ := h
  have hall : ∀ c ∈ body, decide (c ≠ 0x3D) = true := by
    intro c hc
    rw [decide_eq_true_eq]
    rintro rfl
    exact hbody hc
  have hnil : tail.takeWhile (fun c => decide (c ≠ 0x3D)) = [] := by
    rcases htail with rfl | rfl
    · rfl
    · rcases padding_cases bytes with h | ⟨rest, h⟩ <;> rw [h] <;> simp
  rw [List.takeWhile_append_of_pos hall, hnil, List.append_nil]
  exact hfilter

/-- The encoding itself is such a text. -/
lemma spells_encode (bytes : List UInt8) : Spells bytes (encode bytes) := by
  have hmem : ∀ c ∈ (sextets bytes).map digit, c ∈ alphabet := by
    intro c hc
    obtain ⟨q, hq, rfl⟩ := List.mem_map.mp hc
    exact digit_mem q (sextets_lt bytes q hq)
  refine ⟨_, _, rfl, ?_, ?_, Or.inr rfl⟩
  · intro h
    exact absurd (hmem _ h) (by decide)
  · rw [List.filter_eq_self]
    intro c hc
    simpa using hmem c hc

end Base64
