/-
# Percent-encoding

A text in a path segment of a URI: letters, digits and four other characters stand for
themselves, every other byte is written with its two hexadecimal digits.  The encoding is
longer than the text unless all of it is unreserved.
-/
import Mathlib.Algebra.Group.Nat.Defs
import ProfileService.Lib.Bytes

namespace PercentEncoding

/-- A letter, a digit, or one of the four other characters that are never encoded. -/
def isUnreserved (c : UInt8) : Bool :=
  (0x41 ≤ c.toNat && c.toNat ≤ 0x5A) || (0x61 ≤ c.toNat && c.toNat ≤ 0x7A) ||
    (0x30 ≤ c.toNat && c.toNat ≤ 0x39) || [0x2D, 0x2E, 0x5F, 0x7E].contains c.toNat

/-- A hexadecimal digit in upper case. -/
def hexDigit (n : ℕ) : UInt8 := UInt8.ofNat (if n < 10 then 0x30 + n else 0x37 + n)

def encodeByte (c : UInt8) : Bytes :=
  if isUnreserved c then [c] else [0x25, hexDigit (c.toNat / 16), hexDigit (c.toNat % 16)]

def encode (s : Bytes) : Bytes := s.flatMap encodeByte

lemma encode_of_unreserved {s : Bytes} (h : ∀ c ∈ s, isUnreserved c = true) : encode s = s := by
  induction s with
  | nil => rfl
  | cons c s ih =>
    obtain ⟨hc, hs⟩ := List.forall_mem_cons.mp h
    rw [encode, List.flatMap_cons, encodeByte, if_pos hc, List.singleton_append]
    exact congrArg _ (ih hs)

lemma encode_cons (c : UInt8) (s : Bytes) : encode (c :: s) = encodeByte c ++ encode s :=
  List.flatMap_cons

lemma length_le_encode (s : Bytes) : s.length ≤ (encode s).length := by
  induction s with
  | nil => exact Nat.le_refl _
  | cons c s ih =>
    rw [encode_cons, List.length_append, List.length_cons, encodeByte]
    split_ifs <;> simp only [List.length_cons, List.length_nil] <;> omega

/-- A text whose encoding is no longer is unreserved. -/
lemma unreserved_of_length {s : Bytes} (h : (encode s).length ≤ s.length) :
    ∀ c ∈ s, isUnreserved c = true := by
  induction s with
  | nil => simp
  | cons c s ih =>
    have hle := length_le_encode s
    rw [encode_cons, List.length_append, List.length_cons, encodeByte] at h
    split_ifs at h with hc
    · simp only [List.length_cons, List.length_nil] at h
      exact List.forall_mem_cons.mpr ⟨hc, ih (by omega)⟩
    · simp only [List.length_cons, List.length_nil] at h
      omega

/-- A text whose encoding has no percent sign is unreserved. -/
lemma unreserved_of_not_mem {s : Bytes} (h : 0x25 ∉ encode s) :
    ∀ c ∈ s, isUnreserved c = true := by
  intro c hc
  by_contra hreserved
  refine h (List.mem_flatMap.mpr ⟨c, hc, ?_⟩)
  rw [encodeByte, if_neg hreserved]
  exact List.mem_cons_self

/-- The characters of an encoding are visible, and no delimiter is among them. -/
lemma mem_encode {s : Bytes} {c : UInt8} (h : c ∈ encode s) :
    (0x20 < c.toNat ∧ c.toNat < 0x7F) ∧ c ≠ 0x2F ∧ c ≠ 0x3F := by
  have hdigit : ∀ d < 16, (0x20 < (hexDigit d).toNat ∧ (hexDigit d).toNat < 0x7F) ∧
      hexDigit d ≠ 0x2F ∧ hexDigit d ≠ 0x3F := by decide
  obtain ⟨b, -, hb⟩ := List.mem_flatMap.mp h
  rw [encodeByte] at hb
  split_ifs at hb with hunreserved
  · obtain rfl := List.mem_singleton.mp hb
    refine ⟨?_, ?_, ?_⟩
    · simp only [isUnreserved, Bool.or_eq_true, Bool.and_eq_true, decide_eq_true_eq,
        List.contains_iff_mem, List.mem_cons, List.not_mem_nil, or_false] at hunreserved
      omega
    · rintro rfl
      exact absurd hunreserved (by decide)
    · rintro rfl
      exact absurd hunreserved (by decide)
  · simp only [List.mem_cons, List.not_mem_nil, or_false] at hb
    have hlt : b.toNat < 256 := b.toNat_lt
    rcases hb with rfl | rfl | rfl
    · decide
    · exact hdigit _ (by omega)
    · exact hdigit _ (by omega)

example : encode [0x61, 0x2F, 0x20] = [0x61, 0x25, 0x32, 0x46, 0x25, 0x32, 0x30] := by decide

end PercentEncoding
