/-
# Decimal numbers

Printing and reading of integers as decimal digits.
-/
import Mathlib.Algebra.Group.Int.Defs
import Mathlib.Algebra.Group.Nat.Defs
import ProfileService.Lib.Bytes

namespace Decimal

/-- A decimal digit. -/
def isDigit (c : UInt8) : Bool := 0x30 ≤ c.toNat && c.toNat ≤ 0x39

/-- The character of a digit. -/
def digit (n : ℕ) : UInt8 := UInt8.ofNat (0x30 + n % 10)

/-- Put the digits of `n` in front; the fuel is any number above `n`. -/
def digitsOnto : ℕ → ℕ → Bytes → Bytes
  | 0, _, acc => acc
  | fuel + 1, n, acc =>
      if n < 10 then digit n :: acc else digitsOnto fuel (n / 10) (digit n :: acc)

/-- The digits of a natural number. -/
def digits (n : ℕ) : Bytes := digitsOnto (n + 1) n []

/-- The digits of an integer, after a minus when it is negative. -/
def decimal : ℤ → Bytes
  | .ofNat n => digits n
  | .negSucc n => 0x2D :: digits (n + 1)

/-- One more digit of a number that is being read. -/
def readDigit (n : ℕ) (c : UInt8) : Option ℕ :=
  if isDigit c then some (10 * n + (c.toNat - 0x30)) else none

/-- The value of decimal digits. -/
def readDigits (s : Bytes) : Option ℕ := s.foldlM readDigit 0

lemma toNat_digit (n : ℕ) : (digit n).toNat = 0x30 + n % 10 := by
  have hlt : n % 10 < 10 := Nat.mod_lt n (by omega)
  rw [digit, UInt8.toNat_ofNat_of_lt']
  simp [UInt8.size]
  omega

lemma isDigit_digit (n : ℕ) : isDigit (digit n) = true := by
  have hlt : n % 10 < 10 := Nat.mod_lt n (by omega)
  simp [isDigit, toNat_digit]
  omega

lemma ascii_of_isDigit {c : UInt8} (h : isDigit c = true) : 0 < c.toNat ∧ c.toNat < 0x80 := by
  simp only [isDigit, Bool.and_eq_true, decide_eq_true_eq] at h
  omega

lemma readDigit_digit (m n : ℕ) : readDigit m (digit n) = some (10 * m + n % 10) := by
  rw [readDigit, if_pos (isDigit_digit n), toNat_digit]
  congr 2
  omega

/-- Reading the digits of `n` and then the rest is reading the rest with `n` read. -/
lemma foldlM_digitsOnto {fuel n : ℕ} (h : n < fuel) (acc : Bytes) :
    (digitsOnto fuel n acc).foldlM readDigit 0 = acc.foldlM readDigit n := by
  induction fuel generalizing n acc with
  | zero => omega
  | succ fuel ih =>
    rw [digitsOnto]
    split
    · rename_i hn
      rw [List.foldlM_cons, readDigit_digit, Nat.mod_eq_of_lt hn]
      simp
    · rename_i hn
      have hdiv : n / 10 < fuel := by omega
      rw [ih hdiv, List.foldlM_cons, readDigit_digit]
      have hn : 10 * (n / 10) + n % 10 = n := Nat.div_add_mod n 10
      rw [hn]
      rfl

/-- A number that was printed is read back. -/
theorem readDigits_digits (n : ℕ) : readDigits (digits n) = some n := by
  rw [readDigits, digits, foldlM_digitsOnto (Nat.lt_succ_self n)]
  rfl

lemma digits_injective : Function.Injective digits := by
  intro m n h
  have hread : readDigits (digits m) = readDigits (digits n) := congrArg readDigits h
  rw [readDigits_digits, readDigits_digits] at hread
  exact Option.some_inj.mp hread

lemma isDigit_of_mem_digitsOnto {fuel n : ℕ} {acc : Bytes} (hacc : ∀ c ∈ acc, isDigit c = true) :
    ∀ c ∈ digitsOnto fuel n acc, isDigit c = true := by
  induction fuel generalizing n acc with
  | zero => exact hacc
  | succ fuel ih =>
    have hcons : ∀ c ∈ digit n :: acc, isDigit c = true := by
      intro c hc
      rcases List.mem_cons.mp hc with rfl | hc
      · exact isDigit_digit n
      · exact hacc c hc
    rw [digitsOnto]
    split
    · exact hcons
    · exact ih hcons

lemma isDigit_of_mem_digits {n : ℕ} {c : UInt8} (h : c ∈ digits n) : isDigit c = true :=
  isDigit_of_mem_digitsOnto (by simp) c h

/-- A number below `10 ^ (k + 1)` and not below `10 ^ k` has `k + 1` digits. -/
lemma length_digitsOnto {fuel n k : ℕ} (h : n < fuel) (hlow : k = 0 ∨ 10 ^ k ≤ n)
    (hhigh : n < 10 ^ (k + 1)) (acc : Bytes) :
    (digitsOnto fuel n acc).length = k + 1 + acc.length := by
  induction fuel generalizing n k acc with
  | zero => omega
  | succ fuel ih =>
    rw [digitsOnto]
    split
    · rename_i hn
      have hk : k = 0 := by
        by_contra hk
        have hpow : 10 ^ 1 ≤ 10 ^ k := Nat.pow_le_pow_right (by omega) (by omega)
        omega
      rw [hk, List.length_cons]
      omega
    · rename_i hn
      cases k with
      | zero => omega
      | succ k =>
        have hlow' : 10 ^ k ≤ n / 10 := by
          rw [Nat.le_div_iff_mul_le (by omega), ← Nat.pow_succ]
          exact hlow.resolve_left (by omega)
        have hhigh' : n / 10 < 10 ^ (k + 1) := by
          rw [Nat.div_lt_iff_lt_mul (by omega), ← Nat.pow_succ]
          exact hhigh
        rw [ih (by omega) (Or.inr hlow') hhigh', List.length_cons]
        omega

lemma length_digits {n k : ℕ} (hlow : k = 0 ∨ 10 ^ k ≤ n) (hhigh : n < 10 ^ (k + 1)) :
    (digits n).length = k + 1 := length_digitsOnto (Nat.lt_succ_self n) hlow hhigh []

/-- The digits start with a zero only if the number is zero. -/
lemma exists_head_digitsOnto {fuel n : ℕ} (h : n < fuel) (acc : Bytes) :
    ∃ m ds, digitsOnto fuel n acc = digit m :: ds ∧ m < 10 ∧ (m = 0 → n = 0 ∧ ds = acc) := by
  induction fuel generalizing n acc with
  | zero => omega
  | succ fuel ih =>
    rw [digitsOnto]
    split
    · rename_i hn
      exact ⟨n, acc, rfl, hn, fun h0 => ⟨h0, rfl⟩⟩
    · rename_i hn
      obtain ⟨m, ds, hds, hm, h0⟩ := ih (n := n / 10) (by omega) (digit n :: acc)
      refine ⟨m, ds, hds, hm, fun hz => ?_⟩
      have := (h0 hz).1
      omega

lemma exists_head_digits (n : ℕ) :
    ∃ m ds, digits n = digit m :: ds ∧ m < 10 ∧ (m = 0 → n = 0 ∧ ds = []) :=
  exists_head_digitsOnto (Nat.lt_succ_self n) []

/-! ## Numerals -/

/-- The text spells the number with decimal digits, leading zeros allowed. -/
structure Spells (ds : Bytes) (n : ℕ) : Prop where
  ne_nil : ds ≠ []
  isDigit : ∀ c ∈ ds, isDigit c = true
  value : readDigits ds = some n

instance (ds : Bytes) (n : ℕ) : Decidable (Spells ds n) :=
  decidable_of_iff (ds ≠ [] ∧ ds.all isDigit = true ∧ readDigits ds = some n)
    ⟨fun ⟨h1, h2, h3⟩ => ⟨h1, List.all_eq_true.mp h2, h3⟩,
      fun ⟨h1, h2, h3⟩ => ⟨h1, List.all_eq_true.mpr h2, h3⟩⟩

lemma spells_digits (n : ℕ) : Spells (digits n) n where
  ne_nil := by
    obtain ⟨m, ds, hds, -⟩ := exists_head_digits n
    rw [hds]
    exact List.cons_ne_nil _ _
  isDigit _ := isDigit_of_mem_digits
  value := readDigits_digits n

/-- A leading zero does not change the number. -/
lemma Spells.zero_cons {ds : Bytes} {n : ℕ} (h : Spells ds n) : Spells (0x30 :: ds) n where
  ne_nil := List.cons_ne_nil _ _
  isDigit c hc := by
    rcases List.mem_cons.mp hc with rfl | hc
    · decide
    · exact h.isDigit c hc
  value := by
    rw [readDigits, List.foldlM_cons]
    exact h.value

/-- A number is below the power of ten with its digits. -/
lemma Spells.lt {ds : Bytes} {n : ℕ} (h : Spells ds n) : n < 10 ^ ds.length := by
  have hread : ∀ (ds : Bytes) (m n : ℕ), ds.foldlM readDigit m = some n →
      n < (m + 1) * 10 ^ ds.length := by
    intro ds
    induction ds with
    | nil =>
      intro m n h
      obtain rfl := Option.some.inj h
      simp
    | cons c ds ih =>
      intro m n h
      obtain ⟨m', hm, h⟩ := Option.bind_eq_some_iff.mp h
      rw [readDigit] at hm
      split at hm
      · rename_i hc
        obtain rfl := Option.some.inj hm
        simp only [Decimal.isDigit, Bool.and_eq_true, decide_eq_true_eq] at hc
        have hle : 10 * m + (c.toNat - 0x30) + 1 ≤ (m + 1) * 10 := by omega
        calc n < (10 * m + (c.toNat - 0x30) + 1) * 10 ^ ds.length := ih _ n h
          _ ≤ (m + 1) * 10 * 10 ^ ds.length := Nat.mul_le_mul_right _ hle
          _ = (m + 1) * 10 ^ (c :: ds).length := by
            rw [List.length_cons, Nat.pow_succ, Nat.mul_assoc, Nat.mul_comm 10]
      · exact absurd hm (by simp)
  simpa using hread ds 0 n h.value

end Decimal
