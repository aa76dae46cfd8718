/-
# Binary floating point numbers

The numbers of the format binary64 as the bits that stand for them, which tell the two zeros
apart and keep the sign of what is not a number; the text of one with six digits after the
point, and the number that a text stands for.
-/
import ProfileService.Lib.Decimal

/-- A number of the format binary64. -/
structure Binary64 where
  bits : BitVec 64
deriving DecidableEq

namespace Binary64

open Bytes (str)
open Float.Model (UnpackedFloat Format)
open Decimal (digit digits readDigits)

/-- The sign, the mantissa and the exponent. -/
def unpack (x : Binary64) : UnpackedFloat := UnpackedFloat.unpack Format.binary64 x.bits

/-- The number of the other sign. -/
def neg (x : Binary64) : Binary64 := ⟨x.bits ^^^ BitVec.intMin 64⟩

/-! ## Printing -/

/-- The nearest integer to `n / d`, the even one of two. -/
def halfEven (n d : ℕ) : ℕ :=
  let up := d < 2 * (n % d) ∨ d = 2 * (n % d) ∧ n / d % 2 = 1
  n / d + if up then 1 else 0

/-- The nearest integer to `10 ^ 6 * (m * 2 ^ e)`. -/
def millionths (m : ℕ) : ℤ → ℕ
  | .ofNat e => 10 ^ 6 * m * 2 ^ e
  | .negSucc e => halfEven (10 ^ 6 * m) (2 ^ (e + 1))

/-- `n / 10 ^ 6` with its six digits after the point. -/
def point (n : ℕ) : Bytes :=
  digits (n / 10 ^ 6) ++
    0x2E :: [100000, 10000, 1000, 100, 10, 1].map fun place => digit (n / place)

/-- The text of a number without its sign. -/
def magnitude : UnpackedFloat → Bytes
  | .infinity _ => str "inf"
  | .notANumber => str "nan"
  | .zero _ => point 0
  | .finite _ m e _ => point (millionths m e)

/-- `std::to_string`: six digits after the point. -/
def toText (x : Binary64) : Bytes :=
  if x.bits.msb then 0x2D :: magnitude x.unpack else magnitude x.unpack

/-- A tie goes to the even neighbour, and what is below half a millionth is lost. -/
example : toText ⟨0x3F80000000000000⟩ = str "0.007812" ∧
    toText ⟨0xBF98000000000000⟩ = str "-0.023438" ∧
    toText ⟨0x3E7AD7F29ABCAF48⟩ = str "0.000000" := by decide +kernel

/-! ## Reading -/

/-- The letters of `A` to `Z` in lower case. -/
def lower (s : Bytes) : Bytes :=
  s.map fun c => if 0x41 ≤ c.toNat ∧ c.toNat ≤ 0x5A then c + 0x20 else c

/-- Digits, of which there are some. -/
def readSome (s : Bytes) : Option ℕ := if s = [] then none else readDigits s

/-- The exponent after its letter; nothing stands for zero. -/
def readExponent : Bytes → Option ℤ
  | [] => some 0
  | _ :: 0x2D :: s => (readSome s).map fun n => -(n : ℤ)
  | _ :: 0x2B :: s => (readSome s).map Int.ofNat
  | _ :: s => (readSome s).map Int.ofNat

/-- The nearest number to `m * 10 ^ e`; none when it is out of range. -/
def nearest (m : ℕ) (e : ℤ) : Option Binary64 :=
  match UnpackedFloat.ofScientific Format.binary64 m e with
  | .zero sign => if m = 0 then some ⟨UnpackedFloat.pack Format.binary64 (.zero sign)⟩ else none
  | x =>
      let packed := UnpackedFloat.pack Format.binary64 x
      if packed = UnpackedFloat.packedInfinity Format.binary64 .positive then none
      else some ⟨packed⟩

/-- Digits, perhaps with a point among them and an exponent after them. -/
def readNumber (s : Bytes) : Option Binary64 := do
  let mantissa := s.takeWhile fun c => c ≠ 0x65
  let whole := mantissa.takeWhile fun c => c ≠ 0x2E
  let fraction := (mantissa.dropWhile fun c => c ≠ 0x2E).drop 1
  let m ← readSome (whole ++ fraction)
  let e ← readExponent (s.dropWhile fun c => c ≠ 0x65)
  nearest m (e - fraction.length)

/-- The number that a text without a sign stands for. -/
def readMagnitude (s : Bytes) : Option Binary64 :=
  if s ∈ [str "inf", str "infinity"] then
    some ⟨UnpackedFloat.packedInfinity Format.binary64 .positive⟩
  else if s = str "nan" then some ⟨UnpackedFloat.packedNaN Format.binary64⟩
  else readNumber s

/-- `std::from_chars`, of a text that it takes whole. -/
def ofText (s : Bytes) : Option Binary64 :=
  match lower s with
  | 0x2D :: t => (readMagnitude t).map neg
  | t => readMagnitude t

example : (ofText (str "1e23")).map bits = some 0x44B52D02C7E14AF6 ∧
    (ofText (str "-.5")).map bits = some 0xBFE0000000000000 ∧
    ofText (str "1e999") = none ∧ ofText (str "1.5 ") = none := by decide +kernel

/-! ## The texts -/

lemma point_ascii {n : ℕ} {c : UInt8} (h : c ∈ point n) : 0 < c.toNat ∧ c.toNat < 0x80 := by
  rcases List.mem_append.mp h with h | h
  · exact Decimal.ascii_of_isDigit (Decimal.isDigit_of_mem_digits h)
  · rcases List.mem_cons.mp h with rfl | h
    · decide
    · obtain ⟨place, -, rfl⟩ := List.mem_map.mp h
      exact Decimal.ascii_of_isDigit (Decimal.isDigit_digit _)

/-- The text of a number is plain ASCII. -/
lemma toText_ascii (x : Binary64) : ∀ c ∈ x.toText, 0 < c.toNat ∧ c.toNat < 0x80 := by
  have hmagnitude : ∀ c ∈ magnitude x.unpack, 0 < c.toNat ∧ c.toNat < 0x80 := by
    cases x.unpack with
    | infinity => exact Bytes.ascii_of_all (s := str "inf") (by decide)
    | notANumber => exact Bytes.ascii_of_all (s := str "nan") (by decide)
    | zero => exact fun c hc => point_ascii hc
    | finite => exact fun c hc => point_ascii hc
  intro c hc
  rw [toText] at hc
  split at hc
  · rcases List.mem_cons.mp hc with rfl | hc
    · decide
    · exact hmagnitude c hc
  · exact hmagnitude c hc

end Binary64
