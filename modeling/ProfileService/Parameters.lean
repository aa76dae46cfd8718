/-
# Parameters and fields

A value is bound to a statement as a text and comes back from a row as one.  The text of
`ConvertValueToPQXX` says neither that a value is null nor that it is binary, so that these two
do not come back: null arrives as the empty string and a blob as its hexadecimal digits.
-/
import ProfileService.Standalone

namespace ProfileService

open Bytes (str ValidUtf8 NulFree)
open Decimal (decimal)

/-! ## PostgreSQL -/

/-- The types of the columns that the alternatives of `DBValue` go with. -/
inductive SqlType
  | bool | int8 | text | bytea
deriving DecidableEq

/-- `field.type().name()`. -/
def SqlType.name : SqlType → String
  | .bool => "bool"
  | .int8 => "int8"
  | .text => "text"
  | .bytea => "bytea"

/-- What a column holds that is not null. -/
inductive SqlValue
  | bool (b : Bool)
  | int8 (n : ℤ)
  | text (s : Bytes)
  | bytea (data : Bytes)
deriving DecidableEq

/-- The output functions of the types: `boolout`, `int8out`, `textout`, and `byteaout` in the
hexadecimal format. -/
def SqlValue.output : SqlValue → Bytes
  | .bool b => if b then str "t" else str "f"
  | .int8 n => decimal n
  | .text s => s
  | .bytea data => 0x5C :: 0x78 :: data.flatMap hexByte

/-- The input functions of the types; `none` when the text is refused. -/
structure TextFormats where
  boolin : Bytes → Option Bool
  int8in : Bytes → Option ℤ
  byteain : Bytes → Option Bytes
  boolin_true : boolin (str "true") = some true
  boolin_false : boolin (str "false") = some false
  /-- A decimal number in the range of the type. -/
  int8in_decimal : ∀ n, -2 ^ 63 ≤ n → n < 2 ^ 63 → int8in (decimal n) = some n
  /-- The escape format: a printable character other than the backslash stands for itself. -/
  byteain_escape : ∀ s : Bytes, (∀ c ∈ s, 0x20 ≤ c.toNat ∧ c.toNat < 0x7F ∧ c ≠ 0x5C) →
    byteain s = some s

/-- The input function of a type. -/
def TextFormats.input (formats : TextFormats) : SqlType → Bytes → Option SqlValue
  | .bool, s => (formats.boolin s).map .bool
  | .int8, s => (formats.int8in s).map .int8
  | .text, s => some (.text s)
  | .bytea, s => (formats.byteain s).map .bytea

/-! ## There and back -/

/-- What a column of the type holds after a statement assigned the parameter to it; `none` when
the statement is refused. -/
def storeParameter (postgres : Postgres) (formats : TextFormats) (T : SqlType) (value : DbValue) :
    Option SqlValue :=
  (postgres.receive (convertValueToPQXX value)).bind (formats.input T)

/-- `PostgresRow::GetValue` for a column of the type, `none` for null. -/
def readField (T : SqlType) (stored : Option SqlValue) : DbValue :=
  Field.getValue ⟨T.name, stored.map SqlValue.output⟩

/-- A value is bound, stored and read back. -/
def roundTrip (postgres : Postgres) (formats : TextFormats) (T : SqlType) (value : DbValue) :
    Option DbValue :=
  (storeParameter postgres formats T value).map fun stored => readField T (some stored)

/-- The value can be a parameter, and the column is of its type; null goes with every type. -/
inductive Matches : SqlType → DbValue → Prop
  | null (T : SqlType) : Matches T .null
  | bool (b : Bool) : Matches .bool (.bool b)
  | int64 (n : ℤ) (low : -2 ^ 63 ≤ n) (high : n < 2 ^ 63) : Matches .int8 (.int64 n)
  | string (s : Bytes) (utf8 : s.ValidUtf8) (nulFree : s.NulFree) : Matches .text (.string s)
  | blob (data : List UInt8) : Matches .bytea (.blob data)

/-! ## The texts -/

lemma readNibble_digit : ∀ n < 16,
    readNibble (UInt8.ofNat (if n < 10 then 0x30 + n else 0x57 + n)) = some n := by decide

lemma hexDigit_printable : ∀ n < 16,
    0x20 ≤ (UInt8.ofNat (if n < 10 then 0x30 + n else 0x57 + n)).toNat ∧
      (UInt8.ofNat (if n < 10 then 0x30 + n else 0x57 + n)).toNat < 0x7F ∧
      UInt8.ofNat (if n < 10 then 0x30 + n else 0x57 + n) ≠ 0x5C := by decide

/-- Hexadecimal digits are read back. -/
lemma readHex_hexBytes (data : List UInt8) : readHex (data.flatMap hexByte) = some data := by
  induction data with
  | nil => rfl
  | cons b data ih =>
    have hb := b.toNat_lt
    have hhigh := readNibble_digit (b.toNat / 16) (by omega)
    have hlow := readNibble_digit (b.toNat % 16) (by omega)
    have hbyte : 16 * (b.toNat / 16) + b.toNat % 16 = b.toNat := Nat.div_add_mod b.toNat 16
    rw [List.flatMap_cons, hexByte, List.cons_append, List.cons_append, List.nil_append, readHex,
      hhigh, hlow, ih]
    simp only [Option.bind_eq_bind, Option.bind_some, hbyte, UInt8.ofNat_toNat]

lemma hexBytes_printable (data : List UInt8) :
    ∀ c ∈ data.flatMap hexByte, 0x20 ≤ c.toNat ∧ c.toNat < 0x7F ∧ c ≠ 0x5C := by
  intro c hc
  obtain ⟨b, -, hc⟩ := List.mem_flatMap.mp hc
  have hb := b.toNat_lt
  simp only [hexByte, List.mem_cons, List.not_mem_nil, or_false] at hc
  rcases hc with rfl | rfl
  · exact hexDigit_printable (b.toNat / 16) (by omega)
  · exact hexDigit_printable (b.toNat % 16) (by omega)

lemma length_hexBytes (data : List UInt8) : (data.flatMap hexByte).length = 2 * data.length := by
  induction data with
  | nil => rfl
  | cons b data ih =>
    rw [List.flatMap_cons, List.length_append, ih, List.length_cons]
    simp only [hexByte, List.length_cons, List.length_nil]
    omega

/-- A decimal number is read back. -/
lemma readDecimal_decimal (n : ℤ) : readDecimal (decimal n) = some n := by
  cases n with
  | ofNat n =>
    obtain ⟨m, ds, hds, -⟩ := Decimal.exists_head_digits n
    have hdigits := Decimal.readDigits_digits n
    have hminus : Decimal.digit m ≠ 0x2D := by
      intro h
      have hdigit := Decimal.isDigit_digit m
      rw [h] at hdigit
      exact absurd hdigit (by decide)
    rw [hds] at hdigits
    rw [decimal, hds, readDecimal, if_neg hminus, hdigits]
    rfl
  | negSucc n =>
    obtain ⟨m, ds, hds, -⟩ := Decimal.exists_head_digits (n + 1)
    have hne : Decimal.digits (n + 1) ≠ [] := by simp [hds]
    rw [decimal, readDecimal, if_pos rfl, if_neg hne, Decimal.readDigits_digits]
    rfl

lemma asInt64_decimal {n : ℤ} (low : -2 ^ 63 ≤ n) (high : n < 2 ^ 63) :
    asInt64 (decimal n) = some n := by
  rw [asInt64, readDecimal_decimal, Option.filter_some, if_pos]
  simpa using ⟨low, high⟩

/-- A field that is not null is not read as null. -/
lemma readField_ne_null (T : SqlType) (stored : SqlValue) : readField T (some stored) ≠ .null := by
  have helim : ∀ {α : Type} (o : Option α) (s : Bytes) (f : α → DbValue), (∀ a, f a ≠ .null) →
      o.elim (.string s) f ≠ .null := by
    intro α o s f hf
    cases o with
    | none => simp
    | some a => exact hf a
  simp only [readField, Field.getValue, Option.map_some]
  split_ifs
  · exact helim _ _ _ (by simp)
  · exact helim _ _ _ (by simp)
  · exact helim _ _ _ (by simp)
  · exact helim _ _ _ (by simp)
  · simp

lemma readField_bool (b : Bool) : readField .bool (some (.bool b)) = .bool b := by
  cases b <;> decide

lemma readField_int8 {n : ℤ} (low : -2 ^ 63 ≤ n) (high : n < 2 ^ 63) :
    readField .int8 (some (.int8 n)) = .int64 n := by
  simp [readField, Field.getValue, SqlType.name, SqlValue.output, asInt64_decimal low high]

lemma readField_text (s : Bytes) : readField .text (some (.text s)) = .string s := by
  simp [readField, Field.getValue, SqlType.name, SqlValue.output]

lemma readField_bytea (data : Bytes) : readField .bytea (some (.bytea data)) = .blob data := by
  have hblob : asBlob (SqlValue.output (.bytea data)) = some data := by
    rw [SqlValue.output, asBlob, if_pos ⟨rfl, rfl⟩, readHex_hexBytes]
  simp [readField, Field.getValue, SqlType.name, hblob]

/-! ## Which values come back -/

section RoundTrip

variable {postgres : Postgres} {formats : TextFormats}

/-- The text of a value other than a string is plain ASCII. -/
lemma convertValueToPQXX_ascii {value : DbValue} (h : ∀ s, value ≠ .string s) :
    ∀ c ∈ convertValueToPQXX value, 0 < c.toNat ∧ c.toNat < 0x80 := by
  cases value with
  | null => simp [convertValueToPQXX]
  | bool b => exact Bytes.ascii_of_all (by cases b <;> decide)
  | int64 n => exact decimal_ascii n
  | double x => exact x.toText_ascii
  | string s => exact absurd rfl (h s)
  | blob data =>
    intro c hc
    have hprintable := hexBytes_printable data c hc
    omega

/-- A value other than a string reaches the input function of its column as it is printed. -/
lemma storeParameter_of_ne_string {T : SqlType} {value : DbValue} (h : ∀ s, value ≠ .string s) :
    storeParameter postgres formats T value = formats.input T (convertValueToPQXX value) := by
  have hascii := convertValueToPQXX_ascii h
  have hutf8 : (convertValueToPQXX value).ValidUtf8 :=
    Bytes.validUtf8_of_ascii fun c hc => (hascii c hc).2
  have hnul : (convertValueToPQXX value).NulFree := fun h0 => absurd (hascii 0 h0).1 (by decide)
  rw [storeParameter, postgres.receive_verbatim hutf8 hnul, Option.bind_some]

/-- A blob comes back as the hexadecimal digits of its bytes. -/
lemma roundTrip_blob (data : List UInt8) :
    roundTrip postgres formats .bytea (.blob data) = some (.blob (data.flatMap hexByte)) := by
  rw [roundTrip, storeParameter_of_ne_string (by simp), convertValueToPQXX, TextFormats.input,
    formats.byteain_escape _ (hexBytes_printable data), Option.map_some, Option.map_some,
    readField_bytea]

/-- Null never comes back as null. -/
lemma roundTrip_null (T : SqlType) : roundTrip postgres formats T .null ≠ some .null := by
  intro h
  obtain ⟨stored, -, hread⟩ := Option.map_eq_some_iff.mp h
  exact readField_ne_null T stored hread

/-- A value that is bound as a parameter, stored in a column of its type and read back is the
same, exactly when it is neither null nor a blob with any bytes. -/
theorem roundTrip_iff {T : SqlType} {value : DbValue} (h : Matches T value) :
    roundTrip postgres formats T value = some value ↔
      value ≠ .null ∧ ∀ data, value = .blob data → data = [] := by
  cases h with
  | null => simpa using roundTrip_null T
  | bool b =>
    have hstored : formats.input .bool (convertValueToPQXX (.bool b)) = some (.bool b) := by
      cases b
      · exact congrArg (Option.map SqlValue.bool) formats.boolin_false
      · exact congrArg (Option.map SqlValue.bool) formats.boolin_true
    rw [roundTrip, storeParameter_of_ne_string (by simp), hstored, Option.map_some,
      readField_bool]
    simp
  | int64 n low high =>
    have hstored : formats.input .int8 (convertValueToPQXX (.int64 n)) = some (.int8 n) :=
      congrArg (Option.map SqlValue.int8) (formats.int8in_decimal n low high)
    rw [roundTrip, storeParameter_of_ne_string (by simp), hstored, Option.map_some,
      readField_int8 low high]
    simp
  | string s utf8 nulFree =>
    rw [roundTrip, storeParameter, convertValueToPQXX, postgres.receive_verbatim utf8 nulFree,
      Option.bind_some, TextFormats.input, Option.map_some, readField_text]
    simp
  | blob data =>
    rw [roundTrip_blob]
    simp only [Option.some.injEq, DbValue.blob.injEq, ne_eq, reduceCtorEq, not_false_eq_true,
      true_and, forall_eq']
    constructor
    · intro hsame
      have hlength := congrArg List.length hsame
      rw [length_hexBytes] at hlength
      exact List.eq_nil_of_length_eq_zero (by omega)
    · rintro rfl
      rfl

end RoundTrip

/-- Input functions for the texts that the service binds. -/
def TextFormats.plain : TextFormats where
  boolin := boolIn
  int8in := asInt64
  byteain s :=
    match s with
    | 0x5C :: 0x78 :: digits => readHex digits
    | s => if 0x5C ∈ s then none else some s
  boolin_true := rfl
  boolin_false := rfl
  int8in_decimal _ low high := asInt64_decimal low high
  byteain_escape := by
    intro s hs
    have hbackslash : 0x5C ∉ s := fun h => (hs _ h).2.2 rfl
    split
    · exact absurd List.mem_cons_self hbackslash
    · exact if_neg hbackslash

/-- A number comes back. -/
theorem roundTrip_iff_number :
    roundTrip Postgres.utc TextFormats.plain .int8 (.int64 (-5)) = some (.int64 (-5)) :=
  (roundTrip_iff (.int64 (-5) (by decide) (by decide))).mpr ⟨by simp, by simp⟩

/-- In a text column null comes back as the empty string, and in a binary one the byte `AB` as
the two characters `ab`. -/
theorem null_and_blob_lost :
    roundTrip Postgres.utc TextFormats.plain .text .null = some (.string []) ∧
      roundTrip Postgres.utc TextFormats.plain .bytea (.blob [0xAB]) =
        some (.blob (str "ab")) := by
  decide

end ProfileService
