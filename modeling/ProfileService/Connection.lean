/-
# The PostgreSQL connection

`repository/postgres_connection.cpp`: the values that are bound to a statement and read
from a row.
-/
import ProfileService.Exception
import ProfileService.Lib.Binary64
import ProfileService.Query

namespace ProfileService

open Bytes (str)
open Decimal (decimal readDigits)

/-- Two hexadecimal digits, as `%02x` prints a byte. -/
def hexByte (b : UInt8) : Bytes :=
  let nibble (n : ℕ) : UInt8 := UInt8.ofNat (if n < 10 then 0x30 + n else 0x57 + n)
  [nibble (b.toNat / 16), nibble (b.toNat % 16)]

/-- The value of a hexadecimal digit. -/
def readNibble (c : UInt8) : Option ℕ :=
  if 0x30 ≤ c.toNat ∧ c.toNat ≤ 0x39 then some (c.toNat - 0x30)
  else if 0x61 ≤ c.toNat ∧ c.toNat ≤ 0x66 then some (c.toNat - 0x57)
  else if 0x41 ≤ c.toNat ∧ c.toNat ≤ 0x46 then some (c.toNat - 0x37)
  else none

/-- The bytes of pairs of hexadecimal digits. -/
def readHex : Bytes → Option Bytes
  | [] => some []
  | [_] => none
  | a :: b :: s => do
      let high ← readNibble a
      let low ← readNibble b
      let rest ← readHex s
      some (UInt8.ofNat (16 * high + low) :: rest)

/-! ## Values -/

/-- `DBValue`. -/
inductive DbValue
  | null
  | bool (b : Bool)
  | int64 (n : ℤ)
  | double (x : Binary64)
  | string (s : Bytes)
  | blob (data : List UInt8)
deriving DecidableEq

/-- `PostgresTransaction::ConvertValueToPQXX`. -/
def convertValueToPQXX : DbValue → Bytes
  | .null => []
  | .bool b => if b then str "true" else str "false"
  | .int64 n => decimal n
  | .double x => x.toText
  | .string s => s
  | .blob data => data.flatMap hexByte

/-! ## Rows -/

/-- `field.as<bool>()`. -/
def asBool (s : Bytes) : Option Bool :=
  if s ∈ [str "t", str "T", str "1", str "true", str "TRUE"] then some true
  else if s ∈ [[], str "f", str "F", str "0", str "false", str "FALSE"] then some false
  else none

/-- The value of a decimal number with an optional sign. -/
def readDecimal : Bytes → Option ℤ
  | [] => none
  | c :: t =>
      if c = 0x2D then
        if t = [] then none else (readDigits t).map fun n => -(n : ℤ)
      else (readDigits (c :: t)).map Int.ofNat

/-- `field.as<int64_t>()`. -/
def asInt64 (s : Bytes) : Option ℤ :=
  (readDecimal s).filter fun n => -2 ^ 63 ≤ n ∧ n < 2 ^ 63

/-- `field.as<double>()`. -/
def asDouble (s : Bytes) : Option Binary64 := Binary64.ofText s

/-- `field.as<std::vector<uint8_t>>()`. -/
def asBlob : Bytes → Option Bytes
  | a :: b :: s => if a = 0x5C ∧ b = 0x78 then readHex s else none
  | _ => none

/-- `PostgresRow::GetValue` for a field: a text that does not parse as its type is
returned as a string. -/
def Field.getValue (f : Field) : DbValue :=
  match f.text with
  | none => .null
  | some s =>
      if f.typeName = "bool" then (asBool s).elim (.string s) .bool
      else if f.typeName ∈ ["int2", "int4", "int8"] then (asInt64 s).elim (.string s) .int64
      else if f.typeName ∈ ["float4", "float8"] then (asDouble s).elim (.string s) .double
      else if f.typeName = "bytea" then (asBlob s).elim (.string s) .blob
      else .string s

/-- `m_row[column]`. -/
def Row.at (row : Row) (column : String) : Except Exn Field :=
  match row.lookup column with
  | some f => .ok f
  | none => .error ⟨str "Unknown column name: '" ++ str column ++ str "'."⟩

/-- `PostgresRow::IsNull`. -/
def Row.isNull (row : Row) (column : String) : Except Exn Bool :=
  (row.at column).map fun f => f.text.isNone

/-- `PostgresRow::GetValue`. -/
def Row.getValue (row : Row) (column : String) : Except Exn DbValue :=
  (row.at column).map Field.getValue

/-- `QueryExecutor::GetStringValue`. -/
def Row.getStringValue (row : Row) (column : String) : Except Exn (Option Bytes) := do
  if ← row.isNull column then
    pure none
  else
    match ← row.getValue column with
    | .string s => pure (some s)
    | _ => pure none

/-- `QueryExecutor::GetBoolValue`. -/
def Row.getBoolValue (row : Row) (column : String) : Except Exn (Option Bool) := do
  if ← row.isNull column then
    pure none
  else
    match ← row.getValue column with
    | .bool b => pure (some b)
    | _ => pure none

section Columns

variable {row : Row} {column : String}

/-- A text column is read as its value. -/
lemma Row.getStringValue_text {T : ColumnType} {v : Option Bytes}
    (h : row.lookup column = some (textField T v)) :
    row.getStringValue column = .ok v := by
  have hat : row.at column = .ok (textField T v) := by rw [Row.at, h]
  cases v with
  | none => simp [Row.getStringValue, Row.isNull, hat, textField, Except.map, bind, Except.bind,
      pure, Except.pure]
  | some s =>
    have hval : (textField T (some s)).getValue = .string s := by
      cases T <;> simp [textField, Field.getValue, typeName]
    simp [Row.getStringValue, Row.isNull, Row.getValue, hat, hval, Except.map, bind, Except.bind,
      pure, Except.pure]
    simp [textField]

/-- A `BOOLEAN` column is read as its value. -/
lemma Row.getBoolValue_bool {b : Bool} (h : row.lookup column = some (boolField b)) :
    row.getBoolValue column = .ok (some b) := by
  have hat : row.at column = .ok (boolField b) := by rw [Row.at, h]
  have hval : (boolField b).getValue = .bool b := by cases b <;> decide
  simp [Row.getBoolValue, Row.isNull, Row.getValue, hat, hval, Except.map, bind, Except.bind,
    pure, Except.pure]
  simp [boolField]

end Columns

end ProfileService
