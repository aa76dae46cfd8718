/-
# JSON text

A printer and a parser of JSON documents, the printer without blanks and the parser with a
fuel that the length of the text always suffices for.  They are a `Json.Codec`: printing a
value with ascending keys and parsing the text gives the value back.
-/
import Mathlib.Algebra.Group.Int.Defs
import ProfileService.Lib.Decimal
import ProfileService.Lib.Json

namespace JsonText

open Bytes (str)
open Decimal (isDigit)

/-- Insignificant space. -/
def isBlank (c : UInt8) : Bool := c == 0x20 || c == 0x09 || c == 0x0A || c == 0x0D

def skipBlank (s : Bytes) : Bytes := s.dropWhile isBlank

/-! ## Strings -/

/-- The characters with an escape of two characters. -/
def shortEscapes : List (UInt8 × UInt8) :=
  [(0x22, 0x22), (0x5C, 0x5C), (0x08, 0x62), (0x0C, 0x66), (0x0A, 0x6E), (0x0D, 0x72),
    (0x09, 0x74)]

/-- The escapes of two characters that are read, `\/` among them. -/
def unescapes : List (UInt8 × UInt8) :=
  (0x2F, 0x2F) :: shortEscapes.map Prod.swap

def hexDigit (n : ℕ) : UInt8 := UInt8.ofNat (if n < 10 then 0x30 + n else 0x57 + n)

def hexValue (c : UInt8) : Option ℕ :=
  if 0x30 ≤ c.toNat ∧ c.toNat ≤ 0x39 then some (c.toNat - 0x30)
  else if 0x41 ≤ c.toNat ∧ c.toNat ≤ 0x46 then some (c.toNat - 0x37)
  else if 0x61 ≤ c.toNat ∧ c.toNat ≤ 0x66 then some (c.toNat - 0x57)
  else none

/-- A character of a string as it is printed. -/
def escape (c : UInt8) : Bytes :=
  match shortEscapes.lookup c with
  | some e => [0x5C, e]
  | none =>
      if c.toNat < 0x20 then
        [0x5C, 0x75, 0x30, 0x30, hexDigit (c.toNat / 16), hexDigit (c.toNat % 16)]
      else [c]

/-- A string in quotes. -/
def printString (s : Bytes) : Bytes := 0x22 :: (s.flatMap escape ++ [0x22])

/-- The UTF-8 bytes of a code point. -/
def encode (n : ℕ) : Bytes :=
  if n < 0x80 then [UInt8.ofNat n]
  else if n < 0x800 then [UInt8.ofNat (0xC0 + n / 64), UInt8.ofNat (0x80 + n % 64)]
  else if n < 0x10000 then
    [UInt8.ofNat (0xE0 + n / 4096), UInt8.ofNat (0x80 + n / 64 % 64), UInt8.ofNat (0x80 + n % 64)]
  else
    [UInt8.ofNat (0xF0 + n / 262144), UInt8.ofNat (0x80 + n / 4096 % 64),
      UInt8.ofNat (0x80 + n / 64 % 64), UInt8.ofNat (0x80 + n % 64)]

/-- Four hexadecimal digits. -/
def readUnit : Bytes → Option (ℕ × Bytes)
  | a :: b :: c :: d :: rest => do
      let a ← hexValue a
      let b ← hexValue b
      let c ← hexValue c
      let d ← hexValue d
      some (4096 * a + 256 * b + 16 * c + d, rest)
  | _ => none

/-- The second half of a surrogate pair. -/
def readLowSurrogate (high : ℕ) : Bytes → Option (Bytes × Bytes)
  | a :: b :: rest =>
      if a = 0x5C ∧ b = 0x75 then do
        let (low, rest) ← readUnit rest
        if 0xDC00 ≤ low ∧ low < 0xE000 then
          some (encode (0x10000 + 0x400 * (high - 0xD800) + (low - 0xDC00)), rest)
        else none
      else none
  | _ => none

/-- What follows a backslash. -/
def readEscape : Bytes → Option (Bytes × Bytes)
  | [] => none
  | e :: rest =>
      if e = 0x75 then do
        let (n, rest) ← readUnit rest
        if 0xD800 ≤ n ∧ n < 0xDC00 then readLowSurrogate n rest
        else if 0xDC00 ≤ n ∧ n < 0xE000 then none
        else some (encode n, rest)
      else (unescapes.lookup e).map fun c => ([c], rest)

/-- The characters up to the closing quote. -/
def readChars : ℕ → Bytes → Option (Bytes × Bytes)
  | 0, _ => none
  | _ + 1, [] => none
  | fuel + 1, c :: rest =>
      if c = 0x22 then some ([], rest)
      else if c = 0x5C then do
        let (s, rest) ← readEscape rest
        let (t, rest) ← readChars fuel rest
        some (s ++ t, rest)
      else if c.toNat < 0x20 then none
      else do
        let (t, rest) ← readChars fuel rest
        some (c :: t, rest)

/-- A string after its opening quote. -/
def readString (fuel : ℕ) (s : Bytes) : Option (Bytes × Bytes) := do
  let (t, rest) ← readChars fuel s
  if t.ValidUtf8 then some (t, rest) else none

/-! ## Numbers -/

/-- The part of a number after its point; none is read as `false`. -/
def readFraction : Bytes → Option (Bool × Bytes)
  | [] => some (false, [])
  | c :: rest =>
      if c = 0x2E then
        if rest.takeWhile isDigit = [] then none else some (true, rest.dropWhile isDigit)
      else some (false, c :: rest)

/-- The exponent of a number; none is read as `false`. -/
def readExponent : Bytes → Option (Bool × Bytes)
  | [] => some (false, [])
  | c :: rest =>
      if c = 0x65 ∨ c = 0x45 then
        let rest := if rest.head? = some 0x2B ∨ rest.head? = some 0x2D then rest.tail else rest
        if rest.takeWhile isDigit = [] then none else some (true, rest.dropWhile isDigit)
      else some (false, c :: rest)

/-- A number without its sign; its integer part does not start with a needless zero. -/
def readUnsigned (s : Bytes) : Option (Option ℕ × Bytes) := do
  let ds := s.takeWhile isDigit
  if ds = [] ∨ (ds.head? = some 0x30 ∧ ds.tail ≠ []) then none else do
    let n ← Decimal.readDigits ds
    let (fraction, rest) ← readFraction (s.dropWhile isDigit)
    let (exponent, rest) ← readExponent rest
    some (if fraction || exponent then none else some n, rest)

def readNumber : Bytes → Option (Json × Bytes)
  | [] => none
  | c :: s =>
      if c = 0x2D then
        (readUnsigned s).map fun r => ((r.1.map fun n : ℕ => .integer (-n)).getD .float, r.2)
      else
        (readUnsigned (c :: s)).map fun r => ((r.1.map fun n : ℕ => .integer n).getD .float, r.2)

/-! ## Values -/

def literals : List (Bytes × Json) :=
  [(str "null", .null), (str "true", .bool true), (str "false", .bool false)]

/-- A literal name or a number. -/
def readScalar (s : Bytes) : Option (Json × Bytes) :=
  match literals.find? fun l => l.1.isPrefixOf s with
  | some l => some (l.2, s.drop l.1.length)
  | none => readNumber s

mutual

def print : Json → Bytes
  | .null => str "null"
  | .bool true => str "true"
  | .bool false => str "false"
  | .integer n => Decimal.decimal n
  | .float => str "0.0"
  | .string s => printString s
  | .array [] => [0x5B, 0x5D]
  | .array (j :: js) => 0x5B :: (print j ++ printItems js)
  | .object [] => [0x7B, 0x7D]
  | .object ((k, j) :: ms) => 0x7B :: (printString k ++ 0x3A :: (print j ++ printMembers ms))

/-- The items after the first, each after a comma, and the bracket. -/
def printItems : List Json → Bytes
  | [] => [0x5D]
  | j :: js => 0x2C :: (print j ++ printItems js)

/-- The members after the first, each after a comma, and the brace. -/
def printMembers : List (Bytes × Json) → Bytes
  | [] => [0x7D]
  | (k, j) :: ms => 0x2C :: (printString k ++ 0x3A :: (print j ++ printMembers ms))

end

mutual

def readValue : ℕ → Bytes → Option (Json × Bytes)
  | 0, _ => none
  | fuel + 1, s =>
      match skipBlank s with
      | [] => none
      | c :: rest =>
          if c = 0x22 then
            (readString fuel rest).map fun r => (.string r.1, r.2)
          else if c = 0x5B then
            if (skipBlank rest).head? = some 0x5D then some (.array [], (skipBlank rest).tail)
            else do
              let (j, rest) ← readValue fuel rest
              let (js, rest) ← readItems fuel rest
              some (.array (j :: js), rest)
          else if c = 0x7B then
            if (skipBlank rest).head? = some 0x7D then some (.object [], (skipBlank rest).tail)
            else do
              let (m, rest) ← readMember fuel rest
              let (ms, rest) ← readMembers fuel rest
              some (Json.ofMembers (m :: ms), rest)
          else readScalar (c :: rest)

/-- The items after the first. -/
def readItems : ℕ → Bytes → Option (List Json × Bytes)
  | 0, _ => none
  | fuel + 1, s =>
      match skipBlank s with
      | [] => none
      | c :: rest =>
          if c = 0x5D then some ([], rest)
          else if c = 0x2C then do
            let (j, rest) ← readValue fuel rest
            let (js, rest) ← readItems fuel rest
            some (j :: js, rest)
          else none

/-- A key and its value. -/
def readMember : ℕ → Bytes → Option ((Bytes × Json) × Bytes)
  | 0, _ => none
  | fuel + 1, s =>
      match skipBlank s with
      | [] => none
      | c :: rest =>
          if c = 0x22 then do
            let (k, rest) ← readString fuel rest
            match skipBlank rest with
            | [] => none
            | c :: rest =>
                if c = 0x3A then do
                  let (j, rest) ← readValue fuel rest
                  some ((k, j), rest)
                else none
          else none

/-- The members after the first. -/
def readMembers : ℕ → Bytes → Option (List (Bytes × Json) × Bytes)
  | 0, _ => none
  | fuel + 1, s =>
      match skipBlank s with
      | [] => none
      | c :: rest =>
          if c = 0x7D then some ([], rest)
          else if c = 0x2C then do
            let (m, rest) ← readMember fuel rest
            let (ms, rest) ← readMembers fuel rest
            some (m :: ms, rest)
          else none

end

/-- A whole document. -/
def parse (text : Bytes) : Option Json :=
  match readValue (text.length + 1) text with
  | none => none
  | some (j, rest) => if skipBlank rest = [] then some j else none

/-! ## Strings that were printed -/

lemma hexValue_hexDigit {n : ℕ} (h : n < 16) : hexValue (hexDigit n) = some n := by
  revert n
  decide

/-- A character that is not printed as it is starts with a backslash and is read back. -/
lemma escape_cases (c : UInt8) :
    (∃ e, escape c = 0x5C :: e ∧ ∀ rest, readEscape (e ++ rest) = some ([c], rest)) ∨
    (escape c = [c] ∧ c ≠ 0x22 ∧ c ≠ 0x5C ∧ ¬ c.toNat < 0x20) := by
  unfold escape
  rcases hl : shortEscapes.lookup c with _ | e
  · by_cases hc : c.toNat < 0x20
    · rw [if_pos hc]
      refine Or.inl ⟨_, rfl, fun rest => ?_⟩
      have hhigh := hexValue_hexDigit (n := c.toNat / 16) (by omega)
      have hlow := hexValue_hexDigit (n := c.toNat % 16) (by omega)
      have hzero : hexValue 0x30 = some 0 := rfl
      have hn : 16 * (c.toNat / 16) + c.toNat % 16 = c.toNat := Nat.div_add_mod _ 16
      have hsmall : ¬ (0xD800 ≤ c.toNat) := by omega
      have hsmall' : ¬ (0xDC00 ≤ c.toNat) := by omega
      simp [readEscape, readUnit, hhigh, hlow, hzero, hn, hsmall, hsmall', encode,
        show c.toNat < 0x80 by omega]
    · rw [if_neg hc]
      refine Or.inr ⟨rfl, ?_, ?_, hc⟩
      · rintro rfl
        exact absurd hl (by decide)
      · rintro rfl
        exact absurd hl (by decide)
  · refine Or.inl ⟨[e], rfl, fun rest => ?_⟩
    obtain ⟨l₁, l₂, hsplit, -⟩ := List.lookup_eq_some_iff.mp hl
    have hmem : (c, e) ∈ shortEscapes := by rw [hsplit]; simp
    simp only [shortEscapes, List.mem_cons, Prod.mk.injEq, List.not_mem_nil, or_false] at hmem
    rcases hmem with ⟨rfl, rfl⟩ | ⟨rfl, rfl⟩ | ⟨rfl, rfl⟩ | ⟨rfl, rfl⟩ | ⟨rfl, rfl⟩ | ⟨rfl, rfl⟩ |
      ⟨rfl, rfl⟩ <;> rfl

lemma escape_ne_nil (c : UInt8) : escape c ≠ [] := by
  rcases escape_cases c with ⟨e, he, -⟩ | ⟨he, -⟩ <;> simp [he]

/-- Printed characters are read back, with a fuel above their number. -/
lemma readChars_flatMap {fuel : ℕ} (s : Bytes) (h : (s.flatMap escape).length < fuel)
    (rest : Bytes) : readChars fuel (s.flatMap escape ++ 0x22 :: rest) = some (s, rest) := by
  induction s generalizing fuel with
  | nil =>
    obtain ⟨fuel, rfl⟩ := Nat.exists_eq_succ_of_ne_zero (Nat.ne_zero_of_lt h)
    simp [readChars]
  | cons c s ih =>
    obtain ⟨fuel, rfl⟩ := Nat.exists_eq_succ_of_ne_zero (Nat.ne_zero_of_lt h)
    rw [List.flatMap_cons, List.length_append] at h
    have hpos : 0 < (escape c).length := List.length_pos_of_ne_nil (escape_ne_nil c)
    have hrest := ih (show _ < fuel by omega)
    rw [List.flatMap_cons, List.append_assoc]
    rcases escape_cases c with ⟨e, he, hread⟩ | ⟨he, h1, h2, h3⟩
    · rw [he, List.cons_append, readChars, if_neg (by decide), if_pos rfl, hread]
      simp [hrest]
    · rw [he, List.singleton_append, readChars, if_neg h1, if_neg h2, if_neg h3]
      simp [hrest]

lemma readString_printString {fuel : ℕ} {s : Bytes} (hs : s.ValidUtf8)
    (h : (s.flatMap escape).length < fuel) (rest : Bytes) :
    readString fuel (s.flatMap escape ++ 0x22 :: rest) = some (s, rest) := by
  simp [readString, readChars_flatMap s h, hs]

lemma readString_validUtf8 {fuel : ℕ} {s t rest : Bytes}
    (h : readString fuel s = some (t, rest)) : t.ValidUtf8 := by
  obtain ⟨⟨t', rest'⟩, -, h⟩ := Option.bind_eq_some_iff.mp h
  by_cases ht : t'.ValidUtf8
  · simp only [if_pos ht] at h
    obtain ⟨rfl, -⟩ := Prod.mk.inj (Option.some.inj h)
    exact ht
  · simp only [if_neg ht] at h
    exact absurd h (by simp)

/-! ## Numbers that were printed -/

/-- What may follow a value inside a document: nothing, a comma or a closing bracket. -/
def Delimited (rest : Bytes) : Prop :=
  ∀ c, rest.head? = some c → c = 0x2C ∨ c = 0x5D ∨ c = 0x7D

lemma delimited_nil : Delimited [] := by simp [Delimited]

lemma delimited_cons {c : UInt8} {rest : Bytes} (h : c = 0x2C ∨ c = 0x5D ∨ c = 0x7D) :
    Delimited (c :: rest) := by
  intro c' hc'
  obtain rfl : c = c' := by simpa using hc'
  exact h

/-- A run of digits ends where the delimiter stands. -/
lemma span_digits {ds rest : Bytes} (hds : ∀ c ∈ ds, isDigit c = true) (hr : Delimited rest) :
    (ds ++ rest).takeWhile isDigit = ds ∧ (ds ++ rest).dropWhile isDigit = rest := by
  rw [List.takeWhile_append_of_pos hds, List.dropWhile_append_of_pos hds]
  cases rest with
  | nil => simp
  | cons c rest =>
    have hc : isDigit c = false := by
      rcases hr c rfl with rfl | rfl | rfl <;> rfl
    simp [hc]

lemma readFraction_delimited {rest : Bytes} (hr : Delimited rest) :
    readFraction rest = some (false, rest) := by
  cases rest with
  | nil => rfl
  | cons c rest =>
    have hc : c ≠ 0x2E := by
      rcases hr c rfl with rfl | rfl | rfl <;> decide
    rw [readFraction, if_neg hc]

lemma readExponent_delimited {rest : Bytes} (hr : Delimited rest) :
    readExponent rest = some (false, rest) := by
  cases rest with
  | nil => rfl
  | cons c rest =>
    have hc : ¬ (c = 0x65 ∨ c = 0x45) := by
      rcases hr c rfl with rfl | rfl | rfl <;> decide
    rw [readExponent, if_neg hc]

lemma readUnsigned_digits (n : ℕ) {rest : Bytes} (hr : Delimited rest) :
    readUnsigned (Decimal.digits n ++ rest) = some (some n, rest) := by
  obtain ⟨htake, hdrop⟩ := span_digits (fun c => Decimal.isDigit_of_mem_digits (n := n)) hr
  obtain ⟨m, ds, hds, hm, hzero⟩ := Decimal.exists_head_digits n
  have hhead : ¬ (Decimal.digits n = [] ∨
      (Decimal.digits n).head? = some 0x30 ∧ (Decimal.digits n).tail ≠ []) := by
    rw [hds]
    rintro (h | ⟨h1, h2⟩)
    · exact absurd h (by simp)
    · have hdigit : Decimal.digit m = 0x30 := by simpa using h1
      have hmod := congrArg UInt8.toNat hdigit
      rw [Decimal.toNat_digit, Nat.mod_eq_of_lt hm] at hmod
      have hm0 : m = 0 := by
        have : (0x30 : UInt8).toNat = 0x30 := rfl
        omega
      exact h2 (hzero hm0).2
  simp only [readUnsigned, htake, hdrop, if_neg hhead, Decimal.readDigits_digits,
    readFraction_delimited hr, Option.bind_eq_bind, Option.bind_some, readExponent_delimited hr]
  rfl

lemma head_digits_ne_minus (n : ℕ) : ∃ c s, Decimal.digits n = c :: s ∧ isDigit c = true := by
  obtain ⟨m, ds, hds, -⟩ := Decimal.exists_head_digits n
  exact ⟨_, ds, hds, Decimal.isDigit_digit m⟩

lemma readNumber_decimal (n : ℤ) {rest : Bytes} (hr : Delimited rest) :
    readNumber (Decimal.decimal n ++ rest) = some (.integer n, rest) := by
  cases n with
  | ofNat n =>
    obtain ⟨c, s, hcs, hc⟩ := head_digits_ne_minus n
    have hread := readUnsigned_digits n hr
    have hminus : c ≠ 0x2D := by
      rintro rfl
      exact absurd hc (by decide)
    rw [hcs, List.cons_append] at hread
    rw [Decimal.decimal, hcs, List.cons_append, readNumber, if_neg hminus, hread]
    rfl
  | negSucc n =>
    rw [Decimal.decimal, List.cons_append, readNumber, if_pos rfl, readUnsigned_digits _ hr]
    rfl

lemma readNumber_float {rest : Bytes} (hr : Delimited rest) :
    readNumber (str "0.0" ++ rest) = some (.float, rest) := by
  have hspan : ([0x30] ++ rest).takeWhile isDigit = [0x30] ∧
      ([0x30] ++ rest).dropWhile isDigit = rest := by
    refine span_digits (fun c hc => ?_) hr
    rw [List.mem_singleton.mp hc]
    rfl
  have hdigits : Decimal.readDigits [0x30] = some 0 := rfl
  have hdot : isDigit 0x2E = false := rfl
  have hzero : isDigit 0x30 = true := rfl
  have hstr : str "0.0" = [0x30, 0x2E, 0x30] := rfl
  rw [List.singleton_append] at hspan
  simp [hstr, readNumber, readUnsigned, readFraction, hdot, hzero, hdigits,
    readExponent_delimited hr, hspan.1, hspan.2]

/-- A text that starts with a digit or a minus is no literal name. -/
lemma readScalar_number {c : UInt8} {s : Bytes} (h : isDigit c = true ∨ c = 0x2D) :
    readScalar (c :: s) = readNumber (c :: s) := by
  have hfind : (literals.find? fun l => l.1.isPrefixOf (c :: s)) = none := by
    rw [List.find?_eq_none]
    intro l hl hp
    -- the first letters of the literal names are neither digits nor a minus
    have hhead : l.1.head? = some c := by
      obtain ⟨t, ht⟩ := List.isPrefixOf_iff_prefix.mp hp
      have hne : ∀ l ∈ literals.map Prod.fst, l ≠ [] := by decide
      rw [← List.head?_append_of_ne_nil l.1 (hne l.1 (List.mem_map_of_mem hl)), ht]
      rfl
    have hletters : ∀ l ∈ literals.map Prod.fst,
        (l.head?.all fun c => !isDigit c && c != 0x2D) = true := by decide
    have hletter := hletters l.1 (List.mem_map_of_mem hl)
    rw [hhead, Option.all_some, Bool.and_eq_true, Bool.not_eq_true', bne_iff_ne] at hletter
    obtain ⟨h1, h2⟩ := hletter
    rcases h with h | h
    · exact absurd h (by simp [h1])
    · exact h2 h
  rw [readScalar, hfind]

/-! ## Printing and parsing -/

lemma skipBlank_cons {c : UInt8} (h : isBlank c = false) (s : Bytes) :
    skipBlank (c :: s) = c :: s := by
  simp [skipBlank, h]

/-- A printed value starts with a character that is no blank and closes nothing. -/
lemma print_head (j : Json) :
    ∃ c s, print j = c :: s ∧ isBlank c = false ∧ c ≠ 0x5D ∧ c ≠ 0x7D := by
  cases j with
  | null => exact ⟨_, _, rfl, rfl, by decide, by decide⟩
  | bool b => cases b <;> exact ⟨_, _, rfl, rfl, by decide, by decide⟩
  | float => exact ⟨_, _, rfl, rfl, by decide, by decide⟩
  | string s => exact ⟨_, _, rfl, rfl, by decide, by decide⟩
  | array js =>
    cases js with
    | nil => exact ⟨_, _, by rw [print], rfl, by decide, by decide⟩
    | cons j js => exact ⟨_, _, by rw [print], rfl, by decide, by decide⟩
  | object ms =>
    rcases ms with _ | ⟨⟨k, j⟩, ms⟩
    · exact ⟨_, _, by rw [print], rfl, by decide, by decide⟩
    · exact ⟨_, _, by rw [print], rfl, by decide, by decide⟩
  | integer n =>
    cases n with
    | negSucc n => exact ⟨_, _, rfl, rfl, by decide, by decide⟩
    | ofNat n =>
      obtain ⟨c, s, hcs, hc⟩ := head_digits_ne_minus n
      refine ⟨c, s, hcs, ?_, ?_, ?_⟩
      · by_contra hblank
        rw [Bool.not_eq_false, isBlank] at hblank
        simp only [Bool.or_eq_true, beq_iff_eq] at hblank
        rcases hblank with ((rfl | rfl) | rfl) | rfl <;> exact absurd hc (by decide)
      · rintro rfl
        exact absurd hc (by decide)
      · rintro rfl
        exact absurd hc (by decide)

/-- The text after a value inside a document is delimited. -/
lemma printItems_delimited (js : List Json) (rest : Bytes) : Delimited (printItems js ++ rest) := by
  cases js with
  | nil => exact delimited_cons (by simp)
  | cons j js =>
    rw [printItems]
    exact delimited_cons (by simp)

lemma printMembers_delimited (ms : List (Bytes × Json)) (rest : Bytes) :
    Delimited (printMembers ms ++ rest) := by
  rcases ms with _ | ⟨⟨k, j⟩, ms⟩
  · exact delimited_cons (by simp)
  · rw [printMembers]
    exact delimited_cons (by simp)

/-- A value that starts like a scalar is read as one. -/
lemma readValue_scalar {fuel : ℕ} {c : UInt8} {s : Bytes} (hc : isBlank c = false)
    (h1 : c ≠ 0x22) (h2 : c ≠ 0x5B) (h3 : c ≠ 0x7B) :
    readValue (fuel + 1) (c :: s) = readScalar (c :: s) := by
  rw [readValue, skipBlank_cons hc]
  simp only [if_neg h1, if_neg h2, if_neg h3]

lemma readValue_decimal {fuel : ℕ} (n : ℤ) {rest : Bytes} (hr : Delimited rest) :
    readValue (fuel + 1) (Decimal.decimal n ++ rest) = some (.integer n, rest) := by
  have hread := readNumber_decimal n hr
  have hhead : ∃ c s, Decimal.decimal n = c :: s ∧ (isDigit c = true ∨ c = 0x2D) := by
    cases n with
    | ofNat n =>
      obtain ⟨c, s, hcs, hc⟩ := head_digits_ne_minus n
      exact ⟨c, s, hcs, Or.inl hc⟩
    | negSucc n => exact ⟨_, _, rfl, Or.inr rfl⟩
  obtain ⟨c, s, hcs, hc⟩ := hhead
  obtain ⟨c', s', hcs', hblank, -⟩ := print_head (.integer n)
  have hcs' : Decimal.decimal n = c' :: s' := hcs'
  obtain ⟨rfl, rfl⟩ := List.cons.inj (hcs.symm.trans hcs')
  have hne : c ≠ 0x22 ∧ c ≠ 0x5B ∧ c ≠ 0x7B := by
    refine ⟨?_, ?_, ?_⟩ <;> rintro rfl <;> exact absurd hc (by decide)
  rw [hcs, List.cons_append] at hread ⊢
  rw [readValue_scalar hblank hne.1 hne.2.1 hne.2.2, readScalar_number hc, hread]

/-- A printed key and the value after it, when the value is read back. -/
lemma readMember_print {fuel : ℕ} {k : Bytes} {j : Json} {rest : Bytes} (hk : k.ValidUtf8)
    (hf : (printString k).length < fuel + 1)
    (hj : readValue fuel (print j ++ rest) = some (j, rest)) :
    readMember (fuel + 1) (printString k ++ 0x3A :: (print j ++ rest)) = some ((k, j), rest) := by
  rw [printString, List.length_cons, List.length_append] at hf
  have hread := readString_printString hk (show _ < fuel by omega)
    (0x3A :: (print j ++ rest))
  rw [printString, List.cons_append, List.append_assoc, List.singleton_append, readMember,
    skipBlank_cons rfl]
  simp only [if_pos, hread, Option.bind_eq_bind, Option.bind_some,
    skipBlank_cons (show isBlank 0x3A = false from rfl), hj]

mutual

/-- A printed value is read back, with a fuel above its length. -/
lemma readValue_print (j : Json) (hu : j.Utf8) (hs : j.Sorted) {fuel : ℕ}
    (hf : (print j).length < fuel) {rest : Bytes} (hr : Delimited rest) :
    readValue fuel (print j ++ rest) = some (j, rest) := by
  obtain ⟨fuel, rfl⟩ := Nat.exists_eq_succ_of_ne_zero (Nat.ne_zero_of_lt hf)
  match j, hu, hs with
  | .null, _, _ => rfl
  | .bool true, _, _ => rfl
  | .bool false, _, _ => rfl
  | .integer n, _, _ => exact readValue_decimal n hr
  | .float, _, _ =>
    have hread : readScalar (str "0.0" ++ rest) = readNumber (str "0.0" ++ rest) :=
      readScalar_number (Or.inl rfl)
    exact (readValue_scalar (by decide) (by decide) (by decide) (by decide)).trans
      (hread.trans (readNumber_float hr))
  | .string s, hu, _ =>
    rw [Json.utf8_string] at hu
    rw [print, printString, List.length_cons, List.length_append] at hf
    have hread := readString_printString hu (show _ < fuel by omega) rest
    rw [print, printString, List.cons_append, readValue, skipBlank_cons rfl,
      List.append_assoc]
    simp [hread]
  | .array [], _, _ => simp [print, readValue, skipBlank, isBlank]
  | .array (j :: js), hu, hs =>
    rw [Json.Utf8, Json.Utf8Items] at hu
    rw [Json.Sorted, Json.SortedItems] at hs
    rw [print, List.length_cons, List.length_append] at hf
    have hj := readValue_print j hu.1 hs.1 (show _ < fuel by omega)
      (printItems_delimited js rest)
    have hjs := readItems_print js hu.2 hs.2 (show _ < fuel by omega) rest
    obtain ⟨c, s, hcs, hblank, hclose, -⟩ := print_head j
    rw [print, List.cons_append, List.append_assoc, readValue, skipBlank_cons rfl]
    rw [hcs, List.cons_append] at hj ⊢
    simp [skipBlank_cons hblank, hclose, hj, hjs]
  | .object [], _, _ => simp [print, readValue, skipBlank, isBlank]
  | .object ((k, j) :: ms), hu, hs =>
    rw [Json.Utf8, Json.Utf8Members] at hu
    obtain ⟨hasc, hs⟩ : (((k, j) :: ms).map Prod.fst).Pairwise (· < ·) ∧
        Json.SortedMembers ((k, j) :: ms) := by rwa [Json.Sorted] at hs
    rw [Json.SortedMembers] at hs
    rw [print, List.length_cons, List.length_append, List.length_cons, List.length_append] at hf
    have hkpos : 0 < (printString k).length := by simp [printString]
    obtain ⟨fuel, rfl⟩ := Nat.exists_eq_succ_of_ne_zero (show fuel ≠ 0 by omega)
    have hj := readValue_print j hu.2.1 hs.1 (show _ < fuel by omega)
      (printMembers_delimited ms rest)
    have hm := readMember_print hu.1 (by omega) hj
    have hms := readMembers_print ms hu.2.2 hs.2 (show _ < fuel + 1 by omega) rest
    have hof : Json.ofMembers ((k, j) :: ms) = .object ((k, j) :: ms) :=
      Json.ofMembers_of_ascending hasc
    rw [print, List.cons_append, List.append_assoc, List.cons_append, List.append_assoc, readValue,
      skipBlank_cons rfl]
    have hskip : skipBlank (printString k ++ 0x3A :: (print j ++ (printMembers ms ++ rest))) =
        printString k ++ 0x3A :: (print j ++ (printMembers ms ++ rest)) :=
      skipBlank_cons rfl _
    have hopen : (printString k ++ 0x3A :: (print j ++ (printMembers ms ++ rest))).head? ≠
        some 0x7D := by
      simp [printString]
    simp only [hskip, if_neg hopen, hm, hms, hof, Option.bind_eq_bind, Option.bind_some]
    rfl

lemma readItems_print (js : List Json) (hu : Json.Utf8Items js) (hs : Json.SortedItems js)
    {fuel : ℕ} (hf : (printItems js).length < fuel) (rest : Bytes) :
    readItems fuel (printItems js ++ rest) = some (js, rest) := by
  obtain ⟨fuel, rfl⟩ := Nat.exists_eq_succ_of_ne_zero (Nat.ne_zero_of_lt hf)
  match js, hu, hs with
  | [], _, _ => simp [printItems, readItems, skipBlank, isBlank]
  | j :: js, hu, hs =>
    rw [Json.Utf8Items] at hu
    rw [Json.SortedItems] at hs
    rw [printItems, List.length_cons, List.length_append] at hf
    have hj := readValue_print j hu.1 hs.1 (show _ < fuel by omega)
      (printItems_delimited js rest)
    have hjs := readItems_print js hu.2 hs.2 (show _ < fuel by omega) rest
    rw [printItems, List.cons_append, List.append_assoc, readItems, skipBlank_cons rfl]
    simp [hj, hjs]

lemma readMembers_print (ms : List (Bytes × Json)) (hu : Json.Utf8Members ms)
    (hs : Json.SortedMembers ms) {fuel : ℕ} (hf : (printMembers ms).length < fuel)
    (rest : Bytes) : readMembers fuel (printMembers ms ++ rest) = some (ms, rest) := by
  obtain ⟨fuel, rfl⟩ := Nat.exists_eq_succ_of_ne_zero (Nat.ne_zero_of_lt hf)
  match ms, hu, hs with
  | [], _, _ => simp [printMembers, readMembers, skipBlank, isBlank]
  | (k, j) :: ms, hu, hs =>
    rw [Json.Utf8Members] at hu
    rw [Json.SortedMembers] at hs
    rw [printMembers, List.length_cons, List.length_append, List.length_cons,
      List.length_append] at hf
    have hkpos : 0 < (printString k).length := by simp [printString]
    obtain ⟨fuel, rfl⟩ := Nat.exists_eq_succ_of_ne_zero (show fuel ≠ 0 by omega)
    have hj := readValue_print j hu.2.1 hs.1 (show _ < fuel by omega)
      (printMembers_delimited ms rest)
    have hm := readMember_print hu.1 (by omega) hj
    have hms := readMembers_print ms hu.2.2 hs.2 (show _ < fuel + 1 by omega) rest
    rw [printMembers, List.cons_append, List.append_assoc, List.cons_append, List.append_assoc,
      readMembers, skipBlank_cons rfl]
    simp [hm, hms]

end

theorem parse_print {j : Json} (hu : j.Utf8) (hs : j.Sorted) : parse (print j) = some j := by
  have hread := readValue_print j hu hs (Nat.lt_succ_self _) delimited_nil
  rw [List.append_nil] at hread
  rw [parse, hread]
  rfl

/-! ## Parsed values are valid UTF-8 -/

/-- What is read with some fuel is valid UTF-8. -/
structure ReadsUtf8 (fuel : ℕ) : Prop where
  value : ∀ {s j rest}, readValue fuel s = some (j, rest) → j.Utf8
  items : ∀ {s js rest}, readItems fuel s = some (js, rest) → ∀ j ∈ js, j.Utf8
  member : ∀ {s m rest}, readMember fuel s = some (m, rest) → m.1.ValidUtf8 ∧ m.2.Utf8
  members : ∀ {s ms rest}, readMembers fuel s = some (ms, rest) →
    ∀ m ∈ ms, m.1.ValidUtf8 ∧ m.2.Utf8

lemma readScalar_utf8 {s rest : Bytes} {j : Json} (h : readScalar s = some (j, rest)) :
    j.Utf8 := by
  have hnumber : ∀ {s rest : Bytes} {j : Json}, readNumber s = some (j, rest) → j.Utf8 := by
    have hutf8 : ∀ (r : Option ℕ) (f : ℕ → ℤ),
        ((r.map fun n => Json.integer (f n)).getD .float).Utf8 := by
      rintro (_ | n) f
      · trivial
      · exact Json.utf8_integer _
    rintro (_ | ⟨c, s⟩) rest j h
    · exact absurd h (by simp [readNumber])
    · rw [readNumber] at h
      split at h
      · obtain ⟨r, -, hr⟩ := Option.map_eq_some_iff.mp h
        rw [← (Prod.mk.inj hr).1]
        exact hutf8 r.1 fun n => -n
      · obtain ⟨r, -, hr⟩ := Option.map_eq_some_iff.mp h
        rw [← (Prod.mk.inj hr).1]
        exact hutf8 r.1 fun n => n
  unfold readScalar at h
  split at h
  · rename_i l hl
    have hmem := List.mem_of_find?_eq_some hl
    rw [← (Prod.mk.inj (Option.some.inj h)).1]
    simp only [literals, List.mem_cons, List.not_mem_nil, or_false] at hmem
    rcases hmem with rfl | rfl | rfl <;> trivial
  · exact hnumber h

/-! Each reader reads with the readers of one less fuel. -/

section Readers

variable {fuel : ℕ}

lemma readValue_utf8 (ih : ReadsUtf8 fuel) {s : Bytes} {j : Json} {rest : Bytes}
    (h : readValue (fuel + 1) s = some (j, rest)) : j.Utf8 := by
  rw [readValue] at h
  rcases hs : skipBlank s with _ | ⟨c, s'⟩
  · simp only [hs] at h
    exact absurd h (by simp)
  simp only [hs] at h
  split_ifs at h
  · obtain ⟨⟨t, rest'⟩, ht, hr⟩ := Option.map_eq_some_iff.mp h
    rw [← (Prod.mk.inj hr).1, Json.utf8_string]
    exact readString_validUtf8 ht
  · rw [← (Prod.mk.inj (Option.some.inj h)).1]
    trivial
  · obtain ⟨⟨j', rest₁⟩, hj, h⟩ := Option.bind_eq_some_iff.mp h
    obtain ⟨⟨js, rest₂⟩, hjs, h⟩ := Option.bind_eq_some_iff.mp h
    rw [← (Prod.mk.inj (Option.some.inj h)).1, Json.Utf8, Json.Utf8Items, Json.utf8Items_iff]
    exact ⟨ih.value hj, ih.items hjs⟩
  · rw [← (Prod.mk.inj (Option.some.inj h)).1]
    trivial
  · obtain ⟨⟨m, rest₁⟩, hm, h⟩ := Option.bind_eq_some_iff.mp h
    obtain ⟨⟨ms, rest₂⟩, hms, h⟩ := Option.bind_eq_some_iff.mp h
    rw [← (Prod.mk.inj (Option.some.inj h)).1]
    refine Json.ofMembers_utf8 ?_
    rw [List.forall_mem_cons]
    exact ⟨ih.member hm, ih.members hms⟩
  · exact readScalar_utf8 h

lemma readItems_utf8 (ih : ReadsUtf8 fuel) {s : Bytes} {js : List Json} {rest : Bytes}
    (h : readItems (fuel + 1) s = some (js, rest)) : ∀ j ∈ js, j.Utf8 := by
  rw [readItems] at h
  rcases hs : skipBlank s with _ | ⟨c, s'⟩
  · simp only [hs] at h
    exact absurd h (by simp)
  simp only [hs] at h
  split_ifs at h
  · rw [← (Prod.mk.inj (Option.some.inj h)).1]
    simp
  · obtain ⟨⟨j', rest₁⟩, hj, h⟩ := Option.bind_eq_some_iff.mp h
    obtain ⟨⟨js', rest₂⟩, hjs, h⟩ := Option.bind_eq_some_iff.mp h
    rw [← (Prod.mk.inj (Option.some.inj h)).1, List.forall_mem_cons]
    exact ⟨ih.value hj, ih.items hjs⟩

lemma readMember_utf8 (ih : ReadsUtf8 fuel) {s : Bytes} {m : Bytes × Json} {rest : Bytes}
    (h : readMember (fuel + 1) s = some (m, rest)) : m.1.ValidUtf8 ∧ m.2.Utf8 := by
  rw [readMember] at h
  rcases hs : skipBlank s with _ | ⟨c, s'⟩
  · simp only [hs] at h
    exact absurd h (by simp)
  simp only [hs] at h
  split_ifs at h
  obtain ⟨⟨k, rest₁⟩, hk, h⟩ := Option.bind_eq_some_iff.mp h
  rcases hs : skipBlank rest₁ with _ | ⟨c', s''⟩
  · simp only [hs] at h
    exact absurd h (by simp)
  simp only [hs] at h
  split_ifs at h
  obtain ⟨⟨j, rest₂⟩, hj, h⟩ := Option.bind_eq_some_iff.mp h
  rw [← (Prod.mk.inj (Option.some.inj h)).1]
  exact ⟨readString_validUtf8 hk, ih.value hj⟩

lemma readMembers_utf8 (ih : ReadsUtf8 fuel) {s : Bytes} {ms : List (Bytes × Json)} {rest : Bytes}
    (h : readMembers (fuel + 1) s = some (ms, rest)) : ∀ m ∈ ms, m.1.ValidUtf8 ∧ m.2.Utf8 := by
  rw [readMembers] at h
  rcases hs : skipBlank s with _ | ⟨c, s'⟩
  · simp only [hs] at h
    exact absurd h (by simp)
  simp only [hs] at h
  split_ifs at h
  · rw [← (Prod.mk.inj (Option.some.inj h)).1]
    simp
  · obtain ⟨⟨m, rest₁⟩, hm, h⟩ := Option.bind_eq_some_iff.mp h
    obtain ⟨⟨ms', rest₂⟩, hms, h⟩ := Option.bind_eq_some_iff.mp h
    rw [← (Prod.mk.inj (Option.some.inj h)).1, List.forall_mem_cons]
    exact ⟨ih.member hm, ih.members hms⟩

end Readers

lemma readsUtf8 (fuel : ℕ) : ReadsUtf8 fuel := by
  induction fuel with
  | zero =>
    constructor
    · intro s j rest h
      exact absurd h (by simp [readValue])
    · intro s js rest h
      exact absurd h (by simp [readItems])
    · intro s m rest h
      exact absurd h (by simp [readMember])
    · intro s ms rest h
      exact absurd h (by simp [readMembers])
  | succ fuel ih =>
    exact ⟨readValue_utf8 ih, readItems_utf8 ih, readMember_utf8 ih, readMembers_utf8 ih⟩

theorem parse_utf8 {text : Bytes} {j : Json} (h : parse text = some j) : j.Utf8 := by
  unfold parse at h
  split at h
  · exact absurd h (by simp)
  · rename_i j' rest hread
    split_ifs at h
    rw [← Option.some.inj h]
    exact (readsUtf8 _).value hread

/-- A library that prints and parses so; an error says no more than that there is one. -/
def codec {ε : Type} (parseError dumpError : ε) : Json.Codec ε where
  parse text := (parse text).elim (.error parseError) .ok
  dump j := if j.Utf8 then .ok (print j) else .error dumpError
  parse_utf8 := by
    intro t j h
    rcases hp : parse t with _ | j'
    · rw [hp] at h
      exact absurd h (by simp)
    · rw [hp] at h
      rw [← Except.ok.inj h]
      exact parse_utf8 hp
  dump_ok := fun hj => ⟨_, if_pos hj⟩
  dump_error := fun hj => ⟨_, if_neg hj⟩
  parse_dump := by
    intro j t hu hs h
    rw [if_pos hu] at h
    rw [← Except.ok.inj h, parse_print hu hs]
    rfl

end JsonText
