/-
# Strings put into a document as they are

A text that is put between quotes without escaping is read back as itself exactly when none of
its characters needs an escape.  Every other text is cut short by a quote or loses a character to
every escape in it, because a string that is read is never longer than the text it is read from:
`ReadsWithin` follows this through the readers.
-/
import ProfileService.Lib.JsonText

namespace JsonText

/-- No character of the string has to be escaped. -/
def Plain (s : Bytes) : Prop := ∀ c ∈ s, c ≠ 0x22 ∧ c ≠ 0x5C ∧ 0x20 ≤ c.toNat

instance (s : Bytes) : Decidable (Plain s) :=
  decidable_of_iff (s.all fun c => c != 0x22 && c != 0x5C && 0x20 ≤ c.toNat)
    (by simp [Plain, and_assoc])

lemma plain_append {s t : Bytes} : Plain (s ++ t) ↔ Plain s ∧ Plain t :=
  List.forall_mem_append

/-- A plain string is printed as it is. -/
lemma flatMap_escape_of_plain {s : Bytes} (h : Plain s) : s.flatMap escape = s := by
  induction s with
  | nil => rfl
  | cons c s ih =>
    obtain ⟨hc, hs⟩ := List.forall_mem_cons.mp h
    rw [List.flatMap_cons, ih hs]
    rcases escape_cases c with ⟨e, he, hread⟩ | ⟨he, -⟩
    · -- the escapes are for the other characters
      rw [escape] at he ⊢
      rcases hl : shortEscapes.lookup c with _ | e'
      · rw [if_neg (by omega)]
        rfl
      · obtain ⟨l₁, l₂, hsplit, -⟩ := List.lookup_eq_some_iff.mp hl
        have hmem : c ∈ shortEscapes.map Prod.fst := by
          rw [hsplit]
          simp
        have hspecial : ∀ d ∈ shortEscapes.map Prod.fst,
            (d == 0x22 || d == 0x5C || d.toNat < 0x20) = true := List.all_eq_true.mp (by decide)
        have hd := hspecial c hmem
        simp only [Bool.or_eq_true, beq_iff_eq, decide_eq_true_eq] at hd
        rcases hd with (hd | hd) | hd
        · exact absurd hd hc.1
        · exact absurd hd hc.2.1
        · omega
    · rw [he]
      rfl

/-! ## Lengths -/

lemma readUnit_length {s rest : Bytes} {n : ℕ} (h : readUnit s = some (n, rest)) :
    s.length = rest.length + 4 := by
  unfold readUnit at h
  split at h
  · obtain ⟨_, -, h⟩ := Option.bind_eq_some_iff.mp h
    obtain ⟨_, -, h⟩ := Option.bind_eq_some_iff.mp h
    obtain ⟨_, -, h⟩ := Option.bind_eq_some_iff.mp h
    obtain ⟨_, -, h⟩ := Option.bind_eq_some_iff.mp h
    obtain ⟨-, rfl⟩ := Prod.mk.inj (Option.some.inj h)
    rfl
  · exact absurd h (by simp)

lemma encode_length (n : ℕ) : (encode n).length ≤ 4 := by
  unfold encode
  split_ifs <;> simp

lemma readLowSurrogate_length {high : ℕ} {s t rest : Bytes}
    (h : readLowSurrogate high s = some (t, rest)) : t.length + rest.length ≤ s.length := by
  unfold readLowSurrogate at h
  split at h
  · split_ifs at h
    obtain ⟨⟨low, rest'⟩, hunit, h⟩ := Option.bind_eq_some_iff.mp h
    simp only at h
    split_ifs at h
    obtain ⟨rfl, rfl⟩ := Prod.mk.inj (Option.some.inj h)
    have hlen := readUnit_length hunit
    have hencode := encode_length (0x10000 + 0x400 * (high - 0xD800) + (low - 0xDC00))
    simp only [List.length_cons]
    omega
  · exact absurd h (by simp)

/-- An escape is longer than what it stands for, without its backslash at least as long. -/
lemma readEscape_length {s t rest : Bytes} (h : readEscape s = some (t, rest)) :
    t.length + rest.length ≤ s.length := by
  unfold readEscape at h
  split at h
  · exact absurd h (by simp)
  · split_ifs at h
    · obtain ⟨⟨n, rest'⟩, hunit, h⟩ := Option.bind_eq_some_iff.mp h
      have hlen := readUnit_length hunit
      simp only at h
      split_ifs at h
      · have hlow := readLowSurrogate_length h
        simp only [List.length_cons]
        omega
      · obtain ⟨rfl, rfl⟩ := Prod.mk.inj (Option.some.inj h)
        have hencode := encode_length n
        simp only [List.length_cons]
        omega
    · obtain ⟨c, -, h⟩ := Option.map_eq_some_iff.mp h
      obtain ⟨rfl, rfl⟩ := Prod.mk.inj h
      simp
      omega

/-- The characters that are read are no longer than their text, and as long only if none of
them was escaped. -/
lemma readChars_length {fuel : ℕ} {s t rest : Bytes} (h : readChars fuel s = some (t, rest)) :
    t.length + 1 + rest.length ≤ s.length ∧
      (t.length + 1 + rest.length = s.length → s = t ++ 0x22 :: rest ∧ Plain t) := by
  induction fuel generalizing s t with
  | zero => exact absurd h (by simp [readChars])
  | succ fuel ih =>
    rcases s with _ | ⟨c, s⟩
    · exact absurd h (by simp [readChars])
    rw [readChars] at h
    split_ifs at h with hquote hslash hlow
    · obtain ⟨rfl, rfl⟩ := Prod.mk.inj (Option.some.inj h)
      subst hquote
      exact ⟨by simp; omega, fun _ => ⟨rfl, by simp [Plain]⟩⟩
    · obtain ⟨⟨e, rest₁⟩, hescape, h⟩ := Option.bind_eq_some_iff.mp h
      obtain ⟨⟨t', rest₂⟩, hchars, h⟩ := Option.bind_eq_some_iff.mp h
      obtain ⟨rfl, rfl⟩ := Prod.mk.inj (Option.some.inj h)
      have hlen := readEscape_length hescape
      have hrest := (ih hchars).1
      simp only [List.length_append, List.length_cons]
      omega
    · obtain ⟨⟨t', rest₂⟩, hchars, h⟩ := Option.bind_eq_some_iff.mp h
      obtain ⟨rfl, rfl⟩ := Prod.mk.inj (Option.some.inj h)
      obtain ⟨hle, hplain⟩ := ih hchars
      simp only [List.length_cons]
      refine ⟨by omega, fun heq => ?_⟩
      obtain ⟨hs, ht⟩ := hplain (by omega)
      refine ⟨by rw [hs]; rfl, List.forall_mem_cons.mpr ⟨⟨hquote, hslash, by omega⟩, ht⟩⟩

lemma readString_length {fuel : ℕ} {s t rest : Bytes} (h : readString fuel s = some (t, rest)) :
    t.length + 1 + rest.length ≤ s.length ∧
      (t.length + 1 + rest.length = s.length → s = t ++ 0x22 :: rest ∧ Plain t) := by
  obtain ⟨⟨t', rest'⟩, hchars, h⟩ := Option.bind_eq_some_iff.mp h
  simp only at h
  split_ifs at h
  obtain ⟨rfl, rfl⟩ := Prod.mk.inj (Option.some.inj h)
  exact readChars_length hchars

lemma skipBlank_length (s : Bytes) : (skipBlank s).length ≤ s.length :=
  (List.dropWhile_suffix _).length_le

lemma readFraction_length {s rest : Bytes} {b : Bool} (h : readFraction s = some (b, rest)) :
    rest.length ≤ s.length := by
  unfold readFraction at h
  split at h
  · obtain ⟨-, rfl⟩ := Prod.mk.inj (Option.some.inj h)
    exact Nat.le_refl _
  · split_ifs at h
    · obtain ⟨-, rfl⟩ := Prod.mk.inj (Option.some.inj h)
      exact Nat.le_succ_of_le (List.dropWhile_suffix _).length_le
    · obtain ⟨-, rfl⟩ := Prod.mk.inj (Option.some.inj h)
      exact Nat.le_refl _

lemma readExponent_length {s rest : Bytes} {b : Bool} (h : readExponent s = some (b, rest)) :
    rest.length ≤ s.length := by
  rcases s with _ | ⟨c, t⟩
  · obtain ⟨-, rfl⟩ := Prod.mk.inj (Option.some.inj h)
    exact Nat.le_refl _
  rw [readExponent] at h
  by_cases hc : c = 0x65 ∨ c = 0x45
  · rw [if_pos hc] at h
    -- the sign may be left out
    have hsign : ∀ u : Bytes, u.length ≤ t.length →
        (if u.takeWhile Decimal.isDigit = [] then none
          else some (true, u.dropWhile Decimal.isDigit)) = some (b, rest) →
        rest.length ≤ t.length := by
      intro u hu h
      split_ifs at h
      obtain ⟨-, rfl⟩ := Prod.mk.inj (Option.some.inj h)
      exact Nat.le_trans (List.dropWhile_suffix _).length_le hu
    refine Nat.le_succ_of_le (hsign _ ?_ h)
    split_ifs
    · simp
    · exact Nat.le_refl _
  · rw [if_neg hc] at h
    obtain ⟨-, rfl⟩ := Prod.mk.inj (Option.some.inj h)
    exact Nat.le_refl _

lemma readUnsigned_length {s rest : Bytes} {n : Option ℕ} (h : readUnsigned s = some (n, rest)) :
    rest.length ≤ s.length := by
  rw [readUnsigned] at h
  simp only at h
  split_ifs at h
  obtain ⟨_, -, h⟩ := Option.bind_eq_some_iff.mp h
  obtain ⟨⟨f, rest₁⟩, hf, h⟩ := Option.bind_eq_some_iff.mp h
  obtain ⟨⟨e, rest₂⟩, he, h⟩ := Option.bind_eq_some_iff.mp h
  obtain ⟨-, rfl⟩ := Prod.mk.inj (Option.some.inj h)
  exact Nat.le_trans (readExponent_length he)
    (Nat.le_trans (readFraction_length hf) (List.dropWhile_suffix _).length_le)

/-- What is left after a number is no longer than the text. -/
lemma readNumber_length {s rest : Bytes} {j : Json} (h : readNumber s = some (j, rest)) :
    rest.length ≤ s.length ∧ ∀ v, j ≠ .string v := by
  have hvalue : ∀ (r : Option ℕ) (f : ℕ → ℤ) (v : Bytes),
      (r.map fun n => Json.integer (f n)).getD .float ≠ .string v := by
    rintro (_ | n) f v <;> simp
  unfold readNumber at h
  split at h
  · exact absurd h (by simp)
  · split_ifs at h
    · obtain ⟨r, hr, h⟩ := Option.map_eq_some_iff.mp h
      obtain ⟨rfl, rfl⟩ := Prod.mk.inj h
      exact ⟨Nat.le_succ_of_le (readUnsigned_length hr), hvalue r.1 fun n => -n⟩
    · obtain ⟨r, hr, h⟩ := Option.map_eq_some_iff.mp h
      obtain ⟨rfl, rfl⟩ := Prod.mk.inj h
      exact ⟨readUnsigned_length hr, hvalue r.1 fun n => n⟩

lemma readScalar_length {s rest : Bytes} {j : Json} (h : readScalar s = some (j, rest)) :
    rest.length ≤ s.length ∧ ∀ v, j ≠ .string v := by
  unfold readScalar at h
  split at h
  · rename_i l hl
    obtain ⟨rfl, rfl⟩ := Prod.mk.inj (Option.some.inj h)
    have hmem := List.mem_of_find?_eq_some hl
    have hliterals : ∀ l ∈ literals, ∀ v, l.2 ≠ .string v := by simp [literals]
    exact ⟨by simp, hliterals l hmem⟩
  · exact readNumber_length h

/-! ## The readers -/

/-- What is read with some fuel is within its text: the rest is no longer than the text, and a
string that is read fits between its quotes in front of the rest. -/
structure ReadsWithin (fuel : ℕ) : Prop where
  value : ∀ {s j rest}, readValue fuel s = some (j, rest) →
    rest.length ≤ s.length ∧ ∀ v, j = .string v → v.length + 2 + rest.length ≤ s.length
  items : ∀ {s js rest}, readItems fuel s = some (js, rest) → rest.length ≤ s.length
  member : ∀ {s m rest}, readMember fuel s = some (m, rest) →
    rest.length ≤ s.length ∧ ∀ v, m.2 = .string v → v.length + 2 + rest.length ≤ s.length
  members : ∀ {s ms rest}, readMembers fuel s = some (ms, rest) →
    rest.length ≤ s.length ∧
      ∀ m ∈ ms, ∀ v, m.2 = .string v → v.length + 2 + rest.length ≤ s.length

section Readers

variable {fuel : ℕ}

lemma readValue_within (ih : ReadsWithin fuel) {s : Bytes} {j : Json} {rest : Bytes}
    (h : readValue (fuel + 1) s = some (j, rest)) :
    rest.length ≤ s.length ∧ ∀ v, j = .string v → v.length + 2 + rest.length ≤ s.length := by
  have hblank := skipBlank_length s
  rw [readValue] at h
  rcases hs : skipBlank s with _ | ⟨c, s'⟩
  · simp only [hs] at h
    exact absurd h (by simp)
  simp only [hs] at h
  rw [hs, List.length_cons] at hblank
  have hblank' := skipBlank_length s'
  split_ifs at h
  · obtain ⟨⟨t, rest'⟩, ht, hr⟩ := Option.map_eq_some_iff.mp h
    simp only [Prod.mk.injEq] at hr
    obtain ⟨rfl, rfl⟩ := hr
    have hlen := (readString_length ht).1
    refine ⟨by omega, fun v hv => ?_⟩
    obtain rfl := Json.string.inj hv
    omega
  · simp only [Option.some.injEq, Prod.mk.injEq] at h
    obtain ⟨rfl, rfl⟩ := h
    rw [List.length_tail]
    exact ⟨by omega, by simp⟩
  · obtain ⟨⟨j', rest₁⟩, hj, h⟩ := Option.bind_eq_some_iff.mp h
    obtain ⟨⟨js, rest₂⟩, hjs, h⟩ := Option.bind_eq_some_iff.mp h
    simp only [Option.some.injEq, Prod.mk.injEq] at h
    obtain ⟨rfl, rfl⟩ := h
    have h₁ : rest₁.length ≤ s'.length := (ih.value hj).1
    have h₂ : rest₂.length ≤ rest₁.length := ih.items hjs
    exact ⟨by omega, by simp⟩
  · simp only [Option.some.injEq, Prod.mk.injEq] at h
    obtain ⟨rfl, rfl⟩ := h
    rw [List.length_tail]
    exact ⟨by omega, by simp⟩
  · obtain ⟨⟨m, rest₁⟩, hm, h⟩ := Option.bind_eq_some_iff.mp h
    obtain ⟨⟨ms, rest₂⟩, hms, h⟩ := Option.bind_eq_some_iff.mp h
    simp only [Option.some.injEq, Prod.mk.injEq] at h
    obtain ⟨rfl, rfl⟩ := h
    have h₁ : rest₁.length ≤ s'.length := (ih.member hm).1
    have h₂ : rest₂.length ≤ rest₁.length := (ih.members hms).1
    exact ⟨by omega, by simp [Json.ofMembers]⟩
  · obtain ⟨hlen, hne⟩ := readScalar_length h
    rw [List.length_cons] at hlen
    exact ⟨by omega, fun v hv => absurd hv (hne v)⟩

lemma readItems_within (ih : ReadsWithin fuel) {s : Bytes} {js : List Json} {rest : Bytes}
    (h : readItems (fuel + 1) s = some (js, rest)) : rest.length ≤ s.length := by
  have hblank := skipBlank_length s
  rw [readItems] at h
  rcases hs : skipBlank s with _ | ⟨c, s'⟩
  · simp only [hs] at h
    exact absurd h (by simp)
  simp only [hs] at h
  rw [hs, List.length_cons] at hblank
  split_ifs at h
  · simp only [Option.some.injEq, Prod.mk.injEq] at h
    obtain ⟨-, rfl⟩ := h
    omega
  · obtain ⟨⟨j', rest₁⟩, hj, h⟩ := Option.bind_eq_some_iff.mp h
    obtain ⟨⟨js', rest₂⟩, hjs, h⟩ := Option.bind_eq_some_iff.mp h
    simp only [Option.some.injEq, Prod.mk.injEq] at h
    obtain ⟨-, rfl⟩ := h
    have h₁ : rest₁.length ≤ s'.length := (ih.value hj).1
    have h₂ : rest₂.length ≤ rest₁.length := ih.items hjs
    omega

lemma readMember_within (ih : ReadsWithin fuel) {s : Bytes} {m : Bytes × Json} {rest : Bytes}
    (h : readMember (fuel + 1) s = some (m, rest)) :
    rest.length ≤ s.length ∧ ∀ v, m.2 = .string v → v.length + 2 + rest.length ≤ s.length := by
  have hblank := skipBlank_length s
  rw [readMember] at h
  rcases hs : skipBlank s with _ | ⟨c, s'⟩
  · simp only [hs] at h
    exact absurd h (by simp)
  simp only [hs] at h
  rw [hs, List.length_cons] at hblank
  split_ifs at h
  obtain ⟨⟨k, rest₁⟩, hk, h⟩ := Option.bind_eq_some_iff.mp h
  have hlen := (readString_length hk).1
  have hblank' := skipBlank_length rest₁
  rcases hs' : skipBlank rest₁ with _ | ⟨c', s''⟩
  · simp only [hs'] at h
    exact absurd h (by simp)
  simp only [hs'] at h
  rw [hs', List.length_cons] at hblank'
  split_ifs at h
  obtain ⟨⟨j, rest₂⟩, hj, h⟩ := Option.bind_eq_some_iff.mp h
  simp only [Option.some.injEq, Prod.mk.injEq] at h
  obtain ⟨rfl, rfl⟩ := h
  obtain ⟨h₁, h₂⟩ := ih.value hj
  refine ⟨by omega, fun v hv => ?_⟩
  have h₃ := h₂ v hv
  omega

lemma readMembers_within (ih : ReadsWithin fuel) {s : Bytes} {ms : List (Bytes × Json)}
    {rest : Bytes} (h : readMembers (fuel + 1) s = some (ms, rest)) :
    rest.length ≤ s.length ∧
      ∀ m ∈ ms, ∀ v, m.2 = .string v → v.length + 2 + rest.length ≤ s.length := by
  have hblank := skipBlank_length s
  rw [readMembers] at h
  rcases hs : skipBlank s with _ | ⟨c, s'⟩
  · simp only [hs] at h
    exact absurd h (by simp)
  simp only [hs] at h
  rw [hs, List.length_cons] at hblank
  split_ifs at h
  · simp only [Option.some.injEq, Prod.mk.injEq] at h
    obtain ⟨rfl, rfl⟩ := h
    exact ⟨by omega, by simp⟩
  · obtain ⟨⟨m, rest₁⟩, hm, h⟩ := Option.bind_eq_some_iff.mp h
    obtain ⟨⟨ms', rest₂⟩, hms, h⟩ := Option.bind_eq_some_iff.mp h
    simp only [Option.some.injEq, Prod.mk.injEq] at h
    obtain ⟨rfl, rfl⟩ := h
    obtain ⟨h₁, hm'⟩ := ih.member hm
    have h₂ : rest₂.length ≤ rest₁.length := (ih.members hms).1
    refine ⟨by omega, List.forall_mem_cons.mpr ⟨fun v hv => ?_, fun m' hmem v hv => ?_⟩⟩
    · have h₃ := hm' v hv
      omega
    · have h₃ : v.length + 2 + rest₂.length ≤ rest₁.length := (ih.members hms).2 m' hmem v hv
      omega

end Readers

lemma readsWithin (fuel : ℕ) : ReadsWithin fuel := by
  induction fuel with
  | zero =>
    constructor
    · intro s j rest h
      exact absurd h (by simp [readValue])
    · intro s js rest h
      exact absurd h (by simp [readItems])
    · intro s m rest h
      exact absurd h (by simp [readMember])
    · intro s ms rest h
      exact absurd h (by simp [readMembers])
  | succ fuel ih =>
    exact ⟨readValue_within ih, readItems_within ih, readMember_within ih, readMembers_within ih⟩

/-! ## A document with one string -/

/-- The document with the one member under the key, a text put between quotes as it is. -/
def rawDocument (key raw : Bytes) : Bytes :=
  0x7B :: (printString key ++ 0x3A :: 0x22 :: (raw ++ [0x22, 0x7D]))

/-- The parser reads the key, then a string from the text, then what is left of it. -/
lemma parse_rawDocument {key raw : Bytes} {j : Json} (hkey : key.ValidUtf8)
    (h : parse (rawDocument key raw) = some j) :
    ∃ fuel v rest ms rest', readString fuel (raw ++ [0x22, 0x7D]) = some (v, rest) ∧
      readMembers (fuel + 2) rest = some (ms, rest') ∧
      j = Json.ofMembers ((key, .string v) :: ms) := by
  obtain ⟨fuel, hfuel⟩ : ∃ fuel, (rawDocument key raw).length = fuel + 2 :=
    ⟨_, (Nat.sub_add_cancel (by simp [rawDocument, printString])).symm⟩
  have hlong : (key.flatMap escape).length < fuel + 1 := by
    simp only [rawDocument, printString, List.length_cons, List.length_append] at hfuel
    omega
  unfold parse at h
  split at h
  · exact absurd h (by simp)
  rename_i j' rest' hread
  split_ifs at h
  obtain rfl := Option.some.inj h
  rw [hfuel, rawDocument, readValue, skipBlank_cons rfl] at hread
  have hkeyText : printString key ++ 0x3A :: 0x22 :: (raw ++ [0x22, 0x7D]) =
      0x22 :: (key.flatMap escape ++ 0x22 :: 0x3A :: 0x22 :: (raw ++ [0x22, 0x7D])) := by
    simp [printString]
  have hopen : (skipBlank (printString key ++ 0x3A :: 0x22 :: (raw ++ [0x22, 0x7D]))).head? ≠
      some 0x7D := by
    rw [hkeyText, skipBlank_cons rfl]
    simp
  simp only [if_neg hopen] at hread
  obtain ⟨⟨m, rest₁⟩, hm, hread⟩ := Option.bind_eq_some_iff.mp hread
  obtain ⟨⟨ms, rest₂⟩, hms, hread⟩ := Option.bind_eq_some_iff.mp hread
  obtain ⟨rfl, -⟩ := Prod.mk.inj (Option.some.inj hread)
  rw [hkeyText, readMember, skipBlank_cons rfl] at hm
  simp only [if_pos, readString_printString hkey hlong, Option.bind_eq_bind, Option.bind_some,
    skipBlank_cons (show isBlank 0x3A = false from rfl)] at hm
  obtain ⟨⟨v, rest₃⟩, hv, hm⟩ := Option.bind_eq_some_iff.mp hm
  rw [readValue, skipBlank_cons rfl] at hv
  obtain ⟨⟨t, rest₄⟩, ht, hr⟩ := Option.map_eq_some_iff.mp hv
  obtain ⟨rfl, rfl⟩ := Prod.mk.inj hr
  obtain ⟨rfl, rfl⟩ := Prod.mk.inj (Option.some.inj hm)
  exact ⟨fuel, t, _, ms, _, ht, hms, rfl⟩

/-- The text is read back exactly when it is valid and none of its characters needs an escape. -/
theorem parse_raw_iff {key : Bytes} (raw : Bytes) (hkey : key.ValidUtf8) :
    parse (rawDocument key raw) = some (.object [(key, .string raw)]) ↔
      raw.ValidUtf8 ∧ Plain raw := by
  constructor
  · intro h
    have hraw : raw.ValidUtf8 := by
      have hu := parse_utf8 h
      simp only [Json.Utf8, Json.Utf8Members] at hu
      exact hu.2.1
    obtain ⟨fuel, v, rest, ms, rest', hv, hms, hobj⟩ := parse_rawDocument hkey h
    obtain ⟨hlen, hplain⟩ := readString_length hv
    rw [List.length_append, List.length_cons, List.length_singleton] at hlen hplain
    -- the last member under the key is the one that counts
    have hlookup : ((key, Json.string v) :: ms).reverse.lookup key = some (.string raw) := by
      rw [← Json.member?_ofMembers, ← hobj]
      simp [Json.member?]
    obtain ⟨ms₁, ms₂, hsplit, -⟩ := List.lookup_eq_some_iff.mp hlookup
    have hmem : (key, Json.string raw) ∈ (key, Json.string v) :: ms := by
      rw [← List.mem_reverse, hsplit]
      simp
    rcases List.mem_cons.mp hmem with heq | hin
    · obtain rfl := Json.string.inj (Prod.mk.inj heq).2
      -- something of the text is left, and at most the brace
      have hne : rest ≠ [] := by
        rintro rfl
        rw [readMembers, skipBlank] at hms
        exact absurd hms (by simp)
      have hpos := List.length_pos_of_ne_nil hne
      exact ⟨hraw, (hplain (by omega)).2⟩
    · -- what is left is too short to hold the text again
      have hwithin := ((readsWithin _).members hms).2 _ hin raw rfl
      omega
  · rintro ⟨hutf8, hplain⟩
    have hprint : rawDocument key raw = print (.object [(key, .string raw)]) := by
      simp [rawDocument, print, printMembers, printString, flatMap_escape_of_plain hplain]
    rw [hprint]
    exact parse_print (by simp [Json.Utf8, Json.Utf8Members, hkey, hutf8])
      (by simp [Json.Sorted, Json.SortedMembers])

end JsonText
