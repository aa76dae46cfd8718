/-
# What the decoder decodes

`DecodeBase64` shifts the numbers of the characters into an accumulator that is never masked and
takes a byte out of it whenever eight bits are counted.  That the accumulator overflows is
harmless: a byte is taken from its twelve lowest bits, the last two characters.  But the count
starts at -6, where two bits too many are counted: every byte that comes out is two bits behind
the one that was encoded.
-/
import ProfileService.AvatarObjects
import ProfileService.Lib.Base64

namespace ProfileService

open Bytes (str)

/-! ## The loop with an unbounded accumulator -/

/-- The variables of the loop, with an accumulator that does not overflow. -/
structure IntDecoder where
  val : ℤ
  valb : ℤ
  decoded : List UInt8

/-- The number of a character that is in the alphabet. -/
def IntDecoder.push (d : IntDecoder) (pos : ℕ) : IntDecoder :=
  let val := d.val * 64 + pos
  let valb := d.valb + 6
  if 0 ≤ valb then
    { val := val
      valb := valb - 8
      decoded := d.decoded ++ [UInt8.ofNat ((val >>> valb.toNat) % 256).toNat] }
  else { d with val := val, valb := valb }

/-- One character. -/
def IntDecoder.step (d : IntDecoder) (c : UInt8) : IntDecoder :=
  match base64Chars.find [c] 0 with
  | none => d
  | some pos => d.push pos

/-- The variables before the first character. -/
def Decoder.start : Decoder := ⟨0, -6, []⟩

def IntDecoder.start : IntDecoder := ⟨0, -6, []⟩

/-- The part of the text that the loop reads. -/
def unpadded (encoded : Bytes) : Bytes := encoded.takeWhile fun c => c ≠ 0x3D

/-- `DecodeBase64` with an accumulator that does not overflow. -/
def decodeBase64Int (encoded : Bytes) : List UInt8 :=
  ((unpadded encoded).foldl IntDecoder.step .start).decoded

/-- The shift amount of the right shift that a character leads to, if there is one. -/
def Decoder.shift? (d : Decoder) (c : UInt8) : Option ℤ :=
  match base64Chars.find [c] 0 with
  | none => none
  | some _ => if 0 ≤ d.valb + 6 then some (d.valb + 6) else none

/-- The numbers of the characters that are in the alphabet. -/
def sextetsOf (s : Bytes) : List ℕ := s.filterMap fun c => base64Chars.find [c] 0

/-- The twelve bits of the last two numbers, the latest first. -/
def window : List ℕ → ℕ
  | [] => 0
  | [q] => q
  | q :: p :: _ => 64 * p + q

/-- The byte at a position, from the last two numbers at the time. -/
def emittedByte (position : ℕ) (lastTwo : List ℕ) : UInt8 :=
  let shift := if position % 3 = 0 then 0 else if position % 3 = 1 then 4 else 2
  UInt8.ofNat (window lastTwo / 2 ^ shift % 256)

/-! ## The two loops -/

/-- Low bits of a number are not changed by an overflow above them, nor by the sign. -/
lemma truncate_sshiftRight_ofNat {w v s : ℕ} (h : s + v ≤ w) (n : ℕ) :
    ((BitVec.ofNat w n).sshiftRight s).truncate v = BitVec.ofNat v (n / 2 ^ s) := by
  refine BitVec.eq_of_getLsbD_eq fun i hi => ?_
  have hbit : s + i < w := by omega
  have hwidth : ¬ w ≤ i := by omega
  rw [BitVec.truncate_eq_setWidth, BitVec.getLsbD_setWidth, BitVec.getLsbD_sshiftRight,
    BitVec.getLsbD_ofNat, BitVec.getLsbD_ofNat, Nat.testBit_div_two_pow]
  simp [hi, hbit, hwidth, Nat.add_comm]

/-- The same bits of an integer that is not negative. -/
lemma toNat_shiftRight (n s : ℕ) : (((n : ℤ) >>> s) % 256).toNat = n / 2 ^ s % 256 := by
  have hcast : (n : ℤ) >>> s = ((n >>> s : ℕ) : ℤ) := rfl
  rw [hcast, Nat.shiftRight_eq_div_pow]
  omega

/-- A number that a byte is taken out after. -/
lemma IntDecoder.push_emits {valb : ℤ} {shift : ℕ} (h : valb + 6 = shift) (n pos : ℕ)
    (decoded : List UInt8) :
    IntDecoder.push ⟨n, valb, decoded⟩ pos = ⟨((64 * n + pos : ℕ) : ℤ), shift - 8,
      decoded ++ [UInt8.ofNat ((64 * n + pos) / 2 ^ shift % 256)]⟩ := by
  have hval : (n : ℤ) * 64 + pos = ((64 * n + pos : ℕ) : ℤ) := by omega
  simp only [IntDecoder.push, h, if_pos (Int.natCast_nonneg shift), hval, Int.toNat_natCast,
    toNat_shiftRight]

/-- A number that no byte is taken out after. -/
lemma IntDecoder.push_silent (n pos : ℕ) (decoded : List UInt8) :
    IntDecoder.push ⟨n, -8, decoded⟩ pos = ⟨((64 * n + pos : ℕ) : ℤ), -2, decoded⟩ := by
  have hval : (n : ℤ) * 64 + pos = ((64 * n + pos : ℕ) : ℤ) := by omega
  simp [IntDecoder.push, hval]

/-- What relates the two loops after the same characters: the accumulators agree up to overflow
and show the last two numbers, and the count goes with the number of bytes. -/
structure Decoder.Tracks (d : Decoder) (e : IntDecoder) (qs : List ℕ) (n : ℕ) : Prop where
  val : d.val = BitVec.ofNat 32 n
  int : e.val = n
  window : n % 4096 = window (qs.reverse.take 2)
  last : n % 64 = qs.reverse.headD 0
  valb : d.valb = e.valb
  decoded : d.decoded = e.decoded
  phase : e.valb = -6 ∧ e.decoded.length % 3 = 0 ∨ e.valb = -8 ∧ e.decoded.length % 3 = 1 ∨
    e.valb = -2 ∧ e.decoded.length % 3 = 1 ∨ e.valb = -4 ∧ e.decoded.length % 3 = 2

lemma Decoder.tracks_start : Decoder.start.Tracks .start [] 0 :=
  ⟨rfl, rfl, rfl, rfl, rfl, rfl, Or.inl ⟨rfl, rfl⟩⟩

lemma Decoder.step_of_none {d : Decoder} {c : UInt8} (h : base64Chars.find [c] 0 = none) :
    d.step c = d := by
  unfold Decoder.step
  rw [h]

lemma IntDecoder.step_of_none {d : IntDecoder} {c : UInt8}
    (h : base64Chars.find [c] 0 = none) : d.step c = d := by
  unfold IntDecoder.step
  rw [h]

lemma IntDecoder.step_of_some {d : IntDecoder} {c : UInt8} {pos : ℕ}
    (h : base64Chars.find [c] 0 = some pos) : d.step c = d.push pos := by
  unfold IntDecoder.step
  rw [h]

lemma find_lt {c : UInt8} {pos : ℕ} (h : base64Chars.find [c] 0 = some pos) : pos < 64 := by
  have hlength : base64Chars.length = 64 := by decide
  have hhead := List.find?_some h
  by_contra hle
  rw [List.drop_of_length_le (by omega)] at hhead
  exact absurd hhead (by simp)

section Step

variable {d : Decoder} {e : IntDecoder} {qs : List ℕ} {n : ℕ} {c : UInt8} {pos : ℕ}

/-- The window after one more number. -/
lemma Decoder.Tracks.window_concat (h : d.Tracks e qs n) (hpos : pos < 64) :
    (64 * n + pos) % 4096 = ProfileService.window ((qs ++ [pos]).reverse.take 2) := by
  have hlast := h.last
  rw [List.reverse_append, List.reverse_singleton, List.singleton_append]
  rcases hrev : qs.reverse with _ | ⟨q, rest⟩
  · rw [hrev, List.headD_nil] at hlast
    simp only [List.take_succ_cons, List.take_nil, ProfileService.window]
    omega
  · rw [hrev, List.headD_cons] at hlast
    simp only [List.take_succ_cons, List.take_zero, ProfileService.window]
    omega

lemma Decoder.Tracks.val_concat (h : d.Tracks e qs n) (pos : ℕ) :
    (d.val <<< 6) + BitVec.ofNat 32 pos = BitVec.ofNat 32 (64 * n + pos) := by
  rw [h.val, BitVec.ofNat_add]
  congr 1
  refine BitVec.eq_of_toNat_eq ?_
  rw [BitVec.toNat_shiftLeft, BitVec.toNat_ofNat, BitVec.toNat_ofNat, Nat.shiftLeft_eq]
  omega

/-- Twelve bits of the accumulator are enough for a byte. -/
lemma emittedByte_eq {position m shift : ℕ} {lastTwo : List ℕ}
    (hm : m % 4096 = ProfileService.window lastTwo)
    (hshift : position % 3 = 0 ∧ shift = 0 ∨ position % 3 = 1 ∧ shift = 4 ∨
      position % 3 = 2 ∧ shift = 2) :
    emittedByte position lastTwo = UInt8.ofNat (m / 2 ^ shift % 256) := by
  rw [emittedByte, ← hm]
  congr 1
  rcases hshift with ⟨hposition, rfl⟩ | ⟨hposition, rfl⟩ | ⟨hposition, rfl⟩
  · rw [if_pos hposition]
    omega
  · rw [if_neg (by omega), if_pos hposition]
    omega
  · rw [if_neg (by omega), if_neg (by omega)]
    omega

/-- The unbounded loop as `push_emits` and `push_silent` have it. -/
lemma Decoder.Tracks.eq_mk (h : d.Tracks e qs n) : e = ⟨n, e.valb, e.decoded⟩ := by
  rw [← h.int]

lemma Decoder.Tracks.last_concat (hpos : pos < 64) :
    (64 * n + pos) % 64 = (qs ++ [pos]).reverse.headD 0 := by
  rw [List.reverse_append, List.reverse_singleton, List.singleton_append, List.headD_cons]
  omega

/-- One more number that no byte is taken out after. -/
lemma Decoder.Tracks.push_silent (h : d.Tracks e qs n)
    (hfind : base64Chars.find [c] 0 = some pos) (hvalb : e.valb = -8)
    (hlength : e.decoded.length % 3 = 1) :
    (d.step c).Tracks (e.push pos) (qs ++ [pos]) (64 * n + pos) ∧ d.shift? c = none ∧
      (d.step c).decoded = d.decoded := by
  have hpos := find_lt hfind
  have hd : d.valb = -8 := by rw [h.valb, hvalb]
  have hstep : d.step c = ⟨(d.val <<< 6) + BitVec.ofNat 32 pos, -2, d.decoded⟩ := by
    unfold Decoder.step
    simp [hfind, hd]
  have hpush : e.push pos = ⟨((64 * n + pos : ℕ) : ℤ), -2, e.decoded⟩ := by
    rw [h.eq_mk, hvalb, IntDecoder.push_silent]
  rw [hstep, hpush]
  refine ⟨⟨h.val_concat pos, rfl, h.window_concat hpos, last_concat hpos, rfl, h.decoded,
    Or.inr (Or.inr (Or.inl ⟨rfl, hlength⟩))⟩, ?_, rfl⟩
  unfold Decoder.shift?
  simp [hfind, hd]

/-- One more number that a byte is taken out after. -/
lemma Decoder.Tracks.push_emits (h : d.Tracks e qs n)
    (hfind : base64Chars.find [c] 0 = some pos) {shift : ℕ} (hvalb : e.valb + 6 = shift)
    (hshift : d.decoded.length % 3 = 0 ∧ shift = 0 ∨ d.decoded.length % 3 = 1 ∧ shift = 4 ∨
      d.decoded.length % 3 = 2 ∧ shift = 2) :
    (d.step c).Tracks (e.push pos) (qs ++ [pos]) (64 * n + pos) ∧ d.shift? c = some (shift : ℤ) ∧
      (d.step c).decoded =
        d.decoded ++ [emittedByte d.decoded.length ((qs ++ [pos]).reverse.take 2)] := by
  have hpos := find_lt hfind
  have hd : d.valb + 6 = shift := by rw [h.valb, hvalb]
  have hge : (0 : ℤ) ≤ shift := Int.natCast_nonneg shift
  have hbyte := emittedByte_eq (h.window_concat hpos) hshift
  have hstep : d.step c = ⟨(d.val <<< 6) + BitVec.ofNat 32 pos, shift - 8, d.decoded ++
      [emittedByte d.decoded.length ((qs ++ [pos]).reverse.take 2)]⟩ := by
    have htruncate := truncate_sshiftRight_ofNat (w := 32) (v := 8) (s := shift) (by omega)
      (64 * n + pos)
    unfold Decoder.step
    simp only [hfind, hd, if_pos hge, h.val_concat, Int.toNat_natCast, htruncate, hbyte]
    congr 3
    refine UInt8.toBitVec_inj.mp (BitVec.eq_of_toNat_eq ?_)
    simp
  have hpush : e.push pos = ⟨((64 * n + pos : ℕ) : ℤ), shift - 8, e.decoded ++
      [emittedByte d.decoded.length ((qs ++ [pos]).reverse.take 2)]⟩ := by
    rw [h.eq_mk, IntDecoder.push_emits hvalb, hbyte]
  rw [hstep, hpush]
  refine ⟨⟨h.val_concat pos, rfl, h.window_concat hpos, last_concat hpos, rfl, ?_, ?_⟩, ?_, rfl⟩
  · rw [h.decoded]
  · have hlength := congrArg List.length h.decoded
    simp only [List.length_append, List.length_singleton]
    omega
  · unfold Decoder.shift?
    simp [hfind, hd]

/-- One more number. -/
lemma Decoder.Tracks.push (h : d.Tracks e qs n) (hfind : base64Chars.find [c] 0 = some pos) :
    (d.step c).Tracks (e.push pos) (qs ++ [pos]) (64 * n + pos) ∧
      (∀ s ∈ d.shift? c, 0 ≤ s ∧ s ≤ 5) ∧
      (d.step c).decoded = d.decoded ++ if (d.shift? c).isSome then
        [emittedByte d.decoded.length ((qs ++ [pos]).reverse.take 2)] else [] := by
  have hlength := congrArg List.length h.decoded
  have hcases : (e.valb = -8 ∧ e.decoded.length % 3 = 1) ∨ ∃ shift : ℕ, e.valb + 6 = shift ∧
      (d.decoded.length % 3 = 0 ∧ shift = 0 ∨ d.decoded.length % 3 = 1 ∧ shift = 4 ∨
        d.decoded.length % 3 = 2 ∧ shift = 2) := by
    rcases h.phase with h0 | h1 | h2 | h3
    · exact Or.inr ⟨0, by omega, by omega⟩
    · exact Or.inl h1
    · exact Or.inr ⟨4, by omega, by omega⟩
    · exact Or.inr ⟨2, by omega, by omega⟩
  rcases hcases with ⟨hvalb, hphase⟩ | ⟨shift, hvalb, hphase⟩
  · obtain ⟨htracks, hshift, hdecoded⟩ := h.push_silent hfind hvalb hphase
    rw [hshift, hdecoded]
    exact ⟨htracks, by simp, by simp⟩
  · obtain ⟨htracks, hshift, hdecoded⟩ := h.push_emits hfind hvalb hphase
    refine ⟨htracks, fun s hs => ?_, ?_⟩
    · obtain rfl := Option.some.inj (hshift.symm.trans hs)
      omega
    · rw [hshift, hdecoded]
      rfl

end Step

lemma sextetsOf_concat (s : Bytes) (c : UInt8) :
    sextetsOf (s ++ [c]) = sextetsOf s ++ (base64Chars.find [c] 0).toList := by
  rcases hfind : base64Chars.find [c] 0 with _ | pos <;> simp [sextetsOf, hfind]

/-- The two loops go together along a text. -/
lemma tracks_foldl (s : Bytes) :
    ∃ n, (s.foldl Decoder.step .start).Tracks (s.foldl IntDecoder.step .start) (sextetsOf s) n := by
  induction s using List.reverseRecOn with
  | nil => exact ⟨0, Decoder.tracks_start⟩
  | append_singleton s c ih =>
    obtain ⟨n, h⟩ := ih
    rw [List.foldl_concat, List.foldl_concat, sextetsOf_concat]
    rcases hfind : base64Chars.find [c] 0 with _ | pos
    · rw [Decoder.step_of_none hfind, IntDecoder.step_of_none hfind, Option.toList_none,
        List.append_nil]
      exact ⟨n, h⟩
    · rw [IntDecoder.step_of_some hfind]
      exact ⟨64 * n + pos, (h.push hfind).1⟩

lemma decodeBase64_eq_int (encoded : Bytes) : decodeBase64 encoded = decodeBase64Int encoded := by
  obtain ⟨n, h⟩ := tracks_foldl (unpadded encoded)
  exact h.decoded

/-- The accumulator may overflow: `DecodeBase64` emits the same bytes as the loop over unbounded
integers, every right shift is by 0 to 5, and a byte is determined by its position and the last
two numbers that were decoded when it is emitted. -/
theorem decodeBase64_unbounded (encoded : Bytes) :
    decodeBase64 encoded = decodeBase64Int encoded ∧
      ∀ read c, read ++ [c] <+: unpadded encoded →
        (∀ s ∈ (read.foldl Decoder.step .start).shift? c, 0 ≤ s ∧ s ≤ 5) ∧
        ((read ++ [c]).foldl Decoder.step .start).decoded =
          (read.foldl Decoder.step .start).decoded ++
            if ((read.foldl Decoder.step .start).shift? c).isSome then
              [emittedByte (read.foldl Decoder.step .start).decoded.length
                ((sextetsOf (read ++ [c])).reverse.take 2)]
            else [] := by
  refine ⟨decodeBase64_eq_int encoded, fun read c _ => ?_⟩
  obtain ⟨n, h⟩ := tracks_foldl read
  rw [List.foldl_concat, sextetsOf_concat]
  rcases hfind : base64Chars.find [c] 0 with _ | pos
  · have hshift : (read.foldl Decoder.step .start).shift? c = none := by
      unfold Decoder.shift?
      rw [hfind]
    rw [hshift, Decoder.step_of_none hfind]
    simp
  · exact (h.push hfind).2

/-! ## What comes out of an encoding -/

/-- The bytes with all bits two places later; the carry is what comes first. -/
def delayed : ℕ → List UInt8 → List UInt8
  | _, [] => []
  | carry, b :: bytes => UInt8.ofNat (carry * 64 + b.toNat / 4) :: delayed (b.toNat % 4) bytes

/-- Bytes that are the same two bits later are zero. -/
lemma delayed_eq_self {bytes : List UInt8} : delayed 0 bytes = bytes ↔ ∀ b ∈ bytes, b = 0 := by
  induction bytes with
  | nil => simp [delayed]
  | cons b bytes ih =>
    have hb := b.toNat_lt
    have hhead : UInt8.ofNat (0 * 64 + b.toNat / 4) = b ↔ b = 0 := by
      rw [← UInt8.toNat_inj, ← UInt8.toNat_inj (b := 0),
      UInt8.toNat_ofNat_of_lt' (by simp [UInt8.size]; omega)]
      simp
      omega
    rw [delayed, List.cons.injEq, hhead, List.forall_mem_cons]
    refine and_congr_right ?_
    rintro rfl
    exact ih

section Groups

variable (n pos : ℕ) (decoded : List UInt8)

lemma IntDecoder.push_first : IntDecoder.push ⟨n, -6, decoded⟩ pos =
    ⟨((64 * n + pos : ℕ) : ℤ), -8, decoded ++ [UInt8.ofNat ((64 * n + pos) % 256)]⟩ := by
  have h : (-6 : ℤ) + 6 = (0 : ℕ) := rfl
  rw [IntDecoder.push_emits h, Nat.pow_zero, Nat.div_one]
  rfl

lemma IntDecoder.push_third : IntDecoder.push ⟨n, -2, decoded⟩ pos =
    ⟨((64 * n + pos : ℕ) : ℤ), -4, decoded ++ [UInt8.ofNat ((64 * n + pos) / 16 % 256)]⟩ := by
  have h : (-2 : ℤ) + 6 = (4 : ℕ) := rfl
  exact IntDecoder.push_emits h n pos decoded

lemma IntDecoder.push_fourth : IntDecoder.push ⟨n, -4, decoded⟩ pos =
    ⟨((64 * n + pos : ℕ) : ℤ), -6, decoded ++ [UInt8.ofNat ((64 * n + pos) / 4 % 256)]⟩ := by
  have h : (-4 : ℤ) + 6 = (2 : ℕ) := rfl
  exact IntDecoder.push_emits h n pos decoded

end Groups

/-- The groups of the bytes come out two bits late. -/
lemma foldl_push_sextets (bytes : List UInt8) (n : ℕ) (decoded : List UInt8) :
    ((Base64.sextets bytes).foldl IntDecoder.push ⟨n, -6, decoded⟩).decoded =
      decoded ++ delayed (n % 4) bytes := by
  induction bytes using Base64.sextets.induct generalizing n decoded with
  | case1 => simp [Base64.sextets, delayed]
  | case2 a =>
    have ha := a.toNat_lt
    have h0 : (64 * n + a.toNat / 4) % 256 = n % 4 * 64 + a.toNat / 4 := by omega
    simp only [Base64.sextets, List.foldl_cons, List.foldl_nil, delayed]
    rw [IntDecoder.push_first, IntDecoder.push_silent, h0]
  | case3 a b =>
    have ha := a.toNat_lt
    have hb := b.toNat_lt
    have h0 : (64 * n + a.toNat / 4) % 256 = n % 4 * 64 + a.toNat / 4 := by omega
    have h1 : (64 * (64 * (64 * n + a.toNat / 4) + (a.toNat % 4 * 16 + b.toNat / 16)) +
        b.toNat % 16 * 4) / 16 % 256 = a.toNat % 4 * 64 + b.toNat / 4 := by omega
    simp only [Base64.sextets, List.foldl_cons, List.foldl_nil, delayed]
    rw [IntDecoder.push_first, IntDecoder.push_silent, IntDecoder.push_third, h0, h1,
      List.append_assoc]
    rfl
  | case4 a b c bytes ih =>
    have ha := a.toNat_lt
    have hb := b.toNat_lt
    have hc := c.toNat_lt
    have h0 : (64 * n + a.toNat / 4) % 256 = n % 4 * 64 + a.toNat / 4 := by omega
    have h1 : (64 * (64 * (64 * n + a.toNat / 4) + (a.toNat % 4 * 16 + b.toNat / 16)) +
        (b.toNat % 16 * 4 + c.toNat / 64)) / 16 % 256 = a.toNat % 4 * 64 + b.toNat / 4 := by omega
    have h2 : (64 * (64 * (64 * (64 * n + a.toNat / 4) + (a.toNat % 4 * 16 + b.toNat / 16)) +
        (b.toNat % 16 * 4 + c.toNat / 64)) + c.toNat % 64) / 4 % 256 =
          b.toNat % 4 * 64 + c.toNat / 4 := by omega
    -- the two lowest bits of the last byte are carried on
    have hcarry : (64 * (64 * (64 * (64 * n + a.toNat / 4) + (a.toNat % 4 * 16 + b.toNat / 16)) +
        (b.toNat % 16 * 4 + c.toNat / 64)) + c.toNat % 64) % 4 = c.toNat % 4 := by omega
    simp only [Base64.sextets, List.foldl_cons, delayed]
    rw [IntDecoder.push_first, IntDecoder.push_silent, IntDecoder.push_third,
      IntDecoder.push_fourth, ih, h0, h1, h2, hcarry]
    simp only [List.append_assoc, List.cons_append, List.nil_append]

/-- The loop over the characters of groups is the one over the groups. -/
lemma foldl_step (s : Bytes) (d : IntDecoder) :
    s.foldl IntDecoder.step d = (sextetsOf s).foldl IntDecoder.push d := by
  induction s generalizing d with
  | nil => rfl
  | cons c s ih =>
    rw [List.foldl_cons, ih]
    rcases hfind : base64Chars.find [c] 0 with _ | pos
    · simp [sextetsOf, hfind, IntDecoder.step_of_none hfind]
    · simp [sextetsOf, hfind, IntDecoder.step_of_some hfind]

/-- The characters of the alphabet have their numbers, and others have none. -/
lemma sextetsOf_filter (s : Bytes) :
    sextetsOf s = sextetsOf (s.filter (· ∈ Base64.alphabet)) := by
  rw [sextetsOf, sextetsOf, List.filterMap_filter]
  refine List.filterMap_congr fun c _ => ?_
  split
  · rfl
  · rename_i hc
    rw [Bytes.find_byte_eq_none, List.drop_zero]
    exact fun hmem => hc (decide_eq_true hmem)

lemma find_digit : ∀ q < 64, base64Chars.find [Base64.digit q] 0 = some q := by decide

lemma sextetsOf_digits {qs : List ℕ} (h : ∀ q ∈ qs, q < 64) :
    sextetsOf (qs.map Base64.digit) = qs := by
  rw [sextetsOf, List.filterMap_map]
  conv_rhs => rw [← List.filterMap_some (l := qs)]
  exact List.filterMap_congr fun q hq => find_digit q (h q hq)

/-- What `DecodeBase64` makes of an encoding: the bytes, two bits late. -/
theorem decodeBase64_eq_delayed {bytes : List UInt8} {s : Bytes} (h : Base64.Spells bytes s) :
    decodeBase64 s = delayed 0 bytes := by
  rw [decodeBase64_eq_int, decodeBase64Int, foldl_step, sextetsOf_filter, unpadded, h.takeWhile,
    sextetsOf_digits (Base64.sextets_lt bytes)]
  exact foldl_push_sextets bytes 0 []

/-! ## Uploads -/

section Uploads

variable {σ : Type}

/-- A `POST /me/avatar` by a user, with the text as its `image_data`. -/
structure UploadsImage (env : Env σ) (request : Request) (s contentType : Bytes) : Prop where
  method : request.method = .post
  target : request.target = str "/me/avatar"
  user : extractUserID request ≠ []
  body : ∃ j, bodyJson env request = some j ∧ j.member? (str "image_data") = some (.string s) ∧
    value getString j (str "content_type") (str "image/jpeg") = .ok contentType

/-- The request is served by handing the data to the avatar storage. -/
def HandsOver (env : Env σ) (w : World σ) (request : Request) (data : List UInt8)
    (contentType : Bytes) : Prop :=
  serve env w request = (tryCatch
    (do
      let avatarUrl ← ProfileHandler.upload (extractUserID request) data contentType
      ProfileRepository.updateAvatarURL (extractUserID request) avatarUrl
      dumpResponse 200 request (uploadedJson request avatarUrl))
    fun e => pure (errorResponse 500 request.version (str "upload failed: " ++ e.what)) :
      Svc σ Response).run env (w.entering .uploadAvatar)

/-- An upload hands over what the decoder makes of its image data. -/
lemma UploadsImage.handsOver {env : Env σ} {request : Request} {s contentType : Bytes}
    (h : UploadsImage env request s contentType) (hdata : decodeBase64 s ≠ []) (w : World σ) :
    HandsOver env w request (decodeBase64 s) contentType := by
  obtain ⟨j, hj, himage, htype⟩ := h.body
  refine uploadAvatar_reads h.method h.target h.user ?_
  simp [uploadInput, hj, himage, htype, hdata, getString, Except.toOption]

/-- An encoding is decoded to the bytes, and these are what an upload hands over, exactly when
all of them are zero. -/
theorem decodeBase64_encoded_iff {bytes : List UInt8} {s : Bytes} (h : Base64.Spells bytes s) :
    (decodeBase64 s = bytes ∧ ∀ (env : Env σ) w request contentType,
      UploadsImage env request s contentType → bytes ≠ [] →
        HandsOver env w request bytes contentType) ↔ ∀ b ∈ bytes, b = 0 := by
  rw [← delayed_eq_self, ← decodeBase64_eq_delayed h]
  constructor
  · exact fun hdecoded => hdecoded.1
  · intro hdecoded
    refine ⟨hdecoded, fun env w request contentType hupload hnil => ?_⟩
    have hhands := hupload.handsOver (hdecoded ▸ hnil) w
    rwa [hdecoded] at hhands

/-- A byte that is zero is decoded. -/
theorem decodeBase64_encoded_iff_zero : decodeBase64 (str "AA==") = [0] :=
  ((decodeBase64_encoded_iff (σ := Unit) (Base64.spells_encode [0])).mpr (by simp)).1

/-- `TWFu` is the encoding of `Man`, and other bytes are decoded from it. -/
theorem man_misdecoded : Base64.Spells (str "Man") (str "TWFu") ∧
    decodeBase64 (str "TWFu") = [0x13, 0x58, 0x5B] ∧ str "Man" = [0x4D, 0x61, 0x6E] :=
  ⟨Base64.spells_encode (str "Man"), by decide, by decide⟩

end Uploads

end ProfileService
