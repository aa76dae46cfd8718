/-
# Base64

`utils::DecodeBase64`: the accumulator is a 32-bit integer that wraps, as the machine's
does.
-/
import ProfileService.Lib.Bytes
import Mathlib.Algebra.Group.Int.Defs

namespace ProfileService

open Bytes (str)

/-- `base64_chars`. -/
def base64Chars : Bytes :=
  str "ABCDEFGHIJKLMNOPQRSTUVWXYZabcdefghijklmnopqrstuvwxyz0123456789+/"

/-- The variables of the loop. -/
structure Decoder where
  val : BitVec 32
  valb : ℤ
  decoded : List UInt8

/-- One character; one that is not in the alphabet is skipped. -/
def Decoder.step (d : Decoder) (c : UInt8) : Decoder :=
  match base64Chars.find [c] 0 with
  | none => d
  | some pos =>
      let val := (d.val <<< 6) + BitVec.ofNat 32 pos
      let valb := d.valb + 6
      if 0 ≤ valb then
        { val := val
          valb := valb - 8
          decoded := d.decoded ++ [UInt8.ofBitVec ((val.sshiftRight valb.toNat).truncate 8)] }
      else { d with val := val, valb := valb }

/-- `utils::DecodeBase64`: the loop stops at the padding. -/
def decodeBase64 (encoded : Bytes) : List UInt8 :=
  ((encoded.takeWhile fun c => c ≠ 0x3D).foldl Decoder.step ⟨0, -6, []⟩).decoded

end ProfileService
