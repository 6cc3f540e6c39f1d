import Duvm.Backend.Compress
import Duvm.Library.LittleEndian

/-!
# Literal blocks of LZ4

What `lz4_flex` makes of data without repetitions: the length of the data, then
a single sequence which consists of literals only. `literalLz4` compresses
everything in this way and decompresses such blocks, so it agrees with LZ4 on
data which cannot be compressed.
-/

namespace Duvm

namespace Lz4

/-- A length in excess of a token's nibble, in bytes which are 255 but for the last. -/
def extraLength (length : ℕ) : List UInt8 :=
  List.replicate (length / 255) 255 ++ [UInt8.ofNat (length % 255)]

def readExtraLength : List UInt8 → Option (ℕ × List UInt8)
  | [] => none
  | byte :: rest =>
      if byte = 255 then (readExtraLength rest).map fun (length, rest) => (length + 255, rest)
      else some (byte.toNat, rest)

theorem readExtraLength_replicate (count last : ℕ) (isLast : last < 255) (rest : List UInt8) :
    readExtraLength (List.replicate count 255 ++ UInt8.ofNat last :: rest) =
      some (255 * count + last, rest) := by
  induction count with
  | zero =>
      have small : (UInt8.ofNat last).toNat = last := by
        rw [UInt8.toNat_ofNat']
        omega
      have different : UInt8.ofNat last ≠ 255 := by
        intro same
        rw [same] at small
        simp only [UInt8.reduceToNat] at small
        omega
      simp only [List.replicate_zero, List.nil_append, readExtraLength, if_neg different, small]
      simp
  | succ count ih =>
      simp only [List.replicate_succ, List.cons_append, readExtraLength, if_true, ih,
        Option.map_some]
      congr 2
      omega

theorem readExtraLength_extraLength (length : ℕ) (rest : List UInt8) :
    readExtraLength (extraLength length ++ rest) = some (length, rest) := by
  have isLast : length % 255 < 255 := Nat.mod_lt _ (by decide)
  rw [extraLength, List.append_assoc, List.singleton_append,
    readExtraLength_replicate _ _ isLast, Nat.div_add_mod]

/-- The literals of a last sequence behind its token. -/
def literalBlock (bytes : List UInt8) : List UInt8 :=
  if bytes.length < 15 then UInt8.ofNat (16 * bytes.length) :: bytes
  else 0xF0 :: (extraLength (bytes.length - 15) ++ bytes)

def readLiteralBlock : List UInt8 → Option (List UInt8)
  | [] => none
  | token :: rest =>
      if token.toNat / 16 < 15 then if rest.length = token.toNat / 16 then some rest else none
      else
        (readExtraLength rest).bind fun (extra, literals) =>
          if literals.length = 15 + extra then some literals else none

theorem readLiteralBlock_literalBlock (bytes : List UInt8) :
    readLiteralBlock (literalBlock bytes) = some bytes := by
  rw [literalBlock]
  split
  · next short =>
      have token : (UInt8.ofNat (16 * bytes.length)).toNat / 16 = bytes.length := by
        rw [UInt8.toNat_ofNat']
        omega
      simp only [readLiteralBlock, token, short, if_true]
  · next long =>
      have nibble : ¬(0xF0 : UInt8).toNat / 16 < 15 := by decide
      have whole : bytes.length = 15 + (bytes.length - 15) := by omega
      simp only [readLiteralBlock, nibble, if_false, readExtraLength_extraLength,
        Option.bind_some]
      rw [if_pos whole]

def readSized (block : List UInt8) : Option (List UInt8) :=
  (readLiteralBlock (block.drop 4)).filter fun bytes =>
    LittleEndian.value (block.take 4) = bytes.length % 256 ^ 4

/-- LZ4 on data which it cannot compress. -/
def literalLz4 : Lz4 where
  compressPrependSize bytes := LittleEndian.bytes 4 bytes.length ++ literalBlock bytes
  decompressSizePrepended := readSized
  lossless := by
    intro bytes
    have prefixLength : (LittleEndian.bytes 4 bytes.length).length = 4 :=
      LittleEndian.length_bytes _ _
    rw [readSized, List.drop_left' prefixLength, List.take_left' prefixLength,
      readLiteralBlock_literalBlock, LittleEndian.value_bytes]
    simp

end Lz4

/-- A page in which no four bytes occur twice: the numbers from 0 in two bytes each. -/
def countingPage : PageBuffer :=
  Vector.ofFn fun index =>
    if index.val % 2 = 0 then UInt8.ofNat (index.val / 2 / 256) else UInt8.ofNat (index.val / 2)

end Duvm
