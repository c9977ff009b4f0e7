/-! # Byte strings

Byte strings are lists of bytes, and the words in them are 32-bit and little-endian: `word` writes a
word, `ofFour` reads one back from its bytes, and `wordAt` reads the one at a position.
-/

namespace DisplayServer

abbrev Bytes := List UInt8

namespace Bytes

/-- The four bytes of a word, the lowest first. -/
def word (value : UInt32) : Bytes :=
  [UInt8.ofNat value.toNat, UInt8.ofNat (value.toNat / 256), UInt8.ofNat (value.toNat / 65536),
    UInt8.ofNat (value.toNat / 16777216)]

/-- The word of four bytes, the lowest first. -/
def ofFour (a b c d : UInt8) : UInt32 :=
  UInt32.ofNat (a.toNat + 256 * b.toNat + 65536 * c.toNat + 16777216 * d.toNat)

/-- The word at a position; bytes past the end count as 0. -/
def wordAt (bytes : Bytes) (position : Nat) : UInt32 :=
  let rest := bytes.drop position
  ofFour (rest.getD 0 0) (rest.getD 1 0) (rest.getD 2 0) (rest.getD 3 0)

/-- The sum of all bytes, modulo 2^32. -/
def checksum (bytes : Bytes) : UInt32 :=
  bytes.foldl (fun total byte => total + byte.toUInt32) 0

/-- A word has four bytes. -/
@[simp] theorem length_word (value : UInt32) : (word value).length = 4 := rfl

/-- A written word reads back. -/
theorem wordAt_word_append (value : UInt32) (rest : Bytes) :
    wordAt (word value ++ rest) 0 = value := by
  apply UInt32.toNat_inj.mp
  have bound := value.toNat_lt
  simp only [wordAt, word, ofFour, List.drop_zero, List.cons_append, List.nil_append,
    List.getD_cons_zero, List.getD_cons_succ, UInt32.toNat_ofNat', UInt8.toNat_ofNat']
  omega

/-- Four bytes are the bytes of the word they spell. -/
theorem word_ofFour (a b c d : UInt8) : word (ofFour a b c d) = [a, b, c, d] := by
  have boundA := a.toNat_lt
  have boundB := b.toNat_lt
  have boundC := c.toNat_lt
  have boundD := d.toNat_lt
  simp only [word, ofFour, UInt32.toNat_ofNat', List.cons.injEq, and_true]
  refine ⟨?_, ?_, ?_, ?_⟩ <;>
    · apply UInt8.toNat_inj.mp
      simp only [UInt8.toNat_ofNat']
      omega

end Bytes

end DisplayServer
