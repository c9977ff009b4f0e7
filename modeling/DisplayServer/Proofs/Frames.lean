import Mathlib.Algebra.Ring.Nat
import DisplayServer.Frame

/-! # Frames read back

Every byte string that is long enough is a header followed by a payload, in one way
(`Frame.exists_toBytes_append`), so it is enough to know how a header is read back from its bytes
(`Frame.Header.parse_toBytes_append`) and what `Frame.decode` makes of a header in front of a
payload (`Frame.decode_toBytes_append`). It follows that `decode` accepts what `encode` writes and
nothing else, and that what it rejects fails the check that it is told (`Frame.Rejects`).
-/

namespace DisplayServer

namespace Bytes

/-- The number that all bytes add up to. -/
def total (bytes : Bytes) : Nat :=
  (bytes.map UInt8.toNat).sum

/-- The checksum is the sum, as far as it fits into a word. -/
theorem checksum_eq (bytes : Bytes) : bytes.checksum = UInt32.ofNat bytes.total := by
  have added (start : UInt32) : bytes.foldl (fun sum byte => sum + byte.toUInt32) start =
      start + UInt32.ofNat bytes.total := by
    induction bytes generalizing start with
    | nil => exact (UInt32.add_zero start).symm
    | cons byte rest ih =>
      have byteSum : UInt32.ofNat byte.toNat = byte.toUInt32 := UInt32.ofNat_uInt8ToNat byte
      simp only [List.foldl_cons, ih, total, List.map_cons, List.sum_cons, UInt32.ofNat_add,
        byteSum, UInt32.add_assoc]
  exact (added 0).trans (UInt32.zero_add _)

/-- A word is read from where it stands. -/
theorem wordAt_append (front rest : Bytes) (value : UInt32) :
    wordAt (front ++ (word value ++ rest)) front.length = value := by
  have moved : wordAt (front ++ (word value ++ rest)) front.length =
      wordAt (word value ++ rest) 0 := by
    simp only [wordAt, List.drop_left, List.drop_zero]
  rw [moved, wordAt_word_append]

/-- Four bytes are a word. -/
theorem exists_word_append (bytes : Bytes) (long : 4 ≤ bytes.length) :
    ∃ value rest, bytes = word value ++ rest := by
  match bytes, long with
  | a :: b :: c :: d :: rest, _ => exact ⟨ofFour a b c d, rest, by rw [word_ofFour]; rfl⟩

end Bytes

namespace Frame

open Bytes

namespace Header

/-- A header has always the same length. -/
@[simp] theorem length_toBytes (header : Header) : header.toBytes.length = headerLength := rfl

/-- A header is read back from its bytes, if it starts with the right word. -/
theorem parse_toBytes_append (header : Header) (rest : Bytes) :
    parse (header.toBytes ++ rest) =
      if header.magic = magicNumber then .ok header else .error (.badMagic header.magic) := by
  obtain ⟨magic, type, size, checksum⟩ := header
  have first := wordAt_append [] (word type ++ (word size ++ (word checksum ++ rest))) magic
  have second := wordAt_append (word magic) (word size ++ (word checksum ++ rest)) type
  have third := wordAt_append (word magic ++ word type) (word checksum ++ rest) size
  have fourth := wordAt_append (word magic ++ word type ++ word size) rest checksum
  simp only [List.nil_append, List.append_assoc, List.length_nil, List.length_append,
    length_word, Nat.reduceAdd] at first second third fourth
  have long : ¬ (toBytes ⟨magic, type, size, checksum⟩ ++ rest).length < headerLength := by
    simp only [List.length_append, length_toBytes]
    omega
  rw [parse, if_neg long]
  simp only [toBytes, List.append_assoc, first, second, third, fourth]

/-- A header with the right magic number is told by its bytes. -/
theorem toBytes_injective {first second : Header} (same : first.toBytes = second.toBytes)
    (right : first.magic = magicNumber) : first = second := by
  have parsed := parse_toBytes_append first []
  rw [if_pos right, same, parse_toBytes_append] at parsed
  split at parsed
  · exact (Except.ok.inj parsed).symm
  · cases parsed

end Header

/-- Whatever is as long as a header starts with one. -/
theorem exists_toBytes_append {bytes : Bytes} (long : headerLength ≤ bytes.length) :
    ∃ (header : Header) (payload : Bytes), bytes = header.toBytes ++ payload := by
  unfold headerLength at long
  obtain ⟨magic, rest, rfl⟩ := exists_word_append bytes (by omega)
  simp only [List.length_append, length_word] at long
  obtain ⟨type, rest, rfl⟩ := exists_word_append rest (by omega)
  simp only [List.length_append, length_word] at long
  obtain ⟨size, rest, rfl⟩ := exists_word_append rest (by omega)
  simp only [List.length_append, length_word] at long
  obtain ⟨checksum, rest, rfl⟩ := exists_word_append rest (by omega)
  exact ⟨⟨magic, type, size, checksum⟩, rest, by simp only [Header.toBytes, List.append_assoc]⟩

/-- What is made of a header in front of a payload. -/
theorem decode_toBytes_append (header : Header) (payload : Bytes) :
    decode (header.toBytes ++ payload) =
      if header.magic ≠ magicNumber then .error (.badMagic header.magic)
      else if payload.length ≠ header.size.toNat then
        .error (.lengthMismatch header.size.toNat payload.length)
      else if UInt32.ofNat payload.total ≠ header.checksum then
        .error (.checksumMismatch header.checksum (UInt32.ofNat payload.total))
      else .ok (header, payload) := by
  have carried : (header.toBytes ++ payload).drop headerLength = payload :=
    List.drop_left' header.length_toBytes
  unfold decode
  rw [Header.parse_toBytes_append, carried]
  simp only [checksum_eq]
  by_cases right : header.magic = magicNumber
  · rw [if_pos right, if_neg (not_not_intro right)]
    rfl
  · rw [if_neg right, if_pos right]
    rfl

/-- What is shorter than a header is truncated. -/
theorem decode_of_short {frame : Bytes} (short : frame.length < headerLength) :
    decode frame = .error (.truncated headerLength frame.length) := by
  rw [decode, Header.parse, if_pos short]
  rfl

/-- The header that a payload of some type travels under. -/
def headerOf (type : UInt32) (payload : Bytes) : Header where
  magic := magicNumber
  type
  size := UInt32.ofNat payload.length
  checksum := UInt32.ofNat payload.total

/-- A frame is its header and its payload. -/
theorem encode_eq (type : UInt32) (payload : Bytes) :
    encode type payload = (headerOf type payload).toBytes ++ payload := by
  rw [encode, checksum_eq]
  rfl

/-- The first check that bytes fail, with what it found. A check is only made of bytes that pass the
checks before it. -/
inductive Rejects (frame : Bytes) : FrameError → Prop where
  | truncated (short : frame.length < headerLength) :
      Rejects frame (.truncated headerLength frame.length)
  | badMagic {header : Header} {payload : Bytes} (split : frame = header.toBytes ++ payload)
      (wrong : header.magic ≠ magicNumber) : Rejects frame (.badMagic header.magic)
  | lengthMismatch {header : Header} {payload : Bytes} (split : frame = header.toBytes ++ payload)
      (right : header.magic = magicNumber) (wrong : payload.length ≠ header.size.toNat) :
      Rejects frame (.lengthMismatch header.size.toNat payload.length)
  | checksumMismatch {header : Header} {payload : Bytes}
      (split : frame = header.toBytes ++ payload) (right : header.magic = magicNumber)
      (declared : payload.length = header.size.toNat)
      (wrong : UInt32.ofNat payload.total ≠ header.checksum) :
      Rejects frame (.checksumMismatch header.checksum (UInt32.ofNat payload.total))

/-- What is rejected fails a check, and is told the first one that it fails. -/
theorem decode_eq_error_iff (frame : Bytes) (cause : FrameError) :
    decode frame = .error cause ↔ Rejects frame cause := by
  constructor
  · intro rejected
    by_cases short : frame.length < headerLength
    · rw [decode_of_short short] at rejected
      cases rejected
      exact .truncated short
    · obtain ⟨header, payload, rfl⟩ := exists_toBytes_append (Nat.le_of_not_lt short)
      rw [decode_toBytes_append] at rejected
      by_cases right : header.magic = magicNumber
      · rw [if_neg (not_not_intro right)] at rejected
        by_cases declared : payload.length = header.size.toNat
        · rw [if_neg (not_not_intro declared)] at rejected
          split at rejected
          · rename_i wrong
            cases rejected
            exact .checksumMismatch rfl right declared wrong
          · cases rejected
        · rw [if_pos declared] at rejected
          cases rejected
          exact .lengthMismatch rfl right declared
      · rw [if_pos right] at rejected
        cases rejected
        exact .badMagic rfl right
  · intro rejects
    cases rejects with
    | truncated short => exact decode_of_short short
    | badMagic split wrong => rw [split, decode_toBytes_append, if_pos wrong]
    | lengthMismatch split right wrong =>
      rw [split, decode_toBytes_append, if_neg (not_not_intro right), if_pos wrong]
    | checksumMismatch split right declared wrong =>
      rw [split, decode_toBytes_append, if_neg (not_not_intro right),
        if_neg (not_not_intro declared), if_pos wrong]

/-- What is written reads back. -/
theorem decode_encode (type : UInt32) {payload : Bytes} (fits : payload.length < UInt32.size) :
    decode (encode type payload) = .ok (headerOf type payload, payload) := by
  have right : (headerOf type payload).magic = magicNumber := rfl
  have declared : payload.length = (headerOf type payload).size.toNat :=
    (UInt32.toNat_ofNat_of_lt' fits).symm
  have summed : UInt32.ofNat payload.total = (headerOf type payload).checksum := rfl
  rw [encode_eq, decode_toBytes_append, if_neg (not_not_intro right),
    if_neg (not_not_intro declared), if_neg (not_not_intro summed)]

/-- What is accepted was written, under the header that is answered. -/
theorem eq_encode_of_decode {frame : Bytes} {header : Header} {payload : Bytes}
    (accepted : decode frame = .ok (header, payload)) :
    frame = encode header.type payload ∧ payload.length < UInt32.size ∧
      header = headerOf header.type payload := by
  by_cases short : frame.length < headerLength
  · rw [decode_of_short short] at accepted
    cases accepted
  · obtain ⟨found, carried, rfl⟩ := exists_toBytes_append (Nat.le_of_not_lt short)
    rw [decode_toBytes_append] at accepted
    split at accepted
    · cases accepted
    rename_i right
    split at accepted
    · cases accepted
    rename_i declared
    split at accepted
    · cases accepted
    rename_i summed
    cases accepted
    simp only [ne_eq, Decidable.not_not] at right declared summed
    have travels : header = headerOf header.type payload := by
      rw [headerOf, ← right, declared, summed, UInt32.ofNat_toNat]
    refine ⟨?_, declared ▸ header.size.toNat_lt, travels⟩
    rw [encode_eq, ← travels]

/-- A header is read from its own bytes and from no others. -/
theorem Header.parse_eq_ok_iff {bytes : Bytes} (whole : bytes.length = headerLength)
    (header : Header) :
    Header.parse bytes = .ok header ↔ bytes = header.toBytes ∧ header.magic = magicNumber := by
  obtain ⟨found, rest, rfl⟩ := exists_toBytes_append (Nat.le_of_eq whole.symm)
  have bare : rest = [] := by
    rw [List.length_append, Header.length_toBytes] at whole
    exact List.eq_nil_of_length_eq_zero (by omega)
  subst bare
  rw [parse_toBytes_append, List.append_nil]
  constructor
  · intro parsed
    split at parsed
    · rename_i right
      cases parsed
      exact ⟨rfl, right⟩
    · cases parsed
  · rintro ⟨same, right⟩
    rw [← toBytes_injective same.symm right, if_pos right]

/-- **The reader accepts exactly what the writer writes.** What it accepts is the one frame of the
payload and the type that it answers, and what it rejects fails the check that it names, and none
before it. Headers alone are read and written in the same way. -/
theorem decode_inverts_encode :
    (∀ frame header payload, decode frame = .ok (header, payload) ↔
      frame = encode header.type payload ∧ payload.length < 2 ^ 32 ∧
        header = headerOf header.type payload) ∧
    (∀ type payload, payload.length < 2 ^ 32 →
      decode (encode type payload) = .ok (headerOf type payload, payload)) ∧
    (∀ first second answer, decode first = .ok answer → decode second = .ok answer →
      first = second) ∧
    (∀ frame cause, decode frame = .error cause ↔ Rejects frame cause) ∧
    (∀ bytes header, bytes.length = headerLength →
      (Header.parse bytes = .ok header ↔ bytes = header.toBytes ∧ header.magic = magicNumber)) ∧
    ∀ header : Header, header.magic = magicNumber → Header.parse header.toBytes = .ok header := by
  refine ⟨fun frame header payload => ⟨eq_encode_of_decode, ?_⟩,
    fun type payload fits => decode_encode type fits, ?_, decode_eq_error_iff,
    fun bytes header whole => Header.parse_eq_ok_iff whole header, ?_⟩
  · rintro ⟨rfl, fits, travels⟩
    rw [decode_encode _ fits, ← travels]
  · rintro first second ⟨header, payload⟩ left right
    rw [(eq_encode_of_decode left).1, (eq_encode_of_decode right).1]
  · intro header right
    exact (Header.parse_eq_ok_iff header.length_toBytes header).mpr ⟨rfl, right⟩

/-- Two bytes that sum up to a word that is not theirs are told what they sum up to. -/
theorem decode_inverts_encode_badSum :
    decode ((headerOf 7 [1, 2]).toBytes ++ [1, 2]) = .ok (headerOf 7 [1, 2], [1, 2]) ∧
      decode ((headerOf 7 [1, 2]).toBytes ++ [1, 3]) = .error (.checksumMismatch 3 4) := by
  obtain ⟨_, reads, _, rejects, _, _⟩ := decode_inverts_encode
  constructor
  · rw [← encode_eq]
    exact reads 7 [1, 2] (by decide)
  · have declared : Rejects ((headerOf 7 [1, 2]).toBytes ++ [1, 3])
        (.checksumMismatch (headerOf 7 [1, 2]).checksum (UInt32.ofNat (Bytes.total [1, 3]))) :=
      .checksumMismatch rfl rfl rfl (by decide)
    exact (rejects _ _).mpr declared

end Frame

end DisplayServer
