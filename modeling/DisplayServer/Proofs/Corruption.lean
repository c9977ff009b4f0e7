import DisplayServer.Proofs.Frames

/-! # Damaged frames

A damaged frame is mostly still a header in front of a payload, and `Frame.decode_toBytes_append`
says what is made of it. A byte of a header belongs to one of its words, which is another word if
the byte changes (`Frame.Header.exists_differsAt`). A byte of a payload moves its total by too
little to wrap around to the same sum (`Bytes.ofNat_total_set_ne`).
-/

namespace DisplayServer

namespace Bytes

variable {bytes : Bytes} {position : Nat} {old byte : UInt8}

/-- A word of which one byte changes is another word. -/
theorem exists_set_word (front : Bytes) (value : UInt32) (rest : Bytes)
    (onward : front.length ≤ position) (inside : position < front.length + 4)
    (changed : (front ++ (word value ++ rest))[position]? ≠ some byte) :
    ∃ other, other ≠ value ∧
      (front ++ (word value ++ rest)).set position byte = front ++ (word other ++ rest) := by
  have within : position - front.length < (word value).length := by
    rw [length_word]
    omega
  obtain ⟨other, more, spelled⟩ :=
    exists_word_append ((word value).set (position - front.length) byte)
      (by rw [List.length_set, length_word])
  have bare : more = [] := by
    have lengths := congrArg List.length spelled
    rw [List.length_set, List.length_append, length_word, length_word] at lengths
    exact List.eq_nil_of_length_eq_zero (by omega)
  rw [bare, List.append_nil] at spelled
  refine ⟨other, ?_, ?_⟩
  · rintro rfl
    apply changed
    rw [List.getElem?_append_right onward, List.getElem?_append_left within, ← spelled,
      List.getElem?_set_self within]
  · rw [List.set_append_right _ _ onward, List.set_append_left _ _ within, spelled]

/-- One byte goes out of the total and another one comes in. -/
theorem total_set (here : bytes[position]? = some old) :
    total (bytes.set position byte) + old.toNat = bytes.total + byte.toNat := by
  induction bytes generalizing position with
  | nil => cases here
  | cons first rest ih =>
    cases position with
    | zero =>
      cases here
      simp only [total, List.set_cons_zero, List.map_cons, List.sum_cons]
      omega
    | succ position =>
      have moved := ih here
      simp only [total, List.set_cons_succ, List.map_cons, List.sum_cons] at moved ⊢
      omega

/-- Sums of bytes agree as checksums if they agree in their last 32 bits. -/
theorem ofNat_total_eq_iff {first second : Bytes} :
    UInt32.ofNat first.total = UInt32.ofNat second.total ↔
      first.total % 2 ^ 32 = second.total % 2 ^ 32 := by
  rw [← UInt32.toNat_inj, UInt32.toNat_ofNat', UInt32.toNat_ofNat']

/-- One changed byte always shows in the sum. -/
theorem ofNat_total_set_ne (within : position < bytes.length)
    (changed : bytes[position]? ≠ some byte) :
    UInt32.ofNat (total (bytes.set position byte)) ≠ UInt32.ofNat bytes.total := by
  rw [Ne, ofNat_total_eq_iff]
  obtain ⟨old, here⟩ : ∃ old, bytes[position]? = some old :=
    ⟨_, List.getElem?_eq_getElem within⟩
  have moved : total (bytes.set position byte) + old.toNat = bytes.total + byte.toNat :=
    total_set here
  have different : old.toNat ≠ byte.toNat := fun same =>
    changed (here.trans (congrArg some (UInt8.toNat_inj.mp same)))
  have boundOld := old.toNat_lt
  have boundByte := byte.toNat_lt
  omega

end Bytes

namespace Frame

open Bytes

variable {type : UInt32} {payload : Bytes} {position : Nat} {byte : UInt8}

/-- Another header, with another word where the byte at a position belongs. -/
inductive Header.DiffersAt (header : Header) (position : Nat) : Header → Prop where
  | magic {word : UInt32} (before : position < 4) (other : word ≠ header.magic) :
      DiffersAt header position { header with magic := word }
  | type {word : UInt32} (onward : 4 ≤ position) (before : position < 8)
      (other : word ≠ header.type) : DiffersAt header position { header with type := word }
  | size {word : UInt32} (onward : 8 ≤ position) (before : position < 12)
      (other : word ≠ header.size) : DiffersAt header position { header with size := word }
  | checksum {word : UInt32} (onward : 12 ≤ position) (other : word ≠ header.checksum) :
      DiffersAt header position { header with checksum := word }

/-- A header of which one byte changes is another header. -/
theorem Header.exists_differsAt (header : Header) (payload : Bytes) (inside : position < 16)
    (changed : (header.toBytes ++ payload)[position]? ≠ some byte) :
    ∃ damaged, header.DiffersAt position damaged ∧
      (header.toBytes ++ payload).set position byte = damaged.toBytes ++ payload := by
  obtain ⟨magic, type, size, checksum⟩ := header
  simp only [toBytes, List.append_assoc] at changed ⊢
  by_cases first : position < 4
  · obtain ⟨damaged, other, same⟩ := exists_set_word [] magic
      (word type ++ (word size ++ (word checksum ++ payload))) (Nat.zero_le _) first changed
    exact ⟨_, .magic first other, same⟩
  by_cases second : position < 8
  · obtain ⟨damaged, other, same⟩ := exists_set_word (word magic) type
      (word size ++ (word checksum ++ payload)) (Nat.le_of_not_lt first) second changed
    exact ⟨_, .type (Nat.le_of_not_lt first) second other,
      by simpa only [List.append_assoc] using same⟩
  by_cases third : position < 12
  · obtain ⟨damaged, other, same⟩ := exists_set_word (word magic ++ word type) size
      (word checksum ++ payload) (Nat.le_of_not_lt second) third
      (by simpa only [List.append_assoc] using changed)
    exact ⟨_, .size (Nat.le_of_not_lt second) third other,
      by simpa only [List.append_assoc] using same⟩
  · obtain ⟨damaged, other, same⟩ := exists_set_word (word magic ++ word type ++ word size) checksum
      payload (Nat.le_of_not_lt third) inside (by simpa only [List.append_assoc] using changed)
    exact ⟨_, .checksum (Nat.le_of_not_lt third) other,
      by simpa only [List.append_assoc] using same⟩

/-- What becomes of a frame of which the byte at a position changes, by the part of the frame that
the byte belongs to. Only the type of the payload is unprotected. -/
inductive ByteChange (type : UInt32) (payload : Bytes) (position : Nat) :
    Except FrameError (Header × Bytes) → Prop where
  | magic {found : UInt32} (before : position < 4) (other : found ≠ magicNumber) :
      ByteChange type payload position (.error (.badMagic found))
  | type {found : UInt32} (onward : 4 ≤ position) (before : position < 8) (other : found ≠ type) :
      ByteChange type payload position (.ok (headerOf found payload, payload))
  | size {declared : Nat} (onward : 8 ≤ position) (before : position < 12)
      (other : declared ≠ payload.length) :
      ByteChange type payload position (.error (.lengthMismatch declared payload.length))
  | checksum {expected : UInt32} (onward : 12 ≤ position) (before : position < 16)
      (other : expected ≠ payload.checksum) :
      ByteChange type payload position (.error (.checksumMismatch expected payload.checksum))
  | payload {actual : UInt32} (onward : 16 ≤ position) (other : actual ≠ payload.checksum) :
      ByteChange type payload position (.error (.checksumMismatch payload.checksum actual))

/-- A frame is as long as a header and its payload. -/
theorem length_encode (type : UInt32) (payload : Bytes) :
    (encode type payload).length = 16 + payload.length := by
  rw [encode_eq, List.length_append, Header.length_toBytes, headerLength]

/-- What is made of the header of a frame in front of a payload that is or is not its own. -/
theorem decode_headerOf_append (type : UInt32) (fits : payload.length < UInt32.size)
    (carried : Bytes) :
    decode ((headerOf type payload).toBytes ++ carried) =
      if carried.length ≠ payload.length then
        .error (.lengthMismatch payload.length carried.length)
      else if carried.checksum ≠ payload.checksum then
        .error (.checksumMismatch payload.checksum carried.checksum)
      else .ok (headerOf type payload, carried) := by
  have right : (headerOf type payload).magic = magicNumber := rfl
  have declared : (headerOf type payload).size.toNat = payload.length :=
    UInt32.toNat_ofNat_of_lt' fits
  rw [decode_toBytes_append, if_neg (not_not_intro right), declared, checksum_eq, checksum_eq]
  rfl

/-- What becomes of a frame when one byte of its header changes. -/
theorem byteChange_of_differsAt (fits : payload.length < UInt32.size) (inside : position < 16)
    {damaged : Header} (differs : (headerOf type payload).DiffersAt position damaged) :
    ByteChange type payload position (decode (damaged.toBytes ++ payload)) := by
  have declared : (headerOf type payload).size.toNat = payload.length :=
    UInt32.toNat_ofNat_of_lt' fits
  have right : (headerOf type payload).magic = magicNumber := rfl
  cases differs with
  | @magic word before other =>
    have wrong : word ≠ magicNumber := other
    rw [decode_toBytes_append, if_pos wrong]
    exact .magic before wrong
  | @type word onward before other =>
    have accepted : decode ((headerOf word payload).toBytes ++ payload) =
        .ok (headerOf word payload, payload) := by
      rw [← encode_eq, decode_encode word fits]
    exact accepted ▸ .type onward before other
  | @size word onward before other =>
    have apart : word.toNat ≠ payload.length := fun same =>
      other (UInt32.toNat_inj.mp (same.trans declared.symm))
    rw [decode_toBytes_append, if_neg (not_not_intro right), if_pos apart.symm]
    exact .size onward before apart
  | @checksum word onward other =>
    have summed : payload.checksum ≠ word := fun same =>
      other (same.symm.trans (checksum_eq payload))
    rw [decode_toBytes_append, if_neg (not_not_intro right), if_neg (not_not_intro declared.symm),
      ← checksum_eq, if_pos summed]
    exact .checksum onward inside summed.symm

/-- **One changed byte is noticed wherever it is, except in the type.** -/
theorem byteChange_set (fits : payload.length < UInt32.size)
    (within : position < (encode type payload).length)
    (changed : (encode type payload)[position]? ≠ some byte) :
    ByteChange type payload position (decode ((encode type payload).set position byte)) := by
  rw [length_encode] at within
  rw [encode_eq] at changed ⊢
  by_cases inside : position < 16
  · obtain ⟨damaged, differs, same⟩ :=
      Header.exists_differsAt (headerOf type payload) payload inside changed
    rw [same]
    exact byteChange_of_differsAt fits inside differs
  · have onward : 16 ≤ position := Nat.le_of_not_lt inside
    rw [List.getElem?_append_right onward, Header.length_toBytes, headerLength] at changed
    have summed : Bytes.checksum (payload.set (position - 16) byte) ≠ payload.checksum := by
      rw [checksum_eq, checksum_eq]
      exact ofNat_total_set_ne (by omega) changed
    have declared : (payload.set (position - 16) byte).length = payload.length := List.length_set
    rw [List.set_append_right _ _ onward, Header.length_toBytes, headerLength,
      decode_headerOf_append type fits, if_neg (not_not_intro declared), if_pos summed]
    exact .payload onward summed

/-- A frame that was cut off is refused for its length. -/
theorem decode_take_encode (type : UInt32) (fits : payload.length < UInt32.size) {count : Nat}
    (short : count < (encode type payload).length) :
    decode ((encode type payload).take count) =
      .error (if count < 16 then .truncated 16 count
        else .lengthMismatch payload.length (count - 16)) := by
  by_cases header : count < 16
  · have length : ((encode type payload).take count).length = count :=
      List.length_take_of_le (Nat.le_of_lt short)
    rw [decode_of_short (by rw [length]; exact header), length, if_pos header]
    rfl
  · rw [length_encode] at short
    have length : (payload.take (count - 16)).length = count - 16 :=
      List.length_take_of_le (by omega)
    have carried : (encode type payload).take count =
        (headerOf type payload).toBytes ++ payload.take (count - 16) := by
      rw [encode_eq, List.take_append, List.take_of_length_le (Nat.le_of_not_lt header)]
      rfl
    rw [carried, decode_headerOf_append type fits, length, if_pos (by omega), if_neg header]

/-- **Damaged frames are refused.** A frame of which one byte changes is refused by the check of the
part that the byte belongs to, unless that is the type. A frame that is cut off anywhere, or that
goes on, does not have the declared length. Another payload of the same length is accepted in place
of the right one if and only if the bytes of both have the same sum, modulo 2^32. -/
theorem damaged_refused (type : UInt32) (payload : Bytes) (fits : payload.length < 2 ^ 32) :
    (∀ position byte, position < (encode type payload).length →
      (encode type payload)[position]? ≠ some byte →
        ByteChange type payload position (decode ((encode type payload).set position byte))) ∧
      (∀ count, count < (encode type payload).length →
        decode ((encode type payload).take count) =
          .error (if count < 16 then .truncated 16 count
            else .lengthMismatch payload.length (count - 16))) ∧
      (∀ suffix, suffix ≠ [] → decode (encode type payload ++ suffix) =
        .error (.lengthMismatch payload.length (payload.length + suffix.length))) ∧
      ∀ other : Bytes, other.length = payload.length →
        ((∃ answer, decode ((encode type payload).take 16 ++ other) = .ok answer) ↔
          other.total % 2 ^ 32 = payload.total % 2 ^ 32) := by
  refine ⟨fun position byte => byteChange_set fits, fun count => decode_take_encode type fits, ?_,
    ?_⟩
  · intro suffix more
    have longer : (payload ++ suffix).length ≠ payload.length := by
      rw [List.length_append]
      exact mt Nat.add_eq_left.mp (mt List.eq_nil_of_length_eq_zero more)
    rw [encode_eq, List.append_assoc, decode_headerOf_append type fits, if_pos longer,
      List.length_append]
  · intro other same
    have front : (encode type payload).take 16 = (headerOf type payload).toBytes := by
      rw [encode_eq]
      exact List.take_left' (headerOf type payload).length_toBytes
    rw [front, decode_headerOf_append type fits, if_neg (not_not_intro same), checksum_eq,
      checksum_eq, ← ofNat_total_eq_iff]
    split
    · rename_i apart
      exact iff_of_false nofun apart
    · rename_i summed
      exact iff_of_true ⟨_, rfl⟩ (Decidable.not_not.mp summed)

/-- Two bytes in a frame: a changed one moves the sum, and two that are exchanged keep it. -/
theorem damaged_refused_twoBytes :
    (encode 7 [1, 2])[17]? ≠ some 3 ∧
      ByteChange 7 [1, 2] 17 (decode ((encode 7 [1, 2]).set 17 3)) ∧
      decode ((encode 7 [1, 2]).set 17 3) = .error (.checksumMismatch 3 4) ∧
      decode ((encode 7 [1, 2]).take 17) = .error (.lengthMismatch 2 1) ∧
      decode (encode 7 [1, 2] ++ [0]) = .error (.lengthMismatch 2 3) ∧
      ∃ answer, decode ((encode 7 [1, 2]).take 16 ++ [2, 1]) = .ok answer := by
  obtain ⟨changes, shortened, extended, replaced⟩ := damaged_refused 7 [1, 2] (by decide)
  have changed : (encode 7 [1, 2])[17]? ≠ some 3 := by decide
  exact ⟨changed, changes 17 3 (by decide) changed, rfl, shortened 17 (by decide),
    extended [0] (by decide), (replaced [2, 1] rfl).mpr rfl⟩

end Frame

end DisplayServer
