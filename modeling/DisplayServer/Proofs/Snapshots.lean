import DisplayServer.Proofs.Bounds
import DisplayServer.Proofs.Frames

/-! # Snapshots survive the wire

A payload is six words in front of some data (`Snapshot.layout`), and every byte string that is long
enough is one in one way (`Snapshot.exists_layout`), so it is enough to know what
`Snapshot.ofPayload` makes of a layout. A snapshot reads back as it was written if it declares the
length of its data, which the copy of a live buffer does: buffers lie within pools, and no pool is
longer than a word can say (`Server.snapshots_survive_the_wire`).
-/

namespace DisplayServer

open Bytes

namespace Snapshot

/-- The six words of a payload, in front of its data. -/
def layout (width height tag code size stride : UInt32) (data : Bytes) : Bytes :=
  word width ++ (word height ++ (word tag ++ (word code ++ (word size ++ (word stride ++ data)))))

/-- The payload of a snapshot has its fields in order, and then the bytes. -/
theorem toPayload_eq (snapshot : Snapshot) :
    snapshot.toPayload = layout snapshot.width.toUInt32 snapshot.height.toUInt32 snapshot.kind.tag
      snapshot.format.code snapshot.size snapshot.stride.toUInt32 snapshot.data := by
  simp only [toPayload, layout, List.append_assoc]

private theorem length_toPayload (snapshot : Snapshot) :
    snapshot.toPayload.length = fieldsLength + snapshot.data.length := by
  simp only [toPayload, List.length_append, length_word, fieldsLength]

/-- Whatever is long enough can be read as a payload. -/
theorem exists_layout {payload : Bytes} (long : fieldsLength ≤ payload.length) :
    ∃ width height tag code size stride data,
      payload = layout width height tag code size stride data := by
  obtain ⟨width, rest, rfl⟩ := exists_word_append payload (Nat.le_trans (by decide) long)
  simp only [List.length_append, length_word, fieldsLength] at long
  obtain ⟨height, rest, rfl⟩ := exists_word_append rest (by omega)
  simp only [List.length_append, length_word] at long
  obtain ⟨tag, rest, rfl⟩ := exists_word_append rest (by omega)
  simp only [List.length_append, length_word] at long
  obtain ⟨code, rest, rfl⟩ := exists_word_append rest (by omega)
  simp only [List.length_append, length_word] at long
  obtain ⟨size, rest, rfl⟩ := exists_word_append rest (by omega)
  simp only [List.length_append, length_word] at long
  obtain ⟨stride, data, rfl⟩ := exists_word_append rest (by omega)
  exact ⟨width, height, tag, code, size, stride, data, rfl⟩

section Layout

variable (width height tag code size stride : UInt32) (data : Bytes)

/-- What the reader makes of a payload: it looks at the kind, at the format and at the length, in
this order. -/
theorem ofPayload_layout :
    ofPayload (layout width height tag code size stride data) =
      match BufferKind.ofTag? tag, PixelFormat.ofCode? code with
      | none, _ => .error (.unknownKind tag)
      | some _, none => .error (.unknownFormat code)
      | some kind, some format =>
        if data.length ≠ size.toNat then .error (.lengthMismatch size.toNat data.length)
        else .ok
          { width := ⟨width⟩, height := ⟨height⟩, kind, format, size, stride := ⟨stride⟩
            data } := by
  have first := wordAt_append [] (word height ++ (word tag ++ (word code ++ (word size ++
    (word stride ++ data))))) width
  have second := wordAt_append (word width) (word tag ++ (word code ++ (word size ++
    (word stride ++ data)))) height
  have third := wordAt_append (word width ++ word height) (word code ++ (word size ++
    (word stride ++ data))) tag
  have fourth := wordAt_append (word width ++ word height ++ word tag) (word size ++
    (word stride ++ data)) code
  have fifth := wordAt_append (word width ++ word height ++ word tag ++ word code)
    (word stride ++ data) size
  have sixth := wordAt_append (word width ++ word height ++ word tag ++ word code ++ word size)
    data stride
  simp only [List.nil_append, List.append_assoc, List.length_nil, List.length_append, length_word,
    Nat.reduceAdd] at first second third fourth fifth sixth
  have long : ¬ (layout width height tag code size stride data).length < fieldsLength := by
    simp only [layout, List.length_append, length_word, fieldsLength]
    omega
  have rest : (layout width height tag code size stride data).drop fieldsLength = data := rfl
  rw [ofPayload, if_neg long]
  simp only [rest]
  simp only [layout, first, second, third, fourth, fifth, sixth]
  cases BufferKind.ofTag? tag with
  | none => rfl
  | some kind => cases PixelFormat.ofCode? code <;> rfl

end Layout

private theorem ofTag?_tag (kind : BufferKind) : BufferKind.ofTag? kind.tag = some kind := by
  cases kind
  rfl

/-- A kind that is found by a tag has this tag. -/
theorem tag_of_ofTag? {tag : UInt32} {kind : BufferKind}
    (found : BufferKind.ofTag? tag = some kind) :
    kind.tag = tag := by
  cases kind
  unfold BufferKind.ofTag? at found
  split at found
  · rename_i right
    exact right.symm
  · cases found

/-- A snapshot reads back, if it declares the length of its data. -/
theorem ofPayload_toPayload (snapshot : Snapshot) :
    ofPayload snapshot.toPayload =
      if snapshot.size.toNat = snapshot.data.length then .ok snapshot
      else .error (.lengthMismatch snapshot.size.toNat snapshot.data.length) := by
  rw [toPayload_eq, ofPayload_layout, ofTag?_tag, PixelFormat.ofCode?_code]
  by_cases declared : snapshot.size.toNat = snapshot.data.length
  · rw [if_pos declared]
    exact if_neg (not_not_intro declared.symm)
  · rw [if_neg declared]
    exact if_pos (Ne.symm declared)

/-- What is read was written. -/
theorem toPayload_of_ofPayload {payload : Bytes} {snapshot : Snapshot}
    (read : ofPayload payload = .ok snapshot) : snapshot.toPayload = payload := by
  by_cases short : payload.length < fieldsLength
  · rw [ofPayload, if_pos short] at read
    cases read
  · obtain ⟨width, height, tag, code, size, stride, data, rfl⟩ :=
      exists_layout (Nat.le_of_not_lt short)
    rw [ofPayload_layout] at read
    split at read
    · cases read
    · cases read
    · rename_i kind format known recognized
      split at read
      · cases read
      · cases read
        rw [toPayload_eq]
        simp only [tag_of_ofTag? known, PixelFormat.code_of_ofCode? recognized]

/-- A snapshot that declares the length of its data goes through a frame, if a frame can carry
it. -/
theorem ofFrame_toFrame {snapshot : Snapshot}
    (declared : snapshot.size.toNat = snapshot.data.length)
    (fits : fieldsLength + snapshot.data.length < UInt32.size) :
    ofFrame snapshot.toFrame =
      .ok (Frame.headerOf Frame.snapshotType snapshot.toPayload, snapshot) := by
  have short : snapshot.toPayload.length < UInt32.size := by rwa [length_toPayload]
  have carried := Frame.decode_encode Frame.snapshotType short
  have read := ofPayload_toPayload snapshot
  rw [if_pos declared] at read
  simp only [ofFrame, toFrame, carried, bind, Except.bind, read, pure, Except.pure]

end Snapshot

namespace Server

variable {server : Server} {host : Host} {id : BufferId} {config : Config} {script : Script}

/-- Of a buffer that can be read, every reader of the same bytes makes what it wants. -/
theorem withContents_of_answer {α : Type} {reading : Reading} {read : BufferGeometry → Span → α}
    {answer : α} (given : (server.withContents host id reading read).answer = .ok answer) :
    ∃ client buffer mapping, server.connection? id.connection = some client ∧
      client.memoryOf? id = some (buffer, mapping) ∧
      ∀ {β : Type} (other : BufferGeometry → Span → β),
        (server.withContents host id reading other).answer =
          .ok (other buffer.geometry (mapping.span host.files
            buffer.geometry.offset.toInt.toNat buffer.geometry.size)) := by
  unfold withContents at given
  cases found : server.connection? id.connection with
  | none =>
    rw [found] at given
    cases given
  | some client =>
    cases memory : client.memoryOf? id with
    | none =>
      simp only [found, memory] at given
      cases given
    | some held =>
      obtain ⟨buffer, mapping⟩ := held
      simp only [found, memory] at given
      split at given
      · cases given
      rename_i outermost
      split at given
      · cases given
      rename_i inside
      split at given
      · cases given
      rename_i sound
      refine ⟨client, buffer, mapping, rfl, memory, fun other => ?_⟩
      simp only [withContents, found, memory, if_neg outermost, if_neg inside, if_neg sound]

/-- A copy of a live buffer declares the length of its data, and a frame can carry it. -/
theorem fits_of_snapshot (range : (Server.start config).state.InRange script) {buffer : Buffer}
    {client : Connection} {mapping : Mapping}
    (found : (after config script).connection? id.connection = some client)
    (memory : client.memoryOf? id = some (buffer, mapping)) (contents : Span)
    (whole : contents.length = buffer.geometry.size) :
    (contents.bytes.length : Int) = buffer.geometry.height.toInt * buffer.geometry.stride.toInt ∧
      (UInt32.ofNat contents.bytes.length).toNat = contents.bytes.length ∧
      Snapshot.fieldsLength + contents.bytes.length < UInt32.size := by
  obtain ⟨held, pool, backed, rfl⟩ := Connection.memoryOf?_eq_some.mp memory
  obtain ⟨short, within⟩ := bounded_after script range _ client found
  obtain ⟨pool', backed', -, fits⟩ := within id buffer held
  cases backed.symm.trans backed'
  have length := short _ pool backed
  have inside := fits.range_end length
  rw [Span.length_bytes, whole]
  have small : Snapshot.fieldsLength + buffer.geometry.size < UInt32.size := by
    simp only [Snapshot.fieldsLength, UInt32.size]
    omega
  exact ⟨fits.size_eq length, UInt32.toNat_ofNat_of_lt' (by omega), small⟩

/-- **Snapshots survive the wire.** A snapshot reads back from its payload if it declares the length
of its data, and is told the two lengths otherwise; what is read from a payload was written there.
So, after every script in range, the copy of a buffer that can be read comes out of its frame as it
was put in, with the geometry of the buffer and the bytes that were read. -/
theorem snapshots_survive_the_wire (config : Config) (script : Script)
    (range : (Server.start config).state.InRange script) :
    (∀ snapshot : Snapshot, Snapshot.ofPayload snapshot.toPayload =
      if snapshot.size.toNat = snapshot.data.length then .ok snapshot
      else .error (.lengthMismatch snapshot.size.toNat snapshot.data.length)) ∧
    (∀ payload snapshot, Snapshot.ofPayload payload = .ok snapshot →
      snapshot.toPayload = payload) ∧
    ∀ host id bytes, ((after config script).readBuffer host id).answer = .ok bytes →
      ∃ buffer snapshot, (after config script).buffer? id = some buffer ∧
        ((after config script).snapshot host id).answer = .ok snapshot ∧
        Snapshot.ofFrame snapshot.toFrame =
          .ok (Frame.headerOf Frame.snapshotType snapshot.toPayload, snapshot) ∧
        snapshot.width = buffer.geometry.width ∧ snapshot.height = buffer.geometry.height ∧
        snapshot.stride = buffer.geometry.stride ∧ snapshot.format = buffer.geometry.format ∧
        (snapshot.size.toNat : Int) =
          buffer.geometry.height.toInt * buffer.geometry.stride.toInt ∧
        snapshot.data = bytes := by
  refine ⟨Snapshot.ofPayload_toPayload, fun _ _ => Snapshot.toPayload_of_ofPayload, ?_⟩
  intro host id bytes given
  obtain ⟨client, buffer, mapping, found, memory, reads⟩ := withContents_of_answer given
  obtain ⟨size, declared, fits⟩ := fits_of_snapshot range found memory
    (mapping.span host.files buffer.geometry.offset.toInt.toNat buffer.geometry.size) rfl
  obtain ⟨held, -⟩ := Connection.memoryOf?_eq_some.mp memory
  have same := Except.ok.inj (given.symm.trans (reads fun _ contents => contents.bytes))
  refine ⟨buffer, _, buffer?_eq_some.mpr ⟨client, found, held⟩, reads _,
    Snapshot.ofFrame_toFrame declared fits, rfl, rfl, rfl, rfl, ?_, same.symm⟩
  exact (congrArg Nat.cast declared).trans size

/-- The copy of a buffer that was taken back, out of its frame. -/
theorem snapshots_survive_the_wire_takenBack :
    (Server.start {}).state.InRange Script.takenBack ∧
      ∃ snapshot, ((after {} Script.takenBack).snapshot .withFile ⟨⟨0⟩, 1⟩).answer = .ok snapshot ∧
        Snapshot.ofFrame snapshot.toFrame =
          .ok (Frame.headerOf Frame.snapshotType snapshot.toPayload, snapshot) ∧
        snapshot.data = List.replicate 16 0 := by
  have range : (Server.start {}).state.InRange Script.takenBack := inRange_of_length _ (by decide)
  obtain ⟨_, snapshot, _, copied, framed, _, _, _, _, _, same⟩ :=
    (snapshots_survive_the_wire {} Script.takenBack range).2.2 .withFile ⟨⟨0⟩, 1⟩
      (List.replicate 16 0) rfl
  exact ⟨range, snapshot, copied, framed, same⟩

end Server

end DisplayServer
