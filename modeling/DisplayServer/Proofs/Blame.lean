import DisplayServer.Proofs.Faults
import DisplayServer.Proofs.Releases

/-! # Who is blamed for a read that fails

A client is told that its buffer could not be read, and has to answer for it. One operation tells a
client so exactly when it reads a buffer of that client and the read fails
(`Server.bufferAccessFailed_mem_queued_iff`). As long as no handle has run out, that is because a
byte faults, or because the read runs inside of another one and is refused. In the second case the
client has done nothing.
-/

namespace DisplayServer

/-- A buffer is read from inside of another read. -/
def Script.nested : Script :=
  let client : ConnectionId := ⟨0⟩
  [(.withFile, .connect), (.withFile, .createPool client (.regular 0 .readWrite) 16),
    (.withFile, .createBuffer ⟨client, 0⟩ ⟨0, 2, 2, 8, .argb8888⟩),
    ({ Host.withFile with isReading := true }, .readBuffer ⟨client, 1⟩)]

namespace Connection

variable {old new : Connection}

/-- An operation that reads nothing blames nobody. -/
theorem Queues.unblamed {operation : Operation} (queues : Queues operation old new)
    (silent : ∀ buffer, ¬ operation.Reads buffer) (id : BufferId) :
    .bufferAccessFailed id ∉ old.queuedUntil new := by
  cases queues with
  | taken none =>
    rw [queuedUntil, none, List.drop_nil]
    exact List.not_mem_nil
  | others queued appended _ _ unblamed =>
    rw [queuedUntil_of_append appended]
    exact unblamed id
  | failed id reads _ => exact (silent id reads).elim
  | committed _ commits _ => exact (silent id (commits ▸ .shown)).elim
  | presented queued _ appended fired =>
    rw [queuedUntil_of_append appended]
    intro listed
    obtain ⟨_, _, same⟩ := fired _ listed
    cases same

end Connection

namespace Server

section Step

variable {server : Server} {host : Host} {operation : Operation} {id : BufferId}
  {told : ConnectionId}

/-- What happens before the read of an operation touches no memory. -/
theorem memory?_beforeRead (named : server.Named) (operation : Operation) (id : BufferId) :
    (server.beforeRead operation).memory? id = server.memory? id := by
  cases operation with
  | commit surface =>
    simp only [beforeRead]
    cases live : server.connection? surface.connection with
    | none => rfl
    | some client =>
      cases done : client.commit? surface with
      | none => simp only [done]
      | some commit =>
        simp only [done]
        exact memory?_putBack_commit named live done id
  | _ => rfl

/-- An operation reads a buffer, and the read fails. -/
def Blames (server : Server) (host : Host) (operation : Operation) (id : BufferId) : Prop :=
  ∃ reading geometry mapping, server.reads? operation = some (id, reading) ∧
    server.memory? id = some (geometry, mapping) ∧ geometry.FailsToRead host mapping reading

/-- The memory of a buffer is that of its pool. -/
theorem memory?_eq_some {geometry : BufferGeometry} {mapping : Mapping} :
    server.memory? id = some (geometry, mapping) ↔
      ∃ client buffer, server.connection? id.connection = some client ∧
        client.memoryOf? id = some (buffer, mapping) ∧ buffer.geometry = geometry := by
  simp only [memory?, Option.bind_eq_bind, Option.bind_eq_some_iff, Option.pure_def,
    Option.some.injEq, Prod.mk.injEq]
  constructor
  · rintro ⟨client, found, ⟨buffer, _⟩, memory, same, rfl⟩
    exact ⟨client, buffer, found, memory, same⟩
  · rintro ⟨client, buffer, found, memory, same⟩
    exact ⟨client, found, (buffer, mapping), memory, same, rfl⟩

end Step

/-- A buffer is dead for a reader exactly if its memory is not there. -/
theorem answer_withContents_eq_dead_iff {α : Type} (server : Server) (host : Host) (id : BufferId)
    (reading : Reading) (read : BufferGeometry → Span → α) :
    (server.withContents host id reading read).answer = .error .dead ↔
      server.memory? id = none := by
  unfold withContents memory?
  cases server.connection? id.connection with
  | none => simp [Outcome.refuse]
  | some client =>
    simp only [Option.bind_eq_bind, Option.bind_some]
    cases client.memoryOf? id with
    | none => simp [Outcome.refuse]
    | some memory =>
      simp only [Option.bind_some, Option.pure_def, reduceCtorEq, iff_false]
      split
      · simp [failRead]
      · split
        · simp [failRead]
        · split <;> simp [failRead]

section Runs

variable {config : Config} {script : Script} {id : BufferId} {buffer : Buffer} {pool : Pool}

private theorem Lies.memory?_eq (lies : (after config script).Lies id buffer pool) :
    (after config script).memory? id = some (buffer.geometry, pool.mapping) := by
  obtain ⟨client, found, held, backed⟩ := lies.connection
  exact memory?_eq_some.mpr ⟨client, buffer, found,
    Connection.memoryOf?_eq_some.mpr ⟨held, pool, backed, rfl⟩, rfl⟩

/-- As long as no handle has run out, a read outside of all others fails because of a fault. -/
theorem blames_iff_faults (range : (Server.start config).state.InRange script) {host : Host}
    (outermost : host.isReading = false) {operation : Operation} :
    (after config script).Blames host operation id ↔ ∃ reading buffer pool,
      (after config script).reads? operation = some (id, reading) ∧
        (after config script).Lies id buffer pool ∧
        buffer.geometry.Faults host.files pool.mapping reading := by
  constructor
  · rintro ⟨reading, _, mapping, reads, memory, fails⟩
    obtain ⟨client, buffer, found, memoryOf, rfl⟩ := memory?_eq_some.mp memory
    have held := (Connection.memoryOf?_eq_some.mp memoryOf).1
    obtain ⟨pool, lies⟩ := exists_lies range (buffer?_eq_some.mpr ⟨client, found, held⟩)
    cases memory.symm.trans lies.memory?_eq
    refine ⟨reading, buffer, pool, reads, lies, ?_⟩
    rcases fails with nested | outside | faults
    · rw [outermost] at nested
      cases nested
    · exact (Nat.not_lt.mpr lies.inside.2 outside).elim
    · exact faults
  · rintro ⟨reading, buffer, pool, reads, lies, faults⟩
    exact ⟨reading, buffer.geometry, pool.mapping, reads, lies.memory?_eq, .inr (.inr faults)⟩

end Runs

end Server

end DisplayServer
