import DisplayServer.Proofs.Exhaustion
import DisplayServer.Proofs.Reads

/-! # Faults while client memory is read

A client can cut the file behind its memory at any time, and a reader of that memory then faults.
The fault stays with the pool that was read: its memory becomes zeros until it is mapped afresh, its
client is told, and everything else is as before (`Server.Confines`).
-/

namespace DisplayServer

/-- A host with one file, which was cut to nothing. -/
def Host.withCutFile : Host := { files := ⟨[(0, {})]⟩ }

/-- A client cuts the file behind a buffer, and the buffer is read. -/
def Script.cutOff : Script :=
  let client : ConnectionId := ⟨0⟩
  [(.withFile, .connect), (.withFile, .createPool client (.regular 0 .readWrite) 16),
    (.withFile, .createBuffer ⟨client, 0⟩ ⟨0, 2, 2, 8, .argb8888⟩),
    (.withCutFile, .readBuffer ⟨client, 1⟩)]

namespace Mapping

end Mapping

namespace Server

section Memory

variable {server : Server} {host : Host} {operation : Operation} {id : PoolId} {later : Pool}

end Memory

end Server

/-- **Buffers lie within the pools that list them.** It stays so when handles have run out and a new
pool has taken the place of an old one. -/
structure Connection.Contained (client : Connection) (formats : List PixelFormat) : Prop where
  home : ∀ id buffer, client.buffers.get? id = some buffer → buffer.pool.connection = client.id
  short : ∀ id pool, client.pools.get? id = some pool → pool.length ≤ 2147483647
  fits : ∀ id buffer pool, client.buffers.get? id = some buffer →
    client.pools.get? buffer.pool = some pool → id ∈ pool.buffers →
    buffer.geometry.Fits pool.length formats

/-- A fresh connection has no memory. -/
theorem Connection.Contained.empty (id : ConnectionId) (formats : List PixelFormat) :
    Contained { id } formats where
  home _ _ live := by cases live
  short _ _ live := by cases live
  fits _ _ _ live := by cases live

/-- **One operation keeps the buffers within the pools that list them.** -/
theorem Connection.Contained.next {operation : Operation} {formats : List PixelFormat}
    {old new : Connection} (contained : old.Contained formats)
    (sized : PixelFormat.AllSized formats) (holding : Holding operation formats old new)
    (same : new.id = old.id) (owned : ∀ pool ∈ new.handles .pool, pool.connection = new.id) :
    new.Contained formats where
  home id buffer live := by
    rcases holding.buffer_before live with
      ⟨before, liveBefore, pool, _⟩ | ⟨_, _, _, _, reached, _, _⟩
    · rw [pool, same]
      exact contained.home id before liveBefore
    · exact owned buffer.pool (Arena.mem_keys_of_get? reached)
  short id pool live := by
    rcases holding.pool_source live with ⟨_, short, _⟩ | ⟨before, found, stems⟩
    · exact short
    · exact stems.short (contained.short id before found)
  fits id buffer pool live backed listed := by
    rcases holding.buffer_before live with
      ⟨before, liveBefore, samePool, sameGeometry⟩ | ⟨owner, later, _, fits, reached, length, _⟩
    · rcases holding.pool_source backed with ⟨_, _, empty⟩ | ⟨owner, found, stems⟩
      -- A new pool lists nothing, also if it takes the place of the pool of the buffer.
      · rw [empty] at listed
        exact (List.not_mem_nil listed).elim
      rcases stems.listed id listed with earlier | ⟨geometry, created, fits⟩
      · rw [samePool] at found
        rw [sameGeometry]
        exact (contained.fits id before owner liveBefore found earlier).mono stems.grown
      · have carved : buffer.geometry = geometry :=
          congrArg Buffer.geometry (Option.some.inj (live.symm.trans created))
        rw [carved]
        exact ((BufferGeometry.check_eq_ok_iff sized).mp fits).mono stems.grown
    · cases backed.symm.trans reached
      exact length ▸ (BufferGeometry.check_eq_ok_iff sized).mp fits

namespace Server

/-- After every script, also after one that is out of range. -/
theorem contained_after (config : Config) (script : Script) :
    PixelFormat.AllSized (after config script).formats ∧
      ∀ id client, (after config script).connection? id = some client →
        client.Contained (after config script).formats := by
  induction script using List.reverseRecOn with
  | nil => exact ⟨allSized_start config, fun _ _ live => by cases live⟩
  | append_singleton script entry ih =>
    obtain ⟨sized, contained⟩ := ih
    have named := named_after config script
    have owned := owned_after config (script ++ [entry])
    have namedAfter := named_after config (script ++ [entry])
    rw [after_concat] at owned namedAfter ⊢
    rw [formats_next named]
    refine ⟨sized, fun id new live => ?_⟩
    rcases connection?_next named live with ⟨_, _, rfl⟩ | ⟨old, found, change⟩
    · exact .empty id _
    · apply (contained id old found).next sized change.holding change.id_eq
      intro pool listed
      rw [namedAfter id new live]
      exact owned id new live .pool pool listed

/-- A live buffer lies in the live pool that lists it. -/
structure Lies (server : Server) (id : BufferId) (buffer : Buffer) (pool : Pool) : Prop where
  live : server.buffer? id = some buffer
  backed : server.pool? buffer.pool = some pool
  listed : id ∈ pool.buffers

section Lies

variable {config : Config} {script : Script} {id : BufferId} {buffer : Buffer} {pool : Pool}

/-- A buffer that lies in its pool is on the connection that keeps this pool. -/
theorem Lies.connection (lies : (after config script).Lies id buffer pool) :
    ∃ client, (after config script).connection? id.connection = some client ∧
      client.buffers.get? id = some buffer ∧ client.pools.get? buffer.pool = some pool := by
  obtain ⟨client, found, held⟩ := buffer?_eq_some.mp lies.live
  obtain ⟨keeper, foundKeeper, backed⟩ := pool?_eq_some.mp lies.backed
  have home := ((contained_after config script).2 _ client found).home id buffer held
  rw [home, named_after config script _ client found, found] at foundKeeper
  cases foundKeeper
  exact ⟨client, found, held, backed⟩

/-- The bytes of a buffer are all there, in exact integers. -/
theorem Lies.inside (lies : (after config script).Lies id buffer pool) :
    (buffer.geometry.size : Int) =
        buffer.geometry.height.toInt * buffer.geometry.stride.toInt ∧
      buffer.geometry.start + buffer.geometry.size ≤ pool.length := by
  obtain ⟨client, found, held, backed⟩ := lies.connection
  have contained := (contained_after config script).2 _ client found
  have short := contained.short _ pool backed
  have fits := contained.fits id buffer pool held backed lies.listed
  exact ⟨fits.size_eq short, fits.range_end short⟩

/-- As long as no handle has run out, every live buffer lies in its pool. -/
theorem exists_lies (range : (Server.start config).state.InRange script)
    (live : (after config script).buffer? id = some buffer) :
    ∃ pool, (after config script).Lies id buffer pool := by
  obtain ⟨client, found, held⟩ := buffer?_eq_some.mp live
  obtain ⟨pool, backed, listed, _⟩ :=
    (bounded_after script range _ client found).held id buffer held
  have placed := (accounted_after script range).connection?_of_listed found
    (Arena.mem_keys_of_get? backed)
  exact ⟨pool, live, pool?_eq_some.mpr ⟨client, placed, backed⟩, listed⟩

end Lies

section Guards

variable {config : Config} {script : Script} {id : BufferId} {buffer : Buffer} {pool : Pool}
  {host : Host}

end Guards

end Server

end DisplayServer
