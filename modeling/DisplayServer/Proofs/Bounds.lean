import DisplayServer.Proofs.Lifetimes
import DisplayServer.Proofs.References

/-! # Buffers lie within their pools

The geometry of a buffer is checked once, when the buffer is created, and holds ever after: a buffer
dies with its pool, and pools only grow. A format without a known pixel size would get past the
check of the rows, but the server supports none.
-/

namespace DisplayServer

/-- **Within a pool of some length.** All in exact integers. -/
structure BufferGeometry.Fits (geometry : BufferGeometry) (length : Nat)
    (formats : List PixelFormat) : Prop where
  offset_nonneg : 0 ≤ geometry.offset.toInt
  offset_lt : geometry.offset.toInt < length
  width_pos : 0 < geometry.width.toInt
  height_pos : 0 < geometry.height.toInt
  supported : geometry.format ∈ formats
  row : ∃ bytes, geometry.format.bytesPerPixel? = some bytes ∧
    geometry.width.toInt * bytes ≤ geometry.stride.toInt
  extent : geometry.offset.toInt + geometry.height.toInt * geometry.stride.toInt ≤ length

/-- The pixel size of every format is known. -/
def PixelFormat.AllSized (formats : List PixelFormat) : Prop :=
  ∀ format ∈ formats, ∃ bytes, format.bytesPerPixel? = some bytes

namespace BufferGeometry

variable {geometry : BufferGeometry} {length : Nat} {formats : List PixelFormat}

/-- Where all supported formats have a known pixel size, the check is exact. -/
theorem check_eq_ok_iff (sized : PixelFormat.AllSized formats) :
    geometry.check length formats = .ok () ↔ geometry.Fits length formats := by
  constructor
  · intro passed
    simp only [check] at passed
    split at passed
    · cases passed
    split at passed
    · cases passed
    split at passed
    · cases passed
    split at passed
    · cases passed
    split at passed
    · cases passed
    rename_i offset dimensions row extent unsupported
    have supported : geometry.format ∈ formats := by simpa using unsupported
    obtain ⟨bytes, known⟩ := sized _ supported
    rw [pixelSize, known, Option.getD_some] at row
    exact ⟨by omega, by omega, by omega, by omega, supported, ⟨bytes, known, by omega⟩, by omega⟩
  · rintro ⟨nonneg, inside, wide, high, supported, ⟨bytes, known, row⟩, extent⟩
    simp only [check, pixelSize, known, Option.getD_some]
    rw [if_neg (by omega), if_neg (by omega), if_neg (by omega), if_neg (by omega),
      if_neg (by simpa using supported)]

/-- A longer pool has room for what fits. -/
theorem Fits.mono {longer : Nat} (fits : geometry.Fits length formats) (grown : length ≤ longer) :
    geometry.Fits longer formats where
  offset_nonneg := fits.offset_nonneg
  offset_lt := by have := fits.offset_lt; omega
  width_pos := fits.width_pos
  height_pos := fits.height_pos
  supported := fits.supported
  row := fits.row
  extent := by have := fits.extent; omega

/-- The product of the height and the stride is not cut off. -/
theorem Fits.size_eq (fits : geometry.Fits length formats) (short : length ≤ 2147483647) :
    (geometry.size : Int) = geometry.height.toInt * geometry.stride.toInt := by
  obtain ⟨bytes, _, row⟩ := fits.row
  have wide : 0 ≤ geometry.width.toInt * bytes :=
    Int.mul_nonneg (Int.le_of_lt fits.width_pos) (Int.natCast_nonneg bytes)
  have nonneg : 0 ≤ geometry.height.toInt * geometry.stride.toInt :=
    Int.mul_nonneg (Int.le_of_lt fits.height_pos) (Int.le_trans wide row)
  have extent := fits.extent
  have start := fits.offset_nonneg
  have small : geometry.height.toInt * geometry.stride.toInt < 18446744073709551616 := by omega
  rw [size, Int.emod_eq_of_lt nonneg small, Int.toNat_of_nonneg nonneg]

/-- What fits ends within the pool. -/
theorem Fits.range_end (fits : geometry.Fits length formats) (short : length ≤ 2147483647) :
    geometry.offset.toInt.toNat + geometry.size ≤ length := by
  have size := fits.size_eq short
  have extent := fits.extent
  have start := fits.offset_nonneg
  omega

end BufferGeometry

/-- An operation asks for a new pool. -/
def Operation.CreatesPool (operation : Operation) : Prop :=
  ∃ connection descriptor size, operation = .createPool connection descriptor size

namespace Connection

/-- Buffers stay where they are; they may disappear, and none appears. -/
def Placed (old new : Connection) : Prop :=
  ∀ id after, new.buffers.get? id = some after → ∃ before, old.buffers.get? id = some before ∧
    after.pool = before.pool ∧ after.geometry = before.geometry

/-- **What becomes of the pools.** -/
inductive Holding (operation : Operation) (formats : List PixelFormat) (old new : Connection) :
    Prop where
  | kept (pools : new.pools = old.pools) (buffers : Placed old new)
  | poolCreated {mapping : Mapping}
      (asked : operation.CreatesPool)
      (pools : new.pools = old.pools.insert (old.fresh .pool) { mapping })
      (short : mapping.length ≤ 2147483647) (buffers : Placed old new)
      (advanced : new.nextIndex = old.nextIndex + 1)
  /-- A pool has other memory, of at least the same length. -/
  | remapped {id : PoolId} {pool : Pool} {mapping : Mapping}
      (cause : (∃ size, operation = .resizePool id size) ∨ ∃ buffer, operation.Reads buffer)
      (found : old.pools.get? id = some pool)
      (pools : new.pools = old.pools.modify id fun pool => { pool with mapping })
      (grown : pool.length ≤ mapping.length)
      (short : mapping.length ≤ 2147483647 ∨ mapping.length = pool.length)
      (buffers : Placed old new)
  | bufferCreated {pool : PoolId} {geometry : BufferGeometry} {owner : Pool}
      (found : old.pools.get? pool = some owner)
      (fits : geometry.check owner.length formats = .ok ())
      (pools : new.pools = old.pools.modify pool fun owner => owner.enlist (old.fresh .buffer))
      (buffers : new.buffers = old.buffers.insert (old.fresh .buffer) { pool, geometry })
      (advanced : new.nextIndex = old.nextIndex + 1)
  | bufferDestroyed {id : BufferId} (same : new = old.destroyBuffer id)
  | poolDestroyed {id : PoolId} (same : new = old.destroyPool id)

section Holding

variable {server : Server} {host : Host} {operation : Operation} {old new : Connection}

private theorem Placed.of_eq (same : new.buffers = old.buffers) : Placed old new :=
  fun _ after live => ⟨after, same ▸ live, rfl, rfl⟩

/-- Buffers stay where they are if no change moves them. -/
theorem Placed.of_map (change : BufferId → Buffer → Buffer)
    (buffers : ∀ id, new.buffers.get? id = (old.buffers.get? id).map (change id))
    (stays : ∀ id buffer, (change id buffer).pool = buffer.pool ∧
      (change id buffer).geometry = buffer.geometry) : Placed old new := by
  intro id after live
  rw [buffers, Option.map_eq_some_iff] at live
  obtain ⟨before, liveBefore, rfl⟩ := live
  exact ⟨before, liveBefore, stays id before⟩

/-- A commit moves no buffer. -/
theorem placed_commit {id : SurfaceId} {commit : Commit} (done : old.commit? id = some commit) :
    Placed old commit.client := by
  obtain ⟨surface, found⟩ := surface_of_commit? done
  apply Placed.of_map (old.settle surface) (get?_buffers_commit found done)
  intro id buffer
  rw [settle_frame]
  exact ⟨rfl, rfl⟩

private theorem ReadFailure.holding {id : BufferId} {formats : List PixelFormat}
    {middle : Connection} (failure : middle.ReadFailure id new) (reads : operation.Reads id)
    (pools : middle.pools = old.pools) (buffers : Placed old middle) :
    Holding operation formats old new := by
  cases failure with
  | refused => exact .kept pools buffers
  | @faulted buffer mapping found =>
    obtain ⟨_, owner, held, rfl⟩ := memoryOf?_eq_some.mp found
    have length : owner.length ≤ owner.mapping.nullify.length := Nat.le_refl _
    refine .remapped (.inr ⟨id, reads⟩) (pools ▸ held) ?_ length (.inr rfl) buffers
    simp only [emit, setMapping, pools]

/-- A length that was asked for with 32 bits. -/
theorem length_of_establish? {files : Files} {file : FileId} {mode : AccessMode} {size : Int32}
    {mapping : Mapping}
    (mapped : Mapping.establish? files file mode size.toInt.toNat = some mapping) :
    mapping.length = size.toInt.toNat ∧ mapping.length ≤ 2147483647 := by
  unfold Mapping.establish? at mapped
  split at mapped
  · cases mapped
    have := size.toInt_lt
    exact ⟨rfl, by simp only; omega⟩
  · cases mapped

/-- **An operation only does what `Connection.Holding` lists.** -/
theorem Change.holding (change : Change server host operation old new) :
    Holding operation server.formats old new := by
  cases change with
  | same | takeEvents _ | unbind | request _ _ | presentAll | ackConfigure | setWindowGeometry _ _
  | missConfigure _ | setTitle | setAppId | createSurface =>
    exact .kept rfl (.of_eq rfl)
  | @bind _ _ _ _ capability _ =>
    refine .kept ?_ (.of_eq ?_) <;> cases capability.kind <;> rfl
  | createPool _ mapped =>
    exact .poolCreated ⟨_, _, _, rfl⟩ rfl (length_of_establish? mapped).2 (.of_eq rfl) rfl
  | resizePool found grows mapped =>
    obtain ⟨length, short⟩ := length_of_establish? mapped
    exact .remapped (.inl ⟨_, rfl⟩) found rfl (by omega) (.inl short) (.of_eq rfl)
  | createBuffer found fits => exact .bufferCreated found fits rfl rfl rfl
  | destroyPool => exact .poolDestroyed rfl
  | destroyBuffer => exact .bufferDestroyed rfl
  | failRead reads failure => exact failure.holding reads rfl (.of_eq rfl)
  | @attach _ _ attachment _ surface _ _ _ =>
    refine .kept ?_ (.of_map (reattach surface attachment)
      (old.get?_buffers_reattach surface attachment) fun id buffer => ?_)
    · unfold modifySurface
      rw [claim_frame, withdraw_frame]
    · rw [reattach_frame]
      exact ⟨rfl, rfl⟩
  | frame =>
    refine .kept ?_ (.of_eq ?_)
    all_goals
      simp only [addCallback, draw]
      split <;> rfl
  | commit done => exact .kept (by rw [commit?_frame done]) (placed_commit done)
  | commitUnread done _ failure =>
    exact failure.holding .shown (by rw [commit?_frame done]) (placed_commit done)
  | present done =>
    obtain ⟨_, _, rfl⟩ := present?_eq_some done
    exact .kept rfl (.of_eq rfl)
  | destroySurface done =>
    obtain ⟨surface, found⟩ := surface_of_destroySurface? done
    refine .kept (by rw [destroySurface?_eq found done])
      (.of_map (abandon surface) (get?_buffers_destroySurface found done) fun id buffer => ?_)
    rw [abandon_frame]
    exact ⟨rfl, rfl⟩
  | getWindowSurface done =>
    obtain ⟨_, _, _, _, ⟨_, _, rfl⟩ | ⟨_, rfl⟩⟩ := getWindowSurface_eq_ok done <;>
      exact .kept rfl (.of_eq rfl)
  | getToplevel done =>
    obtain ⟨_, _, _, _, rfl⟩ := getToplevel_eq_ok done
    exact .kept rfl (.of_eq rfl)
  | sendConfigure done =>
    obtain ⟨_, _, _, _, _, rfl⟩ := configure_eq_ok done
    exact .kept rfl (.of_eq rfl)
  | destroyWindowSurface done =>
    obtain ⟨_, _, rfl⟩ := destroyWindowSurface?_eq_some done
    exact .kept rfl (.of_eq rfl)
  | destroyToplevel done =>
    obtain ⟨_, _, rfl⟩ := destroyToplevel?_eq_some done
    exact .kept rfl (.of_eq rfl)

end Holding

/-- A pool goes on as another record: it did not shrink, and it lists the buffers that are left. -/
structure Continues (pool later : Pool) (live : List BufferId) : Prop where
  grown : pool.length ≤ later.length
  short : pool.length ≤ 2147483647 → later.length ≤ 2147483647
  listed : ∀ id ∈ pool.buffers, id ∈ live → id ∈ later.buffers

/-- A pool stems from an older record: its memory only changes as it is resized or read, it did not
shrink, and what is new on its list has just been carved out of it. -/
structure Stems (operation : Operation) (formats : List PixelFormat) (old new : Connection)
    (id : PoolId) (pool later : Pool) : Prop where
  mapping : later.mapping = pool.mapping ∨ (∃ size, operation = .resizePool id size) ∨
    ∃ buffer, operation.Reads buffer
  grown : pool.length ≤ later.length
  short : pool.length ≤ 2147483647 → later.length ≤ 2147483647
  listed : ∀ buffer ∈ later.buffers, buffer ∈ pool.buffers ∨
    ∃ geometry, new.buffers.get? buffer = some { pool := id, geometry } ∧
      geometry.check pool.length formats = .ok ()
  /-- The list stays in order, with what was carved out last. -/
  order : later.buffers.Sublist pool.buffers ∨ new.nextIndex = old.nextIndex + 1 ∧
    later.buffers.Sublist (pool.buffers ++ [old.fresh .buffer])

/-- **Buffers lie within their pools.** Every buffer has a pool, which lists it and which it fits
into. -/
structure Bounded (client : Connection) (formats : List PixelFormat) : Prop where
  short : ∀ id pool, client.pools.get? id = some pool → pool.length ≤ 2147483647
  held : ∀ id buffer, client.buffers.get? id = some buffer →
    ∃ pool, client.pools.get? buffer.pool = some pool ∧ id ∈ pool.buffers ∧
      buffer.geometry.Fits pool.length formats

section Step

variable {operation : Operation} {formats : List PixelFormat} {old new : Connection} {count : Nat}

private theorem Continues.of_mapping {pool later : Pool} {live : List BufferId}
    (same : later.mapping = pool.mapping)
    (listed : ∀ id ∈ pool.buffers, id ∈ live → id ∈ later.buffers) : Continues pool later live := by
  have length : later.length = pool.length := by rw [Pool.length, same, Pool.length]
  exact ⟨Nat.le_of_eq length.symm, fun short => length ▸ short, listed⟩

private theorem Stems.of_mapping {id : PoolId} {pool later : Pool}
    (same : later.mapping = pool.mapping)
    (listed : ∀ buffer ∈ later.buffers, buffer ∈ pool.buffers ∨
      ∃ geometry, new.buffers.get? buffer = some { pool := id, geometry } ∧
        geometry.check pool.length formats = .ok ())
    (order : later.buffers.Sublist pool.buffers ∨ new.nextIndex = old.nextIndex + 1 ∧
      later.buffers.Sublist (pool.buffers ++ [old.fresh .buffer])) :
    Stems operation formats old new id pool later := by
  have length : later.length = pool.length := by rw [Pool.length, same, Pool.length]
  exact ⟨.inl same, Nat.le_of_eq length.symm, fun short => length ▸ short, listed, order⟩

/-- A pool that loses some of its buffers at most. -/
theorem Stems.of_sublist {id : PoolId} {pool later : Pool} (same : later.mapping = pool.mapping)
    (fewer : later.buffers.Sublist pool.buffers) :
    Stems operation formats old new id pool later :=
  .of_mapping same (fun _ listed => .inl (fewer.subset listed)) (.inl fewer)

/-- A pool that a buffer was carved out of lists it besides. -/
theorem mem_enlist_iff (pool : Pool) (id other : BufferId) :
    other ∈ (pool.enlist id).buffers ↔ other = id ∨ other ∈ pool.buffers := by
  unfold Pool.enlist
  split
  · rename_i listed
    refine ⟨.inr, ?_⟩
    rintro (rfl | earlier)
    · exact listed
    · exact earlier
  · rw [List.mem_append, List.mem_singleton, or_comm]

private theorem enlist_sublist (pool : Pool) (id : BufferId) :
    (pool.enlist id).buffers.Sublist (pool.buffers ++ [id]) := by
  unfold Pool.enlist
  split
  · exact List.sublist_append_left ..
  · exact .refl _

private theorem mapping_enlist (pool : Pool) (id : BufferId) :
    (pool.enlist id).mapping = pool.mapping := by
  unfold Pool.enlist
  split <;> rfl

/-- A pool goes on, or is destroyed along with the buffers on its list. -/
theorem Holding.pool_after (holding : Holding operation formats old new) (drawn : old.Drawn count)
    (room : count + old.drawnUntil new ≤ UInt32.size) {id : PoolId} {pool : Pool}
    (found : old.pools.get? id = some pool) :
    (∃ later, new.pools.get? id = some later ∧ Continues pool later new.buffers.keys) ∨
      new.pools.get? id = none ∧ ∀ buffer ∈ pool.buffers, buffer ∉ new.buffers.keys := by
  cases holding with
  | kept pools _ => exact .inl ⟨pool, pools ▸ found, .of_mapping rfl fun _ listed _ => listed⟩
  | poolCreated _ pools _ _ advanced =>
    rw [drawnUntil_of_advanced advanced] at room
    have apart : id ≠ old.fresh .pool := fun created =>
      drawn.fresh_notMem room .pool (created ▸ Arena.mem_keys_of_get? found)
    refine .inl ⟨pool, ?_, .of_mapping rfl fun _ listed _ => listed⟩
    rw [pools, Arena.get?_insert, if_neg apart, found]
  | @remapped other pool' mapping _ found' pools grown short _ =>
    rw [pools, Arena.get?_modify, found]
    split
    · rename_i same
      cases (same ▸ found).symm.trans found'
      refine .inl ⟨_, rfl, grown, fun before => ?_, fun _ listed _ => listed⟩
      rcases short with short | same
      · exact short
      · exact Nat.le_trans (Nat.le_of_eq same) before
    · exact .inl ⟨pool, rfl, .of_mapping rfl fun _ listed _ => listed⟩
  | bufferCreated _ _ pools _ _ =>
    rw [pools, Arena.get?_modify, found]
    split
    · exact .inl ⟨_, rfl, .of_mapping (mapping_enlist ..) fun buffer listed _ =>
        (mem_enlist_iff ..).mpr (.inr listed)⟩
    · exact .inl ⟨pool, rfl, .of_mapping rfl fun _ listed _ => listed⟩
  | @bufferDestroyed gone same =>
    subst same
    rw [destroyBuffer_eq]
    obtain ⟨left, live, mapping, _, kept⟩ := old.get?_poolsWithout found gone
    refine .inl ⟨left, live, .of_mapping mapping fun buffer listed alive => kept buffer listed ?_⟩
    simp only [Arena.keys_erase, List.mem_filter, decide_eq_true_eq] at alive
    exact alive.2
  | @poolDestroyed gone same =>
    subst same
    unfold destroyPool
    cases foundGone : old.pools.get? gone with
    | none => exact .inl ⟨pool, found, .of_mapping rfl fun _ listed _ => listed⟩
    | some destroyed =>
      have dead (buffer : BufferId) (listed : buffer ∈ destroyed.buffers) :
          buffer ∉ (destroyed.buffers.foldl destroyBuffer old).buffers.keys := by
        intro alive
        obtain ⟨held, live⟩ := Arena.get?_of_mem_keys alive
        rw [get?_buffers_foldl_destroyBuffer, if_pos listed] at live
        cases live
      simp only [Arena.get?_erase]
      split
      · rename_i same
        cases (same ▸ found).symm.trans foundGone
        exact .inr ⟨rfl, dead⟩
      · obtain ⟨left, live, mapping, _, kept⟩ :=
          old.get?_pools_foldl_destroyBuffer destroyed.buffers found
        exact .inl ⟨left, live, .of_mapping mapping fun buffer listed alive =>
          kept buffer listed fun struck => dead buffer struck alive⟩

/-- A pool that is live afterwards is new and lists nothing, or stems from one that was there. -/
theorem Holding.pool_source (holding : Holding operation formats old new) {id : PoolId}
    {later : Pool} (live : new.pools.get? id = some later) :
    (operation.CreatesPool ∧ later.length ≤ 2147483647 ∧ later.buffers = []) ∨
      ∃ pool, old.pools.get? id = some pool ∧ Stems operation formats old new id pool later := by
  cases holding with
  | kept pools _ => exact .inr ⟨later, pools ▸ live, .of_sublist rfl (.refl _)⟩
  | poolCreated asked pools short _ _ =>
    rw [pools, Arena.get?_insert] at live
    split at live
    · cases live
      exact .inl ⟨asked, short, rfl⟩
    · exact .inr ⟨later, live, .of_sublist rfl (.refl _)⟩
  | remapped cause found pools grown short _ =>
    rw [pools, Arena.get?_modify] at live
    split at live
    · rename_i same
      subst same
      rw [found] at live
      cases live
      refine .inr ⟨_, found, .inr cause, grown, fun before => ?_, fun _ listed => .inl listed,
        .inl (.refl _)⟩
      rcases short with short | same
      · exact short
      · exact Nat.le_trans (Nat.le_of_eq same) before
    · exact .inr ⟨later, live, .of_sublist rfl (.refl _)⟩
  | @bufferCreated _ _ owner found fits pools buffers advanced =>
    rw [pools, Arena.get?_modify] at live
    split at live
    · rename_i same
      subst same
      rw [found] at live
      cases live
      have mapping := mapping_enlist owner (old.fresh .buffer)
      refine .inr ⟨_, found, .of_mapping mapping (fun buffer listed => ?_)
        (.inr ⟨advanced, enlist_sublist ..⟩)⟩
      rcases (mem_enlist_iff ..).mp listed with rfl | earlier
      · refine .inr ⟨_, ?_, fits⟩
        rw [buffers, Arena.get?_insert, if_pos rfl]
      · exact .inl earlier
    · exact .inr ⟨later, live, .of_sublist rfl (.refl _)⟩
  | @bufferDestroyed gone same =>
    have kept : new.pools = old.poolsWithout gone := by rw [same, destroyBuffer_eq]
    have listed : id ∈ old.pools.keys := by
      rw [← keys_poolsWithout, ← kept]
      exact Arena.mem_keys_of_get? live
    obtain ⟨pool, found⟩ := Arena.get?_of_mem_keys listed
    obtain ⟨left, reached, mapping, fewer, _⟩ := old.get?_poolsWithout found gone
    cases (kept ▸ live).symm.trans reached
    exact .inr ⟨pool, found, .of_sublist mapping fewer⟩
  | @poolDestroyed gone same =>
    rw [same, destroyPool] at live
    cases foundGone : old.pools.get? gone with
    | none =>
      simp only [foundGone] at live
      exact .inr ⟨later, live, .of_sublist rfl (.refl _)⟩
    | some destroyed =>
      simp only [foundGone, Arena.get?_erase] at live
      split at live
      · cases live
      · have listed := Arena.mem_keys_of_get? live
        rw [keys_pools_foldl_destroyBuffer] at listed
        obtain ⟨pool, found⟩ := Arena.get?_of_mem_keys listed
        obtain ⟨left, reached, mapping, fewer, _⟩ :=
          old.get?_pools_foldl_destroyBuffer destroyed.buffers found
        cases live.symm.trans reached
        exact .inr ⟨pool, found, .of_sublist mapping fewer⟩

/-- A buffer that is live afterwards lay there before, or fits into the pool that it was created
in. -/
theorem Holding.buffer_before (holding : Holding operation formats old new) {id : BufferId}
    {buffer : Buffer} (live : new.buffers.get? id = some buffer) :
    (∃ before, old.buffers.get? id = some before ∧ buffer.pool = before.pool ∧
        buffer.geometry = before.geometry) ∨
      ∃ owner later, old.pools.get? buffer.pool = some owner ∧
        buffer.geometry.check owner.length formats = .ok () ∧
        new.pools.get? buffer.pool = some later ∧ later.length = owner.length ∧
        id ∈ later.buffers := by
  cases holding with
  | kept _ buffers | poolCreated _ _ _ buffers _ | remapped _ _ _ _ _ buffers =>
    exact .inl (buffers id buffer live)
  | @bufferCreated pool geometry owner found fits pools buffers _ =>
    rw [buffers, Arena.get?_insert] at live
    split at live
    · rename_i created
      cases live
      have length : (owner.enlist id).length = owner.length := by
        rw [Pool.length, mapping_enlist, Pool.length]
      have listed : id ∈ (owner.enlist id).buffers := (mem_enlist_iff ..).mpr (.inl rfl)
      refine .inr ⟨owner, owner.enlist id, found, fits, ?_, length, listed⟩
      rw [pools, Arena.get?_modify, if_pos rfl, found, created]
      rfl
    · exact .inl ⟨buffer, live, rfl, rfl⟩
  | bufferDestroyed same =>
    rw [same, destroyBuffer_eq, Arena.get?_erase] at live
    split at live
    · cases live
    · exact .inl ⟨buffer, live, rfl, rfl⟩
  | @poolDestroyed gone same =>
    rw [same, destroyPool] at live
    cases found : old.pools.get? gone with
    | none =>
      simp only [found] at live
      exact .inl ⟨buffer, live, rfl, rfl⟩
    | some destroyed =>
      simp only [found, get?_buffers_foldl_destroyBuffer] at live
      split at live
      · cases live
      · exact .inl ⟨buffer, live, rfl, rfl⟩

/-- On a fresh connection there is nothing to be out of bounds. -/
theorem Bounded.empty (id : ConnectionId) (formats : List PixelFormat) :
    Bounded { id } formats where
  short _ _ live := by cases live
  held _ _ live := by cases live

/-- **One operation keeps the buffers within their pools.** -/
theorem Bounded.next (bounded : old.Bounded formats) (sized : PixelFormat.AllSized formats)
    (holding : Holding operation formats old new) (drawn : old.Drawn count)
    (room : count + old.drawnUntil new ≤ UInt32.size) : new.Bounded formats where
  short id pool live := by
    rcases holding.pool_source live with ⟨_, short, _⟩ | ⟨before, found, stems⟩
    · exact short
    · exact stems.short (bounded.short id before found)
  held id buffer live := by
    rcases holding.buffer_before live with
      ⟨before, liveBefore, pool, geometry⟩ | ⟨owner, later, _, fits, reached, same, listed⟩
    · obtain ⟨owner, found, listed, fits⟩ := bounded.held id before liveBefore
      have present := Arena.mem_keys_of_get? live
      rw [pool, geometry]
      rcases holding.pool_after drawn room found with ⟨later, reached, continues⟩ | ⟨_, dead⟩
      · exact ⟨later, reached, continues.listed id listed present, fits.mono continues.grown⟩
      · exact (dead id listed present).elim
    · exact ⟨later, reached, listed, same ▸ (BufferGeometry.check_eq_ok_iff sized).mp fits⟩

end Step

end Connection

namespace Server

private theorem isLive_pool_iff {server : Server} {id : PoolId} :
    server.IsLive id ↔ ∃ pool, server.pool? id = some pool := by
  constructor
  · rintro ⟨client, found, listed⟩
    obtain ⟨pool, held⟩ := Arena.get?_of_mem_keys listed
    exact ⟨pool, pool?_eq_some.mpr ⟨client, found, held⟩⟩
  · rintro ⟨pool, live⟩
    obtain ⟨client, found, held⟩ := pool?_eq_some.mp live
    exact ⟨client, found, Arena.mem_keys_of_get? held⟩

/-- A format without a known pixel size is not supported. -/
theorem allSized_supportFormats (formats : List PixelFormat) {supported : List PixelFormat}
    (sized : PixelFormat.AllSized supported) :
    PixelFormat.AllSized (supportFormats supported formats).1 := by
  induction formats generalizing supported with
  | nil => exact sized
  | cons format rest ih =>
    have kept : PixelFormat.AllSized (supportFormat supported format).1 := by
      unfold supportFormat
      split
      · exact sized
      · split
        · exact sized
        · rename_i known
          intro other listed
          rcases List.mem_append.mp listed with earlier | last
          · exact sized other earlier
          · rw [List.mem_singleton.mp last]
            exact Option.ne_none_iff_exists'.mp (by simpa using known)
    exact ih kept

/-- A server supports only formats whose pixels have a size. -/
theorem allSized_start (config : Config) :
    PixelFormat.AllSized (Server.start config).state.formats := by
  apply allSized_supportFormats config.formats
  intro format listed
  rcases List.mem_cons.mp listed with rfl | listed
  · exact ⟨4, rfl⟩
  · rw [List.mem_singleton.mp listed]
    exact ⟨4, rfl⟩

/-- The formats of a server never change. -/
theorem formats_next {server : Server} (named : server.Named) (host : Host)
    (operation : Operation) : (server.next host operation).formats = server.formats := by
  cases operation with
  | connect => rfl
  | disconnect gone =>
    change (server.disconnect gone).state.formats = _
    unfold disconnect
    cases server.connection? gone <;> rfl
  | _ => exact (effect_next named host _ (by simp) (by simp)).formats

section Runs

variable {config : Config}

/-- The supported formats are those that the server was started with. -/
theorem formats_after (script : Script) :
    (after config script).formats = (Server.start config).state.formats := by
  induction script using List.reverseRecOn with
  | nil => rfl
  | append_singleton script entry ih =>
    rw [after_concat, formats_next (named_after config script), ih]

/-- After a script in range, all buffers lie within their pools. -/
theorem bounded_after (script : Script) (range : (Server.start config).state.InRange script) :
    ∀ id client, (after config script).connection? id = some client →
      client.Bounded (Server.start config).state.formats := by
  refine after_induction (motive := fun _ server => ∀ id client,
    server.connection? id = some client → client.Bounded (Server.start config).state.formats)
    ?_ ?_ script range
  · intro id client live
    cases live
  · intro script host operation range bounded id new live
    have ready := ready_after range
    rcases ready.connection? ready.room live with ⟨_, rfl, _⟩ | ⟨old, found, change⟩
    · exact .empty id _
    · obtain ⟨drawn, room⟩ := ready.client found live
      have holding := change.holding
      rw [formats_after script] at holding
      exact (bounded id old found).next (allSized_start config) holding drawn room

/-- One operation shrinks no pool. -/
theorem length_le_next {server : Server} {host : Host} {operation : Operation} {accepted : Nat}
    {drawn : ConnectionId → Nat} (ready : server.Ready host operation accepted drawn) {id : PoolId}
    {pool later : Pool} (before : server.pool? id = some pool)
    (after : (server.next host operation).pool? id = some later) : pool.length ≤ later.length := by
  obtain ⟨old, found, held⟩ := pool?_eq_some.mp before
  obtain ⟨new, reached, heldAfter⟩ := pool?_eq_some.mp after
  obtain ⟨behind, room⟩ := ready.client found reached
  rcases ready.connection? ready.room reached with ⟨_, _, dead, _⟩ | ⟨old', found', change⟩
  · exact (dead (Arena.mem_keys_of_get? found)).elim
  cases found.symm.trans found'
  rcases change.holding.pool_after behind room held with ⟨_, live, continues⟩ | ⟨gone, _⟩
  · cases heldAfter.symm.trans live
    exact continues.grown
  · cases heldAfter.symm.trans gone

/-- No pool shrinks over a run. -/
theorem length_le_after {front back : Script}
    (range : (Server.start config).state.InRange (front ++ back)) {id : PoolId}
    {pool later : Pool} (before : (after config front).pool? id = some pool)
    (reached : (after config (front ++ back)).pool? id = some later) :
    pool.length ≤ later.length := by
  induction back using List.reverseRecOn generalizing later with
  | nil =>
    rw [List.append_nil] at reached
    cases before.symm.trans reached
    exact Nat.le_refl _
  | append_singleton back entry ih =>
    rw [← List.append_assoc] at range reached
    have ready : (after config (front ++ back)).Ready entry.1 entry.2 _ _ := ready_after range
    have behind := (accounted_after front range.of_append.of_append).drawn_of_isLive
      (isLive_pool_iff.mpr ⟨pool, before⟩)
    have more := drawnAfter_le config front back id.connection
    rw [after_concat] at reached
    -- In between the pool was there, as its handle would not have come back.
    rcases ready.isLive_source (isLive_pool_iff.mpr ⟨later, reached⟩) with live | index
    · obtain ⟨middle, found⟩ := isLive_pool_iff.mp live
      exact Nat.le_trans (ih range.of_append found) (length_le_next ready found reached)
    · omega

/-- A reader of a live buffer that reads neither from inside of another read nor into a fault is
given as many bytes as the geometry says, and changes nothing. -/
theorem withContents_of_sound {server : Server} {id : BufferId} {client : Connection}
    {buffer : Buffer} {pool : Pool} (found : server.connection? id.connection = some client)
    (held : client.buffers.get? id = some buffer)
    (backed : client.pools.get? buffer.pool = some pool)
    (inside : buffer.geometry.offset.toInt.toNat + buffer.geometry.size ≤ pool.length) {α : Type}
    (host : Host) (reading : Reading) (read : BufferGeometry → Span → α)
    (outermost : host.isReading = false)
    (sound : pool.mapping.faults host.files buffer.geometry.offset.toInt.toNat buffer.geometry.size
      reading = false) :
    server.withContents host id reading read =
      { answer := .ok (read buffer.geometry
          (pool.mapping.span host.files buffer.geometry.offset.toInt.toNat buffer.geometry.size))
        state := server } := by
  have memory : client.memoryOf? id = some (buffer, pool.mapping) :=
    Connection.memoryOf?_eq_some.mpr ⟨held, pool, backed, rfl⟩
  have enough : ¬ pool.mapping.length <
      buffer.geometry.offset.toInt.toNat + buffer.geometry.size := Nat.not_lt.mpr inside
  simp only [withContents, found, memory, outermost, sound, enough, if_false, Bool.false_eq_true]

/-- **No buffer reaches outside of its pool.** After every script in range, a live buffer has a live
pool that it fits into in exact integers, whatever became of the pool since. No product or sum is
cut off on the way to its bytes, and a reader is given them all. No pool shrinks over a run. -/
theorem buffers_within_pools (config : Config) (script : Script)
    (range : (Server.start config).state.InRange script) :
    (∀ id buffer, (after config script).buffer? id = some buffer →
      ∃ pool, (after config script).pool? buffer.pool = some pool ∧
        buffer.geometry.Fits pool.length (after config script).formats ∧
        pool.length ≤ 2147483647 ∧
        (buffer.geometry.size : Int) =
          buffer.geometry.height.toInt * buffer.geometry.stride.toInt ∧
        buffer.geometry.offset.toInt.toNat + buffer.geometry.size ≤ pool.length ∧
        buffer.geometry.offset.toInt.toNat + buffer.geometry.size < UInt64.size ∧
        ∀ {α : Type} (host : Host) (reading : Reading) (read : BufferGeometry → Span → α),
          host.isReading = false →
          pool.mapping.faults host.files buffer.geometry.offset.toInt.toNat buffer.geometry.size
            reading = false →
          ((after config script).withContents host id reading read).answer =
            .ok (read buffer.geometry (pool.mapping.span host.files
              buffer.geometry.offset.toInt.toNat buffer.geometry.size))) ∧
    ∀ front back, script = front ++ back → ∀ id pool later,
      (after config front).pool? id = some pool → (after config script).pool? id = some later →
      pool.length ≤ later.length := by
  constructor
  · intro id buffer live
    obtain ⟨client, found, held⟩ := buffer?_eq_some.mp live
    obtain ⟨short, within⟩ := bounded_after script range _ client found
    obtain ⟨pool, backed, _, fits⟩ := within id buffer held
    have accounted := accounted_after script range
    have placed := accounted.connection?_of_listed found (Arena.mem_keys_of_get? backed)
    have inside := fits.range_end (short _ pool backed)
    have length := short _ pool backed
    have wide : 2147483647 < UInt64.size := by decide
    refine ⟨pool, pool?_eq_some.mpr ⟨client, placed, backed⟩,
      formats_after script ▸ fits, length, fits.size_eq length, inside, by omega, ?_⟩
    intro α host reading read outermost sound
    rw [withContents_of_sound found held backed inside host reading read outermost sound]
  · rintro front back rfl id pool later before reached
    exact length_le_after range before reached

/-- A buffer that was taken back still lies within its pool. -/
theorem buffers_within_pools_takenBack :
    (Server.start {}).state.InRange Script.takenBack ∧
      ∃ pool, (after {} Script.takenBack).pool? ⟨⟨0⟩, 0⟩ = some pool ∧
        BufferGeometry.Fits ⟨0, 2, 2, 8, .argb8888⟩ pool.length
          (after {} Script.takenBack).formats := by
  have range : (Server.start {}).state.InRange Script.takenBack := inRange_of_length _ (by decide)
  have live : (after {} Script.takenBack).buffer? ⟨⟨0⟩, 1⟩ =
      some { pool := ⟨⟨0⟩, 0⟩, geometry := ⟨0, 2, 2, 8, .argb8888⟩, isReleased := true } := rfl
  obtain ⟨pool, backed, fits, _⟩ := (buffers_within_pools {} Script.takenBack range).1 _ _ live
  exact ⟨range, pool, backed, fits⟩

end Runs

end Server

end DisplayServer
