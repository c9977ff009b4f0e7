import DisplayServer.Connection.Pools
import DisplayServer.Proofs.Arena

/-! # Pools, buffers, and their destruction

A buffer lies in the memory of its pool. Once it is destroyed, a buffer leaves the arena
and the list of its pool. A pool takes along the buffers that it lists.
-/

namespace DisplayServer.Connection

/-- The memory of a buffer is that of its pool. -/
theorem memoryOf?_eq_some {client : Connection} {id : BufferId} {buffer : Buffer}
    {mapping : Mapping} : client.memoryOf? id = some (buffer, mapping) ↔
      client.buffers.get? id = some buffer ∧
        ∃ pool, client.pools.get? buffer.pool = some pool ∧ pool.mapping = mapping := by
  simp only [memoryOf?, Option.bind_eq_bind, Option.bind_eq_some_iff, Option.pure_def,
    Option.some.injEq, Prod.mk.injEq]
  constructor
  · rintro ⟨_, held, pool, backed, rfl, same⟩
    exact ⟨held, pool, backed, same⟩
  · rintro ⟨held, pool, backed, same⟩
    exact ⟨buffer, held, pool, backed, rfl, same⟩

variable (client : Connection)

/-- The pools without a buffer on their lists. -/
def poolsWithout (id : BufferId) : Arena PoolId Pool :=
  match client.buffers.get? id with
  | some buffer => client.pools.modify buffer.pool fun pool => pool.strike id
  | none => client.pools

/-- A buffer that is destroyed is removed, and its pool does not list it any more. -/
theorem destroyBuffer_eq (id : BufferId) :
    client.destroyBuffer id = { client with
      buffers := client.buffers.erase id
      pools := client.poolsWithout id } := by
  simp only [destroyBuffer, poolsWithout]
  cases live : client.buffers.get? id with
  | none => simp only [Arena.erase_of_get?_eq_none live]
  | some buffer => rfl

/-- No pool goes with a buffer. -/
theorem keys_poolsWithout (id : BufferId) : (client.poolsWithout id).keys = client.pools.keys := by
  unfold poolsWithout
  split <;> simp

/-- A pool keeps its memory, and the other buffers on its list. -/
theorem get?_poolsWithout {pool : PoolId} {owner : Pool}
    (found : client.pools.get? pool = some owner) (id : BufferId) :
    ∃ left, (client.poolsWithout id).get? pool = some left ∧ left.mapping = owner.mapping ∧
      left.buffers.Sublist owner.buffers ∧
      ∀ other ∈ owner.buffers, other ≠ id → other ∈ left.buffers := by
  unfold poolsWithout
  split
  · rw [Arena.get?_modify, found]
    split
    · exact ⟨owner.strike id, rfl, rfl, List.filter_sublist, fun other listed apart =>
        List.mem_filter.mpr ⟨listed, decide_eq_true apart⟩⟩
    · exact ⟨owner, rfl, rfl, .refl _, fun other listed _ => listed⟩
  · exact ⟨owner, found, rfl, .refl _, fun other listed _ => listed⟩

/-- Destroying buffers changes buffers and pools. -/
theorem foldl_destroyBuffer_frame (ids : List BufferId) :
    ids.foldl destroyBuffer client = { client with
      buffers := (ids.foldl destroyBuffer client).buffers
      pools := (ids.foldl destroyBuffer client).pools } := by
  induction ids generalizing client with
  | nil => rfl
  | cons id rest ih =>
    rw [List.foldl_cons, ih, destroyBuffer_eq]

/-- No pool goes with its buffers. -/
theorem keys_pools_foldl_destroyBuffer (ids : List BufferId) :
    (ids.foldl destroyBuffer client).pools.keys = client.pools.keys := by
  induction ids generalizing client with
  | nil => rfl
  | cons id rest ih =>
    rw [List.foldl_cons, ih, destroyBuffer_eq]
    exact keys_poolsWithout ..

/-- The buffers on a list are gone, and the others are as before. -/
theorem get?_buffers_foldl_destroyBuffer (ids : List BufferId) (id : BufferId) :
    (ids.foldl destroyBuffer client).buffers.get? id =
      if id ∈ ids then none else client.buffers.get? id := by
  induction ids generalizing client with
  | nil => simp
  | cons first rest ih =>
    rw [List.foldl_cons, ih, destroyBuffer_eq]
    simp only [Arena.get?_erase, List.mem_cons]
    by_cases later : id ∈ rest
    · simp [later]
    · by_cases here : id = first <;> simp [later, here]

/-- To destroy buffers keeps the order of the others. -/
theorem keys_buffers_foldl_destroyBuffer (ids : List BufferId) :
    (ids.foldl destroyBuffer client).buffers.keys.Sublist client.buffers.keys := by
  induction ids generalizing client with
  | nil => exact List.Sublist.refl _
  | cons first rest ih =>
    rw [List.foldl_cons]
    refine (ih _).trans ?_
    rw [destroyBuffer_eq]
    simp only [Arena.keys_erase]
    exact List.filter_sublist

/-- A pool keeps its memory when buffers are destroyed, and lists the others. -/
theorem get?_pools_foldl_destroyBuffer (ids : List BufferId) {pool : PoolId} {owner : Pool}
    (found : client.pools.get? pool = some owner) :
    ∃ left, (ids.foldl destroyBuffer client).pools.get? pool = some left ∧
      left.mapping = owner.mapping ∧ left.buffers.Sublist owner.buffers ∧
      ∀ other ∈ owner.buffers, other ∉ ids → other ∈ left.buffers := by
  induction ids generalizing client owner with
  | nil => exact ⟨owner, found, rfl, .refl _, fun other listed _ => listed⟩
  | cons first rest ih =>
    obtain ⟨middle, foundMiddle, sameMiddle, fewerMiddle, keptMiddle⟩ :=
      client.get?_poolsWithout found first
    rw [List.foldl_cons, destroyBuffer_eq]
    obtain ⟨left, foundLeft, same, fewer, kept⟩ := ih
      { client with
        buffers := client.buffers.erase first
        pools := client.poolsWithout first } foundMiddle
    refine ⟨left, foundLeft, same.trans sameMiddle, fewer.trans fewerMiddle,
      fun other listed apart => ?_⟩
    rw [List.mem_cons, not_or] at apart
    exact kept other (keptMiddle other listed apart.1) apart.2

/-- A pool that is destroyed changes pools and buffers and nothing else. -/
theorem destroyPool_frame (id : PoolId) :
    client.destroyPool id = { client with
      buffers := (client.destroyPool id).buffers
      pools := (client.destroyPool id).pools } := by
  unfold destroyPool
  cases client.pools.get? id with
  | none => rfl
  | some pool =>
    simp only
    rw [foldl_destroyBuffer_frame]

end DisplayServer.Connection
