import DisplayServer.Connection

/-! # The pools and buffers of a connection

Pools and buffers own each other: a buffer names its pool, and the pool lists its buffers, oldest
first. Destroying a pool destroys the buffers it lists.
-/

namespace DisplayServer.Connection

def addPool (client : Connection) (mapping : Mapping) : PoolId × Connection :=
  let (id, client) := client.draw .pool
  (id, { client with pools := client.pools.insert id { mapping } })

def setMapping (client : Connection) (id : PoolId) (mapping : Mapping) : Connection :=
  { client with pools := client.pools.modify id fun pool => { pool with mapping } }

/-- Adds a buffer to a pool. -/
def addBuffer (client : Connection) (pool : PoolId) (geometry : BufferGeometry) :
    BufferId × Connection :=
  let (id, client) := client.draw .buffer
  (id, { client with
    buffers := client.buffers.insert id { pool, geometry }
    pools := client.pools.modify pool fun owner => owner.enlist id })

/-- Destroys a buffer, and leaves the memory of its pool alone. -/
def destroyBuffer (client : Connection) (id : BufferId) : Connection :=
  match client.buffers.get? id with
  | none => client
  | some buffer =>
    { client with
      buffers := client.buffers.erase id
      pools := client.pools.modify buffer.pool fun owner => owner.strike id }

/-- Destroys a pool and the buffers it lists. -/
def destroyPool (client : Connection) (id : PoolId) : Connection :=
  match client.pools.get? id with
  | none => client
  | some pool =>
    let client := pool.buffers.foldl destroyBuffer client
    { client with pools := client.pools.erase id }

/-- The memory of a live buffer, with its geometry. -/
def memoryOf? (client : Connection) (id : BufferId) : Option (Buffer × Mapping) := do
  let buffer ← client.buffers.get? id
  let pool ← client.pools.get? buffer.pool
  return (buffer, pool.mapping)

end DisplayServer.Connection
