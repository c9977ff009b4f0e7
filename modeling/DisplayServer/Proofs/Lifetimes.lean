import DisplayServer.Proofs.Script

/-! # Lifetimes

An object is live as long as its handle resolves. A handle that starts to resolve has just been
drawn, so in a script in range a handle that has been drawn and does not resolve is never going to
resolve again. The same is true of the numbers of connections.
-/

namespace DisplayServer.Server

/-- A handle resolves. -/
def IsLive (server : Server) {kind : ObjectKind} (handle : Handle kind) : Prop :=
  ∃ client, server.connection? handle.connection = some client ∧ handle ∈ client.handles kind

section Lookup

variable {server : Server}

/-- A pool is live if its connection is and keeps it. -/
theorem pool?_eq_some {id : PoolId} {pool : Pool} :
    server.pool? id = some pool ↔ ∃ client, server.connection? id.connection = some client ∧
      client.pools.get? id = some pool :=
  Option.bind_eq_some_iff

/-- A buffer is live if its connection is and keeps it. -/
theorem buffer?_eq_some {id : BufferId} {buffer : Buffer} :
    server.buffer? id = some buffer ↔ ∃ client, server.connection? id.connection = some client ∧
      client.buffers.get? id = some buffer :=
  Option.bind_eq_some_iff

/-- A surface is live if its connection is and keeps it. -/
theorem surface?_eq_some {id : SurfaceId} {surface : Surface} :
    server.surface? id = some surface ↔ ∃ client, server.connection? id.connection = some client ∧
      client.surfaces.get? id = some surface :=
  Option.bind_eq_some_iff

/-- The handle of a surface resolves if there is such a surface. -/
theorem isLive_surface_iff {id : SurfaceId} :
    server.IsLive id ↔ ∃ surface, server.surface? id = some surface := by
  constructor
  · rintro ⟨client, found, listed⟩
    obtain ⟨surface, held⟩ := Arena.get?_of_mem_keys listed
    exact ⟨surface, surface?_eq_some.mpr ⟨client, found, held⟩⟩
  · rintro ⟨surface, live⟩
    obtain ⟨client, found, held⟩ := surface?_eq_some.mp live
    exact ⟨client, found, Arena.mem_keys_of_get? held⟩

end Lookup

section Step

variable {server : Server} {host : Host} {operation : Operation} {accepted : Nat}
  {drawn : ConnectionId → Nat} {kind : ObjectKind} {handle : Handle kind}

/-- An object is found where its handle says. -/
theorem Accounted.connection?_of_listed (accounted : server.Accounted accepted drawn)
    {id : ConnectionId} {client : Connection} (found : server.connection? id = some client)
    (listed : handle ∈ client.handles kind) :
    server.connection? handle.connection = some client := by
  rw [(accounted.clients id client found).own kind handle listed, accounted.named id client found]
  exact found

/-- Live handles were drawn. -/
theorem Accounted.drawn_of_isLive (accounted : server.Accounted accepted drawn)
    (live : server.IsLive handle) : handle.index.toNat < drawn handle.connection := by
  obtain ⟨client, found, listed⟩ := live
  exact (accounted.clients _ client found).below kind handle listed

/-- A handle that starts to resolve has just been drawn. -/
theorem Ready.isLive_source (ready : server.Ready host operation accepted drawn)
    (live : (server.next host operation).IsLive handle) :
    server.IsLive handle ∨ handle.index.toNat = drawn handle.connection := by
  obtain ⟨new, after, listed⟩ := live
  rcases ready.connection? ready.room after with ⟨_, rfl, _⟩ | ⟨old, found, change⟩
  · cases kind <;> cases listed
  by_cases before : handle ∈ old.handles kind
  · exact .inl ⟨old, found, before⟩
  · obtain ⟨drew, fresh⟩ := change.eq_fresh_of_notMem listed before
    obtain ⟨behind, room⟩ := ready.client found after
    rw [Connection.drawnUntil_of_advanced drew.1] at room
    have index := behind.index_fresh room kind
    rw [← fresh] at index
    exact .inr index

end Step

section Runs

variable {config : Config} {kind : ObjectKind}

/-- The number of handles drawn never goes down. -/
theorem drawnAfter_le (config : Config) (front back : Script) (id : ConnectionId) :
    drawnAfter config front id ≤ drawnAfter config (front ++ back) id := by
  rw [drawnAfter, drawnAfter, drawn_append]
  exact Nat.le_add_right ..

/-- A handle that was drawn and does not resolve never resolves again. -/
theorem not_isLive_of_gone {front back : Script} {handle : Handle kind}
    (range : (Server.start config).state.InRange (front ++ back))
    (drawn : handle.index.toNat < drawnAfter config front handle.connection)
    (gone : ¬ (after config front).IsLive handle) :
    ¬ (after config (front ++ back)).IsLive handle := by
  induction back using List.reverseRecOn with
  | nil => rwa [List.append_nil]
  | append_singleton back entry ih =>
    rw [← List.append_assoc] at range ⊢
    intro live
    rw [after_concat] at live
    rcases (ready_after range).isLive_source live with before | index
    · exact ih range.of_append before
    · have more := drawnAfter_le config front back handle.connection
      omega

/-- The number of a connection that is gone is never given to another one. -/
theorem not_isConnected_of_gone {front back : Script} {id : ConnectionId}
    (range : (Server.start config).state.InRange (front ++ back))
    (accepted : id.number.toNat < front.accepted)
    (gone : id ∉ (after config front).connections.keys) :
    id ∉ (after config (front ++ back)).connections.keys := by
  induction back using List.reverseRecOn with
  | nil => rwa [List.append_nil]
  | append_singleton back entry ih =>
    rw [← List.append_assoc] at range ⊢
    intro listed
    rw [after_concat] at listed
    obtain ⟨new, live⟩ := Arena.get?_of_mem_keys listed
    have ready := ready_after range
    rcases ready.connection? ready.room live with ⟨_, _, _, number⟩ | ⟨old, found, _⟩
    · rw [accepted_append] at number
      omega
    · exact ih range.of_append (Arena.mem_keys_of_get? found)

end Runs

end DisplayServer.Server
