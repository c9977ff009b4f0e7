import DisplayServer.Operation
import DisplayServer.Proofs.Pools
import DisplayServer.Proofs.Windows

/-! # What an operation does to a connection

An operation works on one connection at a time, and puts it back. `Connection.Change` lists all that
can become of a connection by one operation, with the conditions under which it does; whatever an
operation may not do to a connection is proved by going through this list. `Server.next` only makes
changes of the list (`Server.connection?_next`), apart from accepting and dropping connections.
-/

namespace DisplayServer

/-- The requests that ask something of a surface and touch no buffer. -/
inductive Surface.Request : Operation → SurfaceId → Surface → Surface → Prop where
  | offset {id : SurfaceId} {surface : Surface} (offset : Point) :
      Request (.setOffset id offset) id surface (surface.setOffset offset)
  | damage {id : SurfaceId} {surface : Surface} (damage : Damage) :
      Request (.addDamage id damage) id surface (surface.addDamage damage)
  | scale {id : SurfaceId} {surface : Surface} {scale : Int32} (valid : 1 ≤ scale.toInt) :
      Request (.setScale id scale) id surface (surface.setScale scale)
  | transform {id : SurfaceId} {surface : Surface} (transform : Transform) :
      Request (.setTransform id transform) id surface (surface.setTransform transform)
  | role {id : SurfaceId} {surface changed : Surface} {role : Role}
      (taken : surface.assumeRole role = .ok changed) :
      Request (.giveRole id role) id surface changed

/-- The operations that read the contents of a buffer. A commit reads the buffer that a surface
newly shows. -/
inductive Operation.Reads : Operation → BufferId → Prop where
  | whole {id : BufferId} : Reads (.readBuffer id) id
  | some {id : BufferId} {positions : List Nat} : Reads (.peekBuffer id positions) id
  | copy {id : BufferId} : Reads (.snapshot id) id
  | shown {surface : SurfaceId} {id : BufferId} : Reads (.commit surface) id

/-- The client that an operation is addressed to, by name or by the handle that the operation is
about. What a request attaches to a surface is no address. -/
def Operation.addressee? : Operation → Option ConnectionId
  | disconnect connection | takeEvents connection | bind connection _ _ | createPool connection _ _
  | createSurface connection _ => some connection
  | unbind binding => some binding.connection
  | resizePool pool _ | createBuffer pool _ | destroyPool pool => some pool.connection
  | destroyBuffer buffer | readBuffer buffer | peekBuffer buffer _ | snapshot buffer =>
    some buffer.connection
  | attach surface _ _ | setOffset surface _ | addDamage surface _ | setScale surface _
  | setTransform surface _ | frame surface | commit surface | present surface _ | giveRole surface _
  | destroySurface surface | getWindowSurface surface => some surface.connection
  | getToplevel window | ackConfigure window _ | setWindowGeometry window _
  | destroyWindowSurface window => some window.connection
  | sendConfigure toplevel _ | setTitle toplevel _ | setAppId toplevel _
  | destroyToplevel toplevel => some toplevel.connection
  | connect | drainEvents | presentAll _ | subscribeMetadata | subscribeBroadcast | unsubscribe _
  | receiveMetadata _ | receiveBroadcast _ | nextMetadata _ | nextSnapshot _ => none

namespace Connection

/-- What a failed read leaves behind: the client is told, and after a fault the memory is zeros. -/
inductive ReadFailure (client : Connection) (id : BufferId) : Connection → Prop where
  | refused : ReadFailure client id (client.emit [.bufferAccessFailed id])
  | faulted {buffer : Buffer} {mapping : Mapping}
      (found : client.memoryOf? id = some (buffer, mapping)) :
      ReadFailure client id
        ((client.setMapping buffer.pool mapping.nullify).emit [.bufferAccessFailed id])

/-- **The changes of a connection.** What can become of a connection by one operation of a
server. -/
inductive Change (server : Server) (host : Host) : Operation → Connection → Connection → Prop where
  /-- The operation failed, or is about something else. -/
  | same {operation : Operation} {client : Connection} : Change server host operation client client
  | takeEvents {operation : Operation} {client : Connection}
      (taken : operation = .drainEvents ∨ ∃ id, operation = .takeEvents id) :
      Change server host operation client { client with events := [] }
  | bind {client : Connection} {connection : ConnectionId} {name : String} {version : UInt32}
      {capability : Capability} (known : Capability.ofName? name = some capability) :
      Change server host (.bind connection name version) client
        (client.bind capability.kind version server.formats).2
  | unbind {client : Connection} {id : BindingId} :
      Change server host (.unbind id) client (client.unbind id)
  | createPool {client : Connection} {connection : ConnectionId} {file : FileId}
      {mode : AccessMode} {size : Int32} {mapping : Mapping} (positive : 0 < size.toInt)
      (mapped : Mapping.establish? host.files file mode size.toInt.toNat = some mapping) :
      Change server host (.createPool connection (.regular file mode) size) client
        (client.addPool mapping).2
  | resizePool {client : Connection} {id : PoolId} {size : Int32} {pool : Pool} {mapping : Mapping}
      (found : client.pools.get? id = some pool) (grows : (pool.length : Int) < size.toInt)
      (mapped : Mapping.establish? host.files pool.mapping.file .readWrite size.toInt.toNat =
        some mapping) :
      Change server host (.resizePool id size) client (client.setMapping id mapping)
  | createBuffer {client : Connection} {pool : PoolId} {geometry : BufferGeometry} {owner : Pool}
      (found : client.pools.get? pool = some owner)
      (fits : geometry.check owner.length server.formats = .ok ()) :
      Change server host (.createBuffer pool geometry) client (client.addBuffer pool geometry).2
  | destroyPool {client : Connection} {id : PoolId} :
      Change server host (.destroyPool id) client (client.destroyPool id)
  | destroyBuffer {client : Connection} {id : BufferId} :
      Change server host (.destroyBuffer id) client (client.destroyBuffer id)
  | failRead {operation : Operation} {client failed : Connection} {id : BufferId}
      (reads : operation.Reads id) (failure : client.ReadFailure id failed) :
      Change server host operation client failed
  | createSurface {client : Connection} {connection : ConnectionId} {version : UInt32} :
      Change server host (.createSurface connection version) client (client.addSurface version).2
  | attach {client : Connection} {id : SurfaceId} {attachment : Attachment} {offset : Point}
      {surface : Surface} (found : client.surfaces.get? id = some surface)
      (allowed : client.mayAttach id attachment = true)
      (carried : surface.attachesWithOffset = true ∨ offset = .zero) :
      Change server host (.attach id attachment offset) client
        (((client.withdraw surface.pending.attachment).claim attachment).modifySurface id
          fun surface => surface.attach attachment offset)
  | request {operation : Operation} {client : Connection} {id : SurfaceId}
      {surface changed : Surface} (found : client.surfaces.get? id = some surface)
      (request : surface.Request operation id changed) :
      Change server host operation client (client.modifySurface id fun _ => changed)
  | frame {client : Connection} {id : SurfaceId} :
      Change server host (.frame id) client (client.addCallback id).2
  | commit {client : Connection} {id : SurfaceId} {commit : Commit}
      (done : client.commit? id = some commit) :
      Change server host (.commit id) client commit.client
  /-- The contents of the newly shown buffer could not be copied. -/
  | commitUnread {client failed : Connection} {id : SurfaceId} {commit : Commit}
      {buffer : BufferId} (done : client.commit? id = some commit)
      (published : commit.published = some buffer)
      (failure : commit.client.ReadFailure buffer failed) :
      Change server host (.commit id) client failed
  | present {client presented : Connection} {id : SurfaceId} {time : UInt32}
      (done : client.present? id time = some presented) :
      Change server host (.present id time) client presented
  | presentAll {client : Connection} {time : UInt32} :
      Change server host (.presentAll time) client (client.presentAll time)
  | destroySurface {client left : Connection} {id : SurfaceId} {callbacks : List CallbackId}
      (done : client.destroySurface? id = some (callbacks, left)) :
      Change server host (.destroySurface id) client left
  | getWindowSurface {client : Connection} {id : SurfaceId} {grant : WindowGrant}
      (done : client.getWindowSurface id = .ok grant) :
      Change server host (.getWindowSurface id) client grant.client
  | getToplevel {client opened : Connection} {id : WindowSurfaceId} {toplevel : ToplevelId}
      (done : client.getToplevel id server.config.defaultWindowSize = .ok (toplevel, opened)) :
      Change server host (.getToplevel id) client opened
  | sendConfigure {client configured : Connection} {id : ToplevelId} {size : Size}
      {serial : Serial} (done : client.configure id size = .ok (serial, configured)) :
      Change server host (.sendConfigure id size) client configured
  | missConfigure {client : Connection} {id : ToplevelId} {size : Size} {cause : WindowError}
      (missed : client.configure id size = .error cause) :
      Change server host (.sendConfigure id size) client
        (client.modifyToplevel id fun toplevel => { toplevel with size })
  | ackConfigure {client : Connection} {id : WindowSurfaceId} {serial : Serial} :
      Change server host (.ackConfigure id serial) client
        (client.modifyWindow id fun window => window.acknowledge serial)
  | setWindowGeometry {client : Connection} {id : WindowSurfaceId} {rect : Rectangle}
      {window : WindowSurface} (found : client.windowSurfaces.get? id = some window)
      (positive : rect.size.isPositive = true) :
      Change server host (.setWindowGeometry id rect) client
        (client.modifyWindow id fun _ => { window with geometry := some rect })
  | setTitle {client : Connection} {id : ToplevelId} {title : String} :
      Change server host (.setTitle id title) client
        (client.modifyToplevel id fun toplevel => { toplevel with title := some title })
  | setAppId {client : Connection} {id : ToplevelId} {appId : String} :
      Change server host (.setAppId id appId) client
        (client.modifyToplevel id fun toplevel => { toplevel with appId := some appId })
  | destroyWindowSurface {client left : Connection} {id : WindowSurfaceId}
      (done : client.destroyWindowSurface? id = some left) :
      Change server host (.destroyWindowSurface id) client left
  | destroyToplevel {client left : Connection} {id : ToplevelId}
      (done : client.destroyToplevel? id = some left) :
      Change server host (.destroyToplevel id) client left

variable {server : Server} {host : Host} {operation : Operation} {old new : Connection}

/-- A read that fails leaves everything alone but memory and events. -/
theorem ReadFailure.frame {id : BufferId} (failure : old.ReadFailure id new) :
    new = { old with pools := new.pools, events := new.events } := by
  cases failure <;> rfl

/-- A connection keeps its name. -/
theorem Change.id_eq (change : Change server host operation old new) : new.id = old.id := by
  cases change with
  | same | takeEvents _ | unbind | createPool _ _ | resizePool _ _ _ | createBuffer _ _ => rfl
  | createSurface | request _ _ | presentAll | ackConfigure | setWindowGeometry _ _ => rfl
  | missConfigure _ | setTitle | setAppId => rfl
  | @bind _ _ _ _ capability _ =>
    cases kind : capability.kind <;> simp [Connection.bind, draw, emit]
  | destroyPool => rw [destroyPool_frame]
  | destroyBuffer => rw [destroyBuffer_eq]
  | failRead _ failure => rw [failure.frame]
  | attach _ _ _ =>
    unfold modifySurface
    rw [claim_frame, withdraw_frame]
  | frame =>
    simp only [addCallback, draw]
    split <;> rfl
  | commit done => rw [commit?_frame done]
  | commitUnread done _ failure => rw [failure.frame, commit?_frame done]
  | present done =>
    obtain ⟨_, _, rfl⟩ := present?_eq_some done
    rfl
  | destroySurface done =>
    obtain ⟨surface, found⟩ := surface_of_destroySurface? done
    rw [destroySurface?_eq found done]
  | getWindowSurface done =>
    obtain ⟨_, _, _, _, ⟨_, _, rfl⟩ | ⟨_, rfl⟩⟩ := getWindowSurface_eq_ok done <;> rfl
  | getToplevel done =>
    obtain ⟨_, _, _, _, rfl⟩ := getToplevel_eq_ok done
    rfl
  | sendConfigure done =>
    obtain ⟨_, _, _, _, _, rfl⟩ := configure_eq_ok done
    rfl
  | destroyWindowSurface done =>
    obtain ⟨_, _, rfl⟩ := destroyWindowSurface?_eq_some done
    rfl
  | destroyToplevel done =>
    obtain ⟨_, _, rfl⟩ := destroyToplevel?_eq_some done
    rfl

end Connection

namespace Server

/-- Every connection is live under its own name. -/
def Named (server : Server) : Prop :=
  ∀ id client, server.connection? id = some client → client.id = id

/-- An operation leaves `after` behind: it accepts and drops nobody, and makes a change of each
connection, or of that of its addressee alone. A commit reads what it publishes besides, wherever
that lies. -/
structure Effect (server : Server) (host : Host) (operation : Operation) (after : Server) :
    Prop where
  config : after.config = server.config
  formats : after.formats = server.formats
  nextConnection : after.nextConnection = server.nextConnection
  keys : after.connections.keys = server.connections.keys
  change : ∀ id old, server.connection? id = some old →
    ∃ new, after.connection? id = some new ∧ Connection.Change server host operation old new
  elsewhere : (∀ surface, operation ≠ .commit surface) → ∀ owner,
    operation.addressee? = some owner → ∀ id, id ≠ owner →
    after.connection? id = server.connection? id

section Effect

variable {server after : Server} {host : Host} {operation : Operation}

/-- What is put back is found under its own name, if there was a connection. -/
theorem connection?_putBack (server : Server) (client : Connection) (id : ConnectionId) :
    (server.putBack client).connection? id =
      if id = client.id then (server.connection? id).map fun _ => client
      else server.connection? id :=
  Arena.get?_modify ..

/-- A connection that is live afterwards was live before. -/
theorem Effect.source (effect : Effect server host operation after) {id : ConnectionId}
    {new : Connection} (live : after.connection? id = some new) :
    ∃ old, server.connection? id = some old ∧
      Connection.Change server host operation old new := by
  have listed : id ∈ server.connections.keys := effect.keys ▸ Arena.mem_keys_of_get? live
  obtain ⟨old, found⟩ := Arena.get?_of_mem_keys listed
  obtain ⟨other, reached, change⟩ := effect.change id old found
  rw [live, Option.some.injEq] at reached
  exact ⟨old, found, reached ▸ change⟩

/-- Connections stay live under their own names. -/
theorem Effect.named (effect : Effect server host operation after) (named : server.Named) :
    after.Named := by
  intro id new live
  obtain ⟨old, found, change⟩ := effect.source live
  rw [change.id_eq, named id old found]

/-- To do nothing is an effect of every operation. -/
theorem Effect.refl (server : Server) : Effect server host operation server where
  config := rfl
  formats := rfl
  nextConnection := rfl
  keys := rfl
  change _ old live := ⟨old, live, .same⟩
  elsewhere _ _ _ _ _ := rfl

/-- Who subscribed, and the view, are no part of an effect. -/
theorem Effect.publisher (effect : Effect server host operation after) (publisher : Publisher) :
    Effect server host operation { after with publisher } where
  config := effect.config
  formats := effect.formats
  nextConnection := effect.nextConnection
  keys := effect.keys
  change := effect.change
  elsewhere := effect.elsewhere

/-- To change the connection of the addressee is an effect. -/
theorem Effect.putBack (named : server.Named) {id : ConnectionId} {client new : Connection}
    (live : server.connection? id = some client) (addressed : operation.addressee? = some id)
    (change : Connection.Change server host operation client new) :
    Effect server host operation (server.putBack new) where
  config := rfl
  formats := rfl
  nextConnection := rfl
  keys := Arena.keys_modify ..
  change other old found := by
    rw [connection?_putBack]
    by_cases same : other = id
    · subst same
      rw [found, Option.some.injEq] at live
      subst live
      exact ⟨new, by rw [change.id_eq, named other old found, if_pos rfl, found]; rfl, change⟩
    · have apart : other ≠ new.id := by rwa [change.id_eq, named id client live]
      exact ⟨old, by rw [if_neg apart, found], .same⟩
  elsewhere _ owner owned other apart := by
    cases addressed.symm.trans owned
    rw [connection?_putBack, change.id_eq, named id client live, if_neg apart]

/-- An attempt on a connection has the effect of its change, or none. -/
theorem Effect.onConnection {α ε : Type} (named : server.Named) (id : ConnectionId)
    (addressed : operation.addressee? = some id) (dead : ε) (log : List LogMessage)
    (work : Connection → Except ε (α × Connection))
    (makes : ∀ client answer new, work client = .ok (answer, new) →
      Connection.Change server host operation client new) :
    Effect server host operation
      (Outcome.ofAttempt server log (server.onConnection id dead work)).state := by
  unfold Server.onConnection
  cases live : server.connection? id with
  | none => exact .refl server
  | some client =>
    simp only
    cases done : work client with
    | error cause => exact .refl server
    | ok result =>
      obtain ⟨answer, new⟩ := result
      exact .putBack named live addressed (makes client answer new done)

/-- A request to a surface has the effect of what it makes of the surface, or none. -/
theorem Effect.onSurface (named : server.Named) (id : SurfaceId)
    (addressed : operation.addressee? = some id.connection)
    (change : Surface → Except SurfaceError Surface)
    (requests : ∀ surface changed, change surface = .ok changed →
      surface.Request operation id changed) :
    Effect server host operation (server.onSurface id change).state := by
  refine .onConnection named _ addressed _ _ _ fun client _ new done => ?_
  unfold Connection.request at done
  cases found : client.surfaces.get? id with
  | none =>
    simp only [found] at done
    cases done
  | some surface =>
    simp only [found] at done
    cases asked : change surface with
    | error cause =>
      simp only [asked] at done
      cases done
    | ok changed =>
      simp only [asked] at done
      cases done
      exact .request found (requests surface changed asked)

private theorem Effect.onToplevel (named : server.Named) (id : ToplevelId)
    (addressed : operation.addressee? = some id.connection) (change : Toplevel → Toplevel)
    (makes : ∀ client, Connection.Change server host operation client
      (client.modifyToplevel id change)) :
    Effect server host operation (server.onToplevel id change).state := by
  refine .onConnection named _ addressed _ _ _ fun client _ new done => ?_
  cases found : client.toplevels.get? id with
  | none => simp [found] at done
  | some toplevel =>
    simp only [found, Except.ok.injEq, Prod.mk.injEq, true_and] at done
    rw [← done]
    exact makes client

/-- A read that fails is put down to the connection of the buffer. -/
theorem state_withContents {α : Type} (server : Server) (host : Host) (id : BufferId)
    (reading : Reading) (read : BufferGeometry → Span → α) :
    (server.withContents host id reading read).state = server ∨
      ∃ client failed, server.connection? id.connection = some client ∧
        client.ReadFailure id failed ∧
        (server.withContents host id reading read).state = server.putBack failed := by
  unfold withContents
  cases live : server.connection? id.connection with
  | none => exact .inl rfl
  | some client =>
    simp only
    cases found : client.memoryOf? id with
    | none => exact .inl rfl
    | some memory =>
      simp only
      split
      · exact .inr ⟨client, _, rfl, .refused, rfl⟩
      · split
        · exact .inr ⟨client, _, rfl, .refused, rfl⟩
        · split
          · exact .inr ⟨client, _, rfl, .faulted found, rfl⟩
          · exact .inl rfl

/-- A read has the effect of its failure, or none. -/
theorem Effect.withContents {α : Type} (named : server.Named) {id : BufferId}
    (addressed : operation.addressee? = some id.connection) (reads : operation.Reads id)
    (reading : Reading) (read : BufferGeometry → Span → α) :
    Effect server host operation (server.withContents host id reading read).state := by
  rcases state_withContents server host id reading read with same | ⟨_, _, live, failure, same⟩
  · rw [same]
    exact .refl server
  · rw [same]
    exact .putBack named live addressed (.failRead reads failure)

/-- Publishing a buffer changes what is published, and may fail to read the buffer. -/
theorem state_publish (server : Server) (host : Host) (surface : SurfaceId) (id : BufferId) :
    (∃ publisher, (server.publish host surface id).state = { server with publisher }) ∨
      ∃ client failed publisher, server.connection? id.connection = some client ∧
        client.ReadFailure id failed ∧
        (server.publish host surface id).state = { server.putBack failed with publisher } := by
  unfold publish
  cases server.metadata? surface id with
  | none => exact .inl ⟨server.publisher, rfl⟩
  | some metadata =>
    simp only [publishContents]
    split
    · have read := state_withContents
        { server with publisher := server.publisher.publishMetadata metadata } host id .whole
        fun geometry contents => Snapshot.ofContents geometry contents.bytes
      unfold snapshot
      split <;> rcases read with same | ⟨client, failed, live, failure, same⟩
      · exact .inl ⟨_, same⟩
      · exact .inr ⟨client, failed, _, live, failure, same⟩
      · exact .inl ⟨_, by rw [same]⟩
      · exact .inr ⟨client, failed, _, live, failure, by rw [same]; rfl⟩
    · exact .inl ⟨_, rfl⟩

/-- What a commit leaves: the connection that it changed is put back, and if it publishes a buffer
that cannot be read, so is the one whose read failed. -/
theorem state_commit (host : Host) {id : SurfaceId} {client : Connection}
    {commit : Connection.Commit} (live : server.connection? id.connection = some client)
    (done : client.commit? id = some commit) :
    (∃ publisher, (server.commit host id).state = { server.putBack commit.client with publisher }) ∨
      ∃ buffer reader failed publisher, commit.published = some buffer ∧
        (server.putBack commit.client).connection? buffer.connection = some reader ∧
        reader.ReadFailure buffer failed ∧
        (server.commit host id).state =
          { (server.putBack commit.client).putBack failed with publisher } := by
  simp only [Server.commit, live, done]
  cases published : commit.published with
  | none => exact .inl ⟨server.publisher, rfl⟩
  | some buffer =>
    rcases state_publish (server.putBack commit.client) host id buffer with
      ⟨publisher, same⟩ | ⟨reader, failed, publisher, found, failure, same⟩
    · exact .inl ⟨publisher, same⟩
    · exact .inr ⟨buffer, reader, failed, publisher, rfl, found, failure, same⟩

/-- A commit on a live surface, and the failure to read what it publishes, show in the connection of
the surface. -/
theorem connection?_next_commit (named : server.Named) (host : Host) {id : SurfaceId}
    {client : Connection} {commit : Connection.Commit}
    (live : server.connection? id.connection = some client)
    (done : client.commit? id = some commit) :
    ∃ new, (server.next host (.commit id)).connection? id.connection = some new ∧
      (new = commit.client ∨
        ∃ buffer, commit.published = some buffer ∧ commit.client.ReadFailure buffer new) := by
  have change : Connection.Change server host (.commit id) client commit.client := .commit done
  have middle := Effect.putBack named live rfl change
  have own : id.connection = commit.client.id := by rw [change.id_eq, named _ client live]
  have put : (server.putBack commit.client).connection? id.connection = some commit.client := by
    rw [connection?_putBack, if_pos own, live]
    rfl
  rcases state_commit host live done with
    ⟨publisher, same⟩ | ⟨buffer, reader, failed, publisher, published, found, failure, same⟩
  · refine ⟨commit.client, ?_, .inl rfl⟩
    change (server.commit host id).state.connection? id.connection = _
    rw [same]
    exact put
  · have kept : failed.id = buffer.connection := by
      rw [failure.frame]
      exact middle.named named _ reader found
    change ∃ new, (server.commit host id).state.connection? id.connection = _ ∧ _
    rw [same]
    change ∃ new, ((server.putBack commit.client).putBack failed).connection? id.connection = _ ∧ _
    rw [connection?_putBack, put, kept]
    by_cases here : id.connection = buffer.connection
    · rw [← here, put, Option.some.injEq] at found
      subst found
      exact ⟨failed, by rw [if_pos here]; rfl, .inr ⟨buffer, published, failure⟩⟩
    · exact ⟨commit.client, by rw [if_neg here], .inl rfl⟩

/-- A commit changes the connection of the surface, and fails to read a buffer of any connection. -/
theorem Effect.commit (named : server.Named) (id : SurfaceId) :
    Effect server host (.commit id) (server.commit host id).state := by
  cases live : server.connection? id.connection with
  | none =>
    simp only [Server.commit, live]
    exact .refl server
  | some client =>
    cases done : client.commit? id with
    | none =>
      simp only [Server.commit, live, done]
      exact .refl server
    | some commit =>
      have middle : Effect server host (.commit id) (server.putBack commit.client) :=
        .putBack named live rfl (.commit done)
      rcases state_commit host live done with
        ⟨publisher, same⟩ | ⟨buffer, reader, failed, publisher, _, found, failure, same⟩
      · rw [same]
        exact middle.publisher publisher
      · have kept : failed.id = buffer.connection := by
          rw [failure.frame]
          exact middle.named named _ reader found
        constructor
        · rw [same]; rfl
        · rw [same]; rfl
        · rw [same]; rfl
        · rw [same]
          exact (Arena.keys_modify ..).trans middle.keys
        · intro other old present
          by_cases here : other = id.connection
          · subst here
            rw [live, Option.some.injEq] at present
            subst present
            obtain ⟨new, reached, rfl | ⟨shown, published, unread⟩⟩ :=
              connection?_next_commit named host live done
            · exact ⟨_, reached, .commit done⟩
            · exact ⟨new, reached, .commitUnread done published unread⟩
          · have untouched : (server.putBack commit.client).connection? other = some old := by
              rw [connection?_putBack, if_neg, present]
              rw [Connection.commit?_frame done]
              exact (named _ client live).symm ▸ here
            rw [same]
            change ∃ new, ((server.putBack commit.client).putBack failed).connection? other = _ ∧ _
            rw [connection?_putBack, untouched, kept]
            by_cases read : other = buffer.connection
            · subst read
              rw [untouched, Option.some.injEq] at found
              subst found
              exact ⟨failed, by rw [if_pos rfl]; rfl, .failRead .shown failure⟩
            · exact ⟨old, by rw [if_neg read], .same⟩
        · exact fun other => (other id rfl).elim

/-- A change of every connection is the effect of what is addressed to all. -/
theorem Effect.mapValues {change : Connection → Connection} (toAll : operation.addressee? = none)
    (makes : ∀ client, Connection.Change server host operation client (change client)) :
    Effect server host operation
      { server with
        connections := server.connections.mapValues fun _ client => change client } where
  config := rfl
  formats := rfl
  nextConnection := rfl
  keys := Arena.keys_mapValues ..
  change id old live := ⟨change old, by
    simp only [connection?, Arena.get?_mapValues]
    exact (congrArg (Option.map _) live), makes old⟩
  elsewhere _ _ addressed := by cases toAll.symm.trans addressed

private theorem Effect.takeEvents (named : server.Named) (id : ConnectionId) :
    Effect server host (.takeEvents id) (server.takeEvents id).2 := by
  unfold Server.takeEvents
  cases live : server.connection? id with
  | none => exact .refl server
  | some client => exact .putBack named live rfl (.takeEvents (.inr ⟨id, rfl⟩))

private theorem Effect.bind (named : server.Named) (connection : ConnectionId) (name : String)
    (version : UInt32) :
    Effect server host (.bind connection name version)
      (server.bind connection name version).state := by
  unfold Server.bind
  cases known : Capability.ofName? name with
  | none => exact .refl server
  | some capability =>
    simp only
    split
    · exact .refl server
    · apply Effect.onConnection named connection rfl
      intro client answer new done
      rw [Except.ok.injEq] at done
      obtain rfl : _ = new := congrArg Prod.snd done
      exact .bind known

private theorem Effect.unbind (named : server.Named) (id : BindingId) :
    Effect server host (.unbind id) (server.unbind id) := by
  unfold Server.unbind
  cases live : server.connection? id.connection with
  | none => exact .refl server
  | some client => exact .putBack named live rfl .unbind

private theorem Effect.createPool (named : server.Named) (connection : ConnectionId)
    (descriptor : Descriptor) (size : Int32) :
    Effect server host (.createPool connection descriptor size)
      (server.createPool host connection descriptor size).state := by
  unfold Server.createPool
  cases live : server.connection? connection with
  | none => exact .refl server
  | some client =>
    cases descriptor with
    | special => exact .refl server
    | regular file mode =>
      simp only
      split
      · exact .refl server
      · rename_i positive
        cases mapped : Mapping.establish? host.files file mode size.toInt.toNat with
        | none => exact .refl server
        | some mapping => exact .putBack named live rfl (.createPool (by omega) mapped)

private theorem Effect.resizePool (named : server.Named) (id : PoolId) (size : Int32) :
    Effect server host (.resizePool id size) (server.resizePool host id size).state := by
  unfold Server.resizePool
  cases live : server.connection? id.connection with
  | none => exact .refl server
  | some client =>
    simp only
    cases found : client.pools.get? id with
    | none => exact .refl server
    | some pool =>
      simp only
      split
      · exact .refl server
      · rename_i grows
        cases mapped : Mapping.establish? host.files pool.mapping.file .readWrite
            size.toInt.toNat with
        | none => exact .refl server
        | some mapping => exact .putBack named live rfl (.resizePool found (by omega) mapped)

private theorem Effect.createBuffer (named : server.Named) (pool : PoolId)
    (geometry : BufferGeometry) :
    Effect server host (.createBuffer pool geometry) (server.createBuffer pool geometry).state := by
  apply Effect.onConnection named pool.connection rfl
  intro client answer new done
  cases found : client.pools.get? pool with
  | none =>
    simp only [found] at done
    cases done
  | some owner =>
    simp only [found] at done
    cases checked : geometry.check owner.length server.formats with
    | error cause =>
      simp only [checked] at done
      cases done
    | ok fits =>
      simp only [checked] at done
      cases done
      exact .createBuffer found checked

private theorem Effect.destroyPool (named : server.Named) (id : PoolId) :
    Effect server host (.destroyPool id) (server.destroyPool id).state := by
  unfold Server.destroyPool
  cases live : server.connection? id.connection with
  | none => exact .refl server
  | some client =>
    simp only
    split
    · exact .putBack named live rfl .destroyPool
    · exact .refl server

private theorem Effect.destroyBuffer (named : server.Named) (id : BufferId) :
    Effect server host (.destroyBuffer id) (server.destroyBuffer id) := by
  unfold Server.destroyBuffer
  cases live : server.connection? id.connection with
  | none => exact .refl server
  | some client => exact .putBack named live rfl .destroyBuffer

private theorem Effect.createSurface (named : server.Named) (connection : ConnectionId)
    (version : UInt32) :
    Effect server host (.createSurface connection version)
      (server.createSurface connection version).state := by
  apply Effect.onConnection named connection rfl
  intro client answer new done
  rw [Except.ok.injEq] at done
  obtain rfl : _ = new := congrArg Prod.snd done
  exact .createSurface

private theorem Effect.attach (named : server.Named) (id : SurfaceId) (attachment : Attachment)
    (offset : Point) :
    Effect server host (.attach id attachment offset)
      (server.attach id attachment offset).state := by
  apply Effect.onConnection named id.connection rfl
  intro client answer new done
  cases attached : client.attach id attachment offset with
  | error cause =>
    simp only [attached] at done
    cases done
  | ok after =>
    simp only [attached] at done
    cases done
    obtain ⟨surface, found, allowed, carried, rfl⟩ := Connection.attach_eq_ok attached
    exact .attach found allowed carried

private theorem Effect.setScale (named : server.Named) (id : SurfaceId) (scale : Int32) :
    Effect server host (.setScale id scale) (server.setScale id scale).state := by
  apply Effect.onSurface named id rfl
  intro surface changed asked
  split at asked
  · cases asked
  · cases asked
    exact .scale (by omega)

private theorem Effect.frame (named : server.Named) (id : SurfaceId) :
    Effect server host (.frame id) (server.frame id).state := by
  unfold Server.frame
  cases live : server.connection? id.connection with
  | none => exact .refl server
  | some client => exact .putBack named live rfl .frame

private theorem Effect.present (named : server.Named) (id : SurfaceId) (time : UInt32) :
    Effect server host (.present id time) (server.present id time).state := by
  apply Effect.onConnection named id.connection rfl
  intro client answer new done
  cases shown : client.present? id time with
  | none =>
    simp only [shown] at done
    cases done
  | some presented =>
    simp only [shown] at done
    cases done
    exact .present shown

private theorem Effect.destroySurface (named : server.Named) (id : SurfaceId) :
    Effect server host (.destroySurface id) (server.destroySurface id).state := by
  unfold Server.destroySurface
  cases live : server.connection? id.connection with
  | none => exact .refl server
  | some client =>
    simp only
    cases done : client.destroySurface? id with
    | none => exact .refl server
    | some result =>
      obtain ⟨callbacks, left⟩ := result
      exact (Effect.putBack named live rfl (.destroySurface done)).publisher _

private theorem Effect.getWindowSurface (named : server.Named) (id : SurfaceId) :
    Effect server host (.getWindowSurface id) (server.getWindowSurface id).state := by
  unfold Server.getWindowSurface
  cases live : server.connection? id.connection with
  | none => exact .refl server
  | some client =>
    simp only
    cases done : client.getWindowSurface id with
    | error cause => exact .refl server
    | ok grant => exact .putBack named live rfl (.getWindowSurface done)

private theorem Effect.ackConfigure (named : server.Named) (id : WindowSurfaceId)
    (serial : Serial) :
    Effect server host (.ackConfigure id serial) (server.ackConfigure id serial).state := by
  unfold Server.ackConfigure
  cases live : server.connection? id.connection with
  | none => exact .refl server
  | some client =>
    simp only
    cases found : client.windowSurfaces.get? id with
    | none => exact .refl server
    | some window => exact .putBack named live rfl .ackConfigure

private theorem Effect.sendConfigure (named : server.Named) (id : ToplevelId) (size : Size) :
    Effect server host (.sendConfigure id size) (server.sendConfigure id size).state := by
  unfold Server.sendConfigure
  cases live : server.connection? id.connection with
  | none => exact .refl server
  | some client =>
    simp only [Connection.suggest]
    cases done : client.configure id size with
    | error cause => exact .putBack named live rfl (.missConfigure done)
    | ok answer => exact .putBack named live rfl (.sendConfigure done)

private theorem Effect.setWindowGeometry (named : server.Named) (id : WindowSurfaceId)
    (rect : Rectangle) :
    Effect server host (.setWindowGeometry id rect) (server.setWindowGeometry id rect).state := by
  apply Effect.onConnection named id.connection rfl
  intro client answer new done
  cases found : client.windowSurfaces.get? id with
  | none =>
    simp only [found] at done
    cases done
  | some window =>
    simp only [found] at done
    by_cases positive : rect.size.isPositive = true
    · simp only [positive, if_true] at done
      cases done
      exact .setWindowGeometry found positive
    · simp only [positive] at done
      cases done

private theorem Effect.destroyWindowSurface (named : server.Named) (id : WindowSurfaceId) :
    Effect server host (.destroyWindowSurface id) (server.destroyWindowSurface id).state := by
  unfold Server.destroyWindowSurface
  cases live : server.connection? id.connection with
  | none => exact .refl server
  | some client =>
    simp only
    cases done : client.destroyWindowSurface? id with
    | none => exact .refl server
    | some left => exact .putBack named live rfl (.destroyWindowSurface done)

private theorem Effect.destroyToplevel (named : server.Named) (id : ToplevelId) :
    Effect server host (.destroyToplevel id) (server.destroyToplevel id).state := by
  unfold Server.destroyToplevel
  cases live : server.connection? id.connection with
  | none => exact .refl server
  | some client =>
    simp only
    cases done : client.destroyToplevel? id with
    | none => exact .refl server
    | some left => exact .putBack named live rfl (.destroyToplevel done)

/-- **One operation, connection by connection.** Apart from accepting and dropping clients, an
operation makes a change of each connection. -/
theorem effect_next (named : server.Named) (host : Host) (operation : Operation)
    (notConnect : operation ≠ .connect) (notDisconnect : ∀ id, operation ≠ .disconnect id) :
    Effect server host operation (server.next host operation) := by
  cases operation with
  | connect => exact (notConnect rfl).elim
  | disconnect id => exact (notDisconnect id rfl).elim
  | takeEvents id => exact .takeEvents named id
  | drainEvents => exact .mapValues rfl fun client => .takeEvents (.inl rfl)
  | bind connection name version => exact .bind named connection name version
  | unbind id => exact .unbind named id
  | createPool connection descriptor size => exact .createPool named connection descriptor size
  | resizePool id size => exact .resizePool named id size
  | createBuffer pool geometry => exact .createBuffer named pool geometry
  | destroyPool id => exact .destroyPool named id
  | destroyBuffer id => exact .destroyBuffer named id
  | readBuffer id => exact .withContents named rfl .whole _ _
  | peekBuffer id positions => exact .withContents named rfl .some _ _
  | snapshot id => exact .withContents named rfl .copy _ _
  | createSurface connection version => exact .createSurface named connection version
  | attach id attachment offset => exact .attach named id attachment offset
  | setOffset id offset =>
    apply Effect.onSurface named id rfl
    intro surface changed asked
    cases asked
    exact .offset offset
  | addDamage id damage =>
    apply Effect.onSurface named id rfl
    intro surface changed asked
    cases asked
    exact .damage damage
  | setScale id scale => exact .setScale named id scale
  | setTransform id transform =>
    apply Effect.onSurface named id rfl
    intro surface changed asked
    cases asked
    exact .transform transform
  | frame id => exact .frame named id
  | commit id => exact .commit named id
  | present id time => exact .present named id time
  | presentAll time => exact .mapValues rfl fun client => .presentAll
  | giveRole id role => exact .onSurface named id rfl _ fun surface changed asked => .role asked
  | destroySurface id => exact .destroySurface named id
  | getWindowSurface id => exact .getWindowSurface named id
  | getToplevel id =>
    exact .onConnection named id.connection rfl _ _ _ fun client answer new done => .getToplevel done
  | sendConfigure id size =>
    exact .sendConfigure named id size
  | ackConfigure id serial => exact .ackConfigure named id serial
  | setWindowGeometry id rect => exact .setWindowGeometry named id rect
  | setTitle id title => exact .onToplevel named id rfl _ fun client => .setTitle
  | setAppId id appId => exact .onToplevel named id rfl _ fun client => .setAppId
  | destroyWindowSurface id => exact .destroyWindowSurface named id
  | destroyToplevel id => exact .destroyToplevel named id
  | subscribeMetadata | subscribeBroadcast | unsubscribe _ => exact (Effect.refl server).publisher _
  | receiveMetadata _ | receiveBroadcast _ | nextMetadata _ | nextSnapshot _ =>
    exact (Effect.refl server).publisher _

/-- A client that is accepted starts with nothing, and everybody else is left alone. -/
theorem connection?_next_connect (server : Server) (host : Host) (id : ConnectionId) :
    (server.next host .connect).connection? id =
      if id = ⟨server.nextConnection⟩ then some { id } else server.connection? id := by
  change (server.connections.insert _ _).get? id = _
  rw [Arena.get?_insert]
  by_cases same : id = ⟨server.nextConnection⟩
  · rw [if_pos same, if_pos same, same]
  · rw [if_neg same, if_neg same]
    rfl

/-- A client that is dropped is gone, and everybody else is left alone. -/
theorem connection?_next_disconnect (server : Server) (host : Host) (gone id : ConnectionId) :
    (server.next host (.disconnect gone)).connection? id =
      if id = gone then none else server.connection? id := by
  change (server.disconnect gone).state.connection? id = _
  unfold disconnect
  cases live : server.connection? gone with
  | none =>
    by_cases same : id = gone
    · rw [if_pos same, same, live]
    · rw [if_neg same]
  | some client => exact Arena.get?_erase ..

/-- Where a live connection comes from: it has just been accepted, or an operation changed it. -/
theorem connection?_next (named : server.Named) {id : ConnectionId} {new : Connection}
    (live : (server.next host operation).connection? id = some new) :
    (operation = .connect ∧ id = ⟨server.nextConnection⟩ ∧ new = { id }) ∨
      ∃ old, server.connection? id = some old ∧
        Connection.Change server host operation old new := by
  cases operation with
  | connect =>
    rw [connection?_next_connect] at live
    split at live
    · rename_i same
      rw [Option.some.injEq] at live
      exact .inl ⟨rfl, same, live.symm⟩
    · exact .inr ⟨new, live, .same⟩
  | disconnect gone =>
    rw [connection?_next_disconnect] at live
    split at live
    · cases live
    · exact .inr ⟨new, live, .same⟩
  | _ =>
    exact .inr ((effect_next named host _ (by simp) (by simp)).source live)

/-- Connections stay live under their own names, whatever is done. -/
theorem named_next (named : server.Named) (host : Host) (operation : Operation) :
    (server.next host operation).Named := by
  intro id new live
  rcases connection?_next named live with ⟨_, _, rfl⟩ | ⟨old, found, change⟩
  · rfl
  · rw [change.id_eq, named id old found]

end Effect

end Server

end DisplayServer
