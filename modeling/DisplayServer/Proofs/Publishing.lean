import DisplayServer.Proofs.Bounds
import DisplayServer.Proofs.Core
import DisplayServer.Proofs.Course

/-! # What an operation publishes

Only a commit publishes, and at most once: it announces the buffer that its surface newly shows, if
that is another one than before, and copies the contents to those who want them
(`Server.publisher_next_commit`). Besides, the destruction of a surface takes its entry out of the
view, and subscribers come, receive and leave.
-/

namespace DisplayServer

namespace Publisher

/-- What a publication makes of a publisher: the metadata go out, and the copy if there is one. -/
def announce (publisher : Publisher) (metadata : Metadata) (copy : Option Snapshot) : Publisher :=
  match copy with
  | none => publisher.publishMetadata metadata
  | some snapshot => ((publisher.publishMetadata metadata).publishSnapshot snapshot).state

/-- What is announced is entered into the view. -/
theorem view_announce (publisher : Publisher) (metadata : Metadata) (copy : Option Snapshot) :
    (publisher.announce metadata copy).view = publisher.view.insert metadata.surface metadata := by
  cases copy <;> rfl

/-- What is announced is sent to those who subscribed to metadata. -/
theorem metadataSubscribers_announce (publisher : Publisher) (metadata : Metadata)
    (copy : Option Snapshot) : (publisher.announce metadata copy).metadataSubscribers =
      Subscription.broadcast none metadata publisher.metadataSubscribers := by
  cases copy <;> rfl

/-- Nobody subscribes by an announcement. -/
theorem nextSubscriber_announce (publisher : Publisher) (metadata : Metadata)
    (copy : Option Snapshot) :
    (publisher.announce metadata copy).nextSubscriber = publisher.nextSubscriber := by
  cases copy <;> rfl

/-- Of the surfaces that are forgotten, none has an entry in the view. -/
theorem foldl_forget (publisher : Publisher) (surfaces : List SurfaceId) (id : SurfaceId) :
    (surfaces.foldl forget publisher).view.get? id =
      if id ∈ surfaces then none else publisher.view.get? id := by
  induction surfaces generalizing publisher with
  | nil => rw [List.foldl_nil, if_neg List.not_mem_nil]
  | cons first rest ih =>
    rw [List.foldl_cons, ih, forget, Arena.get?_erase]
    simp only [List.mem_cons]
    by_cases here : id = first <;> by_cases later : id ∈ rest <;> simp [here, later]

end Publisher

namespace Connection

variable {client : Connection} {id : SurfaceId} {surface : Surface}

/-- A commit publishes the buffer that its surface newly shows. -/
theorem published_commit {commit : Commit} (found : client.surfaces.get? id = some surface)
    (done : client.commit? id = some commit) (buffer : BufferId) :
    commit.published = some buffer ↔
      (client.nextContent surface).buffer = some buffer ∧
        surface.current.buffer ≠ some buffer := by
  simp only [commit?, found, Option.map_some, Option.some.injEq] at done
  subst done
  cases attached : surface.pending.attachment with
  | none =>
    simp only [nextContent, attached, reduceCtorEq, false_iff, not_and]
    exact fun shown apart => apart shown
  | some attachment =>
    rw [nextContent_buffer_eq attached]
    simp only [commitAttachment]
    split
    · rename_i same
      rw [same]
      simp only [reduceCtorEq, false_iff, not_and]
      exact fun shown apart => apart shown
    · rename_i apart
      constructor
      · intro shown
        exact ⟨shown, fun before => apart (before.trans shown.symm)⟩
      · exact fun shown => shown.1

/-- A buffer that a commit publishes is live. -/
theorem contains_of_newlyShown {buffer : BufferId}
    (shown : (client.nextContent surface).buffer = some buffer)
    (apart : surface.current.buffer ≠ some buffer) : client.buffers.contains buffer = true := by
  cases attached : surface.pending.attachment with
  | none =>
    simp only [nextContent, attached] at shown
    exact (apart shown).elim
  | some attachment =>
    rw [nextContent_buffer_eq attached] at shown
    exact contains_of_resolve shown

end Connection

namespace Server

section Owned

variable {server : Server}

/-- Every object is kept by the connection that its handle names. -/
def Owned (server : Server) : Prop :=
  ∀ id client, server.connection? id = some client →
    ∀ kind, ∀ handle ∈ client.handles kind, handle.connection = id

/-- Objects stay on the connections that their handles name. -/
theorem owned_next (named : server.Named) (owned : server.Owned) (host : Host)
    (operation : Operation) : (server.next host operation).Owned := by
  intro id new live kind handle listed
  rcases connection?_next named live with ⟨_, _, rfl⟩ | ⟨old, found, change⟩
  · cases kind <;> cases listed
  · rcases change.handles with drew | ⟨_, drew⟩
    · exact owned id old found kind handle ((drew.2 kind).subset listed)
    · rcases drew.mem_handles listed with earlier | rfl
      · exact owned id old found kind handle earlier
      · exact named id old found

/-- After every script, objects are on the connections that their handles name. -/
theorem owned_after (config : Config) (script : Script) : (after config script).Owned := by
  induction script using List.reverseRecOn with
  | nil =>
    intro id client live
    cases live
  | append_singleton script entry ih =>
    rw [after_concat]
    exact owned_next (named_after config script) ih entry.1 entry.2

end Owned

/-- The memory of a live buffer, with the geometry of the buffer. -/
def memory? (server : Server) (id : BufferId) : Option (BufferGeometry × Mapping) := do
  let (buffer, mapping) ← (← server.connection? id.connection).memoryOf? id
  return (buffer.geometry, mapping)

/-- What a commit of a surface has to announce: the metadata of the buffer that it newly shows. -/
def announced (server : Server) (id : SurfaceId) : Option Metadata := do
  let client ← server.connection? id.connection
  let commit ← client.commit? id
  server.metadata? id (← commit.published)

/-- A copy of the contents of a buffer, if somebody wants one and it can be had. -/
def copy? (server : Server) (host : Host) (id : BufferId) : Option Snapshot :=
  if server.publisher.wantsContents then (server.snapshot host id).answer.toOption else none

/-- The buffer that a surface comes to show: a commit changes its current buffer to another one. -/
def comesToShow (id : SurfaceId) (server : Server) (host : Host) : Operation → List BufferId
  | .commit surface =>
    match server.surface? id, (server.next host (.commit surface)).surface? id with
    | some before, some after =>
      if surface ≠ id ∨ after.current.buffer = before.current.buffer then []
      else after.current.buffer.toList
    | _, _ => []
  | _ => []

/-- The memory of every live buffer is there. -/
def Backed (server : Server) : Prop :=
  ∀ id client, server.connection? id = some client →
    ∀ buffer held, client.buffers.get? buffer = some held →
      ∃ pool, client.pools.get? held.pool = some pool

section Publishing

variable {server : Server} {host : Host} {operation : Operation} {id : SurfaceId}

/-- The metadata of a buffer tells its geometry and the file of its pool. -/
theorem metadata?_eq (server : Server) (surface : SurfaceId) (id : BufferId) :
    server.metadata? surface id = (server.memory? id).map fun memory =>
      { surface, buffer := id, geometry := memory.1, file := memory.2.file } := by
  unfold metadata? memory?
  cases server.connection? id.connection with
  | none => rfl
  | some client =>
    simp only [Option.bind_eq_bind, Option.bind_some]
    cases client.memoryOf? id with
    | none => rfl
    | some memory => rfl

/-- The metadata tell which buffer of which surface they are about. -/
theorem of_metadata? {surface : SurfaceId} {buffer : BufferId} {metadata : Metadata}
    (known : server.metadata? surface buffer = some metadata) :
    metadata.surface = surface ∧ metadata.buffer = buffer := by
  rw [metadata?_eq] at known
  obtain ⟨_, _, rfl⟩ := Option.map_eq_some_iff.mp known
  exact ⟨rfl, rfl⟩

/-- What a reader is given depends on the memory of the buffer alone. -/
theorem answer_withContents_congr {other : Server} {buffer : BufferId}
    (same : server.memory? buffer = other.memory? buffer) {α : Type} (host : Host)
    (reading : Reading) (read : BufferGeometry → Span → α) :
    (server.withContents host buffer reading read).answer =
      (other.withContents host buffer reading read).answer := by
  have answer (server : Server) : (server.withContents host buffer reading read).answer =
      match server.memory? buffer with
      | none => .error .dead
      | some (geometry, mapping) =>
        let start := geometry.offset.toInt.toNat
        if host.isReading then .error .badMapping
        else if mapping.length < start + geometry.size then .error .badMapping
        else if mapping.faults host.files start geometry.size reading then .error .badMapping
        else .ok (read geometry (mapping.span host.files start geometry.size)) := by
    unfold withContents memory?
    cases server.connection? buffer.connection with
    | none => rfl
    | some client =>
      simp only [Option.bind_eq_bind, Option.bind_some]
      cases client.memoryOf? buffer with
      | none => rfl
      | some memory =>
        simp only [Option.bind_some, Option.pure_def, apply_ite Outcome.answer]
        rfl
  rw [answer, answer, same]

/-- A commit leaves the memory of the buffers alone. -/
theorem memory?_putBack_commit (named : server.Named) {client : Connection}
    {commit : Connection.Commit} (live : server.connection? id.connection = some client)
    (done : client.commit? id = some commit) (buffer : BufferId) :
    (server.putBack commit.client).memory? buffer = server.memory? buffer := by
  have kept : commit.client.id = client.id := by rw [Connection.commit?_frame done]
  simp only [memory?, connection?_putBack, kept, named _ client live]
  split
  · rename_i here
    rw [here, live]
    simp only [Option.map_some, Option.bind_eq_bind, Option.bind_some, Connection.memoryOf?]
    have pools : commit.client.pools = client.pools := by rw [Connection.commit?_frame done]
    have keys := Connection.keys_buffers_commit done
    rw [pools]
    cases held : commit.client.buffers.get? buffer with
    | none =>
      have gone : client.buffers.get? buffer = none := by
        cases before : client.buffers.get? buffer with
        | none => rfl
        | some found =>
          obtain ⟨after, live⟩ := Arena.get?_of_mem_keys (keys ▸ Arena.mem_keys_of_get? before)
          cases held.symm.trans live
      rw [gone]
    | some found =>
      obtain ⟨before, held, pool, geometry⟩ := Connection.placed_commit done buffer found held
      rw [held]
      simp only [Option.bind_some, pool]
      cases client.pools.get? before.pool with
      | none => rfl
      | some owner => simp only [Option.bind_some, Option.pure_def, geometry]
  · rfl

/-- A commit does not change what the metadata of a buffer would be. -/
theorem metadata?_putBack_commit (named : server.Named) {client : Connection}
    {commit : Connection.Commit} (live : server.connection? id.connection = some client)
    (done : client.commit? id = some commit) (surface : SurfaceId) (buffer : BufferId) :
    (server.putBack commit.client).metadata? surface buffer = server.metadata? surface buffer := by
  rw [metadata?_eq, metadata?_eq, memory?_putBack_commit named live done buffer]

/-- **What a commit publishes.** -/
theorem publisher_next_commit (named : server.Named) :
    (server.next host (.commit id)).publisher =
      match server.announced id with
      | none => server.publisher
      | some metadata =>
        server.publisher.announce metadata (server.copy? host metadata.buffer) := by
  change (server.commit host id).state.publisher = _
  unfold Server.commit announced
  cases live : server.connection? id.connection with
  | none => rfl
  | some client =>
    simp only [Option.bind_eq_bind, Option.bind_some]
    cases done : client.commit? id with
    | none => rfl
    | some commit =>
      simp only [Option.bind_some]
      cases published : commit.published with
      | none => rfl
      | some buffer =>
        have memory := memory?_putBack_commit named live done buffer
        have known := metadata?_putBack_commit named live done id buffer
        simp only [Option.bind_some, publish, known]
        cases announced : server.metadata? id buffer with
        | none => rfl
        | some metadata =>
          obtain rfl := (of_metadata? announced).2
          let shown : Server := { server.putBack commit.client with
            publisher := server.publisher.publishMetadata metadata }
          have memory : shown.memory? metadata.buffer = server.memory? metadata.buffer := memory
          have copied : (shown.snapshot host metadata.buffer).answer =
              (server.snapshot host metadata.buffer).answer :=
            answer_withContents_congr memory host _ _
          have entered : (shown.snapshot host metadata.buffer).state.publisher =
              shown.publisher := by
            change (shown.next host (.snapshot metadata.buffer)).publisher = _
            exact publisher_next_of_isPrivate rfl
          change (shown.publishContents host metadata.buffer).state.publisher = _
          have wants : shown.publisher.wantsContents = server.publisher.wantsContents := rfl
          simp only [publishContents, copy?, wants, copied, entered]
          cases server.publisher.wantsContents with
          | false => rfl
          | true =>
            simp only [if_true]
            cases (server.snapshot host metadata.buffer).answer with
            | error cause => exact entered
            | ok snapshot => rfl

/-- A commit announces the buffer that its surface shows afterwards and did not show before. -/
theorem announced_eq_some_iff {client : Connection} {surface : Surface}
    (live : server.connection? id.connection = some client)
    (found : client.surfaces.get? id = some surface) (metadata : Metadata) :
    server.announced id = some metadata ↔
      (client.nextContent surface).buffer = some metadata.buffer ∧
        surface.current.buffer ≠ some metadata.buffer ∧
        server.metadata? id metadata.buffer = some metadata := by
  obtain ⟨commit, done⟩ : ∃ commit, client.commit? id = some commit := by
    simp only [Connection.commit?, found, Option.map_some, Option.some.injEq, exists_eq']
  have published := Connection.published_commit found done
  simp only [announced, live, done, Option.bind_eq_bind, Option.bind_some]
  constructor
  · intro announced
    obtain ⟨buffer, shown, known⟩ := Option.bind_eq_some_iff.mp announced
    obtain rfl := (of_metadata? known).2
    obtain ⟨after, before⟩ := (published _).mp shown
    exact ⟨after, before, known⟩
  · rintro ⟨after, before, known⟩
    rw [(published _).mpr ⟨after, before⟩]
    exact known

/-- A commit on a dead surface announces nothing. -/
theorem announced_eq_none (dead : server.surface? id = none) : server.announced id = none := by
  unfold announced
  cases live : server.connection? id.connection with
  | none => rfl
  | some client =>
    have gone : client.surfaces.get? id = none := surface?_of_connection? live ▸ dead
    simp only [Option.bind_eq_bind, Option.bind_some, Connection.commit?, gone, Option.map_none,
      Option.bind_none]

/-- A commit comes to show what it resolves to, unless that was shown before. -/
theorem comesToShow_commit (named : server.Named) {client : Connection} {surface : Surface}
    (live : server.connection? id.connection = some client)
    (found : client.surfaces.get? id = some surface) :
    server.comesToShow id host (.commit id) =
      if (client.nextContent surface).buffer = surface.current.buffer then []
      else (client.nextContent surface).buffer.toList := by
  have before : server.surface? id = some surface := surface?_of_connection? live ▸ found
  obtain ⟨client', live', after⟩ := surface?_next_commit named host before
  cases live.symm.trans live'
  simp only [comesToShow, before, after, not_true_eq_false, ne_eq, false_or]
  rfl

/-- What a surface comes to show is announced, if its memory is there. -/
theorem announced_eq_filter (named : server.Named) :
    (server.announced id).toList.map Metadata.buffer =
      (server.comesToShow id host (.commit id)).filter fun buffer =>
        (server.memory? buffer).isSome := by
  cases before : server.surface? id with
  | none => simp only [announced_eq_none before, comesToShow, before]; rfl
  | some surface =>
    obtain ⟨client, live, found⟩ := surface?_eq_some.mp before
    rw [comesToShow_commit named live found]
    have announces := announced_eq_some_iff live found
    -- The surface keeps its buffer, loses it, or gets one whose memory is gone, or is there.
    have silent (apart : ∀ metadata : Metadata,
        (client.nextContent surface).buffer = some metadata.buffer →
          surface.current.buffer ≠ some metadata.buffer →
          server.metadata? id metadata.buffer ≠ some metadata) : server.announced id = none := by
      rw [Option.eq_none_iff_forall_ne_some]
      intro metadata announced
      obtain ⟨after, before, known⟩ := (announces metadata).mp announced
      exact apart metadata after before known
    split
    · rename_i same
      rw [silent fun metadata after before _ => before (same ▸ after)]
      rfl
    · rename_i apart
      cases shown : (client.nextContent surface).buffer with
      | none =>
        rw [silent fun metadata after _ _ => by cases shown.symm.trans after]
        rfl
      | some buffer =>
        have other : surface.current.buffer ≠ some buffer := fun same =>
          apart (shown.trans same.symm)
        cases held : server.memory? buffer with
        | none =>
          have unknown : server.metadata? id buffer = none := by rw [metadata?_eq, held]; rfl
          rw [silent fun metadata after _ known => by
            cases shown.symm.trans after
            cases unknown.symm.trans known]
          simp only [Option.toList_some, List.filter_cons, held]
          rfl
        | some memory =>
          let metadata : Metadata :=
            { surface := id, buffer, geometry := memory.1, file := memory.2.file }
          have known : server.metadata? id buffer = some metadata := by rw [metadata?_eq, held]; rfl
          rw [(announces metadata).mpr ⟨shown, other, known⟩]
          simp only [Option.toList_some, List.filter_cons, held]
          rfl

/-- The memory of a buffer that a surface comes to show is there. -/
theorem memory_of_comesToShow (named : server.Named) (owned : server.Owned)
    (backed : server.Backed) {buffer : BufferId}
    (shows : buffer ∈ server.comesToShow id host (.commit id)) :
    (server.memory? buffer).isSome := by
  cases before : server.surface? id with
  | none =>
    simp only [comesToShow, before] at shows
    cases shows
  | some surface =>
    obtain ⟨client, live, found⟩ := surface?_eq_some.mp before
    rw [comesToShow_commit named live found] at shows
    split at shows
    · cases shows
    · rename_i apart
      have shown : (client.nextContent surface).buffer = some buffer := Option.mem_toList.mp shows
      have other : surface.current.buffer ≠ some buffer := fun same =>
        apart (shown.trans same.symm)
      obtain ⟨held, alive⟩ :=
        Option.isSome_iff_exists.mp (client.contains_of_newlyShown shown other)
      obtain ⟨pool, backing⟩ := backed _ client live buffer held alive
      have own : buffer.connection = id.connection :=
        owned _ client live .buffer buffer (Arena.mem_keys_of_get? alive)
      simp [memory?, own, live, Connection.memoryOf?, alive, backing]

/-- What a surface comes to show is announced. -/
theorem announced_eq_comesToShow (named : server.Named) (owned : server.Owned)
    (backed : server.Backed) :
    (server.announced id).toList.map Metadata.buffer =
      server.comesToShow id host (.commit id) := by
  rw [announced_eq_filter named]
  exact List.filter_eq_self.mpr fun _ shows => memory_of_comesToShow named owned backed shows

/-- What is announced describes a live buffer. -/
theorem buffer_of_announced {metadata : Metadata}
    (announced : server.announced id = some metadata) :
    ∃ buffer, server.buffer? metadata.buffer = some buffer ∧
      metadata.geometry = buffer.geometry := by
  simp only [Server.announced, Option.bind_eq_bind, Option.bind_eq_some_iff] at announced
  obtain ⟨_, _, _, _, id, _, known⟩ := announced
  simp only [metadata?, Option.bind_eq_bind, Option.bind_eq_some_iff] at known
  obtain ⟨client, live, ⟨buffer, mapping⟩, memory, same⟩ := known
  cases same
  simp only [Connection.memoryOf?, Option.bind_eq_bind, Option.bind_eq_some_iff] at memory
  obtain ⟨held, alive, pool, _, same⟩ := memory
  cases same
  exact ⟨buffer, buffer?_eq_some.mpr ⟨client, live, alive⟩, rfl⟩

/-- A commit announces its own surface. -/
theorem surface_of_announced {metadata : Metadata}
    (announced : server.announced id = some metadata) : metadata.surface = id := by
  simp only [Server.announced, Option.bind_eq_bind, Option.bind_eq_some_iff] at announced
  obtain ⟨_, _, _, _, _, _, known⟩ := announced
  exact (of_metadata? known).1

end Publishing

section View

variable {server : Server} {host : Host} {operation : Operation} {id : SurfaceId}

/-- The entry of a surface in the view. -/
def entryOf? (server : Server) (id : SurfaceId) : Option Metadata :=
  server.publisher.view.get? id

/-- A commit replaces the entry of its surface by what it announces, if anything. -/
theorem entryOf?_next_commit (named : server.Named) (committed : SurfaceId) :
    (server.next host (.commit committed)).entryOf? id =
      if id = committed then (server.announced id).or (server.entryOf? id)
      else server.entryOf? id := by
  rw [entryOf?, publisher_next_commit named]
  cases announced : server.announced committed with
  | none =>
    simp only
    split
    · rename_i same
      rw [same, announced]
      rfl
    · rfl
  | some metadata =>
    simp only
    rw [Publisher.view_announce, Arena.get?_insert, surface_of_announced announced]
    split
    · rename_i same
      rw [same, announced]
      rfl
    · rfl

/-- A surface that is destroyed loses its entry. -/
theorem entryOf?_next_destroySurface (gone : SurfaceId) :
    (server.next host (.destroySurface gone)).entryOf? id =
      if id = gone ∧ (server.surface? id).isSome then none else server.entryOf? id := by
  cases live : server.connection? gone.connection with
  | none =>
    have same : server.next host (.destroySurface gone) = server := by
      simp only [next, step, Outcome.map, Server.destroySurface, live]
    rw [same, if_neg]
    rintro ⟨rfl, alive⟩
    simp [surface?, live] at alive
  | some client =>
    cases done : client.destroySurface? gone with
    | none =>
      have same : server.next host (.destroySurface gone) = server := by
        simp only [next, step, Outcome.map, Server.destroySurface, live, done]
      rw [same, if_neg]
      rintro ⟨rfl, alive⟩
      rw [surface?_of_connection? live] at alive
      simp [Connection.destroySurface?] at done
      simp [done] at alive
    | some result =>
      obtain ⟨callbacks, left⟩ := result
      obtain ⟨surface, found⟩ := Connection.surface_of_destroySurface? done
      have forgotten : (server.next host (.destroySurface gone)).entryOf? id =
          (server.publisher.view.erase gone).get? id := by
        simp only [entryOf?, next, step, Outcome.map, Server.destroySurface, live, done]
        rfl
      rw [forgotten, Arena.get?_erase]
      by_cases same : id = gone
      · subst same
        rw [if_pos rfl, if_pos]
        exact ⟨rfl, by rw [surface?_of_connection? live, found]; rfl⟩
      · rw [if_neg same, if_neg fun both => same both.1]
        rfl

/-- The surfaces of a client that is dropped lose their entries. -/
theorem entryOf?_next_disconnect (owned : server.Owned) (gone : ConnectionId) :
    (server.next host (.disconnect gone)).entryOf? id =
      if id.connection = gone ∧ (server.surface? id).isSome then none else server.entryOf? id := by
  change (server.disconnect gone).state.publisher.view.get? id = _
  unfold disconnect
  cases live : server.connection? gone with
  | none =>
    rw [if_neg]
    · rfl
    · rintro ⟨rfl, alive⟩
      simp [surface?, live] at alive
  | some client =>
    simp only
    rw [Publisher.foldl_forget]
    have listed : id ∈ client.surfaces.keys ↔
        id.connection = gone ∧ (server.surface? id).isSome := by
      constructor
      · intro listed
        have own : id.connection = gone := owned gone client live .surface id listed
        obtain ⟨surface, found⟩ := Arena.get?_of_mem_keys listed
        refine ⟨own, ?_⟩
        rw [surface?_of_connection? (own ▸ live), found]
        rfl
      · rintro ⟨own, alive⟩
        rw [surface?_of_connection? (own ▸ live)] at alive
        exact (Arena.contains_iff_mem_keys ..).mp alive
    simp only [listed]
    rfl

/-- Unless its surface is committed or destroyed, an entry stays. -/
theorem entryOf?_next_of_kept (named : server.Named) (owned : server.Owned)
    (uncommitted : operation ≠ .commit id)
    (kept : server.surface? id = none ∨
      operation ≠ .destroySurface id ∧ operation ≠ .disconnect id.connection) :
    (server.next host operation).entryOf? id = server.entryOf? id := by
  cases operation with
  | commit committed =>
    rw [entryOf?_next_commit named, if_neg]
    rintro rfl
    exact uncommitted rfl
  | destroySurface gone =>
    rw [entryOf?_next_destroySurface, if_neg]
    rintro ⟨rfl, alive⟩
    rcases kept with dead | ⟨apart, _⟩
    · rw [dead] at alive
      cases alive
    · exact apart rfl
  | disconnect gone =>
    rw [entryOf?_next_disconnect owned, if_neg]
    rintro ⟨rfl, alive⟩
    rcases kept with dead | ⟨_, apart⟩
    · rw [dead] at alive
      cases alive
    · exact apart rfl
  | subscribeMetadata | subscribeBroadcast | unsubscribe _ | receiveMetadata _
  | receiveBroadcast _ | nextMetadata _ | nextSnapshot _ => rfl
  | _ => rw [entryOf?, publisher_next_of_isPrivate rfl, entryOf?]

end View

/-- After a script in range, every live buffer has a live pool. -/
theorem backed_after {config : Config} (script : Script)
    (range : (Server.start config).state.InRange script) : (after config script).Backed := by
  intro id client live buffer held alive
  obtain ⟨pool, backing, _⟩ := (bounded_after script range id client live).2 buffer held alive
  exact ⟨pool, backing⟩

end Server

end DisplayServer
