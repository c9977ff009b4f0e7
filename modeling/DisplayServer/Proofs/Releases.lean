import DisplayServer.Proofs.BufferStates

/-! # When buffers are handed back

A client is told that it may reuse a buffer by an event. Only the commit that ends the last claim of
a surface that shows the buffer queues one, and it queues exactly one. Before the next one some
commit has to show the buffer again.
-/

namespace DisplayServer

namespace Connection

/-- The events that were queued. Taking the events of a connection queues none. -/
def queuedUntil (old new : Connection) : List Event :=
  new.events.drop old.events.length

/-- Some commit led to this connection. -/
def Committed (old new : Connection) (id : SurfaceId) : Prop :=
  ∃ commit, old.commit? id = some commit ∧
    (new = commit.client ∨ ∃ buffer, commit.client.ReadFailure buffer new)

/-- What an operation does to the events of a connection. -/
inductive Queues (operation : Operation) (old new : Connection) : Prop
  | taken (none : new.events = [])
  /-- What is queued speaks neither of a buffer, handed back or not readable, nor of a frame
  callback. -/
  | others (queued : List Event) (appended : new.events = old.events ++ queued)
      (unreleased : ∀ id, Event.bufferReleased id ∉ queued)
      (unfired : ∀ callback time, Event.frameDone callback time ∉ queued)
      (unblamed : ∀ id, Event.bufferAccessFailed id ∉ queued)
  | failed (id : BufferId) (reads : operation.Reads id)
      (appended : new.events = old.events ++ [.bufferAccessFailed id])
  | committed (id : SurfaceId) (commits : operation = .commit id) (done : old.Committed new id)
  | presented (queued : List Event)
      (presents : (∃ id time, operation = .present id time) ∨ ∃ time, operation = .presentAll time)
      (appended : new.events = old.events ++ queued)
      (fired : ∀ event ∈ queued, ∃ callback time, event = .frameDone callback time)

section Events

variable {server : Server} {host : Host} {operation : Operation} {old new : Connection}

/-- A read that fails is told of, and nothing else is. -/
theorem ReadFailure.events_eq {id : BufferId} (failure : old.ReadFailure id new) :
    new.events = old.events ++ [.bufferAccessFailed id] := by
  cases failure <;> rfl

private theorem Queues.of_eq (same : new.events = old.events) : Queues operation old new :=
  .others [] (same.trans (List.append_nil _).symm) (fun _ => List.not_mem_nil)
    (fun _ _ => List.not_mem_nil) fun _ => List.not_mem_nil

/-- What was appended to a queue is what was queued. -/
theorem queuedUntil_of_append {queued : List Event}
    (appended : new.events = old.events ++ queued) : old.queuedUntil new = queued := by
  rw [queuedUntil, appended, List.drop_left]

/-- **Only commits hand buffers back, and only presentations fire frame callbacks.** -/
theorem Change.queues (change : Change server host operation old new) :
    Queues operation old new := by
  cases change with
  | takeEvents _ => exact .taken rfl
  | same | unbind | createPool _ _ | resizePool _ _ _ | createBuffer _ _ | createSurface
  | request _ _ | ackConfigure | setWindowGeometry _ _ | missConfigure _ | setTitle | setAppId =>
    exact .of_eq rfl
  | @bind _ _ _ _ capability _ =>
    cases kind : capability.kind with
    | sharedMemory => exact .others (server.formats.map _) rfl (by simp) (by simp) (by simp)
    | compositor => exact .of_eq rfl
    | windowShell => exact .of_eq rfl
  | destroyPool => exact .of_eq (by rw [destroyPool_frame])
  | destroyBuffer => exact .of_eq (by rw [destroyBuffer_eq])
  | failRead reads failure => exact .failed _ reads failure.events_eq
  | attach _ _ _ =>
    apply Queues.of_eq
    unfold modifySurface
    rw [claim_frame, withdraw_frame]
  | frame =>
    apply Queues.of_eq
    simp only [addCallback, draw]
    split <;> rfl
  | commit done => exact .committed _ rfl ⟨_, done, .inl rfl⟩
  | commitUnread done _ failure => exact .committed _ rfl ⟨_, done, .inr ⟨_, failure⟩⟩
  | present done =>
    obtain ⟨_, _, rfl⟩ := present?_eq_some done
    exact .presented _ (.inl ⟨_, _, rfl⟩) rfl (by simp)
  | presentAll =>
    refine .presented _ (.inr ⟨_, rfl⟩) rfl fun event queued => ?_
    obtain ⟨surface, _, fired⟩ := List.mem_flatMap.mp queued
    split at fired
    · obtain ⟨callback, _, rfl⟩ := List.mem_map.mp fired
      exact ⟨callback, _, rfl⟩
    · exact (List.not_mem_nil fired).elim
  | destroySurface done =>
    obtain ⟨surface, found⟩ := surface_of_destroySurface? done
    exact .of_eq (by rw [destroySurface?_eq found done])
  | getWindowSurface done =>
    obtain ⟨_, _, _, _, ⟨_, _, rfl⟩ | ⟨_, rfl⟩⟩ := getWindowSurface_eq_ok done <;> exact .of_eq rfl
  | getToplevel done =>
    obtain ⟨_, _, _, _, rfl⟩ := getToplevel_eq_ok done
    exact .others _ rfl (by simp) (by simp) (by simp)
  | sendConfigure done =>
    obtain ⟨_, _, _, _, _, rfl⟩ := configure_eq_ok done
    exact .others _ rfl (by simp) (by simp) (by simp)
  | destroyWindowSurface done =>
    obtain ⟨_, _, rfl⟩ := destroyWindowSurface?_eq_some done
    exact .of_eq rfl
  | destroyToplevel done =>
    obtain ⟨_, _, rfl⟩ := destroyToplevel?_eq_some done
    exact .of_eq rfl

/-- Only a commit of a surface of the client hands a buffer back to it. -/
theorem Queues.unreleased (queues : Queues operation old new) (buffer : BufferId) :
    (old.queuedUntil new).count (.bufferReleased buffer) = 0 ∨
      ∃ id, operation = .commit id ∧ old.Committed new id := by
  rw [List.count_eq_zero]
  cases queues with
  | taken none =>
    rw [queuedUntil, none, List.drop_nil]
    exact .inl List.not_mem_nil
  | others queued appended unreleased _ _ =>
    rw [queuedUntil_of_append appended]
    exact .inl (unreleased buffer)
  | failed id reads appended =>
    rw [queuedUntil_of_append appended]
    exact .inl (by simp)
  | committed id commits done => exact .inr ⟨id, commits, done⟩
  | presented queued _ appended fired =>
    rw [queuedUntil_of_append appended]
    refine .inl fun listed => ?_
    obtain ⟨_, _, same⟩ := fired _ listed
    cases same

/-- A commit hands back the buffer that `Connection.handedBack?` says, once. -/
theorem Committed.count_queued {id : SurfaceId} {surface : Surface}
    (committed : old.Committed new id) (found : old.surfaces.get? id = some surface)
    (buffer : BufferId) :
    (old.queuedUntil new).count (.bufferReleased buffer) =
      if old.handedBack? surface = some buffer then 1 else 0 := by
  obtain ⟨commit, done, how⟩ := committed
  have released : ((old.handedBack? surface).toList.map Event.bufferReleased).count
      (.bufferReleased buffer) = if old.handedBack? surface = some buffer then 1 else 0 := by
    cases old.handedBack? surface with
    | none => rfl
    | some other => by_cases same : other = buffer <;> simp [same]
  have events := events_commit found done
  rcases how with rfl | ⟨unread, failure⟩
  · rw [queuedUntil_of_append events, released]
  · have more := failure.events_eq
    rw [events, List.append_assoc] at more
    rw [queuedUntil_of_append more, List.count_append, released]
    simp

/-- A commit hands back the buffer that its surface was the last to show. -/
theorem handedBack?_iff {client : Connection} {count : Nat} (exact : client.Exact count)
    {id : SurfaceId} {surface : Surface} (found : client.surfaces.get? id = some surface)
    {buffer : BufferId} :
    client.handedBack? surface = some buffer ↔
      surface.current.buffer = some buffer ∧
        (∃ attachment, surface.pending.attachment = some attachment ∧
          client.resolve attachment ≠ some buffer) ∧
        client.buffers.contains buffer = true ∧
        ∀ other held, client.surfaces.get? other = some held → other ≠ id →
          held.current.buffer ≠ some buffer := by
  rw [handedBack?_eq_some]
  refine and_congr_right fun shown => and_congr_right fun _ => ?_
  have distinct : client.claims.keys.Nodup := client.keys_claims ▸ exact.drawn.nodup .surface
  have last : client.showing buffer ≤ 1 ↔ _ :=
    Arena.countP_values_le_one_iff distinct (claims_of_surface found)
      (fun claims => claims.shows buffer) (Surface.Claims.shows_iff.mpr shown)
  have others : (∀ other claims, client.claims.get? other = some claims → other ≠ id →
      ¬ claims.shows buffer = true) ↔
      ∀ other held, client.surfaces.get? other = some held → other ≠ id →
        held.current.buffer ≠ some buffer := by
    constructor
    · exact fun none other held live apart shows =>
        none other _ (claims_of_surface live) apart (Surface.Claims.shows_iff.mpr shows)
    · intro none other claims live apart shows
      rw [get?_claims, Option.map_eq_some_iff] at live
      obtain ⟨held, live, rfl⟩ := live
      exact none other held live apart (Surface.Claims.shows_iff.mp shows)
  rw [Arena.contains, Option.isSome_iff_exists, ← others, ← last]
  constructor
  · rintro ⟨held, live, few⟩
    exact ⟨⟨held, live⟩, (exact.balanced buffer held live).current ▸ few⟩
  · rintro ⟨⟨held, live⟩, few⟩
    exact ⟨held, live, (exact.balanced buffer held live).current ▸ few⟩

/-- After a commit its surface shows what it was to show, and has nothing attached. -/
theorem Committed.claims_eq {id : SurfaceId} {surface : Surface} {count : Nat}
    (committed : old.Committed new id) (exact : old.Exact count)
    (found : old.surfaces.get? id = some surface) :
    new.claims = old.claims.modify id fun _ => ⟨(old.nextContent surface).buffer, none⟩ := by
  obtain ⟨commit, done, how⟩ := committed
  have claims := claims_commit (exact.drawn.nodup .surface) found done
  rcases how with rfl | ⟨_, failure⟩
  · exact claims
  · exact failure.claims_eq.1.trans claims

/-- A commit destroys no buffer. -/
theorem Committed.keys_buffers {id : SurfaceId} (committed : old.Committed new id) :
    new.buffers.keys = old.buffers.keys := by
  obtain ⟨commit, done, how⟩ := committed
  have keys := keys_buffers_commit done
  rcases how with rfl | ⟨_, failure⟩
  · exact keys
  · rw [failure.claims_eq.2, keys]

/-- Apart from commits on surfaces of the connection itself, an operation hands nothing back. -/
theorem Change.count_queued {count : Nat} (change : Change server host operation old new)
    (exact : old.Exact count) (buffer : BufferId) :
    (old.queuedUntil new).count (.bufferReleased buffer) = 0 ∨
      ∃ id surface, operation = .commit id ∧ id.connection = old.id ∧
        old.surfaces.get? id = some surface ∧ old.Committed new id ∧
        old.handedBack? surface = some buffer ∧
        (old.queuedUntil new).count (.bufferReleased buffer) = 1 := by
  rcases change.queues.unreleased buffer with none | ⟨id, rfl, committed⟩
  · exact .inl none
  · have ⟨_, done, _⟩ := committed
    obtain ⟨surface, found⟩ := surface_of_commit? done
    have own := exact.drawn.own .surface id (Arena.mem_keys_of_get? found)
    rw [committed.count_queued found]
    split
    · rename_i handed
      exact .inr ⟨id, surface, rfl, own, found, committed, handed, rfl⟩
    · exact .inl rfl

/-- A surface that shows a buffer showed it before, unless a commit on it succeeded. -/
theorem Settlement.shown_source (settlement : Settlement old new operation) {id : SurfaceId}
    {claims : Surface.Claims} {buffer : BufferId} (live : new.claims.get? id = some claims)
    (shows : claims.shows buffer = true) :
    (∃ before, old.claims.get? id = some before ∧ before.shows buffer = true) ∨
      operation = .commit id ∧ ∃ surface, old.surfaces.get? id = some surface := by
  cases settlement with
  | quiet same _ | bufferCreated same _ _ => exact .inl ⟨claims, same ▸ live, shows⟩
  | surfaceCreated added _ _ =>
    rw [added, Arena.get?_insert] at live
    split at live
    · cases live
      cases shows
    · exact .inl ⟨claims, live, shows⟩
  | attached _ _ moved _ =>
    rw [moved, Arena.get?_modify] at live
    split at live
    · obtain ⟨before, liveBefore, rfl⟩ := Option.map_eq_some_iff.mp live
      exact .inl ⟨before, liveBefore, shows⟩
    · exact .inl ⟨claims, live, shows⟩
  | committed found moved _ =>
    rw [moved, Arena.get?_modify] at live
    split at live
    · rename_i same
      exact .inr ⟨congrArg Operation.commit same.symm, _, same ▸ found⟩
    · exact .inl ⟨claims, live, shows⟩
  | destroyed _ moved _ =>
    rw [moved, Arena.get?_erase] at live
    split at live
    · cases live
    · exact .inl ⟨claims, live, shows⟩

end Events

end Connection

namespace Server

/-- The events that an operation queues on a connection. -/
def queued (server : Server) (host : Host) (operation : Operation) (id : ConnectionId) :
    List Event :=
  match server.connection? id, (server.next host operation).connection? id with
  | some old, some new => old.queuedUntil new
  | _, _ => []

/-- How often an operation tells a connection that a buffer was handed back. -/
def releases (server : Server) (host : Host) (operation : Operation) (told : ConnectionId)
    (id : BufferId) : Nat :=
  (server.queued host operation told).count (.bufferReleased id)

/-- **The end of the last claim.** A commit succeeds on a surface with an attachment, the surface
showed a live buffer and shows another one now, or none, and no other surface shows that buffer. -/
structure HandsBack (server : Server) (host : Host) (surface : SurfaceId) (id : BufferId) :
    Prop where
  succeeds : (server.step host (.commit surface)).answer = .done
  shown : ∃ before, server.surface? surface = some before ∧
    before.pending.attachment ≠ none ∧ before.current.buffer = some id
  live : ∃ buffer, server.buffer? id = some buffer
  replaced : ∃ committed, (server.next host (.commit surface)).surface? surface = some committed ∧
    (committed.current.buffer = none ∨ ∃ other buffer, other ≠ id ∧
      committed.current.buffer = some other ∧ server.buffer? other = some buffer)
  last : ∀ other held, server.surface? other = some held → other ≠ surface →
    held.current.buffer ≠ some id

/-- A commit makes a surface show a buffer that it did not show before. -/
def ShowsAnew (server : Server) (host : Host) (operation : Operation) (id : BufferId) : Prop :=
  ∃ surface before committed, operation = .commit surface ∧
    server.surface? surface = some before ∧ before.current.buffer ≠ some id ∧
    (server.next host operation).surface? surface = some committed ∧
    committed.current.buffer = some id

section Step

variable {server : Server} {host : Host} {operation : Operation} {accepted : Nat}
  {drawn : ConnectionId → Nat}

/-- A commit on a live surface succeeds. -/
theorem commit_succeeds {id : SurfaceId} {surface : Surface}
    (live : server.surface? id = some surface) :
    (server.step host (.commit id)).answer = .done := by
  obtain ⟨client, found, held⟩ := surface?_eq_some.mp live
  obtain ⟨commit, done⟩ : ∃ commit, client.commit? id = some commit := by
    simp [Connection.commit?, held]
  simp only [step, Outcome.map, Server.commit, found, done]
  split <;> rfl

/-- A commit on a live surface makes its pending state current. -/
theorem committed_next (named : server.Named) (host : Host) {id : SurfaceId} {client : Connection}
    {surface : Surface} (found : server.connection? id.connection = some client)
    (held : client.surfaces.get? id = some surface) :
    ∃ new, (server.next host (.commit id)).connection? id.connection = some new ∧
      client.Committed new id := by
  obtain ⟨commit, done⟩ : ∃ commit, client.commit? id = some commit := by
    simp [Connection.commit?, held]
  obtain ⟨new, reached, how⟩ := connection?_next_commit named host found done
  refine ⟨new, reached, commit, done, ?_⟩
  rcases how with same | ⟨buffer, _, failure⟩
  · exact .inl same
  · exact .inr ⟨buffer, failure⟩

/-- What an operation queues for a connection that stays. -/
theorem queued_eq {told : ConnectionId} {old new : Connection}
    (before : server.connection? told = some old)
    (after : (server.next host operation).connection? told = some new) :
    server.queued host operation told = old.queuedUntil new := by
  simp only [queued, before, after]

/-- How often an operation hands a buffer back to a connection that stays. -/
theorem releases_eq {told : ConnectionId} {old new : Connection} {id : BufferId}
    (before : server.connection? told = some old)
    (after : (server.next host operation).connection? told = some new) :
    server.releases host operation told id = (old.queuedUntil new).count (.bufferReleased id) := by
  rw [releases, queued_eq before after]

section Exact

variable (accounted : server.Accounted accepted drawn)
  (exact : ∀ id client, server.connection? id = some client → client.Exact (drawn id))

include exact in
/-- What a commit makes of its surface. -/
theorem committed_surface {surfaceId : SurfaceId} {client new : Connection} {surface : Surface}
    (found : server.connection? surfaceId.connection = some client)
    (held : client.surfaces.get? surfaceId = some surface)
    (after : (server.next host (.commit surfaceId)).connection? surfaceId.connection = some new)
    (committed : client.Committed new surfaceId) :
    ∃ surface', (server.next host (.commit surfaceId)).surface? surfaceId = some surface' ∧
      surface'.current.buffer = (client.nextContent surface).buffer := by
  have claims := new.get?_claims surfaceId
  rw [committed.claims_eq (exact _ client found) held, Arena.get?_modify, if_pos rfl,
    Connection.claims_of_surface held] at claims
  obtain ⟨surface', live, same⟩ := Option.map_eq_some_iff.mp claims.symm
  exact ⟨surface', surface?_eq_some.mpr ⟨new, after, live⟩, congrArg Surface.Claims.shown same⟩

include accounted exact

/-- The live surfaces are those that have a handle. -/
theorem mem_surfaces_iff {surface : Surface} :
    surface ∈ server.surfaces ↔ ∃ id, server.surface? id = some surface := by
  constructor
  · intro listed
    obtain ⟨client, liveClient, held⟩ := List.mem_flatMap.mp listed
    obtain ⟨owner, found⟩ := Arena.exists_get?_of_mem_values accounted.nodup liveClient
    have drawn := (exact owner client found).drawn
    obtain ⟨id, live⟩ := Arena.exists_get?_of_mem_values (drawn.nodup .surface) held
    exact ⟨id, surface?_eq_some.mpr
      ⟨client, accounted.connection?_of_listed found (Arena.mem_keys_of_get? live), live⟩⟩
  · rintro ⟨id, live⟩
    obtain ⟨client, found, held⟩ := surface?_eq_some.mp live
    exact List.mem_flatMap.mpr
      ⟨client, Arena.mem_values_of_get? found, Arena.mem_values_of_get? held⟩

/-- A buffer is shown if some live surface shows it. -/
theorem shown_iff {id : BufferId} :
    server.Shown id ↔ ∃ surfaceId surface, server.surface? surfaceId = some surface ∧
      surface.current.buffer = some id := by
  constructor
  · rintro ⟨surface, listed, shows⟩
    obtain ⟨surfaceId, live⟩ := (mem_surfaces_iff accounted exact).mp listed
    exact ⟨surfaceId, surface, live, shows⟩
  · rintro ⟨surfaceId, surface, live, shows⟩
    exact ⟨surface, (mem_surfaces_iff accounted exact).mpr ⟨surfaceId, live⟩, shows⟩

/-- A surface shows buffers of its own client only. -/
theorem connection_of_shown {surfaceId : SurfaceId} {surface : Surface} {id : BufferId}
    (live : server.surface? surfaceId = some surface) (shown : surface.current.buffer = some id) :
    id.connection = surfaceId.connection := by
  obtain ⟨client, found, held⟩ := surface?_eq_some.mp live
  have claimed := (exact _ client found).claimed _
    (Arena.mem_values_of_get? (Connection.claims_of_surface held)) id
    (.inl (Surface.Claims.shows_iff.mpr shown))
  rw [claimed.1, accounted.named _ client found]

/-- What a commit on a surface with an attachment makes it show instead of a buffer. -/
theorem replaced_of_committed {surfaceId : SurfaceId} {client new : Connection} {surface : Surface}
    {attachment : Attachment} {id : BufferId}
    (found : server.connection? surfaceId.connection = some client)
    (held : client.surfaces.get? surfaceId = some surface)
    (after : (server.next host (.commit surfaceId)).connection? surfaceId.connection = some new)
    (committed : client.Committed new surfaceId)
    (attached : surface.pending.attachment = some attachment)
    (away : client.resolve attachment ≠ some id) :
    ∃ surface', (server.next host (.commit surfaceId)).surface? surfaceId = some surface' ∧
      (surface'.current.buffer = none ∨ ∃ other buffer, other ≠ id ∧
        surface'.current.buffer = some other ∧ server.buffer? other = some buffer) := by
  obtain ⟨surface', live, content⟩ := committed_surface exact found held after committed
  rw [Connection.nextContent_buffer_eq attached] at content
  refine ⟨surface', live, ?_⟩
  cases resolved : client.resolve attachment with
  | none => exact .inl (content.trans resolved)
  | some other =>
    have alive := Connection.contains_of_resolve resolved
    obtain ⟨buffer, heldOther⟩ := Option.isSome_iff_exists.mp alive
    have placed := accounted.connection?_of_listed found (Arena.mem_keys_of_get? heldOther)
    exact .inr ⟨other, buffer, fun same => away (same ▸ resolved), content.trans resolved,
      buffer?_eq_some.mpr ⟨client, placed, heldOther⟩⟩

/-- The event goes to the client of the buffer, once, and the last claim has ended. -/
theorem handsBack_of_releases (room : accepted + operation.accepted ≤ UInt32.size)
    {told : ConnectionId} {id : BufferId}
    (releases : server.releases host operation told id ≠ 0) :
    told = id.connection ∧ server.releases host operation told id = 1 ∧
      ∃ surface, operation = .commit surface ∧ server.HandsBack host surface id := by
  cases before : server.connection? told with
  | none => simp [Server.releases, queued, before] at releases
  | some old =>
    cases after : (server.next host operation).connection? told with
    | none => simp [Server.releases, queued, before, after] at releases
    | some new =>
      rw [releases_eq before after] at releases ⊢
      rcases accounted.connection? room after with ⟨_, _, dead, _⟩ | ⟨_, found, change⟩
      · exact (dead (Arena.mem_keys_of_get? before)).elim
      cases before.symm.trans found
      have exactOld := exact told old before
      rcases change.count_queued exactOld id with
        none | ⟨surfaceId, surface, rfl, own, held, committed, handed, once⟩
      · exact (releases none).elim
      obtain rfl : told = surfaceId.connection := by rw [own, accounted.named told old before]
      have live : server.surface? surfaceId = some surface :=
        surface?_eq_some.mpr ⟨old, before, held⟩
      obtain ⟨shown, ⟨attachment, attached, away⟩, alive, others⟩ :=
        (Connection.handedBack?_iff exactOld held).mp handed
      have owner := connection_of_shown accounted exact live shown
      refine ⟨owner.symm, once, surfaceId, rfl, commit_succeeds live,
        ⟨surface, live, by simp [attached], shown⟩, ?_, ?_, ?_⟩
      · obtain ⟨buffer, heldBuffer⟩ := Option.isSome_iff_exists.mp alive
        exact ⟨buffer, buffer?_eq_some.mpr ⟨old, owner ▸ before, heldBuffer⟩⟩
      · exact replaced_of_committed accounted exact before held after committed attached away
      · intro other heldOther liveOther apart shows
        have same := connection_of_shown accounted exact liveOther shows
        obtain ⟨client, found, heldOther'⟩ := surface?_eq_some.mp liveOther
        rw [← same, owner, before] at found
        cases found
        exact others other heldOther heldOther' apart shows

/-- The end of the last claim is told. -/
theorem releases_of_handsBack {surfaceId : SurfaceId} {id : BufferId}
    (handsBack : server.HandsBack host surfaceId id) :
    server.releases host (.commit surfaceId) id.connection id = 1 := by
  obtain ⟨surface, live, attached, shown⟩ := handsBack.shown
  obtain ⟨attachment, attached⟩ := Option.ne_none_iff_exists'.mp attached
  have owner := connection_of_shown accounted exact live shown
  obtain ⟨client, found, held⟩ := surface?_eq_some.mp live
  obtain ⟨new, after, committed⟩ := committed_next accounted.named host found held
  have exactClient := exact _ client found
  have handed : client.handedBack? surface = some id := by
    refine (Connection.handedBack?_iff exactClient held).mpr
      ⟨shown, ⟨attachment, attached, fun resolved => ?_⟩, ?_, fun other heldOther live' => ?_⟩
    · obtain ⟨surface', reached, content⟩ := committed_surface exact found held after committed
      rw [Connection.nextContent_buffer_eq attached, resolved] at content
      obtain ⟨surface'', reached', none | ⟨other, _, apart, shows, _⟩⟩ := handsBack.replaced
      · rw [reached] at reached'
        cases reached'
        cases content.symm.trans none
      · rw [reached] at reached'
        cases reached'
        exact apart (Option.some.inj (shows.symm.trans content))
    · obtain ⟨buffer, liveBuffer⟩ := handsBack.live
      obtain ⟨client', found', heldBuffer⟩ := buffer?_eq_some.mp liveBuffer
      rw [owner, found] at found'
      cases found'
      exact Option.isSome_iff_exists.mpr ⟨buffer, heldBuffer⟩
    · exact handsBack.last other heldOther (surface?_eq_some.mpr
        ⟨client, accounted.connection?_of_listed found (Arena.mem_keys_of_get? live'), live'⟩)
  rw [owner, releases_eq found after, committed.count_queued held, if_pos handed]

/-- A surface that shows a buffer showed it before, unless a commit on it succeeded. -/
theorem shown_source (room : accepted + operation.accepted ≤ UInt32.size) {surfaceId : SurfaceId}
    {surface : Surface} {id : BufferId}
    (live : (server.next host operation).surface? surfaceId = some surface)
    (shows : surface.current.buffer = some id) :
    ∃ before, server.surface? surfaceId = some before ∧
      (before.current.buffer = some id ∨ operation = .commit surfaceId) := by
  obtain ⟨new, after, held⟩ := surface?_eq_some.mp live
  rcases accounted.connection? room after with ⟨_, rfl, _⟩ | ⟨old, found, change⟩
  · cases held
  have settlement := change.settlement ((exact _ old found).drawn.nodup .surface)
  rcases settlement.shown_source (Connection.claims_of_surface held)
      (Surface.Claims.shows_iff.mpr shows) with
    ⟨claims, liveBefore, showed⟩ | ⟨commit, before, held'⟩
  · rw [Connection.get?_claims] at liveBefore
    obtain ⟨before, held', rfl⟩ := Option.map_eq_some_iff.mp liveBefore
    exact ⟨before, surface?_eq_some.mpr ⟨old, found, held'⟩,
      .inl (Surface.Claims.shows_iff.mp showed)⟩
  · exact ⟨before, surface?_eq_some.mpr ⟨old, found, held'⟩, .inr commit⟩

/-- A buffer that is shown and was not shown before was shown by a commit. -/
theorem showsAnew_of_shown (room : accepted + operation.accepted ≤ UInt32.size) {id : BufferId}
    (unshown : ¬ server.Shown id)
    (shown : ∃ surfaceId surface, (server.next host operation).surface? surfaceId = some surface ∧
      surface.current.buffer = some id) :
    server.ShowsAnew host operation id := by
  obtain ⟨surfaceId, surface, live, shows⟩ := shown
  have nobody {before : Surface} (liveBefore : server.surface? surfaceId = some before) :
      before.current.buffer ≠ some id := fun showed =>
    unshown ((shown_iff accounted exact).mpr ⟨surfaceId, before, liveBefore, showed⟩)
  obtain ⟨before, liveBefore, showed | rfl⟩ := shown_source accounted exact room live shows
  · exact (nobody liveBefore showed).elim
  · exact ⟨surfaceId, before, surface, rfl, liveBefore, nobody liveBefore, live, shows⟩

/-- Once a buffer was handed back, no surface shows it, and it is still there. -/
theorem unshown_of_handsBack {surfaceId : SurfaceId} {id : BufferId}
    (room : accepted + (Operation.commit surfaceId).accepted ≤ UInt32.size)
    (handsBack : server.HandsBack host surfaceId id) :
    (∀ other surface, (server.next host (.commit surfaceId)).surface? other = some surface →
      surface.current.buffer ≠ some id) ∧
      ∃ buffer, (server.next host (.commit surfaceId)).buffer? id = some buffer := by
  constructor
  · intro other surface live shows
    by_cases same : other = surfaceId
    · obtain ⟨committed, reached, content⟩ := handsBack.replaced
      rw [same, reached] at live
      cases live
      rcases content with none | ⟨other', _, apart, content, _⟩
      · cases shows.symm.trans none
      · exact apart (Option.some.inj (content.symm.trans shows))
    · obtain ⟨before, liveBefore, showed | commit⟩ :=
        shown_source accounted exact room live shows
      · exact handsBack.last other before liveBefore same showed
      · exact same (Operation.commit.inj commit).symm
  · obtain ⟨surface, live, _, shown⟩ := handsBack.shown
    obtain ⟨buffer, liveBuffer⟩ := handsBack.live
    have owner := connection_of_shown accounted exact live shown
    obtain ⟨client, found, held⟩ := surface?_eq_some.mp live
    obtain ⟨client', found', heldBuffer⟩ := buffer?_eq_some.mp liveBuffer
    rw [owner, found] at found'
    cases found'
    obtain ⟨new, after, committed⟩ := committed_next accounted.named host found held
    obtain ⟨buffer', still⟩ := Arena.get?_of_mem_keys
      (committed.keys_buffers ▸ Arena.mem_keys_of_get? heldBuffer)
    exact ⟨buffer', buffer?_eq_some.mpr ⟨new, owner ▸ after, still⟩⟩

end Exact

end Step

/-- Between a point where something does not hold and a point where it does there is a step after
which it holds for the first time. -/
theorem exists_step_of_not {α : Type} (holds : List α → Prop) (front middle : List α)
    (start : ¬ holds front) (stop : holds (front ++ middle)) :
    ∃ left entry right, middle = left ++ entry :: right ∧ ¬ holds (front ++ left) ∧
      holds (front ++ left ++ [entry]) := by
  induction middle generalizing front with
  | nil => exact (start (List.append_nil front ▸ stop)).elim
  | cons first rest ih =>
    by_cases here : holds (front ++ [first])
    · exact ⟨[], first, rest, rfl, by rwa [List.append_nil], by rwa [List.append_nil]⟩
    · obtain ⟨left, entry, right, rfl, before, after⟩ :=
        ih (front ++ [first]) here (by simpa using stop)
      exact ⟨first :: left, entry, right, rfl, by simpa using before, by simpa using after⟩

section Runs

variable {config : Config}

/-- After a step that hands a buffer back nobody shows it. -/
theorem not_shown_of_releases {front : Script} {host : Host} {operation : Operation} {id : BufferId}
    (range : (Server.start config).state.InRange (front ++ [(host, operation)]))
    (releases : (after config front).releases host operation id.connection id ≠ 0) :
    ¬ (after config (front ++ [(host, operation)])).Shown id := by
  have ready := ready_after range
  have exact := exact_after front range.of_append
  obtain ⟨_, _, surface, rfl, handsBack⟩ :=
    handsBack_of_releases ready.toAccounted exact ready.room releases
  intro shown
  obtain ⟨other, held, live, shows⟩ :=
    (shown_iff (accounted_after _ range) (exact_after _ range)).mp shown
  rw [after_concat] at live
  exact (unshown_of_handsBack ready.toAccounted exact ready.room handsBack).1 other held live shows

/-- Before a step that hands a buffer back somebody shows it. -/
theorem shown_of_releases {front : Script} {host : Host} {operation : Operation} {id : BufferId}
    (range : (Server.start config).state.InRange (front ++ [(host, operation)]))
    (releases : (after config front).releases host operation id.connection id ≠ 0) :
    (after config front).Shown id := by
  have ready := ready_after range
  have exact := exact_after front range.of_append
  obtain ⟨_, _, surface, rfl, handsBack⟩ :=
    handsBack_of_releases ready.toAccounted exact ready.room releases
  obtain ⟨before, live, _, shows⟩ := handsBack.shown
  exact (shown_iff ready.toAccounted exact).mpr ⟨surface, before, live, shows⟩

/-- Between two times that a buffer is handed back a commit shows it. -/
theorem shown_between {front middle : Script} {host host' : Host} {operation operation' : Operation}
    {id : BufferId} (range : (Server.start config).state.InRange
      (front ++ (host, operation) :: middle ++ [(host', operation')]))
    (earlier : (after config front).releases host operation id.connection id ≠ 0)
    (later : (after config (front ++ (host, operation) :: middle)).releases host' operation'
      id.connection id ≠ 0) :
    ∃ left entry right, middle = left ++ entry :: right ∧
      (after config (front ++ (host, operation) :: left)).ShowsAnew entry.1 entry.2 id := by
  rw [List.append_cons front] at range later
  obtain ⟨left, entry, right, rfl, before, after⟩ :=
    exists_step_of_not (fun side => (Server.after config side).Shown id)
      (front ++ [(host, operation)]) middle
      (not_shown_of_releases range.of_append.of_append earlier) (shown_of_releases range later)
  refine ⟨left, entry, right, rfl, ?_⟩
  rw [List.append_cons front]
  have whole := range.of_append
  rw [← List.append_assoc] at whole
  have rangeEntry := whole.of_cons
  have ready := ready_after rangeEntry
  refine showsAnew_of_shown ready.toAccounted (exact_after _ rangeEntry.of_append) ready.room
    before ?_
  rw [← after_concat]
  exact (shown_iff (accounted_after _ rangeEntry) (exact_after _ rangeEntry)).mp after

/-- **Buffers are handed back exactly when the last claim ends.** In a script in range, a step tells
a connection that a buffer was handed back only if it is the connection of the buffer, at most once,
and exactly if the step is a commit that ends the last claim; the buffer is still there. Between two
such steps a commit shows the buffer again. -/
theorem release_events_exact (config : Config) (script : Script)
    (range : (Server.start config).state.InRange script) :
    (∀ front host operation back, script = front ++ (host, operation) :: back → ∀ id : BufferId,
      (∀ told, told ≠ id.connection → (after config front).releases host operation told id = 0) ∧
      (after config front).releases host operation id.connection id ≤ 1 ∧
      ((after config front).releases host operation id.connection id = 1 ↔
        ∃ surface, operation = .commit surface ∧ (after config front).HandsBack host surface id) ∧
      ((after config front).releases host operation id.connection id = 1 →
        ∃ buffer, ((after config front).next host operation).buffer? id = some buffer)) ∧
    ∀ front host operation middle host' operation' back,
      script = front ++ (host, operation) :: middle ++ (host', operation') :: back →
      ∀ id : BufferId, (after config front).releases host operation id.connection id = 1 →
        (after config (front ++ (host, operation) :: middle)).releases host' operation'
          id.connection id = 1 →
        ∃ left entry right, middle = left ++ entry :: right ∧
          (after config (front ++ (host, operation) :: left)).ShowsAnew entry.1 entry.2 id := by
  constructor
  · rintro front host operation back rfl id
    have rangeStep := range.of_cons
    have ready := ready_after rangeStep
    have exact := exact_after front rangeStep.of_append
    have ends (told : ConnectionId)
        (some : (after config front).releases host operation told id ≠ 0) :=
      handsBack_of_releases ready.toAccounted exact ready.room some
    refine ⟨fun told apart => ?_, ?_, ?_, fun once => ?_⟩
    · by_contra some
      exact apart (ends told some).1
    · by_cases none : (after config front).releases host operation id.connection id = 0
      · rw [none]
        exact Nat.zero_le 1
      · exact Nat.le_of_eq (ends _ none).2.1
    · constructor
      · exact fun once => (ends _ (by rw [once]; exact Nat.one_ne_zero)).2.2
      · rintro ⟨surface, rfl, handsBack⟩
        exact releases_of_handsBack ready.toAccounted exact handsBack
    · obtain ⟨_, _, surface, rfl, handsBack⟩ := ends _ (by rw [once]; exact Nat.one_ne_zero)
      exact (unshown_of_handsBack ready.toAccounted exact ready.room handsBack).2
  · rintro front host operation middle host' operation' back rfl id earlier later
    refine shown_between range.of_cons ?_ ?_
    · rw [earlier]
      exact Nat.one_ne_zero
    · rw [later]
      exact Nat.one_ne_zero

/-- The commit that takes a buffer back ends the last claim on it. -/
theorem release_events_exact_takenBack :
    (Server.start {}).state.InRange Script.takenBack ∧
      (after {} (Script.takenBack.take 7)).HandsBack .withFile ⟨⟨0⟩, 2⟩ ⟨⟨0⟩, 1⟩ := by
  have range : (Server.start {}).state.InRange Script.takenBack := inRange_of_length _ (by decide)
  have told : (after {} (Script.takenBack.take 7)).releases .withFile (.commit ⟨⟨0⟩, 2⟩) ⟨0⟩
      ⟨⟨0⟩, 1⟩ = 1 := rfl
  obtain ⟨_, _, exactly, _⟩ := (release_events_exact {} Script.takenBack range).1
    (Script.takenBack.take 7) .withFile (.commit ⟨⟨0⟩, 2⟩) [] rfl ⟨⟨0⟩, 1⟩
  obtain ⟨surface, same, handsBack⟩ := exactly.mp told
  cases same
  exact ⟨range, handsBack⟩

end Runs

end Server

end DisplayServer
