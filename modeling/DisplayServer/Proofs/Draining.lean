import DisplayServer.Proofs.CensusAfter

/-! # What waits on the server

Only a few operations queue events (`Operation.isSilent` tells the others), so after every other one
a quiet server (`Server.IsQuiet`) is still quiet. What the few queue is spelled out: the formats of
a fresh binding, the first configuration of a toplevel, what a commit hands back and fails to read,
and the callbacks that are due in a presentation (`Server.dueCallbacks`).
-/

namespace DisplayServer

/-- Whether an operation queues nothing for anybody. -/
def Operation.isSilent : Operation → Bool
  | bind _ _ _ | getToplevel _ | sendConfigure _ _ | commit _ | present _ _ | presentAll _
  | readBuffer _ | peekBuffer _ _ | snapshot _ => false
  | _ => true

namespace Connection

variable {server : Server} {host : Host} {operation : Operation} {old new : Connection}

/-- An operation that queues nothing leaves a queue as it is, or empty. -/
theorem Change.events_eq_nil (change : Change server host operation old new)
    (silent : operation.isSilent = true) (quiet : old.events = []) : new.events = [] := by
  cases change with
  | takeEvents => rfl
  | same | unbind | createPool | resizePool | createBuffer | createSurface | request
  | ackConfigure | setWindowGeometry | setTitle | setAppId => exact quiet
  | destroyPool => rwa [destroyPool_frame]
  | destroyBuffer => rwa [destroyBuffer_eq]
  | failRead reads => cases reads <;> cases silent
  | attach =>
    unfold modifySurface
    rwa [claim_frame, withdraw_frame]
  | frame =>
    simp only [addCallback, draw]
    split <;> exact quiet
  | destroySurface done =>
    obtain ⟨surface, found⟩ := surface_of_destroySurface? done
    rwa [destroySurface?_eq found done]
  | getWindowSurface done =>
    obtain ⟨_, _, _, _, ⟨_, _, rfl⟩ | ⟨_, rfl⟩⟩ := getWindowSurface_eq_ok done <;> exact quiet
  | destroyWindowSurface done =>
    obtain ⟨_, _, rfl⟩ := destroyWindowSurface?_eq_some done
    exact quiet
  | destroyToplevel done =>
    obtain ⟨_, _, rfl⟩ := destroyToplevel?_eq_some done
    exact quiet
  | _ => cases silent

end Connection

namespace Server

variable {config : Config} {server : Server} {host : Host} {operation : Operation} {accepted : Nat}
  {drawn : ConnectionId → Nat}

private theorem drawnBy_eq_zero (named : server.Named) (host : Host)
    (drawless : operation.draws = false) (id : ConnectionId) :
    server.drawnBy host operation id = 0 := by
  unfold drawnBy
  split
  · rename_i old new live after
    rcases connection?_next named after with ⟨rfl, -⟩ | ⟨old', live', change⟩
    · cases drawless
    · cases live.symm.trans live'
      exact (change.drewNone drawless).drawnUntil_eq
  · rfl

/-- An operation that draws nothing needs no room. -/
theorem IsAfter.next_of_drawless (isAfter : IsAfter config server accepted drawn) (host : Host)
    (operation : Operation) (drawless : operation.draws = false) :
    IsAfter config (server.next host operation) accepted drawn := by
  have accepts : operation.accepted = 0 := by
    cases operation <;> first | rfl | cases drawless
  have draws := drawnBy_eq_zero isAfter.named host drawless
  have range := isAfter
  obtain ⟨script, ⟨room, rooms⟩, rfl, rfl, rfl⟩ := range
  have next := isAfter.next host operation (by rwa [accepts])
    fun id => by rw [draws]; exact rooms id
  simpa only [accepts, draws, Nat.add_zero] using next

/-! ### Queues -/

/-- The events that wait for a client. -/
def eventsOf (server : Server) (id : ConnectionId) : List Event :=
  (server.connection? id).elim [] Connection.events

/-- Nothing waits for anybody. -/
def IsQuiet (server : Server) : Prop :=
  ∀ id client, server.connection? id = some client → client.events = []

/-- A server is quiet if nobody has events. -/
theorem isQuiet_iff : server.IsQuiet ↔ ∀ id, server.eventsOf id = [] := by
  refine forall_congr' fun id => ?_
  cases live : server.connection? id <;> simp [eventsOf, live]

/-- All events are taken. -/
def drained (server : Server) : Server :=
  server.drainEvents.2

/-- Events are taken client by client. -/
theorem drainEvents_eq (distinct : server.connections.keys.Nodup) :
    server.drainEvents.1 = server.connections.keys.flatMap fun id =>
      (server.eventsOf id).map fun event => (id, event) := by
  rw [drainEvents, Arena.keys, List.flatMap_map]
  apply List.flatMap_congr
  intro entry listed
  have live : server.connection? entry.1 = some entry.2 :=
    (Arena.get?_eq_some_iff distinct).mpr listed
  rw [eventsOf, live]
  rfl

/-- Who is not connected has no events. -/
theorem eventsOf_of_notMem {id : ConnectionId} (dead : id ∉ server.connections.keys) :
    server.eventsOf id = [] := by
  have gone : server.connection? id = none := Arena.get?_eq_none_of_notMem dead
  rw [eventsOf, gone]
  rfl

/-- Where events wait for one client only, these are taken. -/
theorem drainEvents_of_single (distinct : server.connections.keys.Nodup) (id : ConnectionId)
    (others : ∀ other, other ≠ id → server.eventsOf other = []) :
    server.drainEvents.1 = (server.eventsOf id).map fun event => (id, event) := by
  rw [drainEvents_eq distinct]
  apply flatMap_eq_of_single distinct
  · intro other _ apart
    rw [others other apart, List.map_nil]
  · intro dead
    rw [eventsOf_of_notMem dead, List.map_nil]

/-- Of a quiet server nothing is drained. -/
theorem IsQuiet.drainEvents_eq_nil (quiet : server.IsQuiet)
    (distinct : server.connections.keys.Nodup) : server.drainEvents.1 = [] := by
  rw [drainEvents_eq distinct, List.flatMap_eq_nil_iff]
  intro id _
  rw [isQuiet_iff.mp quiet id, List.map_nil]

/-- To drain a quiet server changes nothing. -/
theorem IsQuiet.drained_eq (quiet : server.IsQuiet) (distinct : server.connections.keys.Nodup) :
    server.drained = server := by
  obtain ⟨config, formats, ⟨entries⟩, next, publisher⟩ := server
  simp only [drained, drainEvents, Arena.mapValues, mk.injEq, true_and, and_true, Arena.mk.injEq]
  refine (List.map_congr_left fun entry listed => ?_).trans entries.map_id
  have none := quiet entry.1 entry.2 ((Arena.get?_eq_some_iff distinct).mpr listed)
  obtain ⟨id, client⟩ := entry
  cases client
  simp_all

/-- To drain empties the queues and leaves connections alone otherwise. -/
theorem connection?_drained (server : Server) (id : ConnectionId) :
    server.drained.connection? id =
      (server.connection? id).map fun client => { client with events := [] } :=
  Arena.get?_mapValues ..

/-- A server that was drained is quiet. -/
theorem isQuiet_drained (server : Server) : server.drained.IsQuiet := by
  intro id client live
  rw [connection?_drained, Option.map_eq_some_iff] at live
  obtain ⟨old, -, rfl⟩ := live
  rfl

/-- Some script leads to the server once it is drained. -/
theorem IsAfter.drained (isAfter : IsAfter config server accepted drawn) :
    IsAfter config server.drained accepted drawn :=
  isAfter.next_of_drawless .withFile .drainEvents rfl

/-- The numbers of connections are distinct. -/
theorem IsAfter.distinct (isAfter : IsAfter config server accepted drawn) :
    server.connections.keys.Nodup :=
  isAfter.accounted.nodup

/-- After an operation that queues nothing there is still nothing to take. -/
theorem IsQuiet.next (quiet : server.IsQuiet) (named : server.Named) (host : Host)
    (operation : Operation) (silent : operation.isSilent = true) :
    (server.next host operation).IsQuiet := by
  intro id new live
  rcases connection?_next named live with ⟨-, -, rfl⟩ | ⟨old, found, change⟩
  · rfl
  · exact change.events_eq_nil silent (quiet id old found)

/-- Of two connections that are put back in turn, the second one stays. -/
theorem putBack_putBack {first second : Connection} (same : first.id = second.id) :
    (server.putBack first).putBack second = server.putBack second := by
  simp only [putBack, Arena.modify, same, List.map_map]
  congr 2
  exact List.map_congr_left fun entry _ => by grind

/-- After work on one client only its events wait. -/
theorem IsQuiet.drainEvents_putBack (quiet : server.IsQuiet)
    (distinct : server.connections.keys.Nodup) {id : ConnectionId} {old new : Connection}
    (live : server.connection? id = some old) (kept : new.id = id) :
    (server.putBack new).drainEvents.1 = new.events.map fun event => (id, event) := by
  have put (other : ConnectionId) : (server.putBack new).connection? other =
      if other = id then some new else server.connection? other := by
    rw [connection?_putBack, kept]
    split
    · subst other
      rw [live]
      rfl
    · rfl
  have keys : (server.putBack new).connections.keys.Nodup := by
    rw [putBack, Arena.keys_modify]
    exact distinct
  rw [drainEvents_of_single keys id]
  · rw [eventsOf, put, if_pos rfl]
    rfl
  · intro other apart
    rw [eventsOf, put, if_neg apart]
    exact isQuiet_iff.mp quiet other

/-- A fresh binding of the shared-memory capability is told all formats. -/
theorem IsAfter.drainEvents_bind (isAfter : IsAfter config server accepted drawn)
    (quiet : server.IsQuiet) {connection : ConnectionId} {name : String} {version : UInt32}
    {capability : Capability} (known : Capability.ofName? name = some capability)
    {binding : BindingId} (bound : (server.bind connection name version).answer = .ok binding) :
    (server.bind connection name version).state.drainEvents.1 =
      match capability.kind with
      | .sharedMemory => server.formats.map fun format => (connection, .format binding format)
      | .compositor | .windowShell => [] := by
  simp only [bind, known] at bound ⊢
  split at bound
  · cases bound
  · rename_i inRange
    obtain ⟨old, new, live, work, state⟩ := putBack_of_answer bound
    rw [if_neg inRange, state]
    have own := isAfter.named _ old live
    rw [Except.ok.injEq, Prod.mk.injEq] at work
    obtain ⟨rfl, rfl⟩ := work
    have kept := (old.bind_draws capability.kind version server.formats).1
    rw [quiet.drainEvents_putBack isAfter.distinct live (kept.trans own)]
    have none := quiet _ old live
    cases capability.kind <;> simp [Connection.bind, Connection.emit, Connection.draw, none]

/-- A fresh toplevel is configured. -/
theorem IsAfter.drainEvents_getToplevel (isAfter : IsAfter config server accepted drawn)
    (quiet : server.IsQuiet) {window : WindowSurfaceId} {toplevel : ToplevelId}
    (opened : (server.getToplevel window).answer = .ok toplevel) :
    ∃ size serial, (server.getToplevel window).state.drainEvents.1 =
      [(window.connection, .configure window toplevel size serial)] := by
  obtain ⟨old, new, live, work, state⟩ := putBack_of_answer opened
  obtain ⟨shown, _, _, _, opens⟩ := Connection.getToplevel_eq_ok work
  have kept : new.id = window.connection := by
    rw [opens]
    exact isAfter.named _ old live
  have events : new.events = [.configure window toplevel server.config.defaultWindowSize
      ({ shown with toplevel := some toplevel } : WindowSurface).configure.1] := by
    rw [opens, quiet _ old live]
    rfl
  have taken := quiet.drainEvents_putBack isAfter.distinct live kept
  rw [events] at taken
  rw [getToplevel, state]
  exact ⟨_, _, taken⟩

/-- What a commit queues: the buffer that its surface was the last to show is handed back, and the
buffer that it newly shows could not be read. -/
theorem IsAfter.drainEvents_commit (isAfter : IsAfter config server accepted drawn)
    (quiet : server.IsQuiet) {surface : SurfaceId}
    (committed : (server.commit host surface).answer = .ok ()) :
    ∃ released failed : Option BufferId, (server.commit host surface).state.drainEvents.1 =
        (released.toList.map Event.bufferReleased ++ failed.toList.map Event.bufferAccessFailed).map
          (fun event => (surface.connection, event)) ∧
      ∀ buffer, released = some buffer ∨ failed = some buffer →
        buffer.connection = surface.connection ∧ server.census.buffer buffer ≠ none := by
  have named := isAfter.named
  cases live : server.connection? surface.connection with
  | none => simp [commit, live, Outcome.refuse] at committed
  | some client =>
    cases done : client.commit? surface with
    | none => simp [commit, live, done, Outcome.refuse] at committed
    | some commit =>
      obtain ⟨held, found⟩ := Connection.surface_of_commit? done
      have events := Connection.events_commit found done
      rw [quiet _ client live, List.nil_append] at events
      have own {buffer : BufferId} (listed : buffer ∈ client.handles .buffer) :
          buffer.connection = surface.connection ∧ server.census.buffer buffer ≠ none := by
        have here := isAfter.own live listed
        refine ⟨here, ?_⟩
        rw [(census_sameOn live).buffer buffer here]
        exact Connection.census_holds_iff.mpr listed
      have handed {buffer : BufferId} (back : client.handedBack? held = some buffer) :
          buffer ∈ client.handles .buffer := by
        obtain ⟨_, test⟩ := Option.filter_eq_some_iff.mp back
        obtain ⟨_, found, _⟩ := (Option.any_eq_true _ _).mp (Bool.and_eq_true_iff.mp test).2
        exact Arena.mem_keys_of_get? found
      have kept : commit.client.id = surface.connection := by
        rw [Connection.commit?_frame done]
        exact named _ client live
      have put := quiet.drainEvents_putBack isAfter.distinct live kept
      rcases state_commit host live done with
        ⟨publisher, same⟩ | ⟨buffer, reader, unread, publisher, published, reading, failure, same⟩
      · refine ⟨client.handedBack? held, none, ?_,
          fun buffer queued => own (handed (by simpa using queued))⟩
        rw [events] at put
        rw [same]
        exact put.trans (by simp)
      · obtain ⟨shows, apart⟩ := (Connection.published_commit found done buffer).mp published
        have listed : buffer ∈ client.handles .buffer :=
          (Arena.contains_iff_mem_keys ..).mp (Connection.contains_of_newlyShown shows apart)
        have here := (own listed).1
        have read : (server.putBack commit.client).connection? surface.connection =
            some commit.client := by
          rw [connection?_putBack, if_pos kept.symm, live]
          rfl
        rw [here, read, Option.some.injEq] at reading
        subst reading
        have unreadKept : unread.id = surface.connection := by
          rw [failure.frame]
          exact kept
        refine ⟨client.handedBack? held, some buffer, ?_, ?_⟩
        · have put := quiet.drainEvents_putBack isAfter.distinct live unreadKept
          rw [failure.events_eq, events] at put
          rw [same]
          refine .trans ?_ put
          rw [putBack_putBack (kept.trans unreadKept.symm)]
          rfl
        · rintro other (back | unread)
          · exact own (handed back)
          · exact Option.some.inj unread ▸ own listed

/-! ### Presentation -/

/-- The callbacks that a presentation of all surfaces fires, client by client and surface by
surface. -/
def dueCallbacks (server : Server) : List (ConnectionId × CallbackId) :=
  server.connections.entries.flatMap fun entry =>
    entry.2.surfaces.values.flatMap fun surface =>
      if surface.current.buffer.isSome then
        surface.callbacks.map fun callback => (entry.1, callback)
      else []

/-- To present everything on a quiet server queues what is due, client by client. -/
theorem IsQuiet.drainEvents_presentAll (quiet : server.IsQuiet)
    (distinct : server.connections.keys.Nodup) (time : UInt32) :
    (server.presentAll time).drainEvents.1 =
      server.dueCallbacks.map fun due => (due.1, .frameDone due.2 time) := by
  simp only [drainEvents, presentAll, Arena.mapValues, List.flatMap_map, dueCallbacks,
    List.map_flatMap]
  apply List.flatMap_congr
  intro entry listed
  have none := quiet entry.1 entry.2 ((Arena.get?_eq_some_iff distinct).mpr listed)
  simp only [Connection.presentAll, none, List.nil_append, List.map_flatMap]
  refine List.flatMap_congr fun surface _ => ?_
  split <;> simp

variable (isAfter : IsAfter config server accepted drawn)

include isAfter

private theorem IsAfter.surface_entry {entry : ConnectionId × Connection}
    (listed : entry ∈ server.connections.entries) {held : SurfaceId × Surface}
    (own : held ∈ entry.2.surfaces.entries) :
    held.1.connection = entry.1 ∧ server.surface? held.1 = some held.2 := by
  have live : server.connection? entry.1 = some entry.2 :=
    (Arena.get?_eq_some_iff isAfter.distinct).mpr listed
  have found := (Arena.get?_eq_some_iff
    ((isAfter.accounted.clients _ _ live).nodup .surface)).mpr own
  have here := isAfter.own live
    (Arena.mem_keys_of_get? found : held.1 ∈ entry.2.handles .surface)
  exact ⟨here, surface?_eq_some.mpr ⟨entry.2, here ▸ live, found⟩⟩

/-- Due is a callback that was committed on a surface that shows a buffer. -/
theorem IsAfter.mem_dueCallbacks {callback : CallbackId} :
    callback ∈ server.dueCallbacks.map Prod.snd ↔ ∃ id surface,
      server.surface? id = some surface ∧ surface.current.buffer.isSome = true ∧
        callback ∈ surface.callbacks := by
  simp only [dueCallbacks, List.mem_map, List.mem_flatMap]
  constructor
  · rintro ⟨_, ⟨entry, listed, surface, held, due⟩, rfl⟩
    obtain ⟨own, paired, rfl⟩ := List.mem_map.mp held
    split at due
    · rename_i shown
      obtain ⟨callback, waits, rfl⟩ := List.mem_map.mp due
      exact ⟨own.1, own.2, (isAfter.surface_entry listed paired).2, shown, waits⟩
    · cases due
  · rintro ⟨id, surface, found, shown, waits⟩
    obtain ⟨client, live, held⟩ := surface?_eq_some.mp found
    refine ⟨(id.connection, callback), ⟨(id.connection, client),
      Arena.mem_entries_of_get? live, surface, Arena.mem_values_of_get? held, ?_⟩, rfl⟩
    rw [if_pos shown]
    exact List.mem_map.mpr ⟨callback, waits, rfl⟩

/-- What is due waits on a surface of the client that it is due for. -/
theorem IsAfter.waits_of_due {due : ConnectionId × CallbackId}
    (listed : due ∈ server.dueCallbacks) :
    ∃ id waiting, server.census.surface id = some waiting ∧ due.2 ∈ waiting ∧
      id.connection = due.1 := by
  obtain ⟨entry, owner, listed⟩ := List.mem_flatMap.mp listed
  obtain ⟨surface, held, listed⟩ := List.mem_flatMap.mp listed
  obtain ⟨own, paired, rfl⟩ := List.mem_map.mp held
  obtain ⟨here, found⟩ := isAfter.surface_entry owner paired
  split at listed
  · obtain ⟨callback, waits, rfl⟩ := List.mem_map.mp listed
    exact ⟨own.1, _, census_surface_eq_some.mpr ⟨_, found, rfl⟩, List.mem_append_left _ waits, here⟩
  · cases listed

/-- No callback fires twice in one presentation. -/
theorem IsAfter.nodup_dueCallbacks : (server.dueCallbacks.map Prod.snd).Nodup := by
  have apart {first second : SurfaceId} {surface other : Surface}
      (found : server.surface? first = some surface) (found' : server.surface? second = some other)
      {callback : CallbackId} (waits : callback ∈ surface.callbacks)
      (waits' : callback ∈ other.callbacks) : first = second :=
    isAfter.waiting_apart (census_surface_eq_some.mpr ⟨_, found, rfl⟩)
      (census_surface_eq_some.mpr ⟨_, found', rfl⟩) (List.mem_append_left _ waits)
      (List.mem_append_left _ waits')
  have waits {told : ConnectionId} {surface : Surface} {callback : CallbackId}
      (due : callback ∈ (if surface.current.buffer.isSome then
        surface.callbacks.map fun callback => (told, callback) else []).map Prod.snd) :
      callback ∈ surface.callbacks := by
    split at due <;> simp_all
  simp only [dueCallbacks, List.map_flatMap, Arena.values, List.flatMap_map, List.nodup_flatMap]
  have ordered := List.pairwise_map.mp isAfter.distinct
  refine ⟨fun entry listed => ⟨fun held own => ?_, ?_⟩, ?_⟩
  · obtain ⟨-, found⟩ := isAfter.surface_entry listed own
    have once := isAfter.waiting_nodup (census_surface_eq_some.mpr ⟨_, found, rfl⟩)
    split
    · simpa [Function.comp_def] using (List.nodup_append.mp once).1
    · exact List.nodup_nil
  · have live : server.connection? entry.1 = some entry.2 :=
      (Arena.get?_eq_some_iff isAfter.distinct).mpr listed
    have distinct := List.pairwise_map.mp ((isAfter.accounted.clients _ _ live).nodup .surface)
    refine distinct.imp_of_mem fun {held held'} own own' differ callback due due' => differ ?_
    exact apart (isAfter.surface_entry listed own).2 (isAfter.surface_entry listed own').2
      (waits due) (waits due')
  · refine ordered.imp_of_mem fun {entry entry'} listed listed' differ callback due due' =>
      differ ?_
    obtain ⟨held, own, due⟩ := List.mem_flatMap.mp due
    obtain ⟨held', own', due'⟩ := List.mem_flatMap.mp due'
    obtain ⟨here, found⟩ := isAfter.surface_entry listed own
    obtain ⟨here', found'⟩ := isAfter.surface_entry listed' own'
    rw [← here, ← here', apart found found' (waits due) (waits due')]

/-- What is due waits no longer, and nothing else changes. -/
theorem IsAfter.census_presentAll (time : UInt32) : (server.presentAll time).census =
    { server.census with
      surface := fun id => (server.census.surface id).map fun waiting =>
        waiting.filter fun callback => callback ∉ server.dueCallbacks.map Prod.snd } := by
  have found (id : ConnectionId) : (server.presentAll time).connection? id =
      (server.connection? id).map fun client => client.presentAll time := Arena.get?_mapValues ..
  refine Census.ext ?_ ?_ ?_ (funext fun id => ?_) ?_ ?_
  case refine_4 =>
    cases live : server.connection? id.connection with
    | none => simp [census, found, live]
    | some client =>
      simp only [census, found, live, Option.map_some, Option.bind_some]
      rw [Connection.census_presentAll]
      simp only [Connection.census, Arena.view, Option.map_map]
      refine Option.map_congr fun surface held => ?_
      have here := surface?_eq_some.mpr ⟨client, live, held⟩
      have once := isAfter.waiting_nodup (census_surface_eq_some.mpr ⟨_, here, rfl⟩)
      have due {callback : CallbackId} (waits : callback ∈ surface.waitingCallbacks) :
          callback ∈ server.dueCallbacks.map Prod.snd ↔
            surface.current.buffer.isSome = true ∧ callback ∈ surface.callbacks := by
        rw [isAfter.mem_dueCallbacks]
        constructor
        · rintro ⟨other, record, found', shown, fires⟩
          obtain rfl := isAfter.waiting_apart (census_surface_eq_some.mpr ⟨_, here, rfl⟩)
            (census_surface_eq_some.mpr ⟨_, found', rfl⟩) waits (List.mem_append_left _ fires)
          cases here.symm.trans found'
          exact ⟨shown, fires⟩
        · rintro ⟨shown, fires⟩
          exact ⟨id, surface, here, shown, fires⟩
      simp only [Function.comp_apply, Surface.waitingCallbacks] at once due ⊢
      by_cases shown : surface.current.buffer.isSome = true
      · rw [if_pos shown, List.filter_append, List.filter_eq_nil_iff.mpr, List.nil_append,
          List.filter_eq_self.mpr]
        · intro callback waits
          have uncommitted := (List.nodup_append.mp once).2.2
          grind
        · intro callback waits
          grind
      · rw [if_neg shown, List.filter_eq_self.mpr]
        intro callback waits
        grind
  all_goals
    funext id
    cases live : server.connection? id.connection <;>
      simp [census, found, live, Connection.census_presentAll]

end Server

end DisplayServer
