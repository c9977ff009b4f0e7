import DisplayServer.Proofs.Callbacks
import DisplayServer.Proofs.Census
import DisplayServer.Proofs.View

/-! # The census after a script

A server after a script in range (`Server.IsAfter`) is in good order: names are right, and who lists
whom agrees. There, what is destroyed leaves the census together with what goes along with it, and
callbacks wait on one surface each.
-/

namespace DisplayServer

open Function (update update_apply)

/-- Whether a handle is in a census. -/
def Census.Holds (census : Census) : {kind : ObjectKind} → Handle kind → Prop
  | .binding, id => census.binding id = true
  | .pool, id => census.pool id = true
  | .buffer, id => census.buffer id ≠ none
  | .surface, id => census.surface id ≠ none
  | .windowSurface, id => census.window id ≠ none
  | .toplevel, id => census.toplevel id ≠ none
  | .callback, _ => False

/-- The census of a connection knows what is live on it. -/
theorem Connection.census_holds_iff {client : Connection} {kind : ObjectKind}
    {handle : Handle kind} : client.census.Holds handle ↔ handle ∈ client.handles kind := by
  cases kind
  case callback => simp [Census.Holds, handles]
  all_goals
    simp [Census.Holds, handles, census, Arena.view, ← Arena.contains_iff_mem_keys,
      Arena.contains, Option.isSome_iff_ne_none]

namespace Server

/-- A server is what a script in range leaves of a fresh one; so many clients were accepted and so
many handles drawn by then. -/
def IsAfter (config : Config) (server : Server) (accepted : Nat) (drawn : ConnectionId → Nat) :
    Prop :=
  ∃ script, (Server.start config).state.InRange script ∧ after config script = server ∧
    script.accepted = accepted ∧ drawnAfter config script = drawn

variable {config : Config} {server : Server} {host : Host} {operation : Operation} {accepted : Nat}
  {drawn : ConnectionId → Nat}

/-- A fresh server is one that has accepted nobody. -/
theorem isAfter_start (config : Config) :
    IsAfter config (Server.start config).state 0 fun _ => 0 :=
  ⟨[], ⟨Nat.zero_le _, fun _ => Nat.zero_le _⟩, rfl, rfl, rfl⟩

/-- **A server that some script leads to is one after the next operation,** if its counters have
room. -/
theorem IsAfter.next (isAfter : IsAfter config server accepted drawn) (host : Host)
    (operation : Operation) (room : accepted + operation.accepted ≤ UInt32.size)
    (rooms : ∀ id, drawn id + server.drawnBy host operation id ≤ UInt32.size) :
    IsAfter config (server.next host operation) (accepted + operation.accepted)
      fun id => drawn id + server.drawnBy host operation id := by
  obtain ⟨script, range, rfl, rfl, rfl⟩ := isAfter
  have drawnConcat := drawnAfter_concat config script host operation
  refine ⟨script ++ [(host, operation)], ⟨?_, fun id => ?_⟩, after_concat .., accepted_concat ..,
    funext drawnConcat⟩
  · rw [accepted_concat]
    exact room
  · exact Nat.le_trans (Nat.le_of_eq (drawnConcat id)) (rooms id)

/-- The accounts of a server that some script leads to are right. -/
theorem IsAfter.accounted (isAfter : IsAfter config server accepted drawn) :
    server.Accounted accepted drawn := by
  obtain ⟨script, range, rfl, rfl, rfl⟩ := isAfter
  exact accounted_after script range

/-- Connections are live under their own names. -/
theorem IsAfter.named (isAfter : IsAfter config server accepted drawn) : server.Named :=
  isAfter.accounted.named

/-- Where there is room, the counters are ready. -/
theorem IsAfter.ready (isAfter : IsAfter config server accepted drawn)
    (room : accepted + operation.accepted ≤ UInt32.size)
    (rooms : ∀ id, drawn id + server.drawnBy host operation id ≤ UInt32.size) :
    server.Ready host operation accepted drawn :=
  { isAfter.accounted with room, rooms }

/-- The links of a live connection agree. -/
theorem IsAfter.agree (isAfter : IsAfter config server accepted drawn) {id : ConnectionId}
    {client : Connection} (live : server.connection? id = some client) : client.links.Agree := by
  obtain ⟨script, range, rfl, rfl, rfl⟩ := isAfter
  exact agree_after script range id client live

/-- A live buffer is listed by its live pool. -/
theorem IsAfter.held (isAfter : IsAfter config server accepted drawn) {id : ConnectionId}
    {client : Connection} (live : server.connection? id = some client) {buffer : BufferId}
    {record : Buffer} (found : client.buffers.get? buffer = some record) :
    ∃ pool, client.pools.get? record.pool = some pool ∧ buffer ∈ pool.buffers := by
  obtain ⟨script, range, rfl, rfl, rfl⟩ := isAfter
  obtain ⟨pool, foundPool, listed, _⟩ :=
    (bounded_after script range id client live).held buffer record found
  exact ⟨pool, foundPool, listed⟩

/-- The pools of a live connection list live buffers. -/
theorem IsAfter.enlisted (isAfter : IsAfter config server accepted drawn) {id : ConnectionId}
    {client : Connection} (live : server.connection? id = some client) : client.Enlisted := by
  obtain ⟨script, range, rfl, rfl, rfl⟩ := isAfter
  revert id client
  refine after_induction (motive := fun _ server => ∀ {id client},
    server.connection? id = some client → client.Enlisted) ?_ ?_ script range
  · intro id client live
    cases live
  · intro script host operation range enlisted id new live
    have ready := ready_after range
    rcases ready.connection? ready.room live with ⟨_, rfl, _⟩ | ⟨old, found, change⟩
    · intro pool record found
      cases found
    · obtain ⟨behind, room⟩ := ready.client found live
      exact change.enlisted (enlisted found) behind room

/-- Everything that a connection lists is its own. -/
theorem IsAfter.own (isAfter : IsAfter config server accepted drawn) {id : ConnectionId}
    {client : Connection} (live : server.connection? id = some client) {kind : ObjectKind}
    {handle : Handle kind} (listed : handle ∈ client.handles kind) : handle.connection = id :=
  ((isAfter.accounted.clients id client live).own kind handle listed).trans
    (isAfter.named id client live)

/-- The census of a server knows what is live. -/
theorem census_holds_iff {kind : ObjectKind} {handle : Handle kind} :
    server.census.Holds handle ↔ server.IsLive handle := by
  simp only [IsLive, ← Connection.census_holds_iff]
  cases live : server.connection? handle.connection <;> cases kind <;>
    simp [Census.Holds, census, live]

/-- A dead connection holds nothing. -/
theorem census_of_dead {id : ConnectionId} (dead : server.connection? id = none) :
    server.census.SameOn ⟨fun _ => false, fun _ => false, fun _ => none, fun _ => none,
      fun _ => none, fun _ => none⟩ (· = id) := by
  constructor <;> rintro handle rfl <;> simp [census, dead]

section Withdrawing

variable (isAfter : IsAfter config server accepted drawn)

include isAfter

/-- A buffer is of the client that its pool is of. -/
theorem IsAfter.pool_connection {buffer : BufferId} {pool : PoolId}
    (lies : server.census.buffer buffer = some pool) : pool.connection = buffer.connection := by
  obtain ⟨client, live, found⟩ := Option.bind_eq_some_iff.mp lies
  obtain ⟨record, held, rfl⟩ := Arena.exists_of_view found
  obtain ⟨owner, foundOwner, _⟩ := isAfter.held live held
  have listed : record.pool ∈ client.handles .pool := Arena.mem_keys_of_get? foundOwner
  exact isAfter.own live listed

/-- The surface of a window surface is live, and of the same client. -/
theorem IsAfter.surface_of_window {window : WindowSurfaceId} {surface : SurfaceId}
    (shows : server.census.window window = some surface) :
    surface.connection = window.connection ∧ server.census.surface surface ≠ none := by
  obtain ⟨client, live, found⟩ := Option.bind_eq_some_iff.mp shows
  rw [Connection.census_window_eq, Option.map_eq_some_iff] at found
  obtain ⟨⟨surface, toplevel⟩, linked, rfl⟩ := found
  obtain ⟨record, held, _⟩ := Arena.exists_of_view ((isAfter.agree live).window _ _ _ linked)
  have listed : surface ∈ client.handles .surface := Arena.mem_keys_of_get? held
  have own := isAfter.own live listed
  refine ⟨own, ?_⟩
  rw [(census_sameOn live).surface surface own]
  exact ne_of_eq_of_ne (Arena.view_of_get? held) (Option.some_ne_none _)

/-- The window surface of a toplevel is live, and of the same client. -/
theorem IsAfter.window_of_toplevel {toplevel : ToplevelId} {window : WindowSurfaceId}
    (opens : server.census.toplevel toplevel = some window) :
    window.connection = toplevel.connection ∧ server.census.window window ≠ none := by
  obtain ⟨client, live, found⟩ := Option.bind_eq_some_iff.mp opens
  rw [Connection.census_toplevel_eq, Option.map_eq_some_iff] at found
  obtain ⟨⟨window, surface⟩, linked, rfl⟩ := found
  obtain ⟨record, held, _⟩ := Arena.exists_of_view
    (((isAfter.agree live).toplevel _ _ _).mp linked)
  have listed : window ∈ client.handles .windowSurface := Arena.mem_keys_of_get? held
  have own := isAfter.own live listed
  refine ⟨own, ?_⟩
  rw [(census_sameOn live).window window own]
  exact ne_of_eq_of_ne (Arena.view_of_get? held) (Option.some_ne_none _)

/-- A binding that is given up leaves the census, wherever it is. -/
theorem IsAfter.census_unbind (id : BindingId) : (server.unbind id).census =
    { server.census with binding := update server.census.binding id false } := by
  unfold Server.unbind
  split
  · rename_i dead
    have nothing := census_of_dead dead
    apply Census.SameOn.eq_of id.connection <;> constructor <;> grind [Census.SameOn]
  · rename_i old live
    have same := census_sameOn live
    refine census_putBack live (isAfter.named _ old live) ?_ ?_
    · rw [Connection.census_unbind]
      constructor <;> grind [Census.SameOn]
    · constructor <;> grind

/-- A buffer that is destroyed leaves the census, wherever it is. -/
theorem IsAfter.census_destroyBuffer (id : BufferId) : (server.destroyBuffer id).census =
    { server.census with buffer := update server.census.buffer id none } := by
  unfold Server.destroyBuffer
  split
  · rename_i dead
    have nothing := census_of_dead dead
    apply Census.SameOn.eq_of id.connection <;> constructor <;> grind [Census.SameOn]
  · rename_i old live
    have same := census_sameOn live
    refine census_putBack live ?_ ?_ ?_
    · rw [Connection.destroyBuffer_eq]
      exact isAfter.named _ old live
    · rw [Connection.census_destroyBuffer]
      constructor <;> grind [Census.SameOn]
    · constructor <;> grind

/-- A pool that is destroyed leaves the census with its buffers. -/
theorem IsAfter.census_destroyPool (id : PoolId) : (server.destroyPool id).state.census =
    { server.census with
      pool := update server.census.pool id false
      buffer := fun buffer =>
        if server.census.buffer buffer = some id then none else server.census.buffer buffer } := by
  have own := @isAfter.pool_connection
  unfold Server.destroyPool
  split
  · rename_i dead
    have nothing := census_of_dead dead
    apply Census.SameOn.eq_of id.connection <;> constructor <;> grind [Census.SameOn]
  · rename_i old live
    have same := census_sameOn live
    have made := Connection.census_destroyPool (isAfter.enlisted live)
      (fun _ _ => isAfter.held live) id
    split
    · refine census_putBack live ?_ ?_ ?_
      · rw [Connection.destroyPool_frame]
        exact isAfter.named _ old live
      · rw [made]
        constructor <;> grind [Census.SameOn]
      · constructor <;> grind
    · rename_i dead
      have unchanged : old.destroyPool id = old := by
        rw [Connection.destroyPool, Option.not_isSome_iff_eq_none.mp dead]
      rw [unchanged] at made
      have noPool := congrFun (congrArg Census.pool made) id
      have noBuffer := congrFun (congrArg Census.buffer made)
      apply Census.SameOn.eq_of id.connection <;> constructor <;> grind [Census.SameOn]

/-- A surface that is destroyed leaves the census with its window surface and its toplevel, and
answers with the callbacks that waited. -/
theorem IsAfter.census_destroySurface {id : SurfaceId} {waiting : List CallbackId}
    (live : server.census.surface id = some waiting) :
    (server.destroySurface id).answer = waiting ∧
      (server.destroySurface id).state.census = { server.census with
        surface := update server.census.surface id none
        window := fun window =>
          if server.census.window window = some id then none else server.census.window window
        toplevel := fun toplevel =>
          if (server.census.toplevel toplevel).bind server.census.window = some id then none
          else server.census.toplevel toplevel } := by
  have window_own := @isAfter.surface_of_window
  have toplevel_own := @isAfter.window_of_toplevel
  obtain ⟨old, found, waits⟩ := Option.bind_eq_some_iff.mp live
  obtain ⟨record, held, rfl⟩ := Arena.exists_of_view waits
  have same := census_sameOn found
  cases done : old.destroySurface? id with
  | none => exact nomatch (Option.map_eq_none_iff.mp done).symm.trans held
  | some result =>
    obtain ⟨callbacks, left⟩ := result
    have answer : callbacks = record.waitingCallbacks := by
      simp only [Connection.destroySurface?, held, Option.map_some, Option.some.injEq,
        Prod.mk.injEq] at done
      exact done.1.symm
    have kept : left.id = old.id := by rw [Connection.destroySurface?_eq held done]
    have above (toplevel : ToplevelId) (own : toplevel.connection = id.connection) :
        (server.census.toplevel toplevel).bind server.census.window =
          (old.census.toplevel toplevel).bind old.census.window := by
      rw [← same.toplevel toplevel own]
      refine Option.bind_congr fun window opens => same.window window ?_
      exact (toplevel_own opens).1.trans own
    simp only [Server.destroySurface, found, done]
    refine ⟨answer, census_putBack found (kept.trans (isAfter.named _ old found)) ?_ ?_⟩
    · rw [Connection.census_destroySurface (isAfter.agree found) done]
      constructor <;> grind [Census.SameOn]
    · constructor <;> grind [Option.bind_eq_some_iff]

/-- A window surface that is destroyed leaves the census with its toplevel. -/
theorem IsAfter.census_destroyWindowSurface (id : WindowSurfaceId) :
    (server.destroyWindowSurface id).state.census = { server.census with
      window := update server.census.window id none
      toplevel := fun toplevel =>
        if server.census.toplevel toplevel = some id then none
        else server.census.toplevel toplevel } := by
  have own := @isAfter.window_of_toplevel
  unfold Server.destroyWindowSurface
  split
  · rename_i dead
    have nothing := census_of_dead dead
    apply Census.SameOn.eq_of id.connection <;> constructor <;> grind [Census.SameOn]
  · rename_i old live
    have same := census_sameOn live
    split
    · rename_i dead
      have gone : server.census.window id = none := by
        rw [same.window id rfl]
        exact congrArg (Option.map WindowSurface.surface) (Option.map_eq_none_iff.mp dead)
      apply Census.SameOn.eq_of id.connection <;> constructor <;> grind [Census.SameOn]
    · rename_i left done
      have kept : left.id = old.id := by
        obtain ⟨_, _, rfl⟩ := Connection.destroyWindowSurface?_eq_some done
        rfl
      refine census_putBack live (kept.trans (isAfter.named _ old live)) ?_ ?_
      · rw [Connection.census_destroyWindowSurface (isAfter.agree live) done]
        constructor <;> grind [Census.SameOn]
      · constructor <;> grind

/-- A toplevel that is destroyed leaves the census, wherever it is. -/
theorem IsAfter.census_destroyToplevel (id : ToplevelId) :
    (server.destroyToplevel id).state.census = { server.census with
      toplevel := update server.census.toplevel id none } := by
  unfold Server.destroyToplevel
  split
  · rename_i dead
    have nothing := census_of_dead dead
    apply Census.SameOn.eq_of id.connection <;> constructor <;> grind [Census.SameOn]
  · rename_i old live
    have same := census_sameOn live
    split
    · rename_i dead
      have gone : server.census.toplevel id = none := by
        rw [same.toplevel id rfl]
        exact congrArg (Option.map Toplevel.windowSurface) (Option.map_eq_none_iff.mp dead)
      apply Census.SameOn.eq_of id.connection <;> constructor <;> grind [Census.SameOn]
    · rename_i left done
      have kept : left.id = old.id := by
        obtain ⟨_, _, rfl⟩ := Connection.destroyToplevel?_eq_some done
        rfl
      refine census_putBack live (kept.trans (isAfter.named _ old live)) ?_ ?_
      · rw [Connection.census_destroyToplevel done]
        constructor <;> grind [Census.SameOn]
      · constructor <;> grind

end Withdrawing

section Waiting

/-- The census knows of a live surface which callbacks wait on it. -/
theorem census_surface_eq_some {id : SurfaceId} {waiting : List CallbackId} :
    server.census.surface id = some waiting ↔
      ∃ surface, server.surface? id = some surface ∧ surface.waitingCallbacks = waiting := by
  simp [census, Connection.census, Arena.view, surface?_eq_some, Option.bind_eq_some_iff]
  grind

variable (isAfter : IsAfter config server accepted drawn)

include isAfter

/-- A callback waits on one surface. -/
theorem IsAfter.waiting_apart {first second : SurfaceId} {waiting others : List CallbackId}
    (live : server.census.surface first = some waiting)
    (live' : server.census.surface second = some others) {callback : CallbackId}
    (waits : callback ∈ waiting) (waits' : callback ∈ others) : first = second := by
  obtain ⟨script, range, rfl, -, -⟩ := isAfter
  have requested {id : SurfaceId} {waiting : List CallbackId}
      (live : (after config script).census.surface id = some waiting) (waits : callback ∈ waiting) :
      callback ∈ history config (requests id) script := by
    obtain ⟨surface, found, rfl⟩ := census_surface_eq_some.mp live
    refine requested_of_waiting range ?_
    simpa [committedCallbacks, pendingCallbacks, found] using List.mem_append.mp waits
  exact eq_of_mem_requested range (requested live waits) (requested live' waits')

/-- The callbacks of a surface are in two lists, without repetition. -/
theorem IsAfter.waiting_nodup {id : SurfaceId} {waiting : List CallbackId}
    (live : server.census.surface id = some waiting) : waiting.Nodup := by
  obtain ⟨script, range, rfl, -, -⟩ := isAfter
  obtain ⟨surface, found, rfl⟩ := census_surface_eq_some.mp live
  have once := nodup_requested range id
  rw [requested_eq script range id] at once
  have listed : surface.waitingCallbacks =
      (after config script).committedCallbacks id ++ (after config script).pendingCallbacks id := by
    simp [committedCallbacks, pendingCallbacks, found, Surface.waitingCallbacks]
  rw [listed]
  grind [List.nodup_append]

/-- A new callback waits nowhere yet. -/
theorem IsAfter.waiting_fresh {id : SurfaceId}
    (room : accepted + (Operation.frame id).accepted ≤ UInt32.size)
    (rooms : ∀ client, drawn client + server.drawnBy host (.frame id) client ≤ UInt32.size)
    {callback : CallbackId} (given : (server.frame id).answer = .ok callback)
    {other : SurfaceId} {waiting : List CallbackId}
    (live : server.census.surface other = some waiting) : callback ∉ waiting := by
  obtain ⟨script, range, rfl, rfl, rfl⟩ := isAfter
  intro waits
  have drawnConcat := drawnAfter_concat config script host (.frame id)
  have extended : (Server.start config).state.InRange (script ++ [(host, .frame id)]) :=
    ⟨by rw [accepted_concat]; exact room,
      fun client => Nat.le_trans (Nat.le_of_eq (drawnConcat client)) (rooms client)⟩
  have requested : callback ∈ (after config script).requests id host (.frame id) :=
    mem_requests_iff.mpr ⟨rfl, by simp [step, Outcome.map, Answer.ofAttempt, given]⟩
  refine notMem_requested extended requested other (requested_of_waiting range ?_)
  obtain ⟨surface, found, rfl⟩ := census_surface_eq_some.mp live
  simpa [committedCallbacks, pendingCallbacks, found] using List.mem_append.mp waits

end Waiting

section Coming

/-- A client that is accepted holds nothing yet. -/
theorem IsAfter.census_connect (isAfter : IsAfter config server accepted drawn)
    (room : accepted + 1 ≤ UInt32.size) : server.connect.state.census = server.census := by
  have found := connection?_next_connect server .withFile
  have fresh : server.connection? ⟨server.nextConnection⟩ = none :=
    Arena.get?_eq_none_of_notMem (isAfter.accounted.notMem room)
  apply Census.SameOn.eq_of ⟨server.nextConnection⟩
  · exact (census_sameOn ((found ⟨server.nextConnection⟩).trans (if_pos rfl))).trans
      (census_of_dead fresh).symm
  · exact sameOn_of_connection? fun id apart => (found id).trans (if_neg apart)

variable (server) in
/-- Who is accepted is connected. -/
theorem isConnected_connect (id : ConnectionId) : server.connect.state.isConnected id =
    (decide (id = ⟨server.nextConnection⟩) || server.isConnected id) := by
  have found := connection?_next_connect server .withFile id
  change Option.isSome (server.connect.state.connection? id) =
    (_ || Option.isSome (server.connection? id))
  change server.connect.state.connection? id = _ at found
  rw [found]
  split <;> simp_all

/-- What a connection held goes with it. -/
theorem census_disconnect (gone : ConnectionId) :
    (server.disconnect gone).state.census = server.census.without (· = gone) := by
  have found := connection?_next_disconnect server .withFile gone
  apply Census.SameOn.eq_of gone
  · refine (census_of_dead ((found gone).trans (if_pos rfl))).trans ?_
    constructor <;> rintro id rfl <;> simp [Census.without]
  · refine (sameOn_of_connection? fun id apart => (found id).trans (if_neg apart)).trans ?_
    constructor <;> intro id apart <;> simp [Census.without, apart]

/-- Who is dropped is not connected. -/
theorem isConnected_disconnect (gone id : ConnectionId) :
    (server.disconnect gone).state.isConnected id =
      if id = gone then false else server.isConnected id := by
  have found : (server.disconnect gone).state.connection? id = _ :=
    connection?_next_disconnect server .withFile gone id
  have connected (server : Server) : server.isConnected id = (server.connection? id).isSome := rfl
  rw [connected, connected, found]
  split <;> rfl

/-- Between coming and going the same connections stay, in the same order. -/
theorem keys_next_of_isWithin (named : server.Named) (host : Host) (operation : Operation)
    (within : operation.isWithin = true) :
    (server.next host operation).connections.keys = server.connections.keys := by
  refine (effect_next named host operation ?_ ?_).keys
  · rintro rfl
    cases within
  · rintro _ rfl
    cases within

/-- What is done within connections keeps everybody connected. -/
theorem isConnected_next (named : server.Named) (host : Host) (operation : Operation)
    (within : operation.isWithin = true) (id : ConnectionId) :
    (server.next host operation).isConnected id = server.isConnected id := by
  have keys := keys_next_of_isWithin named host operation within
  rw [isConnected, isConnected, Bool.eq_iff_iff, Arena.contains_iff_mem_keys,
    Arena.contains_iff_mem_keys, keys]

end Coming

end Server

end DisplayServer
