import DisplayServer.Proofs.Isolation
import DisplayServer.Proofs.Teardown

/-! # Disconnection is local and final

A connection goes with all that it holds, and with the entries of its surfaces in the view, and
nothing else changes (`Server.IsAfter.disconnect_eq`). The same is left when its surfaces are
destroyed one by one, in any order, then its pools, and the connection is dropped. Nothing is left
for it to hold then, as every window stands on a surface, and every buffer lies in a pool.

Its number is not given to anybody else. So from then on, whatever is asked of the connection or of
a handle of it is asked in vain (`Server.disconnection_final`).
-/

namespace DisplayServer

/-- The script that destroys surfaces, then pools. -/
def Script.tearingDown (host : Host) (surfaces : List SurfaceId) (pools : List PoolId) : Script :=
  (surfaces.map fun id => (host, .destroySurface id)) ++
    pools.map fun id => (host, .destroyPool id)

/-- An operation is given a connection or one of its handles. -/
def Operation.Names (connection : ConnectionId) (operation : Operation) : Prop :=
  operation.addressee? = some connection ∨
    ∃ surface buffer offset, operation = .attach surface (.buffer buffer) offset ∧
      buffer.connection = connection

/-- An operation has nothing to fail for: it lets go of something, or asks for what waits. -/
def Operation.neverFails : Operation → Bool
  | disconnect _ | takeEvents _ | unbind _ | destroyPool _ | destroyBuffer _ | destroySurface _
  | destroyWindowSurface _ | destroyToplevel _ => true
  | _ => false

private theorem Arena.foldl_erase_eq_filter {κ α : Type} [DecidableEq κ] (arena : Arena κ α)
    (keys : List κ) : keys.foldl erase arena = arena.filter fun key _ => decide (key ∉ keys) := by
  induction keys generalizing arena with
  | nil => exact (filter_eq_self fun _ _ _ => by simp).symm
  | cons first rest ih =>
    rw [List.foldl_cons, ih]
    simp only [erase, filter, List.filter_filter]
    refine congrArg mk (List.filter_congr fun entry _ => ?_)
    by_cases here : entry.1 = first <;> simp [here]

namespace Server

/-- A server without a connection, and without the entries of its surfaces in the view. -/
def without (server : Server) (connection : ConnectionId) : Server :=
  { server with
    connections := server.connections.erase connection
    publisher := { server.publisher with
      view := server.publisher.view.filter fun surface _ =>
        decide (surface.connection ≠ connection) } }

/-- An operation is carried out in vain: it leaves the server as it is, and it fails unless there is
nothing that it could fail for. -/
def InVain (server : Server) (host : Host) (operation : Operation) : Prop :=
  server.next host operation = server ∧
    ((∃ cause, (server.step host operation).answer = .failed cause) ∨
      operation.neverFails = true ∧
        (server.step host operation).answer ∈ [.done, .callbacks [], .events []])

/-- Other clients do not notice that a connection is gone. -/
structure LosesOnly (server after : Server) (connection : ConnectionId) : Prop where
  others : ∀ other ≠ connection, after.connection? other = server.connection? other
  entries : ∀ surface : SurfaceId, surface.connection ≠ connection →
    after.entryOf? surface = server.entryOf? surface
  unseen : ∀ surface : SurfaceId, surface.connection = connection → after.entryOf? surface = none
  exactly : after = server.without connection

/-- The bulk of a connection goes as it would piece by piece. The surfaces and pools come in any
order, and in the end the connection has none of them left, and no window and no buffer. -/
structure GoesPiecewise (server after : Server) (client : Connection) : Prop where
  dropped : ∀ host surfaces pools, (∀ id, id ∈ surfaces ↔ id ∈ client.surfaces.keys) →
    (∀ id, id ∈ pools ↔ id ∈ client.pools.keys) →
    let bare := server.run (Script.tearingDown host surfaces pools)
    after = { bare with connections := bare.connections.erase client.id } ∧
      ∀ (kind : ObjectKind) (handle : Handle kind), kind ≠ .binding → bare.IsLive handle →
        handle.connection ≠ client.id

/-- **A connection is gone.** Nothing can be done with it or found of it. -/
structure Gone (server : Server) (connection : ConnectionId) : Prop where
  isConnected : server.isConnected connection = false
  inVain : ∀ host operation, operation.Names connection → server.InVain host operation
  lookup : server.connection? connection = none
  binding : ∀ id : BindingId, id.connection = connection → server.binding? id = none
  pool : ∀ id : PoolId, id.connection = connection → server.pool? id = none
  buffer : ∀ id : BufferId, id.connection = connection → server.buffer? id = none
  surface : ∀ id : SurfaceId, id.connection = connection → server.surface? id = none
  windowSurface : ∀ id : WindowSurfaceId, id.connection = connection →
    server.windowSurface? id = none
  toplevel : ∀ id : ToplevelId, id.connection = connection → server.toplevel? id = none
  windowSurfaceOf : ∀ id : SurfaceId, id.connection = connection → server.windowSurfaceOf? id = none
  toplevelOf : ∀ id : WindowSurfaceId, id.connection = connection → server.toplevelOf? id = none
  entry : ∀ id : SurfaceId, id.connection = connection → server.entryOf? id = none
  taken : (server.takeEvents connection).1 = []
  drained : ∀ event ∈ server.drainEvents.1, event.1 ≠ connection

section Dead

variable {server : Server} {connection : ConnectionId} {host : Host} {operation : Operation}

/-- Work on a connection that is not live is refused. -/
theorem onConnection_of_dead {α ε : Type} (dead : server.connection? connection = none)
    (cause : ε) (work : Connection → Except ε (α × Connection)) :
    server.onConnection connection cause work = .error cause := by
  simp only [onConnection, dead]

/-- What is refused is in vain. -/
theorem InVain.of_refused {α ε : Type} {failure : ε → Failure} {success : α → Answer}
    {outcome : Outcome Server (Except ε α)} (cause : ε)
    (step : server.step host operation = outcome.map (.ofAttempt failure success))
    (refused : outcome = .refuse server cause) : server.InVain host operation := by
  rw [refused] at step
  exact ⟨congrArg Outcome.state step, .inl ⟨failure cause, congrArg Outcome.answer step⟩⟩

/-- An attempt on a dead connection is refused. -/
theorem InVain.of_attempt {α ε : Type} {failure : ε → Failure} {success : α → Answer}
    {log : List LogMessage} {cause : ε} {work : Connection → Except ε (α × Connection)}
    (dead : server.connection? connection = none)
    (step : server.step host operation = (Outcome.ofAttempt server log
      (server.onConnection connection cause work)).map (.ofAttempt failure success)) :
    server.InVain host operation := by
  refine .of_refused cause step ?_
  rw [onConnection_of_dead dead]
  rfl

/-- **Whatever is addressed to a dead connection is in vain.** -/
theorem inVain_of_addressee (dead : server.connection? connection = none)
    (addressed : operation.addressee? = some connection) : server.InVain host operation := by
  cases operation with
  | connect | drainEvents | presentAll _ | subscribeMetadata | subscribeBroadcast | unsubscribe _
  | receiveMetadata _ | receiveBroadcast _ | nextMetadata _ | nextSnapshot _ => cases addressed
  | disconnect _ | destroyPool _ | destroySurface _ | destroyWindowSurface _ | destroyToplevel _ =>
    cases addressed
    refine ⟨?_, .inr ⟨rfl, ?_⟩⟩ <;>
      simp [next, step, Outcome.map, Server.disconnect, Server.destroyPool, Server.destroySurface,
        Server.destroyWindowSurface, Server.destroyToplevel, dead]
  | takeEvents _ | unbind _ | destroyBuffer _ =>
    cases addressed
    refine ⟨?_, .inr ⟨rfl, ?_⟩⟩ <;>
      simp [next, step, Server.takeEvents, Server.unbind, Server.destroyBuffer, dead]
  | readBuffer _ | peekBuffer _ _ | snapshot _ =>
    cases addressed
    exact .of_refused .dead rfl (by simp only [Server.readBuffer, peekBuffer,
      Server.snapshot, withContents, dead])
  | bind _ name version =>
    cases addressed
    obtain ⟨cause, refused⟩ : ∃ cause, server.bind connection name version =
        .refuse server cause := by
      unfold Server.bind
      split
      · exact ⟨_, rfl⟩
      split
      · exact ⟨_, rfl⟩
      rw [onConnection_of_dead dead]
      exact ⟨_, rfl⟩
    exact .of_refused cause rfl refused
  | createPool _ descriptor size =>
    cases addressed
    exact .of_refused .dead rfl (by simp only [Server.createPool, dead])
  | resizePool _ _ =>
    cases addressed
    exact .of_refused .dead rfl (by simp only [Server.resizePool, dead])
  | commit _ =>
    cases addressed
    exact .of_refused .dead rfl (by simp only [Server.commit, dead])
  | frame _ =>
    cases addressed
    exact .of_refused .dead rfl (by simp only [Server.frame, dead])
  | getWindowSurface _ =>
    cases addressed
    exact .of_refused .invalidSurface rfl (by simp only [Server.getWindowSurface, dead])
  | sendConfigure _ _ =>
    cases addressed
    exact .of_refused .dead rfl (by simp only [Server.sendConfigure, dead])
  | ackConfigure _ _ =>
    cases addressed
    exact .of_refused .dead rfl (by simp only [Server.ackConfigure, dead])
  | createBuffer _ _ | createSurface _ _ | attach _ _ _ | setOffset _ _ | addDamage _ _
  | setScale _ _ | setTransform _ _ | present _ _ | giveRole _ _ | getToplevel _
  | setWindowGeometry _ _ | setTitle _ _ | setAppId _ _ =>
    cases addressed
    exact .of_attempt dead rfl

/-- A buffer is attached to a surface of another client in vain. -/
theorem inVain_attach {surface : SurfaceId} {buffer : BufferId} {offset : Point}
    (apart : buffer.connection ≠ surface.connection) :
    server.InVain host (.attach surface (.buffer buffer) offset) := by
  cases found : server.connection? surface.connection with
  | none => exact inVain_of_addressee found rfl
  | some client =>
    have foreign : client.mayAttach surface (.buffer buffer) = false := by
      rw [Connection.mayAttach, decide_eq_false apart, Bool.false_and]
    obtain ⟨cause, failed⟩ : ∃ cause,
        client.attach surface (.buffer buffer) offset = .error cause := by
      unfold Connection.attach
      split
      · exact ⟨_, rfl⟩
      split
      · exact ⟨_, rfl⟩
      rw [foreign]
      exact ⟨_, rfl⟩
    refine .of_refused cause rfl ?_
    simp only [Server.attach, onConnection, found, failed]
    rfl

/-- What names something of a connection that is not live is in vain. -/
theorem inVain_of_names (dead : server.connection? connection = none)
    (names : operation.Names connection) : server.InVain host operation := by
  rcases names with addressed | ⟨surface, buffer, offset, rfl, rfl⟩
  · exact inVain_of_addressee dead addressed
  · by_cases own : surface.connection = buffer.connection
    · exact inVain_of_addressee dead (congrArg some own)
    · exact inVain_attach (Ne.symm own)

/-- Nothing is found of a connection that is dead. -/
theorem Gone.of_dead (dead : server.connection? connection = none)
    (unseen : ∀ id : SurfaceId, id.connection = connection → server.entryOf? id = none) :
    server.Gone connection where
  isConnected := congrArg Option.isSome dead
  inVain _ _ names := inVain_of_names dead names
  lookup := dead
  binding _ own := by rw [binding?, own, dead]; rfl
  pool _ own := by rw [pool?, own, dead]; rfl
  buffer _ own := by rw [buffer?, own, dead]; rfl
  surface _ own := by rw [surface?, own, dead]; rfl
  windowSurface _ own := by rw [windowSurface?, own, dead]; rfl
  toplevel _ own := by rw [toplevel?, own, dead]; rfl
  windowSurfaceOf _ own := by rw [windowSurfaceOf?, own, dead]; rfl
  toplevelOf _ own := by rw [toplevelOf?, windowSurface?, own, dead]; rfl
  entry := unseen
  taken := by simp only [takeEvents, dead]
  drained := by
    rintro ⟨owner, event⟩ listed rfl
    obtain ⟨⟨key, client⟩, held, shown⟩ := List.mem_flatMap.mp listed
    obtain ⟨_, _, same⟩ := List.mem_map.mp shown
    cases same
    obtain ⟨_, live⟩ := Arena.get?_of_mem_keys (List.mem_map.mpr ⟨_, held, rfl⟩)
    cases dead.symm.trans live

end Dead

section Local

variable {config : Config} {server : Server} {accepted : Nat} {drawn : ConnectionId → Nat}
  {connection : ConnectionId} {client : Connection} {host : Host}

/-- The view has no entries but those of live surfaces. -/
theorem IsAfter.isLive_of_entry (isAfter : IsAfter config server accepted drawn) {id : SurfaceId}
    {metadata : Metadata} (listed : (id, metadata) ∈ server.publisher.view.entries) :
    server.IsLive id := by
  obtain ⟨_, entry⟩ := Arena.get?_of_mem_keys (List.mem_map.mpr ⟨_, listed, rfl⟩)
  by_contra dead
  have gone : server.surface? id = none := by
    by_contra live
    exact dead (isLive_surface_iff.mpr (Option.ne_none_iff_exists'.mp live))
  cases (isAfter.entryOf?_eq_none gone).symm.trans entry

/-- **What a connection takes along** is what it holds, and the entries of its surfaces. -/
theorem IsAfter.disconnect_eq (isAfter : IsAfter config server accepted drawn)
    (found : server.connection? connection = some client) :
    server.next host (.disconnect connection) = server.without connection := by
  have view : client.surfaces.keys.foldl Arena.erase server.publisher.view =
      server.publisher.view.filter fun surface _ => decide (surface.connection ≠ connection) := by
    rw [Arena.foldl_erase_eq_filter]
    refine congrArg Arena.mk (List.filter_congr fun entry listed => decide_eq_decide.mpr ?_)
    constructor
    · rintro unlisted rfl
      obtain ⟨owner, live, held⟩ := isAfter.isLive_of_entry listed
      cases found.symm.trans live
      exact unlisted held
    · intro apart held
      have listed : entry.1 ∈ client.handles .surface := held
      exact apart (isAfter.own found listed)
  change (server.disconnect connection).state = _
  simp only [disconnect, found, Publisher.foldl_forget_view, view, without]

/-- A server that drops a client loses only what was on its connection. -/
theorem IsAfter.losesOnly_disconnect (isAfter : IsAfter config server accepted drawn)
    (found : server.connection? connection = some client) :
    server.LosesOnly (server.next host (.disconnect connection)) connection where
  others other apart := by rw [connection?_next_disconnect, if_neg apart]
  entries surface apart := by
    obtain ⟨script, _, rfl, _, _⟩ := isAfter
    rw [entryOf?_next_disconnect (owned_after config script), if_neg fun both => apart both.1]
  unseen surface own := by
    have reached := isAfter.next_of_drawless host (.disconnect connection) rfl
    refine reached.entryOf?_eq_none ?_
    rw [surface?, own, connection?_next_disconnect, if_pos rfl]
    rfl
  exactly := isAfter.disconnect_eq found

end Local

section Piecewise

variable {config : Config} {server after : Server} {accepted : Nat} {drawn : ConnectionId → Nat}
  {connection : ConnectionId} {client : Connection} {host : Host} {operation : Operation}
  {kind : ObjectKind} {handle : Handle kind}

/-- Dropping a connection takes along what it was emptied of. -/
theorem without_eq_of_emptied (same : after.emptied connection = server.emptied connection) :
    after.without connection = server.without connection := by
  have erased (server : Server) : server.without connection =
      { server.emptied connection with
        connections := (server.emptied connection).connections.erase connection } := by
    let spared (id : ConnectionId) : Bool := decide (id ≠ connection)
    have dropped : spared connection = false := by simp [spared]
    have gone : (server.connections.modify connection Connection.emptied).erase connection =
        server.connections.erase connection :=
      Arena.filter_modify server.connections dropped Connection.emptied
    simp only [without, emptied, gone]
  rw [erased, erased, same]

/-- No handle starts to resolve where none is drawn. -/
theorem isLive_of_next (named : server.Named) (drawless : operation.draws = false)
    (live : (server.next host operation).IsLive handle) : server.IsLive handle := by
  obtain ⟨new, reached, listed⟩ := live
  rcases connection?_next named reached with ⟨rfl, _⟩ | ⟨old, found, change⟩
  · cases drawless
  · exact ⟨old, found, ((change.drewNone drawless).2 kind).subset listed⟩

/-- What is live after a withdrawal was so before. -/
theorem Withdrawn.isLive_before (withdrawn : Withdrawn connection server after)
    (isAfter : IsAfter config server accepted drawn) (live : after.IsLive handle) :
    server.IsLive handle := by
  induction withdrawn with
  | refl => exact live
  | tail before step ih =>
    obtain ⟨operation, withdraws, rfl⟩ := step
    have named := (Withdrawn.isAfter before isAfter).named
    exact ih (isLive_of_next named (Operation.draws_of_withdrawal? withdraws) live)

/-- Whatever is taken away, the surroundings do not matter. -/
theorem next_of_withdrawal? (withdraws : operation.withdrawal? = some connection)
    (host other : Host) : server.next host operation = server.next other operation := by
  cases operation <;> first | rfl | cases withdraws

section Destroying

variable {destroy : Handle kind → Operation}
  (withdraws : ∀ id : Handle kind, (destroy id).withdrawal? = some id.connection)

include withdraws

/-- To destroy objects of a client one by one is a withdrawal. -/
theorem withdrawn_run {ids : List (Handle kind)} (own : ∀ id ∈ ids, id.connection = connection) :
    Withdrawn connection server (server.run (ids.map fun id => (host, destroy id))) := by
  induction ids generalizing server with
  | nil => exact .refl
  | cons first rest ih =>
    have here := (withdraws first).trans (congrArg some (own first List.mem_cons_self))
    refine .head ⟨destroy first, here, rfl⟩ ?_
    rw [next_of_withdrawal? here .withFile host]
    exact ih fun id listed => own id (List.mem_cons_of_mem _ listed)

/-- Of things that are destroyed one after the other, none is left. -/
theorem not_isLive_run
    (kills : ∀ {server}, IsAfter config server accepted drawn → ∀ id,
      ¬ (server.next host (destroy id)).IsLive id)
    (isAfter : IsAfter config server accepted drawn) {ids : List (Handle kind)}
    (own : ∀ id ∈ ids, id.connection = connection) :
    ∀ id ∈ ids, ¬ (server.run (ids.map fun id => (host, destroy id))).IsLive id := by
  induction ids generalizing server with
  | nil => exact fun _ listed => (List.not_mem_nil listed).elim
  | cons first rest ih =>
    have next := isAfter.next_of_drawless host (destroy first)
      (Operation.draws_of_withdrawal? (withdraws first))
    have later (id : Handle kind) (listed : id ∈ rest) : id.connection = connection :=
      own id (List.mem_cons_of_mem _ listed)
    intro id listed live
    rcases List.mem_cons.mp listed with rfl | behind
    · have before := (withdrawn_run withdraws later).isLive_before next live
      exact kills isAfter id before
    · exact ih next later id behind live

end Destroying

/-- A surface that was destroyed is not live. -/
theorem not_isLive_destroySurface (isAfter : IsAfter config server accepted drawn)
    (id : SurfaceId) : ¬ (server.next host (.destroySurface id)).IsLive id := by
  intro live
  have before : server.IsLive id := isLive_of_next isAfter.named rfl live
  obtain ⟨waiting, waits⟩ := Option.ne_none_iff_exists'.mp (census_holds_iff.mpr before)
  have left := (isAfter.census_destroySurface waits).2
  have held : (server.destroySurface id).state.census.surface id ≠ none := census_holds_iff.mpr live
  rw [left] at held
  exact held (Function.update_self ..)

/-- A pool that was destroyed is not live. -/
theorem not_isLive_destroyPool (isAfter : IsAfter config server accepted drawn) (id : PoolId) :
    ¬ (server.next host (.destroyPool id)).IsLive id := by
  intro live
  have held : (server.destroyPool id).state.census.pool id = true := census_holds_iff.mpr live
  rw [isAfter.census_destroyPool id] at held
  exact Bool.noConfusion ((Function.update_self (β := fun _ => Bool) ..).symm.trans held)

/-- Without surfaces and pools a connection has nothing but bindings. -/
theorem IsAfter.bare_of_dead (isAfter : IsAfter config server accepted drawn)
    (surfaceless : ∀ id : SurfaceId, server.IsLive id → id.connection ≠ connection)
    (poolless : ∀ id : PoolId, server.IsLive id → id.connection ≠ connection)
    (unbound : kind ≠ .binding) (live : server.IsLive handle) :
    handle.connection ≠ connection := by
  rintro rfl
  have windowless (id : WindowSurfaceId) (live : server.IsLive id) :
      id.connection ≠ handle.connection := by
    intro own
    obtain ⟨surface, shows⟩ := Option.ne_none_iff_exists'.mp (census_holds_iff.mpr live)
    obtain ⟨same, held⟩ := isAfter.surface_of_window shows
    exact surfaceless surface (census_holds_iff.mp held) (same.trans own)
  cases kind with
  | binding => exact unbound rfl
  | pool => exact poolless handle live rfl
  | buffer =>
    obtain ⟨client, found, listed⟩ := live
    obtain ⟨buffer, held⟩ := Arena.get?_of_mem_keys listed
    obtain ⟨pool, backed, _⟩ := isAfter.held found held
    have listed : buffer.pool ∈ client.handles .pool := Arena.mem_keys_of_get? backed
    have own := isAfter.own found listed
    exact poolless buffer.pool ⟨client, own ▸ found, listed⟩ own
  | surface => exact surfaceless handle live rfl
  | windowSurface => exact windowless handle live rfl
  | toplevel =>
    obtain ⟨window, opens⟩ := Option.ne_none_iff_exists'.mp (census_holds_iff.mpr live)
    obtain ⟨same, held⟩ := isAfter.window_of_toplevel opens
    exact windowless window (census_holds_iff.mp held) same
  | callback =>
    obtain ⟨_, _, listed⟩ := live
    cases listed

/-- **The bulk of a connection goes as it would piece by piece.** -/
theorem IsAfter.goesPiecewise (isAfter : IsAfter config server accepted drawn)
    (found : server.connection? connection = some client) :
    server.GoesPiecewise (server.next host (.disconnect connection)) client := by
  have named : client.id = connection := isAfter.named _ client found
  subst named
  constructor
  intro host' surfaces pools allSurfaces allPools bare
  have ownSurfaces (id : SurfaceId) (listed : id ∈ surfaces) : id.connection = client.id :=
    isAfter.own found ((allSurfaces id).mp listed : id ∈ client.handles .surface)
  have ownPools (id : PoolId) (listed : id ∈ pools) : id.connection = client.id :=
    isAfter.own found ((allPools id).mp listed : id ∈ client.handles .pool)
  let middle := server.run (surfaces.map fun id => (host', .destroySurface id))
  have parts : bare = middle.run (pools.map fun id => (host', .destroyPool id)) := run_append ..
  have first : Withdrawn client.id server middle := withdrawn_run (fun _ => rfl) ownSurfaces
  have second : Withdrawn client.id middle bare := by
    rw [parts]
    exact withdrawn_run (fun _ => rfl) ownPools
  have reached := first.isAfter isAfter
  have left := second.isAfter reached
  have both : Withdrawn client.id server bare := first.trans second
  have surfaceless (id : SurfaceId) (live : bare.IsLive id) : id.connection ≠ client.id := by
    intro own
    obtain ⟨owner, held, listed⟩ := both.isLive_before isAfter live
    rw [own] at held
    cases found.symm.trans held
    exact not_isLive_run (fun _ => rfl) not_isLive_destroySurface isAfter ownSurfaces id
      ((allSurfaces id).mpr listed) (second.isLive_before reached live)
  have poolless (id : PoolId) (live : bare.IsLive id) : id.connection ≠ client.id := by
    intro own
    obtain ⟨owner, held, listed⟩ := both.isLive_before isAfter live
    rw [own] at held
    cases found.symm.trans held
    rw [parts] at live
    exact not_isLive_run (fun _ => rfl) not_isLive_destroyPool reached ownPools id
      ((allPools id).mpr listed) live
  refine ⟨?_, fun _ _ unbound live => left.bare_of_dead surfaceless poolless unbound live⟩
  have view : (bare.publisher.view.filter fun surface _ =>
      decide (surface.connection ≠ client.id)) = bare.publisher.view :=
    Arena.filter_eq_self fun surface _ listed =>
      decide_eq_true (surfaceless surface (left.isLive_of_entry listed))
  rw [isAfter.disconnect_eq found, ← without_eq_of_emptied (both.emptied_eq isAfter), without, view]

end Piecewise

section Final

variable {config : Config} {script : Script} {connection : ConnectionId} {client : Connection}

/-- A connection that is dropped stays away, as its number is not given out again. -/
theorem gone_after {host : Host} {back : Script}
    (live : (after config script).connection? connection = some client)
    (range : (Server.start config).state.InRange
      (script ++ (host, .disconnect connection) :: back)) :
    (after config (script ++ (host, .disconnect connection) :: back)).Gone connection := by
  have parts : script ++ (host, .disconnect connection) :: back =
      (script ++ [(host, .disconnect connection)]) ++ back := by simp
  rw [parts] at range ⊢
  have numbered := (accounted_after script range.of_append.of_append).below connection
    (Arena.mem_keys_of_get? live)
  have dropped : connection ∉
      (after config (script ++ [(host, .disconnect connection)])).connections.keys := by
    intro listed
    obtain ⟨new, found⟩ := Arena.get?_of_mem_keys listed
    change Server.connection? _ connection = _ at found
    rw [after_concat, connection?_next_disconnect, if_pos rfl] at found
    cases found
  have dead := Arena.get?_eq_none_of_notMem
    (not_isConnected_of_gone range (by rw [accepted_concat]; exact numbered) dropped)
  refine .of_dead dead fun surface own => ?_
  have reached : IsAfter config _ _ _ := ⟨_, range, rfl, rfl, rfl⟩
  refine reached.entryOf?_eq_none ?_
  rw [surface?, own]
  exact congrArg (fun client => client >>= _) dead

/-- **Disconnection is local and final.** Take any script in range and a client that is connected
after it. When it is disconnected, other clients lose nothing, and what is left is what is left when
its surfaces, then its pools are destroyed and the connection is dropped. Whatever is done from then
on, as long as no number runs out, the connection is gone. -/
theorem disconnection_final (config : Config) (script : Script) {connection : ConnectionId}
    {client : Connection} (range : (Server.start config).state.InRange script)
    (live : (after config script).connection? connection = some client) (host : Host) :
    (after config script).LosesOnly ((after config script).next host (.disconnect connection))
        connection ∧
      (after config script).GoesPiecewise
        ((after config script).next host (.disconnect connection)) client ∧
      ∀ back, (Server.start config).state.InRange
          (script ++ (host, .disconnect connection) :: back) →
        (after config (script ++ (host, .disconnect connection) :: back)).Gone connection := by
  have isAfter : IsAfter config (after config script) _ _ := ⟨script, range, rfl, rfl, rfl⟩
  refine ⟨isAfter.losesOnly_disconnect live, isAfter.goesPiecewise live, fun back range => ?_⟩
  exact gone_after live range

/-- A client that shows a buffer goes away, and its neighbour goes on. -/
theorem disconnection_final_neighbours :
    (Server.start {}).state.InRange Script.neighbours ∧
      ∃ client, (after {} (Script.neighbours.take 14)).connection? ⟨0⟩ = some client ∧
        (after {} (Script.neighbours.take 14)).GoesPiecewise
          ((after {} (Script.neighbours.take 14)).next .withFile (.disconnect ⟨0⟩)) client ∧
        (after {} Script.neighbours).Gone ⟨0⟩ := by
  have range : (Server.start {}).state.InRange Script.neighbours :=
    inRange_of_length _ (by decide)
  have early : (Server.start {}).state.InRange (Script.neighbours.take 14) :=
    inRange_of_length _ (by decide)
  obtain ⟨client, live⟩ : ∃ client,
    (after {} (Script.neighbours.take 14)).connection? ⟨0⟩ = some client := ⟨_, rfl⟩
  obtain ⟨_, piecewise, final⟩ := disconnection_final {} _ early live .withFile
  exact ⟨range, client, live, piecewise, final (Script.neighbours.drop 15) range⟩

end Final

end Server

end DisplayServer
