import DisplayServer.Proofs.Dispatching
import DisplayServer.Proofs.Stepping

/-! # Teardown

When all objects of a client are destroyed, whatever the order, everything goes that its connection
holds on the server and that the frontend keeps for it, and nothing else
(`Frontend.teardown_leaves_nothing`). Each object lets go of what it stands for (`Frontend.Sheds`),
which leaves the rest of the frontend alone; so after the last one, what is left without the
connection is what there was without it in the beginning (`Frontend.Unravels`), and the connection
itself has nothing any more (`Ties.Free`).
-/

namespace DisplayServer

open Function (update)
open Relation (ReflTransGen)
open Wire

/-- A client that waits for a frame closes. -/
def Life.closed : Life :=
  framed ++ [.act .withFile (.close 0)]

/-- A filter that drops nothing. -/
theorem Arena.filter_eq_self {κ α : Type} {arena : Arena κ α} {test : κ → α → Bool}
    (kept : ∀ key value, (key, value) ∈ arena.entries → test key value = true) :
    arena.filter test = arena :=
  congrArg mk (List.filter_eq_self.mpr fun entry listed => kept entry.1 entry.2 listed)

/-- A filter of keys that drops none that is live. -/
theorem Arena.filter_key_eq_self {κ α : Type} [DecidableEq κ] {arena : Arena κ α} {test : κ → Bool}
    (kept : ∀ key value, arena.get? key = some value → test key = true) :
    (arena.filter fun key _ => test key) = arena := by
  refine filter_eq_self fun key value listed => ?_
  obtain ⟨value', found⟩ := get?_of_mem_keys (List.mem_map.mpr ⟨_, listed, rfl⟩ : key ∈ arena.keys)
  exact kept key value' found

private theorem Arena.eq_empty_of_keys {κ α : Type} {arena : Arena κ α} (none : arena.keys = []) :
    arena = .empty := by
  obtain ⟨entries⟩ := arena
  exact congrArg mk (List.map_eq_nil_iff.mp none)

/-- A connection without live objects is empty. -/
theorem Connection.emptied_eq_self {client : Connection} (none : ∀ kind, client.handles kind = []) :
    client.emptied = client := by
  obtain ⟨id, bindings, pools, buffers, surfaces, windowSurfaces, toplevels, events, nextIndex⟩ :=
    client
  have bindings := Arena.eq_empty_of_keys (none .binding)
  have pools := Arena.eq_empty_of_keys (none .pool)
  have buffers := Arena.eq_empty_of_keys (none .buffer)
  have surfaces := Arena.eq_empty_of_keys (none .surface)
  have windowSurfaces := Arena.eq_empty_of_keys (none .windowSurface)
  have toplevels := Arena.eq_empty_of_keys (none .toplevel)
  simp only at bindings pools buffers surfaces windowSurfaces toplevels
  subst bindings pools buffers surfaces windowSurfaces toplevels
  rfl

namespace Server

variable {config : Config} {server : Server} {accepted : Nat} {drawn : ConnectionId → Nat}
  {connection : ConnectionId}

/-- A surface that is not live has no entry in the view. -/
theorem IsAfter.entryOf?_eq_none (isAfter : IsAfter config server accepted drawn) {id : SurfaceId}
    (dead : server.surface? id = none) : server.entryOf? id = none := by
  obtain ⟨script, range, rfl, -, -⟩ := isAfter
  induction script using List.reverseRecOn with
  | nil => rfl
  | append_singleton script entry ih =>
    obtain ⟨host, operation⟩ := entry
    have ready := ready_after range
    have absent := ih range.of_append
    rw [after_concat] at dead ⊢
    by_cases commits : operation = .commit id
    · subst commits
      rw [entryOf?_next_commit ready.named, if_pos rfl]
      cases live : (after config script).surface? id with
      | none => rw [announced_eq_none live, absent live, Option.none_or]
      | some surface =>
        obtain ⟨client, -, reached⟩ := surface?_next_commit ready.named host live
        cases dead.symm.trans reached
    · rw [ready.entryOf?_next (owned_after config script) commits absent, dead]
      rfl

/-- A connection holds nothing. -/
def HoldsNothing (server : Server) (connection : ConnectionId) : Prop :=
  ∀ (kind : ObjectKind) (handle : Handle kind), server.IsLive handle →
    handle.connection ≠ connection

/-- What a connection without anything shows in the view. -/
theorem IsAfter.unseen (isAfter : IsAfter config server accepted drawn)
    (bare : server.HoldsNothing connection) {surface : SurfaceId}
    (own : surface.connection = connection) : server.entryOf? surface = none := by
  refine isAfter.entryOf?_eq_none ?_
  by_contra live
  obtain ⟨held, live⟩ := Option.ne_none_iff_exists'.mp live
  obtain ⟨client, found, listed⟩ := surface?_eq_some.mp live
  exact bare .surface surface ⟨client, found, Arena.mem_keys_of_get? listed⟩ own

/-- There is nothing to take from a connection that holds nothing. -/
theorem IsAfter.emptied_eq_self (isAfter : IsAfter config server accepted drawn)
    (bare : server.HoldsNothing connection) : server.emptied connection = server := by
  have unseen (surface : SurfaceId) (metadata : Metadata)
      (entry : server.publisher.view.get? surface = some metadata) :
      decide (surface.connection ≠ connection) = true := by
    refine decide_eq_true fun own => ?_
    cases (isAfter.unseen bare own).symm.trans entry
  have view := Arena.filter_key_eq_self unseen
  have connections : server.connections.modify connection Connection.emptied =
      server.connections := by
    refine Arena.modify_eq_self isAfter.distinct fun client live => ?_
    refine Connection.emptied_eq_self fun kind => List.eq_nil_iff_forall_not_mem.mpr
      fun handle listed => ?_
    have own := isAfter.own live listed
    exact bare kind handle ⟨client, own ▸ live, listed⟩ own
  simp only [emptied, connections, view]

/-- An empty connection goes without anything else. -/
theorem IsAfter.disconnect_of_bare (isAfter : IsAfter config server accepted drawn)
    (bare : server.HoldsNothing connection) :
    (server.disconnect connection).state =
      { server with connections := server.connections.erase connection } := by
  unfold disconnect
  cases live : server.connection? connection with
  | none => simp only [Arena.erase_of_get?_eq_none live]
  | some client =>
    have none : client.surfaces.keys = [] :=
      List.eq_nil_iff_forall_not_mem.mpr fun surface listed =>
        have listed : surface ∈ client.handles .surface := listed
        have own := isAfter.own live listed
        bare .surface surface ⟨client, own ▸ live, listed⟩ own
    simp only [none, List.foldl_nil]

/-- Nobody can be disconnected twice. -/
theorem disconnectAll_of_dead {gone : List ConnectionId}
    (dead : ∀ id ∈ gone, server.connection? id = none) : server.disconnectAll gone = server := by
  induction gone with
  | nil => rfl
  | cons first rest ih =>
    have same : (server.disconnect first).state = server := by
      simp only [disconnect, dead first List.mem_cons_self]
    have stays : server.disconnectAll (first :: rest) =
        (server.disconnect first).state.disconnectAll rest := rfl
    rw [stays, same]
    exact ih fun id listed => dead id (List.mem_cons_of_mem _ listed)

/-- Which connections are left when some go. -/
theorem connection?_disconnectAll (gone : List ConnectionId) (id : ConnectionId) :
    (server.disconnectAll gone).connection? id =
      if id ∈ gone then none else server.connection? id := by
  induction gone generalizing server with
  | nil => simp [disconnectAll]
  | cons first rest ih =>
    refine ih.trans ?_
    have left : (server.disconnect first).state.connection? id = _ :=
      connection?_next_disconnect server .withFile first id
    rw [left]
    grind

end Server

namespace Ties

variable {accepted : Nat} {ties : Ties} {client : ClientId} {connection : ConnectionId}

/-- Nothing is left of a connection when all objects of its client are dead. -/
theorem Tied.free_of_dead (tied : ties.Tied accepted) (owned : ties.owner client = some connection)
    (dead : ∀ id, id.client = client → ties.stands id = none) : ties.Free connection := by
  -- No object that is alive is of the client.
  have apart {id : ObjectId} {resource : Resource} {other : ConnectionId}
      (stands : ties.stands id = some resource) (here : ties.owner id.client = some other) :
      other ≠ connection := by
    rintro rfl
    cases (dead id (tied.clients.single _ _ _ here owned)).symm.trans stands
  have bufferless {buffer : BufferId} {pool : PoolId} {id : ObjectId}
      (stands : ties.stands id = some (.buffer buffer pool)) :
      buffer.connection ≠ connection ∧ pool.connection ≠ connection := by
    obtain ⟨here, same⟩ := tied.buffers.owned id buffer pool stands
    have other := apart stands here
    exact ⟨other, same ▸ other⟩
  have poolless (pool : PoolId) (refs : PoolRefs) (entered : ties.pools pool = some refs) :
      pool.connection ≠ connection := by
    rcases tied.pools.exists_object entered with ⟨id, stands⟩ | ⟨id, buffer, stands⟩
    · exact apart stands (tied.owned stands rfl)
    · exact (bufferless stands).2
  have surfaceless (surface : SurfaceId) (held : ties.surface surface ≠ none) :
      surface.connection ≠ connection := by
    obtain ⟨id, stands⟩ := tied.surfaces.held surface held
    exact apart stands (tied.owned stands rfl)
  have boundless (id : ObjectId) (binding : BindingId) (bound : ties.bindings id = some binding) :
      binding.connection ≠ connection := by
    obtain ⟨here, -, -, resource, stands, -⟩ := tied.bindings.bound id binding bound
    exact apart stands here
  have toplevelless (toplevel : ToplevelId) (objects : ToplevelObjects)
      (entered : ties.toplevels toplevel = some objects) : toplevel.connection ≠ connection := by
    have stands := (tied.windows.entry toplevel objects entered).2
    exact apart stands (tied.owned stands rfl)
  constructor
  case held =>
    intro kind handle held
    cases kind with
    | binding =>
      obtain ⟨id, bound⟩ := tied.bindings.held handle held
      exact boundless id handle bound
    | pool =>
      obtain ⟨refs, entered⟩ :=
        Option.isSome_iff_exists.mp ((tied.pools.live handle).symm.trans held)
      exact poolless handle refs entered
    | buffer =>
      obtain ⟨pool, lies⟩ := Option.ne_none_iff_exists'.mp held
      obtain ⟨id, stands⟩ := tied.buffers.held handle pool lies
      exact (bufferless stands).1
    | surface => exact surfaceless handle held
    | windowSurface =>
      obtain ⟨id, shell, stands⟩ := tied.windows.held handle held
      exact apart stands (tied.owned stands rfl)
    | toplevel =>
      obtain ⟨objects, entered⟩ :=
        Option.ne_none_iff_exists'.mp (tied.windows.toplevel_held handle held)
      exact toplevelless handle objects entered
    | callback => exact held.elim
  case bindings => exact boundless
  case listeners =>
    intro binding id listens
    exact boundless id binding (tied.bindings.listener binding id listens)
  case pools => exact poolless
  case buffers =>
    intro buffer id entered
    obtain ⟨-, pool, stands⟩ := tied.buffers.entry buffer id entered
    exact (bufferless stands).1
  case callbacks =>
    intro callback id entered
    obtain ⟨surface, waiting, waits, listed⟩ :=
      tied.callbacks.awaited callback (entered ▸ Option.some_ne_none id)
    rw [tied.callbacks.own surface waiting waits callback listed]
    exact surfaceless surface (waits ▸ Option.some_ne_none waiting)
  case toplevels => exact toplevelless

end Ties

namespace Frontend

section Destruction

variable {config : Config} {accepted : Nat} {drawn : ConnectionId → Nat}
  {served : ClientId → Bool} {departed : ConnectionId → Bool} {client : ClientId}
  {connection : ConnectionId} {before after : Frontend}

/-- What is free does not depend on who is served. -/
theorem free_of_tiesWith {frontend : Frontend}
    (free : (frontend.tiesWith served departed).Free connection) :
    frontend.ties.Free connection :=
  ⟨free.held, free.bindings, free.listeners, free.pools, free.buffers, free.callbacks,
    free.toplevels⟩

/-- A frontend of which nothing is kept of a connection. -/
theorem purge_eq_self {frontend : Frontend} (free : frontend.ties.Free connection)
    (distinct : frontend.bindings.keys.Nodup) : frontend.purge connection = frontend := by
  have bindings : frontend.bindings.filter
      (fun _ binding => decide (binding.connection ≠ connection)) = frontend.bindings :=
    Arena.filter_eq_self fun id binding listed =>
      decide_eq_true (free.bindings id binding ((Arena.get?_eq_some_iff distinct).mpr listed))
  have listeners := Arena.filter_key_eq_self fun binding id entered =>
    decide_eq_true (free.listeners binding id entered)
  have pools := Arena.filter_key_eq_self fun pool refs entered =>
    decide_eq_true (free.pools pool refs entered)
  have buffers := Arena.filter_key_eq_self fun buffer id entered =>
    decide_eq_true (free.buffers buffer id entered)
  have callbacks := Arena.filter_key_eq_self fun callback id entered =>
    decide_eq_true (free.callbacks callback id entered)
  have toplevels := Arena.filter_key_eq_self fun toplevel objects entered =>
    decide_eq_true (free.toplevels toplevel objects entered)
  rw [purge, bindings, listeners, pools, buffers, callbacks, toplevels]

/-- Some objects of a client were destroyed: everything that does not belong to the connection of
the client is as it was. -/
structure Unravels (served : ClientId → Bool) (departed : ConnectionId → Bool) (accepted : Nat)
    (connection : ConnectionId) (before after : Frontend) : Prop where
  server : before.server.Withdrawn connection after.server
  maps : { after.purge connection with server := before.server, clients := before.clients } =
    before.purge connection
  distinct : after.bindings.keys.Nodup
  tied : (after.tiesWith served departed).Tied accepted

/-- The ties of a frontend once a client is dropped. -/
theorem tied_dropped (tied : before.ties.Tied accepted) (client : ClientId) :
    (before.tiesWith (Function.update before.ties.served client false)
      fun id => decide (before.ties.owner client = some id) || before.ties.departed id).Tied
        accepted :=
  (Ties.Move.drop client).tied tied

/-- What destroys nothing unravels nothing. -/
theorem Unravels.refl (distinct : before.bindings.keys.Nodup)
    (tied : (before.tiesWith served departed).Tied accepted) :
    Unravels served departed accepted connection before before where
  server := .refl
  maps := rfl
  distinct := distinct
  tied := tied

/-- One more object is destroyed. -/
theorem Unravels.destroy {turn : Turn}
    (unravels : Unravels served departed accepted connection before turn.frontend)
    (isAfter : before.server.IsAfter config accepted drawn)
    (owned : turn.frontend.ties.owner client = some connection) (unserved : served client = false)
    (index : ObjectIndex) :
    Unravels served departed accepted connection before
      (turn.destroy ⟨client, index⟩).frontend := by
  have own (owner : ConnectionId)
      (owns : turn.frontend.ties.owner (⟨client, index⟩ : ObjectId).client = some owner) :
      owner = connection :=
    Option.some.inj (owns.symm.trans owned)
  rcases Turn.destroy_sheds (unravels.server.isAfter isAfter) unravels.tied unravels.distinct
    (fun _ => unserved) own with ⟨-, same⟩ | sheds
  · rw [same]
    exact unravels
  · refine ⟨unravels.server.trans sheds.server, ?_, sheds.distinct unravels.distinct,
      sheds.move.tied unravels.tied⟩
    have left := congrArg
      (fun frontend : Frontend =>
        { frontend with server := before.server, clients := before.clients })
      sheds.maps
    exact left.trans unravels.maps

/-- However many objects of a client are destroyed, and in which order. -/
theorem unravels_destroyAll (isAfter : before.server.IsAfter config accepted drawn)
    (distinct : before.bindings.keys.Nodup) (tied : before.ties.Tied accepted)
    (owned : before.ties.owner client = some connection) (order : List ObjectIndex) :
    Unravels (Function.update before.ties.served client false)
      (fun id => decide (before.ties.owner client = some id) || before.ties.departed id) accepted
      connection before (Turn.destroyAll { frontend := before } client order).frontend := by
  induction order using List.reverseRecOn with
  | nil => exact .refl distinct (tied_dropped tied client)
  | append_singleton order index ih =>
    rw [Turn.destroyAll_concat]
    refine ih.destroy isAfter ?_ (Function.update_self ..) index
    rw [Turn.owner_destroyAll]
    exact owned

/-- Everything is gone that belonged to a client, and nothing else. -/
structure TornDown (before left : Frontend) (client : ClientId) (connection : ConnectionId) :
    Prop where
  /-- The connection is empty, and nothing is kept of it. All else is as it was. -/
  state : { left with clients := before.clients } =
    { before.purge connection with server := before.server.emptied connection }
  /-- The objects of the client are dead, and those of others are as they were. -/
  clients : ∀ id, left.clients.get? id = (before.clients.get? id).map fun state =>
    if id = client then { state with objects := state.objects.map ProtocolObject.expired }
    else state
  bare : left.server.HoldsNothing connection
  unseen : ∀ surface : SurfaceId, surface.connection = connection →
    left.server.entryOf? surface = none
  purged : left.purge connection = left
  others : ∀ other, other ≠ connection →
    left.server.connection? other = before.server.connection? other

section Tearing

/-- With nothing of its connection left, what was left is all there is. -/
theorem Unravels.state_eq
    (unravels : Unravels served departed accepted connection before after)
    (isAfter : before.server.IsAfter config accepted drawn) (free : after.ties.Free connection) :
    { after with clients := before.clients } =
        { before.purge connection with server := before.server.emptied connection } ∧
      after.server.HoldsNothing connection ∧ after.purge connection = after := by
  have reached := unravels.server.isAfter isAfter
  have bare : after.server.HoldsNothing connection := fun kind handle live =>
    free.held kind handle (Server.census_holds_iff.mpr live)
  have server : after.server = before.server.emptied connection :=
    (reached.emptied_eq_self bare).symm.trans (unravels.server.emptied_eq isAfter)
  have purged := purge_eq_self free unravels.distinct
  refine ⟨?_, bare, purged⟩
  have left := congrArg
    (fun frontend : Frontend => { frontend with server := before.server.emptied connection })
    unravels.maps
  rw [purged, ← server] at left
  rw [← server]
  exact left

variable (sound : before.Sound config accepted drawn)
  (owned : before.ties.owner client = some connection) {order : List ObjectIndex}

include sound owned

/-- **When all objects of a client are destroyed, everything goes that belongs to it.** -/
theorem Sound.tornDown (all : ∀ index, before.isAlive ⟨client, index⟩ = true → index ∈ order) :
    TornDown before (Turn.destroyAll { frontend := before } client order).frontend client
      connection := by
  have unravels := unravels_destroyAll sound.server sound.distinct sound.tied owned order
  have bereft := Turn.clients_destroyAll { frontend := before } client order
  have owner := Turn.owner_destroyAll { frontend := before } client order
  generalize (Turn.destroyAll { frontend := before } client order).frontend = left
    at unravels bereft owner
  have clients (id : ClientId) : left.clients.get? id = (before.clients.get? id).map fun state =>
      if id = client then { state with objects := state.objects.map ProtocolObject.expired }
      else state := by
    rw [bereft id]
    refine Option.map_congr fun state found => ?_
    by_cases here : id = client
    · subst here
      rw [if_pos rfl, if_pos rfl]
      refine Client.bereft_all fun index object held alive => all index ?_
      have listed : before.object? ⟨id, index⟩ = some object :=
        Option.bind_eq_some_iff.mpr ⟨state, found, held⟩
      simp only [isAlive, listed, Option.any_some, alive]
    · rw [if_neg here, if_neg here]
  have dead (id : ObjectId) (own : id.client = client) : left.ties.stands id = none := by
    by_contra alive
    obtain ⟨resource, stands⟩ := Option.ne_none_iff_exists'.mp alive
    obtain ⟨object, listed, alive, -⟩ := stands_eq_some.mp stands
    obtain ⟨state, found, held⟩ := Option.bind_eq_some_iff.mp listed
    rw [clients, own, Option.map_eq_some_iff] at found
    obtain ⟨old, -, rfl⟩ := found
    rw [if_pos rfl, List.getElem?_map, Option.map_eq_some_iff] at held
    obtain ⟨object, -, rfl⟩ := held
    cases alive
  have free := free_of_tiesWith (unravels.tied.free_of_dead (owner ▸ owned) dead)
  obtain ⟨state, bare, purged⟩ := unravels.state_eq sound.server free
  refine ⟨state, clients, bare,
    fun surface own => (unravels.server.isAfter sound.server).unseen bare own, purged, ?_⟩
  intro other apart
  have server : left.server = before.server.emptied connection := congrArg Frontend.server state
  rw [server]
  exact (Arena.get?_modify ..).trans (if_neg apart)

omit owned in
/-- Nothing happens to a frontend that has nothing of a connection any more. -/
theorem Sound.destroyAll_of_gone (owned : before.ties.owner client = some connection)
    (gone : before.server.isConnected connection = false) (order : List ObjectIndex) :
    { (Turn.destroyAll { frontend := before } client order).frontend with
      clients := before.clients } = before := by
  have unravels := unravels_destroyAll sound.server sound.distinct sound.tied owned order
  generalize (Turn.destroyAll { frontend := before } client order).frontend = left at unravels
  have keys : left.server.connections.keys = before.server.connections.keys := by
    have same := congrArg (fun server : Server => server.connections.keys)
      (unravels.server.emptied_eq sound.server)
    simpa only [Server.emptied, Arena.keys_modify] using same
  have away : left.server.isConnected connection = false := by
    rw [Server.isConnected, Bool.eq_false_iff, ne_eq, Arena.contains_iff_mem_keys] at gone ⊢
    rwa [keys]
  have free := free_of_tiesWith (unravels.tied.free_of_gone away)
  have before_free := sound.tied.free_of_gone gone
  have bare : before.server.HoldsNothing connection := fun kind handle live =>
    before_free.held kind handle (Server.census_holds_iff.mpr live)
  rw [(unravels.state_eq sound.server free).1, purge_eq_self before_free sound.distinct,
    sound.server.emptied_eq_self bare]

end Tearing

/-- To purge entries that are not there changes nothing. -/
theorem purges_eq_self {frontend : Frontend} {gone : List ConnectionId}
    (purged : ∀ id ∈ gone, frontend.purge id = frontend) :
    gone.foldl purge frontend = frontend := by
  induction gone with
  | nil => rfl
  | cons first rest ih =>
    rw [List.foldl_cons, purged first List.mem_cons_self]
    exact ih fun id listed => purged id (List.mem_cons_of_mem _ listed)

/-- When the connections are reaped whose clients went away, an empty one goes without anything
else. -/
theorem reap_of_bare {left : Frontend} (isAfter : left.server.IsAfter config accepted drawn)
    (bare : left.server.HoldsNothing connection) (purged : left.purge connection = left)
    (departed : ∀ other, other ∈ left.departed ↔ other = connection) :
    (Turn.reap { frontend := left }).frontend = { left with
      server := { left.server with connections := left.server.connections.erase connection }
      departed := [] } := by
  have server : left.server.disconnectAll left.departed =
      { left.server with connections := left.server.connections.erase connection } := by
    cases gone : left.departed with
    | nil => cases gone ▸ (departed connection).mpr rfl
    | cons first rest =>
      have all (other : ConnectionId) (listed : other ∈ first :: rest) : other = connection :=
        (departed other).mp (gone ▸ listed)
      obtain rfl := all first List.mem_cons_self
      have rest_gone : (left.server.disconnect first).state.disconnectAll rest =
          (left.server.disconnect first).state :=
        Server.disconnectAll_of_dead fun other listed => by
          rw [all other (List.mem_cons_of_mem _ listed)]
          exact (Server.connection?_next_disconnect left.server .withFile first first).trans
            (if_pos rfl)
      exact rest_gone.trans (isAfter.disconnect_of_bare bare)
  rw [Turn.frontend_reap, server, purges_eq_self]
  intro other listed
  rw [(departed other).mp listed]
  exact congrArg (fun frontend : Frontend => { frontend with
    server := { left.server with connections := left.server.connections.erase connection } }) purged

/-- What becomes of an empty connection when connections are reaped. -/
structure Reaped (left : Frontend) (connection : ConnectionId) : Prop where
  gone : ∀ other, (Turn.reap { frontend := left }).frontend.server.connection? other =
    if other ∈ left.departed then none else left.server.connection? other
  /-- If no other client went away, there is nothing else to reap. -/
  alone : (∀ other, other ∈ left.departed ↔ other = connection) →
    (Turn.reap { frontend := left }).frontend = { left with
      server := { left.server with connections := left.server.connections.erase connection }
      departed := [] }

end Destruction

/-- **Teardown leaves nothing,** in whatever order the objects of a client are destroyed: its
connection is empty then, nothing is kept of it, and all else is as it was. When it is reaped, it
goes without anything else. Objects that are destroyed after that let go of nothing. -/
theorem teardown_leaves_nothing (config : Config) (life : Life)
    (range : (start config).state.InRange life) (client : ClientId) (connection : ConnectionId)
    (managed : ((after config life).clients.get? client).bind Client.connection = some connection) :
    (∀ order : List ObjectIndex,
      (∀ index, (after config life).isAlive ⟨client, index⟩ = true → index ∈ order) →
        TornDown (after config life)
          (Turn.destroyAll { frontend := after config life } client order).frontend client
          connection ∧
        Reaped (Turn.destroyAll { frontend := after config life } client order).frontend
          connection) ∧
      ((after config life).server.isConnected connection = false → ∀ order : List ObjectIndex,
        { (Turn.destroyAll { frontend := after config life } client order).frontend with
          clients := (after config life).clients } = after config life) := by
  have sound := sound_after range
  constructor
  · intro order all
    have torn := sound.tornDown managed all
    have unravels := unravels_destroyAll sound.server sound.distinct sound.tied managed order
    refine ⟨torn, ?_, fun departed => ?_⟩
    · intro other
      refine (congrArg (fun server : Server => server.connection? other) ?_).trans
        (Server.connection?_disconnectAll _ other)
      rw [Turn.frontend_reap]
      exact server_purges _
    · exact reap_of_bare (unravels.server.isAfter sound.server) torn.bare torn.purged departed
  · intro gone order
    exact sound.destroyAll_of_gone managed gone order

/-- A client that waits for a frame closes. Its objects are destroyed oldest first or youngest
first, and the same is left; after it was reaped, there is nothing to let go of. -/
theorem teardown_leaves_nothing_closed :
    (start {}).state.InRange Life.closed ∧ (start {}).state.InRange (Life.closed ++ [.reap]) ∧
      TornDown (after {} Life.closed)
        (Turn.destroyAll { frontend := after {} Life.closed } 0 [0, 1, 2, 3, 4, 5]).frontend 0 ⟨0⟩ ∧
      TornDown (after {} Life.closed)
        (Turn.destroyAll { frontend := after {} Life.closed } 0
          [0, 1, 2, 3, 4, 5].reverse).frontend 0 ⟨0⟩ ∧
      { (Turn.destroyAll { frontend := after {} (Life.closed ++ [.reap]) } 0 [4, 5]).frontend with
        clients := (after {} (Life.closed ++ [.reap])).clients } =
          after {} (Life.closed ++ [.reap]) := by
  have range : (start {}).state.InRange Life.closed := inRange_of_length _ (by decide)
  have reaped : (start {}).state.InRange (Life.closed ++ [.reap]) := inRange_of_length _ (by decide)
  have listed (index : Nat) (alive : (after {} Life.closed).isAlive ⟨0, index⟩ = true) :
      index ∈ [0, 1, 2, 3, 4, 5] := by
    have few : index < 6 := by
      by_contra many
      obtain ⟨more, rfl⟩ := Nat.exists_eq_add_of_le' (Nat.le_of_not_lt many)
      cases alive
    simp only [List.mem_cons, List.not_mem_nil, or_false]
    omega
  obtain ⟨torn, -⟩ := teardown_leaves_nothing {} Life.closed range 0 ⟨0⟩ rfl
  obtain ⟨-, gone⟩ := teardown_leaves_nothing {} (Life.closed ++ [.reap]) reaped 0 ⟨0⟩ rfl
  exact ⟨range, reaped, (torn _ listed).1,
    (torn _ fun index alive => List.mem_reverse.mpr (listed index alive)).1, gone rfl _⟩

end Frontend

end DisplayServer
