import DisplayServer.Proofs.Delivering

/-! # Letting go of objects

An object that is destroyed expires and lets go of what it stands for (`Turn.sheds_release`), and
that is all there is to it: seen past the connection of its client, nothing changes
(`Frontend.Sheds`). For the server it is the withdrawal of one thing (`Server.Withdrawn`), which
takes along what depends on it. The ties survive every such destruction, in whatever order they
come; an object whose connection is gone has nothing to let go of (`Turn.release_of_dead`).
-/

namespace DisplayServer

open Function (update update_self update_of_ne update_apply)
open Relation (ReflTransGen)
open Wire

/-- Erasing what a filter drops anyway makes no difference to what is left. -/
theorem Arena.filter_erase {κ α : Type} [DecidableEq κ] (arena : Arena κ α) (key : κ)
    (test : κ → α → Bool)
    (dropped : ∀ value, (key, value) ∈ arena.entries → test key value = false) :
    (arena.erase key).filter test = arena.filter test := by
  simp only [erase, filter, List.filter_filter]
  refine congrArg mk (List.filter_congr fun entry listed => ?_)
  by_cases here : entry.1 = key
  · subst here
    simp [dropped entry.2 listed]
  · simp [here]

private theorem Arena.filter_eraseAll {κ α : Type} [DecidableEq κ] (arena : Arena κ α)
    (keys : List κ) (test : κ → α → Bool)
    (dropped : ∀ key ∈ keys, ∀ value, test key value = false) :
    (keys.foldl erase arena).filter test = arena.filter test := by
  induction keys generalizing arena with
  | nil => rfl
  | cons key rest ih =>
    exact (ih _ fun key listed => dropped key (List.mem_cons_of_mem _ listed)).trans
      (arena.filter_erase key test fun value _ => dropped key (List.mem_cons_self ..) value)

private theorem Arena.get?_eraseAll {κ α : Type} [DecidableEq κ] (arena : Arena κ α)
    (keys : List κ) :
    (keys.foldl erase arena).get? = fun key => if key ∈ keys then none else arena.get? key := by
  funext other
  induction keys generalizing arena with
  | nil => simp
  | cons key rest ih =>
    rw [List.foldl_cons, ih, get?_erase]
    grind

/-- Changing what a filter drops makes no difference to what is left. -/
theorem Arena.filter_modify {κ α : Type} [DecidableEq κ] (arena : Arena κ α) {key : κ}
    {test : κ → Bool} (dropped : test key = false) (change : α → α) :
    (arena.modify key change).filter (fun key _ => test key) =
      arena.filter fun key _ => test key := by
  obtain ⟨entries⟩ := arena
  simp only [modify, filter]
  congr 1
  induction entries with
  | nil => rfl
  | cons entry rest ih =>
    by_cases here : entry.1 = key
    · subst here
      simp_all
    · simp_all [List.filter_cons]

/-- Inserting what a filter drops makes no difference to what is left. -/
theorem Arena.filter_insert {κ α : Type} [DecidableEq κ] (arena : Arena κ α) {key : κ}
    (test : κ → Bool) (dropped : test key = false) (value : α) :
    (arena.insert key value).filter (fun key _ => test key) =
      arena.filter fun key _ => test key := by
  unfold insert
  split
  · exact arena.filter_modify dropped _
  · simp [filter, dropped]

namespace Operation

/-- The connection that an operation takes something away from. -/
def withdrawal? : Operation → Option ConnectionId
  | unbind id => some id.connection
  | destroyPool id => some id.connection
  | destroyBuffer id => some id.connection
  | destroySurface id => some id.connection
  | destroyWindowSurface id => some id.connection
  | destroyToplevel id => some id.connection
  | _ => none

variable {operation : Operation} {connection : ConnectionId}

/-- What withdraws something draws no handle. -/
theorem draws_of_withdrawal? (withdraws : operation.withdrawal? = some connection) :
    operation.draws = false := by
  cases operation <;> first | rfl | cases withdraws

private theorem isSilent_of_withdrawal? (withdraws : operation.withdrawal? = some connection) :
    operation.isSilent = true := by
  cases operation <;> first | rfl | cases withdraws

end Operation

/-- A connection that holds nothing any more. -/
def Connection.emptied (client : Connection) : Connection :=
  { id := client.id, events := client.events, nextIndex := client.nextIndex }

namespace Server

variable {config : Config} {server : Server} {host : Host} {operation : Operation} {accepted : Nat}
  {drawn : ConnectionId → Nat} {connection : ConnectionId}

/-- A server without anything that a connection holds, and without the entries of its surfaces in
the view. -/
def emptied (server : Server) (connection : ConnectionId) : Server :=
  { server with
    connections := server.connections.modify connection Connection.emptied
    publisher := { server.publisher with
      view := server.publisher.view.filter fun surface _ =>
        decide (surface.connection ≠ connection) } }

private theorem emptied_putBack (distinct : server.connections.keys.Nodup) {old new : Connection}
    (live : server.connection? connection = some old) (own : old.id = connection)
    (same : new.emptied = old.emptied) :
    (server.putBack new).emptied connection = server.emptied connection := by
  have kept : new.id = connection := (congrArg Connection.id same).trans own
  have changed : (server.connections.modify connection fun _ => new).modify connection
      Connection.emptied = server.connections.modify connection Connection.emptied := by
    rw [Arena.modify_modify]
    exact Arena.modify_congr distinct live same
  simp only [emptied, putBack, kept, changed]

private theorem emptied_forget {surface : SurfaceId} (own : surface.connection = connection) :
    { server with publisher := server.publisher.forget surface }.emptied connection =
      server.emptied connection := by
  simp only [emptied, Publisher.forget]
  rw [Arena.filter_erase]
  simp [own]

/-- To withdraw something does not change what is left once its connection is emptied. -/
theorem emptied_next (named : server.Named) (distinct : server.connections.keys.Nodup)
    (withdraws : operation.withdrawal? = some connection) :
    (server.next host operation).emptied connection = server.emptied connection := by
  have back {old new : Connection} (live : server.connection? connection = some old)
      (same : new.emptied = old.emptied) :
      (server.putBack new).emptied connection = server.emptied connection :=
    emptied_putBack distinct live (named _ old live) same
  cases operation with
  | unbind id =>
    cases withdraws
    simp only [next, step, unbind]
    split
    · rfl
    · rename_i live
      exact back live rfl
  | destroyPool id =>
    cases withdraws
    simp only [next, step, Outcome.map, destroyPool]
    split
    · rfl
    · rename_i live
      split
      · exact back live (by rw [Connection.destroyPool_frame]; rfl)
      · rfl
  | destroyBuffer id =>
    cases withdraws
    simp only [next, step, destroyBuffer]
    split
    · rfl
    · rename_i live
      exact back live (by rw [Connection.destroyBuffer_eq]; rfl)
  | destroySurface id =>
    cases withdraws
    simp only [next, step, Outcome.map, destroySurface]
    split
    · rfl
    · rename_i live
      split
      · rfl
      · rename_i done
        obtain ⟨surface, found⟩ := Connection.surface_of_destroySurface? done
        exact (emptied_forget rfl).trans
          (back live (by rw [Connection.destroySurface?_eq found done]; rfl))
  | destroyWindowSurface id =>
    cases withdraws
    simp only [next, step, Outcome.map, destroyWindowSurface]
    split
    · rfl
    · rename_i live
      split
      · rfl
      · rename_i done
        obtain ⟨_, _, rfl⟩ := Connection.destroyWindowSurface?_eq_some done
        exact back live rfl
  | destroyToplevel id =>
    cases withdraws
    simp only [next, step, Outcome.map, destroyToplevel]
    split
    · rfl
    · rename_i live
      split
      · rfl
      · rename_i done
        obtain ⟨_, _, rfl⟩ := Connection.destroyToplevel?_eq_some done
        exact back live rfl
  | _ => cases withdraws

/-- Some things of a connection were taken away from a server. -/
def Withdrawn (connection : ConnectionId) : Server → Server → Prop :=
  ReflTransGen fun before after =>
    ∃ operation : Operation, operation.withdrawal? = some connection ∧
      after = before.next .withFile operation

/-- Some script leads to what a withdrawal leaves. -/
theorem Withdrawn.isAfter {after : Server} (withdrawn : Withdrawn connection server after)
    (isAfter : IsAfter config server accepted drawn) : IsAfter config after accepted drawn := by
  induction withdrawn with
  | refl => exact isAfter
  | tail _ step ih =>
    obtain ⟨operation, withdraws, rfl⟩ := step
    exact ih.next_of_drawless .withFile operation (Operation.draws_of_withdrawal? withdraws)

/-- A server stays quiet when something is withdrawn. -/
theorem Withdrawn.isQuiet {after : Server} (withdrawn : Withdrawn connection server after)
    (isAfter : IsAfter config server accepted drawn) (quiet : server.IsQuiet) : after.IsQuiet := by
  induction withdrawn with
  | refl => exact quiet
  | tail before step ih =>
    obtain ⟨operation, withdraws, rfl⟩ := step
    exact ih.next (Withdrawn.isAfter before isAfter).named .withFile operation
      (Operation.isSilent_of_withdrawal? withdraws)

/-- Nothing is queued when things are taken away. -/
theorem Withdrawn.exists_script {after : Server} (withdrawn : Withdrawn connection server after) :
    ∃ script : Script, (∀ entry ∈ script, entry.2.isSilent = true) ∧ after = server.run script := by
  induction withdrawn with
  | refl => exact ⟨[], nofun, rfl⟩
  | tail _ step ih =>
    obtain ⟨operation, withdraws, rfl⟩ := step
    obtain ⟨script, silent, rfl⟩ := ih
    refine ⟨script ++ [(.withFile, operation)], fun entry listed => ?_,
      by rw [run_append]; rfl⟩
    rcases List.mem_append.mp listed with before | last
    · exact silent entry before
    · rw [List.mem_singleton.mp last]
      exact Operation.isSilent_of_withdrawal? withdraws

/-- What is left without a connection is not touched. -/
theorem Withdrawn.emptied_eq {after : Server} (withdrawn : Withdrawn connection server after)
    (isAfter : IsAfter config server accepted drawn) :
    after.emptied connection = server.emptied connection := by
  induction withdrawn with
  | refl => rfl
  | tail before step ih =>
    obtain ⟨operation, withdraws, rfl⟩ := step
    have reached := Withdrawn.isAfter before isAfter
    exact (emptied_next reached.named reached.distinct withdraws).trans ih

end Server

namespace Ties

variable {accepted : Nat} {ties : Ties} {connection : ConnectionId}

/-- Nothing that is held or kept is of a connection. -/
structure Free (ties : Ties) (connection : ConnectionId) : Prop where
  held : ∀ (kind : ObjectKind) (handle : Handle kind), ties.Holds handle →
    handle.connection ≠ connection
  bindings : ∀ id binding, ties.bindings id = some binding → binding.connection ≠ connection
  listeners : ∀ binding id, ties.listeners binding = some id → binding.connection ≠ connection
  pools : ∀ pool refs, ties.pools pool = some refs → pool.connection ≠ connection
  buffers : ∀ buffer id, ties.buffers buffer = some id → buffer.connection ≠ connection
  callbacks : ∀ callback id, ties.callbacks callback = some id →
    callback.connection ≠ connection
  toplevels : ∀ toplevel objects, ties.toplevels toplevel = some objects →
    toplevel.connection ≠ connection

/-- Nothing is left of a connection that is gone. -/
theorem Tied.free_of_gone (tied : ties.Tied accepted) (gone : ties.core connection = false) :
    ties.Free connection := by
  have apart {other : ConnectionId} (live : ties.core other = true) : other ≠ connection := by
    rintro rfl
    exact Bool.noConfusion (gone.symm.trans live)
  constructor
  case held =>
    intro kind handle held
    cases kind with
    | binding => exact apart (tied.within.binding handle held)
    | pool => exact apart (tied.within.pool handle held)
    | buffer => exact apart (tied.within.buffer handle held)
    | surface => exact apart (tied.within.surface handle held)
    | windowSurface => exact apart (tied.within.window handle held)
    | toplevel => exact apart (tied.within.toplevel handle held)
    | callback => exact held.elim
  case bindings =>
    intro id binding bound
    exact apart (tied.bindings.bound id binding bound).2.1
  case listeners =>
    intro binding id listens
    exact apart (tied.bindings.bound id binding (tied.bindings.listener binding id listens)).2.1
  case pools =>
    intro pool refs entered
    refine apart (tied.within.pool pool ?_)
    rw [tied.pools.live pool, entered]
    rfl
  case buffers =>
    intro buffer id entered
    exact apart (tied.buffers.entry buffer id entered).1
  case callbacks =>
    intro callback id entered
    obtain ⟨surface, waiting, waits, listed⟩ :=
      tied.callbacks.awaited callback (entered ▸ Option.some_ne_none id)
    rw [tied.callbacks.own surface waiting waits callback listed]
    exact apart (tied.within.surface surface (waits ▸ Option.some_ne_none waiting))
  case toplevels =>
    intro toplevel objects entered
    exact apart (tied.windows.entry toplevel objects entered).1

end Ties

namespace Frontend

variable {frontend before after : Frontend}

/-- The ties of a frontend, when some clients count as served and some connections as departed. -/
def tiesWith (frontend : Frontend) (served : ClientId → Bool) (departed : ConnectionId → Bool) :
    Ties :=
  { frontend.ties with served, departed }

/-- An object of a client dies, and what it stood for goes. Everything else of the frontend stays as
it is. -/
structure Sheds (served : ClientId → Bool) (departed : ConnectionId → Bool)
    (connection : ConnectionId) (id : ObjectId) (before after : Frontend) : Prop where
  server : before.server.Withdrawn connection after.server
  clients : after.clients =
    (before.modifyObject id fun object => { object with isAlive := false }).clients
  maps : { after.purge connection with server := before.server, clients := before.clients } =
    before.purge connection
  distinct : before.bindings.keys.Nodup → after.bindings.keys.Nodup
  move : (before.tiesWith served departed).Move (after.tiesWith served departed)

private theorem maps_congr {connection : ConnectionId}
    (nextClient : after.nextClient = before.nextClient)
    (departed : after.departed = before.departed)
    (bindings : (after.purge connection).bindings = (before.purge connection).bindings)
    (formatListeners :
      (after.purge connection).formatListeners = (before.purge connection).formatListeners)
    (pools : (after.purge connection).pools = (before.purge connection).pools)
    (buffers : (after.purge connection).buffers = (before.purge connection).buffers)
    (callbacks : (after.purge connection).callbacks = (before.purge connection).callbacks)
    (toplevels : (after.purge connection).toplevels = (before.purge connection).toplevels) :
    { after.purge connection with server := before.server, clients := before.clients } =
      before.purge connection := by
  simp only [purge] at *
  simp only [*]

end Frontend

namespace Turn

variable {turn : Turn} {id : ObjectId} {resource : Resource} {config : Config} {accepted : Nat}
  {drawn : ConnectionId → Nat} {served : ClientId → Bool} {departed : ConnectionId → Bool}
  {connection : ConnectionId}

section Release

variable (tied : (turn.frontend.tiesWith served departed).Tied accepted)
  (stands : turn.frontend.ties.stands id = some resource)

include tied stands

/-- An object other than that of a capability has no binding. -/
theorem unbound_of_stands (other : resource.isCapability = false) :
    turn.frontend.ties.bindings id = none := by
  by_contra bound
  obtain ⟨binding, bound⟩ := Option.ne_none_iff_exists'.mp bound
  obtain ⟨-, -, -, capability, stands', isCapability⟩ := tied.bindings.bound id binding bound
  cases stands.symm.trans stands'
  rw [other] at isCapability
  cases isCapability

omit tied in
variable (departed connection) in
/-- An object that dies with nothing to let go of. -/
theorem sheds_expire (unbound : turn.frontend.ties.bindings id = none)
    (untold : resource = .callback → served id.client = false)
    (lost : resource.IsPlain ∨ ∀ connection, turn.frontend.ties.owner id.client = some connection →
      turn.frontend.ties.core connection = false) :
    Frontend.Sheds served departed connection id turn.frontend (turn.expire id).frontend where
  server := .refl
  clients := rfl
  maps := rfl
  distinct keys := keys
  move := by
    have expired := congrArg (fun ties : Ties => { ties with served, departed })
      (Frontend.ties_expire turn.frontend id)
    have move : (turn.frontend.tiesWith served departed).Move _ :=
      .expire stands unbound untold lost
    exact (congrArg (Ties.Move _) expired).mpr move

/-- After the connection of a client is gone, its objects have nothing to let go of. -/
theorem release_of_dead (dead : ∀ connection, turn.frontend.ties.owner id.client = some connection →
    turn.frontend.ties.core connection = false) :
    ((turn.expire id).release id resource).frontend = (turn.expire id).frontend ∧
      turn.frontend.ties.bindings id = none := by
  have gone {connection : ConnectionId}
      (owned : turn.frontend.ties.owner id.client = some connection) :
      turn.frontend.server.connection? connection = none :=
    Option.isSome_eq_false_iff.mp (dead connection owned) |> Option.isNone_iff_eq_none.mp
  have free {connection : ConnectionId}
      (owned : turn.frontend.ties.owner id.client = some connection) :
      (turn.frontend.tiesWith served departed).Free connection :=
    tied.free_of_gone (dead connection owned)
  have poolless {pool : PoolId}
      (owned : turn.frontend.ties.owner id.client = some pool.connection) :
      turn.frontend.pools.get? pool = none := by
    by_contra entered
    obtain ⟨refs, entered⟩ := Option.ne_none_iff_exists'.mp entered
    exact (free owned).pools pool refs entered rfl
  have unbound : turn.frontend.bindings.get? id = none := by
    by_contra bound
    obtain ⟨binding, bound⟩ := Option.ne_none_iff_exists'.mp bound
    exact (free (tied.bindings.bound id binding bound).1).bindings id binding bound rfl
  refine ⟨?_, unbound⟩
  cases resource with
  | compositor | sharedMemory | windowShell =>
    have same : (turn.expire id).frontend.bindings.get? id = none := unbound
    simp [release, unbind, same]
  | surface surface =>
    have none := gone (tied.owned stands rfl)
    have kept : (turn.expire id).frontend.server.destroySurface surface =
        { answer := [], state := turn.frontend.server } := by
      simp [Server.destroySurface, expire, modify, Frontend.modifyObject,
        Frontend.modifyClient, none]
    simp only [release, releaseSurface, kept]
    rfl
  | pool pool =>
    have none := poolless (tied.owned stands rfl)
    have same : (turn.expire id).frontend.pools.get? pool = Option.none := none
    simp only [release, releasePool, updatePool, same]
  | buffer buffer pool =>
    obtain ⟨owned, lies⟩ := tied.buffers.owned id buffer pool stands
    have none := poolless (owned.trans (by rw [lies]))
    have same : (turn.expire id).frontend.pools.get? pool = Option.none := none
    have unlisted : buffer ∉ turn.frontend.buffers.keys := by
      intro listed
      obtain ⟨object, entered⟩ := Arena.get?_of_mem_keys listed
      exact (free owned).buffers buffer object entered rfl
    have kept : (turn.expire id).frontend.server.destroyBuffer buffer = turn.frontend.server := by
      simp [Server.destroyBuffer, expire, modify, Frontend.modifyObject, Frontend.modifyClient,
        gone owned]
    have left : (turn.expire id).frontend.buffers.erase buffer = turn.frontend.buffers :=
      Arena.erase_of_notMem unlisted
    simp only [release, releaseBuffer, modify, kept, left]
    simp only [updatePool, same]
    rfl
  | windowSurface window shell =>
    have none := gone (tied.owned stands rfl)
    have kept : (turn.expire id).frontend.server.destroyWindowSurface window =
        { answer := (), state := turn.frontend.server } := by
      simp [Server.destroyWindowSurface, expire, modify, Frontend.modifyObject,
        Frontend.modifyClient, none]
    simp only [release, kept]
    rfl
  | toplevel toplevel =>
    have owned := tied.owned stands rfl
    have unlisted : toplevel ∉ turn.frontend.toplevels.keys := by
      intro listed
      obtain ⟨objects, entered⟩ := Arena.get?_of_mem_keys listed
      exact (free owned).toplevels toplevel objects entered rfl
    have kept : (turn.expire id).frontend.server.destroyToplevel toplevel =
        { answer := (), state := turn.frontend.server } := by
      simp [Server.destroyToplevel, expire, modify, Frontend.modifyObject, Frontend.modifyClient,
        gone owned]
    have left : (turn.expire id).frontend.toplevels.erase toplevel = turn.frontend.toplevels :=
      Arena.erase_of_notMem unlisted
    simp only [release, releaseToplevel, modify, left]
    rw [show Server.destroyToplevel _ toplevel = _ from kept]
    rfl
  | _ => rfl

end Release

section Live

variable (isAfter : turn.frontend.server.IsAfter config accepted drawn)
  (tied : (turn.frontend.tiesWith served departed).Tied accepted)

include isAfter

omit isAfter in
/-- What withdraws something is a withdrawal. -/
theorem withdrawn_of (turn : Turn) (operation : Operation)
    (withdraws : operation.withdrawal? = some connection) :
    turn.frontend.server.Withdrawn connection (turn.frontend.server.next .withFile operation) :=
  .single ⟨operation, withdraws, rfl⟩

variable (turn) in
private theorem isConnected_withdrawal (operation : Operation)
    (withdraws : operation.withdrawal? = some connection) :
    (turn.frontend.server.next .withFile operation).isConnected =
      turn.frontend.server.isConnected := by
  funext id
  refine Server.isConnected_next isAfter.named .withFile operation ?_ id
  cases operation <;> first | rfl | cases withdraws

omit isAfter in
/-- What is tied after an object died and the server and the maps let go of something. -/
theorem tiesWith_shed (turn : Turn) (id : ObjectId) (served : ClientId → Bool)
    (departed : ConnectionId → Bool) (server : Server) {census : Census}
    (counted : server.census = census)
    (core : server.isConnected = turn.frontend.server.isConnected)
    (bindings : Arena ObjectId BindingId)
    (formatListeners : Arena BindingId ObjectId) (pools : Arena PoolId PoolRefs)
    (buffers : Arena BufferId ObjectId) (callbacks : Arena CallbackId ObjectId)
    (toplevels : Arena ToplevelId ToplevelObjects) :
    Frontend.tiesWith { (turn.expire id).frontend with
        server, bindings, formatListeners, pools, buffers, callbacks, toplevels }
        served departed =
      { turn.frontend.tiesWith served departed with
        toCensus := census
        stands := update turn.frontend.ties.stands id none
        bindings := bindings.get?
        listeners := formatListeners.get?
        pools := pools.get?
        buffers := buffers.get?
        callbacks := callbacks.get?
        toplevels := toplevels.get? } := by
  have expired := Frontend.ties_expire turn.frontend id
  have same : Frontend.ties { (turn.expire id).frontend with
      server, bindings, formatListeners, pools, buffers, callbacks, toplevels } =
      { (turn.expire id).frontend.ties with
        toCensus := server.census
        core := server.isConnected
        bindings := bindings.get?
        listeners := formatListeners.get?
        pools := pools.get?
        buffers := buffers.get?
        callbacks := callbacks.get?
        toplevels := toplevels.get? } := rfl
  rw [Frontend.tiesWith, same, show (turn.expire id).frontend.ties = _ from expired, core, counted]
  rfl

/-- The object of a capability goes, and its binding with it. -/
theorem sheds_unbind (distinct : turn.frontend.bindings.keys.Nodup) {binding : BindingId}
    (bound : turn.frontend.ties.bindings id = some binding)
    (own : binding.connection = connection) :
    Frontend.Sheds served departed connection id turn.frontend
      ((turn.expire id).unbind id).frontend := by
  have same : (turn.expire id).frontend.bindings.get? id = some binding := bound
  simp only [unbind, same]
  refine ⟨withdrawn_of turn (.unbind binding) (congrArg some own), rfl, ?_,
    fun keys => Arena.nodup_keys_erase keys id, ?_⟩
  · have left := Arena.filter_erase turn.frontend.bindings id
      (fun _ binding => decide (binding.connection ≠ connection)) (by
        intro value listed
        cases bound.symm.trans ((Arena.get?_eq_some_iff distinct).mpr listed)
        simp [own])
    have left' := Arena.filter_erase turn.frontend.formatListeners binding
      (fun binding _ => decide (binding.connection ≠ connection)) (by simp [own])
    exact Frontend.maps_congr rfl rfl left left' rfl rfl rfl rfl
  · have census := isAfter.census_unbind binding
    have core := isConnected_withdrawal turn isAfter (.unbind binding) rfl
    have shed := tiesWith_shed turn id served departed _ census core
      (turn.frontend.bindings.erase id) (turn.frontend.formatListeners.erase binding)
      turn.frontend.pools turn.frontend.buffers turn.frontend.callbacks turn.frontend.toplevels
    rw [Arena.get?_erase_eq, Arena.get?_erase_eq] at shed
    exact (congrArg (Ties.Move _) shed).mpr (.unbind bound)

omit isAfter in
/-- What is kept of a pool makes no difference to what is left without its connection. -/
theorem filter_insert_pool (pools : Arena PoolId PoolRefs) {pool : PoolId}
    (own : pool.connection = connection) (refs : PoolRefs) :
    (pools.insert pool refs).filter (fun pool _ => decide (pool.connection ≠ connection)) =
      pools.filter fun pool _ => decide (pool.connection ≠ connection) :=
  Arena.filter_insert pools (fun pool : PoolId => decide (pool.connection ≠ connection))
    (by simp [own]) refs

include tied

/-- The object of a surface goes, and the surface with what goes along with it. -/
theorem sheds_releaseSurface {surface : SurfaceId}
    (stands : turn.frontend.ties.stands id = some (.surface surface))
    (live : turn.frontend.ties.core surface.connection = true)
    (own : surface.connection = connection) :
    Frontend.Sheds served departed connection id turn.frontend
      ((turn.expire id).releaseSurface surface).frontend := by
  obtain ⟨waiting, waits⟩ := Option.ne_none_iff_exists'.mp
    (tied.surfaces.backed id surface stands live)
  obtain ⟨answer, census⟩ := isAfter.census_destroySurface waits
  have callback_own := tied.callbacks.own surface waiting waits
  have apart (other : SurfaceId) (others : List CallbackId) (differ : other ≠ surface)
      (waits' : turn.frontend.ties.surface other = some others) (callback : CallbackId)
      (listed : callback ∈ others) : callback ∉ waiting := fun listed' =>
    differ (isAfter.waiting_apart waits' waits listed listed')
  simp only [releaseSurface]
  refine ⟨withdrawn_of turn (.destroySurface surface) (congrArg some own), rfl, ?_,
    fun keys => keys, ?_⟩
  · have left := Arena.filter_eraseAll turn.frontend.callbacks
      (turn.frontend.server.destroySurface surface).answer
      (fun callback _ => decide (callback.connection ≠ connection)) (by
        rw [answer]
        intro callback listed _
        simp [callback_own callback listed, own])
    exact Frontend.maps_congr rfl rfl rfl rfl rfl rfl left rfl
  · have core := isConnected_withdrawal turn isAfter (.destroySurface surface) rfl
    obtain ⟨callbacks, erased⟩ : ∃ callbacks, callbacks =
      (turn.frontend.server.destroySurface surface).answer.foldl Arena.erase
        turn.frontend.callbacks := ⟨_, rfl⟩
    have told : callbacks.get? = fun callback =>
        if callback ∈ waiting then none else turn.frontend.callbacks.get? callback := by
      rw [erased, Arena.get?_eraseAll, answer]
    have shed := tiesWith_shed turn id served departed _ census core
      turn.frontend.bindings turn.frontend.formatListeners turn.frontend.pools
      turn.frontend.buffers callbacks turn.frontend.toplevels
    rw [told] at shed
    subst erased
    exact (congrArg (Ties.Move _) shed).mpr (show (turn.frontend.tiesWith served
      departed).Move _ from .closeSurface stands waits apart)

omit tied in
/-- An object of a window surface that is destroyed is shed, and nothing else. -/
theorem sheds_releaseWindowSurface {window : WindowSurfaceId} {shell : ObjectIndex}
    (stands : turn.frontend.ties.stands id = some (.windowSurface window shell))
    (own : window.connection = connection) :
    Frontend.Sheds served departed connection id turn.frontend
      ((turn.expire id).absorb
        ((turn.expire id).frontend.server.destroyWindowSurface window)).frontend := by
  refine ⟨withdrawn_of turn (.destroyWindowSurface window) (congrArg some own), rfl,
    Frontend.maps_congr rfl rfl rfl rfl rfl rfl rfl rfl, fun keys => keys, ?_⟩
  have core := isConnected_withdrawal turn isAfter (.destroyWindowSurface window) rfl
  have shed := tiesWith_shed turn id served departed _
    (isAfter.census_destroyWindowSurface window) core turn.frontend.bindings
    turn.frontend.formatListeners turn.frontend.pools turn.frontend.buffers turn.frontend.callbacks
    turn.frontend.toplevels
  exact (congrArg (Ties.Move _) shed).mpr
    (show (turn.frontend.tiesWith served departed).Move _ from .closeWindow stands)

omit tied in
/-- An object of a toplevel that is destroyed is shed, and nothing else. -/
theorem sheds_releaseToplevel {toplevel : ToplevelId}
    (stands : turn.frontend.ties.stands id = some (.toplevel toplevel))
    (own : toplevel.connection = connection) :
    Frontend.Sheds served departed connection id turn.frontend
      ((turn.expire id).releaseToplevel toplevel).frontend := by
  refine ⟨withdrawn_of turn (.destroyToplevel toplevel) (congrArg some own), rfl, ?_,
    fun keys => keys, ?_⟩
  · have left := Arena.filter_erase turn.frontend.toplevels toplevel
      (fun toplevel _ => decide (toplevel.connection ≠ connection)) (by simp [own])
    exact Frontend.maps_congr rfl rfl rfl rfl rfl rfl rfl left
  · have core := isConnected_withdrawal turn isAfter (.destroyToplevel toplevel) rfl
    have shed := tiesWith_shed turn id served departed _
      (isAfter.census_destroyToplevel toplevel) core turn.frontend.bindings
      turn.frontend.formatListeners turn.frontend.pools turn.frontend.buffers
      turn.frontend.callbacks (turn.frontend.toplevels.erase toplevel)
    rw [Arena.get?_erase_eq] at shed
    exact (congrArg (Ties.Move _) shed).mpr
      (show (turn.frontend.tiesWith served departed).Move _ from .closeToplevel stands)

/-- The object of a pool goes. The pool goes with it unless it has buffers. -/
theorem sheds_releasePool {pool : PoolId}
    (stands : turn.frontend.ties.stands id = some (.pool pool))
    (live : turn.frontend.ties.core pool.connection = true)
    (own : pool.connection = connection) :
    Frontend.Sheds served departed connection id turn.frontend
      ((turn.expire id).releasePool pool).frontend := by
  obtain ⟨refs, entered, -⟩ := Option.map_eq_some_iff.mp (tied.pools.backed id pool stands live)
  have entry : (turn.expire id).frontend.pools.get? pool = some refs := entered
  simp only [releasePool, updatePool, entry]
  by_cases bare : refs.buffers = 0
  · rw [if_pos ⟨trivial, bare⟩]
    refine ⟨withdrawn_of turn (.destroyPool pool) (congrArg some own), rfl, ?_,
      fun keys => keys, ?_⟩
    · have left := Arena.filter_erase turn.frontend.pools pool
        (fun pool _ => decide (pool.connection ≠ connection)) (by simp [own])
      exact Frontend.maps_congr rfl rfl rfl rfl left rfl rfl rfl
    · have core := isConnected_withdrawal turn isAfter (.destroyPool pool) rfl
      have census := isAfter.census_destroyPool pool
      -- There is no buffer to go along.
      have none : (fun buffer => if turn.frontend.server.census.buffer buffer = some pool then none
          else turn.frontend.server.census.buffer buffer) =
            turn.frontend.server.census.buffer := by
        funext buffer
        refine if_neg fun lies => ?_
        obtain ⟨object, stands'⟩ := tied.buffers.held buffer pool lies
        exact tied.pools.bare entered bare object buffer stands'
      rw [none] at census
      have shed := tiesWith_shed turn id served departed _ census core
        turn.frontend.bindings turn.frontend.formatListeners (turn.frontend.pools.erase pool)
        turn.frontend.buffers turn.frontend.callbacks turn.frontend.toplevels
      rw [Arena.get?_erase_eq] at shed
      exact (congrArg (Ties.Move _) shed).mpr
        (show (turn.frontend.tiesWith served departed).Move _ from
          .closeBarePool stands entered bare)
  · rw [if_neg fun both => bare both.2]
    refine ⟨.refl, rfl, ?_, fun keys => keys, ?_⟩
    · have left := filter_insert_pool turn.frontend.pools own { refs with hasObject := false }
      exact Frontend.maps_congr rfl rfl rfl rfl left rfl rfl rfl
    · have shed := tiesWith_shed turn id served departed
        turn.frontend.server rfl rfl
        turn.frontend.bindings turn.frontend.formatListeners
        (turn.frontend.pools.insert pool { refs with hasObject := false })
        turn.frontend.buffers turn.frontend.callbacks turn.frontend.toplevels
      rw [Arena.get?_insert_eq] at shed
      exact (congrArg (Ties.Move _) shed).mpr (show
        (turn.frontend.tiesWith served departed).Move _ from
          .closePool stands entered (Nat.pos_of_ne_zero bare))

/-- The object of a buffer goes, and the buffer with it. The pool stays if something else keeps
it. -/
theorem sheds_releaseBuffer {buffer : BufferId} {pool : PoolId}
    (stands : turn.frontend.ties.stands id = some (.buffer buffer pool))
    (live : turn.frontend.ties.core buffer.connection = true)
    (own : buffer.connection = connection) :
    Frontend.Sheds served departed connection id turn.frontend
      ((turn.expire id).releaseBuffer buffer pool).frontend := by
  obtain ⟨lies, -, kept⟩ := tied.buffers.backed id buffer pool stands live
  obtain ⟨refs, entered⟩ := Option.ne_none_iff_exists'.mp kept
  have same := (tied.buffers.owned id buffer pool stands).2.trans own
  have entry : (turn.expire id).frontend.pools.get? pool = some refs := entered
  have census := isAfter.census_destroyBuffer buffer
  have core := isConnected_withdrawal turn isAfter (.destroyBuffer buffer) rfl
  have taken := withdrawn_of turn (.destroyBuffer buffer)
    (congrArg some own)
  have unlisted := Arena.filter_erase turn.frontend.buffers buffer
    (fun buffer _ => decide (buffer.connection ≠ connection)) (by simp [own])
  simp only [releaseBuffer, updatePool, modify, entry]
  by_cases last : refs.hasObject = false ∧ refs.buffers - 1 = 0
  · rw [if_pos last]
    have isAfter := isAfter.next_of_drawless .withFile (.destroyBuffer buffer) rfl
    have census' := isAfter.census_destroyPool pool
    have core' := (isConnected_withdrawal { turn with frontend := { turn.frontend with
      server := turn.frontend.server.destroyBuffer buffer } } isAfter
      (.destroyPool pool) rfl).trans core
    refine ⟨taken.tail ⟨.destroyPool pool, congrArg some same, rfl⟩, rfl, ?_, fun keys => keys, ?_⟩
    · have left := Arena.filter_erase turn.frontend.pools pool
        (fun pool _ => decide (pool.connection ≠ connection)) (by simp [same])
      exact Frontend.maps_congr rfl rfl rfl rfl left unlisted rfl rfl
    · rw [show (turn.frontend.server.next .withFile (.destroyBuffer buffer)).census = _ from census]
        at census'
      -- There is no other buffer to go along.
      have alone : (fun other =>
          if update turn.frontend.server.census.buffer buffer none other = some pool then none
          else update turn.frontend.server.census.buffer buffer none other) =
            update turn.frontend.server.census.buffer buffer none := by
        funext other
        refine if_neg fun lies' => ?_
        rw [update_apply] at lies'
        split at lies'
        · cases lies'
        · rename_i differ
          obtain ⟨object, stands'⟩ := tied.buffers.held other pool lies'
          obtain rfl := tied.pools.last entered (by omega) stands stands'
          cases stands.symm.trans stands'
          exact differ rfl
      simp only [alone] at census'
      have shed := tiesWith_shed turn id served departed _ census' core'
        turn.frontend.bindings turn.frontend.formatListeners (turn.frontend.pools.erase pool)
        (turn.frontend.buffers.erase buffer) turn.frontend.callbacks turn.frontend.toplevels
      rw [Arena.get?_erase_eq, Arena.get?_erase_eq] at shed
      exact (congrArg (Ties.Move _) shed).mpr (show
        (turn.frontend.tiesWith served departed).Move _ from
          .closeLastBuffer stands entered last.1 (by omega))
  · rw [if_neg last]
    refine ⟨taken, rfl, ?_, fun keys => keys, ?_⟩
    · have left := filter_insert_pool turn.frontend.pools same
        { refs with buffers := refs.buffers - 1 }
      exact Frontend.maps_congr rfl rfl rfl rfl left unlisted rfl rfl
    · have shed := tiesWith_shed turn id served departed _ census core
        turn.frontend.bindings turn.frontend.formatListeners
        (turn.frontend.pools.insert pool { refs with buffers := refs.buffers - 1 })
        (turn.frontend.buffers.erase buffer) turn.frontend.callbacks turn.frontend.toplevels
      rw [Arena.get?_insert_eq, Arena.get?_erase_eq] at shed
      exact (congrArg (Ties.Move _) shed).mpr (show
        (turn.frontend.tiesWith served departed).Move _ from .closeBuffer stands entered (by grind))

/-- **An object that dies lets go of what it stood for**, and of nothing else. -/
theorem sheds_release (distinct : turn.frontend.bindings.keys.Nodup)
    (stands : turn.frontend.ties.stands id = some resource)
    (untold : resource = .callback → served id.client = false)
    (own : ∀ owner, turn.frontend.ties.owner id.client = some owner → owner = connection) :
    Frontend.Sheds served departed connection id turn.frontend
      ((turn.expire id).release id resource).frontend := by
  by_cases dead : ∀ connection, turn.frontend.ties.owner id.client = some connection →
      turn.frontend.ties.core connection = false
  · obtain ⟨same, unbound⟩ := release_of_dead tied stands dead
    rw [same]
    exact sheds_expire _ _ stands unbound untold (.inr dead)
  · push Not at dead
    obtain ⟨owner, owned, live⟩ := dead
    rw [← own owner owned]
    have core {connection : ConnectionId}
        (here : turn.frontend.ties.owner id.client = some connection) :
        turn.frontend.ties.core connection = true ∧ connection = owner := by
      cases here.symm.trans owned
      exact ⟨by simpa using live, rfl⟩
    have bare {resource : Resource} (stands : turn.frontend.ties.stands id = some resource)
        (untold : resource = .callback → served id.client = false) (plain : resource.IsPlain)
        (unbound : turn.frontend.ties.bindings id = none) :=
      sheds_expire departed owner stands unbound untold (.inl plain)
    cases resource with
    | compositor | sharedMemory | windowShell =>
      cases bound : turn.frontend.ties.bindings id with
      | none =>
        have same : (turn.expire id).frontend.bindings.get? id = none := bound
        simp only [release, unbind, same]
        exact bare stands untold trivial bound
      | some binding =>
        have here := (tied.bindings.bound id binding bound).1
        exact sheds_unbind isAfter distinct bound (core here).2
    | surface surface =>
      obtain ⟨live, same⟩ := core (tied.owned stands rfl)
      exact sheds_releaseSurface isAfter tied stands live same
    | pool pool =>
      obtain ⟨live, same⟩ := core (tied.owned stands rfl)
      exact sheds_releasePool isAfter tied stands live same
    | buffer buffer pool =>
      obtain ⟨live, same⟩ := core (tied.owned stands rfl)
      exact sheds_releaseBuffer isAfter tied stands live same
    | windowSurface window shell =>
      exact sheds_releaseWindowSurface isAfter stands
        (core (tied.owned stands rfl)).2
    | toplevel toplevel =>
      exact sheds_releaseToplevel isAfter stands
        (core (tied.owned stands rfl)).2
    | _ => exact bare stands untold trivial (unbound_of_stands tied stands rfl)

end Live

private theorem sent_updatePool (pool : PoolId) (change : PoolRefs → PoolRefs) :
    (turn.updatePool pool change).sent = turn.sent := by
  unfold updatePool
  split
  · rfl
  · dsimp only
    split <;> rfl

/-- The destruction of an object says nothing. -/
theorem sent_destroy (id : ObjectId) : (turn.destroy id).sent = turn.sent := by
  have unbound (turn : Turn) : (turn.unbind id).sent = turn.sent := by
    unfold unbind
    split <;> rfl
  unfold destroy
  split
  · rfl
  · split
    · unfold release
      split <;> first
        | rfl
        | exact unbound _
        | exact sent_updatePool ..
    · rfl

/-- A dead object, or one that never was, cannot be destroyed. -/
theorem destroy_of_dead (dead : turn.frontend.ties.stands id = none) : turn.destroy id = turn := by
  unfold destroy
  split
  · rfl
  · rename_i object found
    refine if_neg fun alive => ?_
    have stands := Frontend.stands_eq_some.mpr ⟨object, found, alive, rfl⟩
    cases stands.symm.trans dead

/-- To destroy a live object is to let it expire and to release what stands behind it. -/
theorem destroy_of_alive (stands : turn.frontend.ties.stands id = some resource) :
    turn.destroy id = (turn.expire id).release id resource := by
  obtain ⟨object, found, alive, rfl⟩ := Frontend.stands_eq_some.mp stands
  simp only [destroy, found, alive, if_true]

end Turn

end DisplayServer
