import DisplayServer.Frontend
import DisplayServer.Proofs.Census
import Mathlib.Data.Set.Card
import Mathlib.Logic.Function.Basic
import Mathlib.Logic.Relation

/-! # What the frontend is tied to

Objects on the wire stand for things that the server holds, and the maps of the frontend lead from
these things back to the objects. `Ties` is the frontend as far as this goes, and nothing but
lookups: what a live object stands for, what the server holds (`Census`) and where the maps lead.

Objects and what they stand for do not live equally long. A surface takes its windows along, whose
objects stay; a pool stays after its object, for the sake of its buffers; and the objects of a
client may outlive its connection. What holds throughout is said thing by thing, for surfaces
(`SurfacesTied`), callbacks, pools with their buffers, windows, bindings and clients. Whatever the
frontend does is a sequence of moves (`Ties.Move`), apart from the arrival of clients and of
objects, and each of them keeps the ties (`Ties.Move.tied`).
-/

namespace DisplayServer

open Function (update update_self update_of_ne)

/-- Whether an object stands for nothing that the server holds, the binding of a capability
apart. -/
def Resource.IsPlain : Resource → Prop
  | .surface _ | .pool _ | .buffer _ _ | .windowSurface _ _ | .toplevel _ => False
  | _ => True

/-- The connection of what an object stands for, if the server holds it. -/
def Resource.connection? : Resource → Option ConnectionId
  | .surface id | .pool id | .buffer id _ | .windowSurface id _ | .toplevel id =>
    some id.connection
  | _ => none

private theorem Resource.IsPlain.connection?_eq_none {resource : Resource}
    (plain : resource.IsPlain) : resource.connection? = none := by
  cases resource <;> first | rfl | exact plain.elim

/-- Whether an object stands for a capability. -/
def Resource.isCapability : Resource → Bool
  | .compositor | .sharedMemory | .windowShell => true
  | _ => false

/-- Objects, what the server holds, and the maps between them. -/
structure Ties extends Census where
  /-- Whether a connection is live. -/
  core : ConnectionId → Bool
  /-- The clients that arrived by now are those before this one. -/
  nextClient : ClientId
  /-- Whether a client was not forgotten yet. -/
  known : ClientId → Bool
  /-- The connection of a client. -/
  owner : ClientId → Option ConnectionId
  /-- Whether a client is there and served. -/
  served : ClientId → Bool
  /-- Whether the client of a connection went away. -/
  departed : ConnectionId → Bool
  /-- Whether an object was ever created. -/
  born : ObjectId → Bool
  /-- What a live object stands for. -/
  stands : ObjectId → Option Resource
  bindings : ObjectId → Option BindingId
  listeners : BindingId → Option ObjectId
  pools : PoolId → Option PoolRefs
  buffers : BufferId → Option ObjectId
  callbacks : CallbackId → Option ObjectId
  toplevels : ToplevelId → Option ToplevelObjects

namespace Ties

/-- Everything that the server holds belongs to a live connection. -/
structure Within (ties : Ties) : Prop where
  binding : ∀ id, ties.binding id = true → ties.core id.connection = true
  pool : ∀ id, ties.pool id = true → ties.core id.connection = true
  buffer : ∀ id, ties.buffer id ≠ none → ties.core id.connection = true
  surface : ∀ id, ties.surface id ≠ none → ties.core id.connection = true
  window : ∀ id, ties.window id ≠ none → ties.core id.connection = true
  toplevel : ∀ id, ties.toplevel id ≠ none → ties.core id.connection = true

/-- A connection has one client, and lives as long as its client is served. -/
structure ClientsTied (accepted : Nat) (ties : Ties) : Prop where
  single : ∀ client other connection, ties.owner client = some connection →
    ties.owner other = some connection → client = other
  numbered : ∀ client connection, ties.owner client = some connection →
    connection.number.toNat < accepted
  live : ∀ client connection, ties.served client = true → ties.owner client = some connection →
    ties.core connection = true ∧ ties.departed connection = false
  away : ∀ client connection, ties.served client = false → ties.owner client = some connection →
    ties.core connection = true → ties.departed connection = true
  departed : ∀ connection, ties.departed connection = true → connection.number.toNat < accepted
  known : ∀ client, ties.served client = true ∨ ties.owner client ≠ none → ties.known client = true
  arrived : ∀ client, ties.known client = true → client < ties.nextClient
  born : ∀ id, ties.stands id ≠ none → ties.born id = true
  begotten : ∀ id, ties.born id = true → id.client < ties.nextClient

/-- As long as a connection is live, an object stands for a surface of it as long as the surface is
live, and no other object does. -/
structure SurfacesTied (ties : Ties) : Prop where
  owned : ∀ id surface, ties.stands id = some (.surface surface) →
    ties.owner id.client = some surface.connection
  backed : ∀ id surface, ties.stands id = some (.surface surface) →
    ties.core surface.connection = true → ties.surface surface ≠ none
  held : ∀ surface, ties.surface surface ≠ none → ∃ id, ties.stands id = some (.surface surface)
  single : ∀ id other surface, ties.stands id = some (.surface surface) →
    ties.stands other = some (.surface surface) → ties.core surface.connection = true → id = other

/-- The callbacks that wait on a surface are those that have an entry. -/
structure CallbacksTied (ties : Ties) : Prop where
  own : ∀ surface waiting, ties.surface surface = some waiting → ∀ callback ∈ waiting,
    callback.connection = surface.connection
  entered : ∀ surface waiting, ties.surface surface = some waiting → ∀ callback ∈ waiting,
    ties.callbacks callback ≠ none
  awaited : ∀ callback, ties.callbacks callback ≠ none →
    ∃ surface waiting, ties.surface surface = some waiting ∧ callback ∈ waiting
  object : ∀ callback id, ties.callbacks callback = some id →
    ties.stands id = none ∨ ties.stands id = some .callback
  born : ∀ callback id, ties.callbacks callback = some id → ties.born id = true
  single : ∀ callback other id, ties.callbacks callback = some id →
    ties.callbacks other = some id → callback = other
  owned : ∀ callback id, ties.callbacks callback = some id →
    ties.owner id.client = some callback.connection
  /-- The object of a callback lives until it is told, unless its client is not served any more. -/
  kept : ∀ callback id, ties.callbacks callback = some id → ties.served id.client = true →
    ties.stands id = some .callback

/-- The objects of the buffers of a pool. -/
def buffersOf (ties : Ties) (pool : PoolId) : Set ObjectId :=
  {id | ∃ buffer, ties.stands id = some (.buffer buffer pool)}

/-- The entry of a pool knows what keeps the pool: its object, and how many objects of buffers. -/
structure PoolsTied (ties : Ties) : Prop where
  owned : ∀ id pool, ties.stands id = some (.pool pool) →
    ties.owner id.client = some pool.connection
  backed : ∀ id pool, ties.stands id = some (.pool pool) → ties.core pool.connection = true →
    (ties.pools pool).map PoolRefs.hasObject = some true
  single : ∀ id other pool, ties.stands id = some (.pool pool) →
    ties.stands other = some (.pool pool) → ties.core pool.connection = true → id = other
  object : ∀ pool refs, ties.pools pool = some refs → refs.hasObject = true →
    ∃ id, ties.stands id = some (.pool pool)
  live : ∀ pool, ties.pool pool = (ties.pools pool).isSome
  kept : ∀ pool refs, ties.pools pool = some refs → refs.hasObject = true ∨ 0 < refs.buffers
  count : ∀ pool refs, ties.pools pool = some refs → (ties.buffersOf pool).encard = refs.buffers

/-- Buffers, unlike pools, live exactly as long as their objects, as long as the connection does. -/
structure BuffersTied (ties : Ties) : Prop where
  owned : ∀ id buffer pool, ties.stands id = some (.buffer buffer pool) →
    ties.owner id.client = some buffer.connection ∧ pool.connection = buffer.connection
  backed : ∀ id buffer pool, ties.stands id = some (.buffer buffer pool) →
    ties.core buffer.connection = true → ties.buffer buffer = some pool ∧
      ties.buffers buffer = some id ∧ ties.pools pool ≠ none
  held : ∀ buffer pool, ties.buffer buffer = some pool →
    ∃ id, ties.stands id = some (.buffer buffer pool)
  entry : ∀ buffer id, ties.buffers buffer = some id →
    ties.core buffer.connection = true ∧ ∃ pool, ties.stands id = some (.buffer buffer pool)

/-- Window surfaces and toplevels have objects; these may outlive them, as a surface takes its
windows along. -/
structure WindowsTied (ties : Ties) : Prop where
  owned : ∀ id window shell, ties.stands id = some (.windowSurface window shell) →
    ties.owner id.client = some window.connection
  held : ∀ window, ties.window window ≠ none →
    ∃ id shell, ties.stands id = some (.windowSurface window shell)
  toplevel_owned : ∀ id toplevel, ties.stands id = some (.toplevel toplevel) →
    ties.owner id.client = some toplevel.connection
  toplevel_held : ∀ toplevel, ties.toplevel toplevel ≠ none → ties.toplevels toplevel ≠ none
  entry : ∀ toplevel objects, ties.toplevels toplevel = some objects →
    ties.core toplevel.connection = true ∧
      ties.stands objects.toplevel = some (.toplevel toplevel)

/-- A binding has one object, that of its capability. -/
structure BindingsTied (ties : Ties) : Prop where
  bound : ∀ id binding, ties.bindings id = some binding →
    ties.owner id.client = some binding.connection ∧ ties.core binding.connection = true ∧
      ties.binding binding = true ∧
        ∃ resource, ties.stands id = some resource ∧ resource.isCapability = true
  held : ∀ binding, ties.binding binding = true → ∃ id, ties.bindings id = some binding
  single : ∀ id other binding, ties.bindings id = some binding →
    ties.bindings other = some binding → id = other
  listener : ∀ binding id, ties.listeners binding = some id → ties.bindings id = some binding

/-- All ties, when some number of clients was accepted. -/
structure Tied (accepted : Nat) (ties : Ties) : Prop where
  within : ties.Within
  clients : ties.ClientsTied accepted
  surfaces : ties.SurfacesTied
  callbacks : ties.CallbacksTied
  pools : ties.PoolsTied
  buffers : ties.BuffersTied
  windows : ties.WindowsTied
  bindings : ties.BindingsTied

/-- The moves of the ties: an object gets its meaning or dies, together with what comes or goes with
it; callbacks are told; clients are dropped and forgotten, and their connections reaped. -/
inductive Move : Ties → Ties → Prop where
  | drop {ties : Ties} (client : ClientId) :
      Move ties { ties with
        served := update ties.served client false
        departed := fun id => decide (ties.owner client = some id) || ties.departed id }
  | forget {ties : Ties} {client : ClientId} (there : ties.known client = true)
      (bare : ∀ id, id.client = client → ties.stands id = none) :
      Move ties { ties with
        known := update ties.known client false
        owner := update ties.owner client none
        served := update ties.served client false
        born := fun id => decide (id.client = client) || ties.born id }
  | reap {ties : Ties} :
      Move ties { ties with
        departed := fun _ => false
        core := fun id => if ties.departed id then false else ties.core id
        binding := fun id => if ties.departed id.connection then false else ties.binding id
        pool := fun id => if ties.departed id.connection then false else ties.pool id
        buffer := fun id => if ties.departed id.connection then none else ties.buffer id
        surface := fun id => if ties.departed id.connection then none else ties.surface id
        window := fun id => if ties.departed id.connection then none else ties.window id
        toplevel := fun id => if ties.departed id.connection then none else ties.toplevel id
        bindings := fun id =>
          (ties.bindings id).filter fun binding => !ties.departed binding.connection
        listeners := fun id => if ties.departed id.connection then none else ties.listeners id
        pools := fun id => if ties.departed id.connection then none else ties.pools id
        buffers := fun id => if ties.departed id.connection then none else ties.buffers id
        callbacks := fun id => if ties.departed id.connection then none else ties.callbacks id
        toplevels := fun id => if ties.departed id.connection then none else ties.toplevels id }
  | establish {ties : Ties} {id : ObjectId} {interface : Wire.Interface} {resource : Resource}
      (inert : ties.stands id = some (.inert interface)) (plain : resource.IsPlain)
      (settled : ∀ interface, resource ≠ .inert interface) (other : resource ≠ .callback) :
      Move ties { ties with stands := update ties.stands id (some resource) }
  | expire {ties : Ties} {id : ObjectId} {resource : Resource}
      (found : ties.stands id = some resource) (unbound : ties.bindings id = none)
      (untold : resource = .callback → ties.served id.client = false)
      (lost : resource.IsPlain ∨ ∀ connection, ties.owner id.client = some connection →
        ties.core connection = false) :
      Move ties { ties with stands := update ties.stands id none }
  | openSurface {ties : Ties} {id : ObjectId} {interface : Wire.Interface} (surface : SurfaceId)
      (inert : ties.stands id = some (.inert interface))
      (own : ties.owner id.client = some surface.connection)
      (live : ties.core surface.connection = true) (fresh : ties.surface surface = none) :
      Move ties { ties with
        stands := update ties.stands id (some (.surface surface))
        surface := update ties.surface surface (some []) }
  | closeSurface {ties : Ties} {id : ObjectId} {surface : SurfaceId} {waiting : List CallbackId}
      (found : ties.stands id = some (.surface surface))
      (live : ties.surface surface = some waiting)
      (apart : ∀ other others, other ≠ surface → ties.surface other = some others →
        ∀ callback ∈ others, callback ∉ waiting) :
      Move ties { ties with
        stands := update ties.stands id none
        surface := update ties.surface surface none
        window := fun window =>
          if ties.window window = some surface then none else ties.window window
        toplevel := fun toplevel =>
          if (ties.toplevel toplevel).bind ties.window = some surface then none
          else ties.toplevel toplevel
        callbacks := fun callback =>
          if callback ∈ waiting then none else ties.callbacks callback }
  | request {ties : Ties} {id : ObjectId} {surface : SurfaceId} {waiting : List CallbackId}
      {callback : CallbackId} (inert : ties.stands id = some (.inert .callback))
      (served : ties.served id.client = true) (live : ties.surface surface = some waiting)
      (owned : ties.owner id.client = some callback.connection)
      (own : callback.connection = surface.connection)
      (fresh : ties.callbacks callback = none) :
      Move ties { ties with
        stands := update ties.stands id (some .callback)
        surface := update ties.surface surface (some (waiting ++ [callback]))
        callbacks := update ties.callbacks callback (some id) }
  | fire {ties : Ties} (fired : CallbackId → Bool) (spent : ObjectId → Bool)
      (spends : ∀ id, spent id = true →
        ∃ callback, fired callback = true ∧ ties.callbacks callback = some id) :
      Move ties { ties with
        stands := fun id => if spent id then none else ties.stands id
        surface := fun surface =>
          (ties.surface surface).map fun waiting => waiting.filter fun callback => !fired callback
        callbacks := fun callback => if fired callback then none else ties.callbacks callback }
  | openPool {ties : Ties} {id : ObjectId} {interface : Wire.Interface} (pool : PoolId)
      (inert : ties.stands id = some (.inert interface))
      (own : ties.owner id.client = some pool.connection)
      (live : ties.core pool.connection = true) (fresh : ties.pool pool = false) :
      Move ties { ties with
        stands := update ties.stands id (some (.pool pool))
        pool := update ties.pool pool true
        pools := update ties.pools pool (some {}) }
  | closePool {ties : Ties} {id : ObjectId} {pool : PoolId} {refs : PoolRefs}
      (found : ties.stands id = some (.pool pool)) (entered : ties.pools pool = some refs)
      (kept : 0 < refs.buffers) :
      Move ties { ties with
        stands := update ties.stands id none
        pools := update ties.pools pool (some { refs with hasObject := false }) }
  | closeBarePool {ties : Ties} {id : ObjectId} {pool : PoolId} {refs : PoolRefs}
      (found : ties.stands id = some (.pool pool)) (entered : ties.pools pool = some refs)
      (bare : refs.buffers = 0) :
      Move ties { ties with
        stands := update ties.stands id none
        pool := update ties.pool pool false
        pools := update ties.pools pool none }
  | openBuffer {ties : Ties} {id : ObjectId} {interface : Wire.Interface} {buffer : BufferId}
      (pool : PoolId) {refs : PoolRefs} (inert : ties.stands id = some (.inert interface))
      (own : ties.owner id.client = some buffer.connection)
      (same : pool.connection = buffer.connection) (entered : ties.pools pool = some refs)
      (fresh : ties.buffer buffer = none) :
      Move ties { ties with
        stands := update ties.stands id (some (.buffer buffer pool))
        buffer := update ties.buffer buffer (some pool)
        buffers := update ties.buffers buffer (some id)
        pools := update ties.pools pool (some { refs with buffers := refs.buffers + 1 }) }
  | closeBuffer {ties : Ties} {id : ObjectId} {buffer : BufferId} {pool : PoolId}
      {refs : PoolRefs} (found : ties.stands id = some (.buffer buffer pool))
      (entered : ties.pools pool = some refs) (kept : refs.hasObject = true ∨ 1 < refs.buffers) :
      Move ties { ties with
        stands := update ties.stands id none
        buffer := update ties.buffer buffer none
        buffers := update ties.buffers buffer none
        pools := update ties.pools pool (some { refs with buffers := refs.buffers - 1 }) }
  | closeLastBuffer {ties : Ties} {id : ObjectId} {buffer : BufferId} {pool : PoolId}
      {refs : PoolRefs} (found : ties.stands id = some (.buffer buffer pool))
      (entered : ties.pools pool = some refs) (gone : refs.hasObject = false)
      (last : refs.buffers ≤ 1) :
      Move ties { ties with
        stands := update ties.stands id none
        buffer := update ties.buffer buffer none
        buffers := update ties.buffers buffer none
        pool := update ties.pool pool false
        pools := update ties.pools pool none }
  | openWindow {ties : Ties} {id : ObjectId} {interface : Wire.Interface}
      (window : WindowSurfaceId) (surface : SurfaceId) (shell : Wire.ObjectIndex)
      (inert : ties.stands id = some (.inert interface))
      (own : ties.owner id.client = some window.connection)
      (live : ties.core window.connection = true) :
      Move ties { ties with
        stands := update ties.stands id (some (.windowSurface window shell))
        window := update ties.window window (some surface) }
  | closeWindow {ties : Ties} {id : ObjectId} {window : WindowSurfaceId} {shell : Wire.ObjectIndex}
      (found : ties.stands id = some (.windowSurface window shell)) :
      Move ties { ties with
        stands := update ties.stands id none
        window := update ties.window window none
        toplevel := fun toplevel =>
          if ties.toplevel toplevel = some window then none else ties.toplevel toplevel }
  | openToplevel {ties : Ties} {id : ObjectId} {interface : Wire.Interface} (toplevel : ToplevelId)
      (window : WindowSurfaceId) (parent : ObjectId)
      (inert : ties.stands id = some (.inert interface))
      (own : ties.owner id.client = some toplevel.connection)
      (live : ties.core toplevel.connection = true) :
      Move ties { ties with
        stands := update ties.stands id (some (.toplevel toplevel))
        toplevel := update ties.toplevel toplevel (some window)
        toplevels := update ties.toplevels toplevel (some ⟨id, parent⟩) }
  | closeToplevel {ties : Ties} {id : ObjectId} {toplevel : ToplevelId}
      (found : ties.stands id = some (.toplevel toplevel)) :
      Move ties { ties with
        stands := update ties.stands id none
        toplevel := update ties.toplevel toplevel none
        toplevels := update ties.toplevels toplevel none }
  | bind {ties : Ties} {id : ObjectId} {resource : Resource} (binding : BindingId)
      (found : ties.stands id = some resource) (capability : resource.isCapability = true)
      (unbound : ties.bindings id = none)
      (own : ties.owner id.client = some binding.connection)
      (live : ties.core binding.connection = true) (fresh : ties.binding binding = false)
      (listeners : BindingId → Option ObjectId)
      (heard : ∀ other listener, listeners other = some listener →
        ties.listeners other = some listener ∨ (other = binding ∧ listener = id)) :
      Move ties { ties with
        binding := update ties.binding binding true
        bindings := update ties.bindings id (some binding)
        listeners }
  | unbind {ties : Ties} {id : ObjectId} {binding : BindingId}
      (bound : ties.bindings id = some binding) :
      Move ties { ties with
        stands := update ties.stands id none
        binding := update ties.binding binding false
        bindings := update ties.bindings id none
        listeners := update ties.listeners binding none }

variable {accepted : Nat} {ties moved : Ties}

section Kept

attribute [local grind =] Function.update_apply Option.map_eq_some_iff Option.map_eq_none_iff
  Option.filter_eq_some_iff
attribute [local grind] Resource.IsPlain Resource.connection? Resource.isCapability

/-- No move gives birth to an object or brings one back to life. -/
theorem Move.stands_eq_none (move : Move ties moved) {id : ObjectId}
    (dead : ties.stands id = none) :
    moved.stands id = none := by
  cases move with
  | drop | forget | reap | bind => exact dead
  | _ => grind

/-- Objects stay born. -/
theorem Move.born (move : Move ties moved) {id : ObjectId} (born : ties.born id = true) :
    moved.born id = true := by
  cases move with
  | forget => grind
  | _ => exact born

/-- Objects stay within what was born. -/
theorem Move.within (move : Move ties moved) (tied : ties.Tied accepted) : moved.Within := by
  obtain ⟨binding, pool, buffer, surface, window, toplevel⟩ := tied.within
  have live := tied.pools.live
  -- A part of the census changes with few moves, and connections only go when they are reaped.
  constructor
  case binding =>
    cases move with
    | reap | bind | unbind => grind
    | _ => exact binding
  case pool =>
    cases move with
    | reap | openPool | closeBarePool | closeLastBuffer => grind
    | _ => exact pool
  case buffer =>
    cases move with
    | reap | openBuffer | closeBuffer | closeLastBuffer => grind
    | _ => exact buffer
  case surface =>
    cases move with
    | reap | openSurface | closeSurface | request | fire => grind
    | _ => exact surface
  case window =>
    cases move with
    | reap | closeSurface | openWindow | closeWindow => grind
    | _ => exact window
  case toplevel =>
    cases move with
    | reap | closeSurface | closeWindow | openToplevel | closeToplevel => grind
    | _ => exact toplevel

/-- A move keeps clients tied to connections. -/
theorem Move.clients (move : Move ties moved) (tied : ties.Tied accepted) :
    moved.ClientsTied accepted := by
  obtain ⟨single, numbers, live, away, departed, known, arrived, born, begotten⟩ := tied.clients
  constructor
  case born =>
    exact fun id alive => move.born (born id fun dead => alive (move.stands_eq_none dead))
  -- Only these moves change who is there.
  all_goals
    cases move with
    | drop | forget | reap => grind
    | _ => assumption

/-- What an object stands for is of the connection of its client. -/
theorem Tied.owned (tied : ties.Tied accepted) {id : ObjectId} {resource : Resource}
    {connection : ConnectionId} (stands : ties.stands id = some resource)
    (own : resource.connection? = some connection) : ties.owner id.client = some connection := by
  cases resource with
  | surface surface => exact (tied.surfaces.owned id surface stands).trans own
  | pool pool => exact (tied.pools.owned id pool stands).trans own
  | buffer buffer pool => exact (tied.buffers.owned id buffer pool stands).1.trans own
  | windowSurface window shell => exact (tied.windows.owned id window shell stands).trans own
  | toplevel toplevel => exact (tied.windows.toplevel_owned id toplevel stands).trans own
  | _ => cases own

/-- A move gives an object no meaning but one of the connection of its client, and a client is
forgotten only after its objects. -/
theorem Move.owned (move : Move ties moved) (tied : ties.Tied accepted) {id : ObjectId}
    {resource : Resource} {connection : ConnectionId} (stands : moved.stands id = some resource)
    (own : resource.connection? = some connection) : moved.owner id.client = some connection := by
  have owned := @Tied.owned _ _ tied
  cases move with
  | drop | reap | bind => exact owned stands own
  | establish _ plain =>
    have unowned := plain.connection?_eq_none
    grind
  | _ => grind

private theorem Move.surface_backed (move : Move ties moved) (tied : ties.Tied accepted)
    {id : ObjectId} {surface : SurfaceId} (found : moved.stands id = some (.surface surface))
    (live : moved.core surface.connection = true) : moved.surface surface ≠ none := by
  have backed := tied.surfaces.backed
  have single := tied.surfaces.single
  cases move with
  | drop | forget | bind => exact backed id surface found live
  | _ => grind

private theorem Move.surface_held (move : Move ties moved) (tied : ties.Tied accepted)
    {surface : SurfaceId} (live : moved.surface surface ≠ none) :
    ∃ id, moved.stands id = some (.surface surface) := by
  have owned := tied.surfaces.owned
  have held := tied.surfaces.held
  have within := tied.within.surface
  have bound := tied.bindings.bound
  have object := tied.callbacks.object
  cases move with
  | drop | forget | bind => exact held surface live
  | @openSurface id _ opened inert =>
    rcases eq_or_ne surface opened with rfl | other
    · exact ⟨id, update_self ..⟩
    · exact (held surface (by grind)).imp (by grind)
  | _ => exact (held surface (by grind)).imp (by grind)

private theorem Move.surface_single (move : Move ties moved) (tied : ties.Tied accepted)
    {id other : ObjectId} {surface : SurfaceId} (found : moved.stands id = some (.surface surface))
    (again : moved.stands other = some (.surface surface))
    (live : moved.core surface.connection = true) : id = other := by
  have backed := tied.surfaces.backed
  have single := tied.surfaces.single
  cases move with
  | drop | forget | bind => exact single id other surface found again live
  | _ => grind

/-- A move keeps surfaces tied to objects. -/
theorem Move.surfaces (move : Move ties moved) (tied : ties.Tied accepted) :
    moved.SurfacesTied where
  owned _ _ stands := move.owned tied stands rfl
  backed _ _ := move.surface_backed tied
  held _ := move.surface_held tied
  single _ _ _ := move.surface_single tied

private theorem Move.callback_own (move : Move ties moved) (tied : ties.Tied accepted) :
    ∀ surface waiting, moved.surface surface = some waiting → ∀ callback ∈ waiting,
      callback.connection = surface.connection := by
  have own := tied.callbacks.own
  cases move with
  | reap | openSurface | closeSurface | request | fire => grind
  | _ => exact own

private theorem Move.callback_entered (move : Move ties moved) (tied : ties.Tied accepted) :
    ∀ surface waiting, moved.surface surface = some waiting → ∀ callback ∈ waiting,
      moved.callbacks callback ≠ none := by
  have own := tied.callbacks.own
  have entered := tied.callbacks.entered
  cases move with
  | reap | openSurface | closeSurface | request | fire => grind
  | _ => exact entered

private theorem Move.callback_awaited (move : Move ties moved) (tied : ties.Tied accepted)
    {callback : CallbackId} (entry : moved.callbacks callback ≠ none) :
    ∃ surface waiting, moved.surface surface = some waiting ∧ callback ∈ waiting := by
  have awaited := tied.callbacks.awaited
  have own := tied.callbacks.own
  cases move with
  | @request id asked waiting requested inert served live =>
    rcases eq_or_ne callback requested with rfl | other
    · exact ⟨asked, waiting ++ [callback], update_self .., by simp⟩
    · obtain ⟨surface, others, found, waits⟩ := awaited callback (by grind)
      rcases eq_or_ne surface asked with rfl | apart
      · exact ⟨surface, waiting ++ [requested], update_self .., by grind⟩
      · exact ⟨surface, others, by grind, waits⟩
  | fire fired =>
    obtain ⟨surface, waiting, found, waits⟩ := awaited callback (by grind)
    exact ⟨surface, waiting.filter fun callback => !fired callback, by grind, by grind⟩
  | reap | openSurface | closeSurface =>
    exact (awaited callback (by grind)).imp fun surface => Exists.imp (by grind)
  | _ => exact awaited callback entry

private theorem Move.callback_object (move : Move ties moved) (tied : ties.Tied accepted)
    {callback : CallbackId} {id : ObjectId} (entry : moved.callbacks callback = some id) :
    moved.stands id = none ∨ moved.stands id = some .callback := by
  have object := tied.callbacks.object
  cases move with
  | drop | forget | bind => exact object callback id entry
  | _ => grind

private theorem Move.callback_born (move : Move ties moved) (tied : ties.Tied accepted)
    {callback : CallbackId} {id : ObjectId} (entry : moved.callbacks callback = some id) :
    moved.born id = true := by
  have born := tied.callbacks.born
  have alive := tied.clients.born
  cases move with
  | forget | reap | closeSurface | request | fire => grind
  | _ => exact born callback id entry

private theorem Move.callback_kept (move : Move ties moved) (tied : ties.Tied accepted)
    {callback : CallbackId} {id : ObjectId} (entry : moved.callbacks callback = some id)
    (served : moved.served id.client = true) :
    moved.stands id = some .callback := by
  have object := tied.callbacks.object
  have single := tied.callbacks.single
  have kept := tied.callbacks.kept
  have bound := tied.bindings.bound
  cases move <;> grind

private theorem Move.callback_single (move : Move ties moved) (tied : ties.Tied accepted)
    {callback other : CallbackId} {id : ObjectId} (entry : moved.callbacks callback = some id)
    (entry' : moved.callbacks other = some id) :
    callback = other := by
  have object := tied.callbacks.object
  have single := tied.callbacks.single
  cases move with
  | reap | closeSurface | request | fire => grind
  | _ => exact single callback other id entry entry'

private theorem Move.callback_owned (move : Move ties moved) (tied : ties.Tied accepted)
    {callback : CallbackId} {id : ObjectId} (entry : moved.callbacks callback = some id) :
    moved.owner id.client = some callback.connection := by
  have owned := tied.callbacks.owned
  have held := tied.surfaces.held
  have surface_owned := tied.surfaces.owned
  have client := tied.clients.single
  have awaited := tied.callbacks.awaited
  have own := tied.callbacks.own
  cases move with
  | @forget client bare =>
    obtain ⟨surface, waiting, live, waits⟩ := awaited callback (by grind)
    obtain ⟨holder, found⟩ := held surface (by grind)
    have same := own surface waiting live callback waits
    grind
  | reap | closeSurface | request | fire => grind
  | _ => exact owned callback id entry

/-- A move keeps callbacks tied to objects. -/
theorem Move.callbacks (move : Move ties moved) (tied : ties.Tied accepted) :
    moved.CallbacksTied where
  own := move.callback_own tied
  entered := move.callback_entered tied
  awaited _ := move.callback_awaited tied
  object _ _ := move.callback_object tied
  born _ _ := move.callback_born tied
  single _ _ _ := move.callback_single tied
  owned _ _ := move.callback_owned tied
  kept _ _ := move.callback_kept tied

/-- A pool that counts no buffers has no objects for any. -/
theorem PoolsTied.bare (tied : ties.PoolsTied) {pool : PoolId} {refs : PoolRefs}
    (entered : ties.pools pool = some refs) (none : refs.buffers = 0) (id : ObjectId)
    (buffer : BufferId) : ties.stands id ≠ some (.buffer buffer pool) := by
  intro found
  have count := tied.count pool refs entered
  rw [none, Nat.cast_zero, Set.encard_eq_zero] at count
  exact (count ▸ (⟨buffer, found⟩ : id ∈ ties.buffersOf pool) : id ∈ (∅ : Set ObjectId))

/-- A pool that is entered has its object, or one of a buffer. -/
theorem PoolsTied.exists_object (tied : ties.PoolsTied) {pool : PoolId} {refs : PoolRefs}
    (entered : ties.pools pool = some refs) :
    (∃ id, ties.stands id = some (.pool pool)) ∨ (ties.buffersOf pool).Nonempty := by
  rcases tied.kept pool refs entered with has | some
  · exact .inl (tied.object pool refs entered has)
  · refine .inr (Set.encard_pos.mp ?_)
    rw [tied.count pool refs entered]
    exact_mod_cast some

/-- A pool that counts one buffer has one object for it. -/
theorem PoolsTied.last (tied : ties.PoolsTied) {pool : PoolId} {refs : PoolRefs}
    (entered : ties.pools pool = some refs) (last : refs.buffers ≤ 1) {id other : ObjectId}
    {buffer buffer' : BufferId} (found : ties.stands id = some (.buffer buffer pool))
    (found' : ties.stands other = some (.buffer buffer' pool)) : id = other := by
  have count := tied.count pool refs entered
  have few : (ties.buffersOf pool).encard ≤ 1 := by
    rw [count]
    exact_mod_cast last
  exact Set.encard_le_one_iff.mp few id other ⟨buffer, found⟩ ⟨buffer', found'⟩

/-- A buffer is carved out of a pool of its own connection. -/
theorem Move.buffer_carved (move : Move ties moved) (tied : ties.Tied accepted) {id : ObjectId}
    {buffer : BufferId} {pool : PoolId} (found : moved.stands id = some (.buffer buffer pool)) :
    pool.connection = buffer.connection := by
  have carved := fun id buffer pool stands => (tied.buffers.owned id buffer pool stands).2
  cases move with
  | drop | forget | reap | bind => exact carved id buffer pool found
  | _ => grind

private theorem Move.buffer_backed (move : Move ties moved) (tied : ties.Tied accepted)
    {id : ObjectId}
    {buffer : BufferId} {pool : PoolId} (found : moved.stands id = some (.buffer buffer pool))
    (live : moved.core buffer.connection = true) :
    moved.buffer buffer = some pool ∧ moved.buffers buffer = some id ∧ moved.pools pool ≠ none := by
  have owned := tied.buffers.owned
  have backed := tied.buffers.backed
  have held := tied.buffers.held
  cases move with
  | closeBarePool _ entered none =>
    have bare := tied.pools.bare entered none
    grind
  | closeLastBuffer _ entered gone last =>
    have only := @PoolsTied.last _ tied.pools _ _ entered last
    grind
  | _ => grind

private theorem Move.buffer_held (move : Move ties moved) (tied : ties.Tied accepted)
    {buffer : BufferId} {pool : PoolId} (live : moved.buffer buffer = some pool) :
    ∃ id, moved.stands id = some (.buffer buffer pool) := by
  have within := tied.within.buffer
  have owned := tied.buffers.owned
  have held := tied.buffers.held
  have bound := tied.bindings.bound
  have object := tied.callbacks.object
  cases move with
  | @openBuffer id _ opened =>
    rcases eq_or_ne buffer opened with rfl | other
    · exact ⟨id, by grind⟩
    · exact (held buffer pool (by grind)).imp (by grind)
  | _ => exact (held buffer pool (by grind)).imp (by grind)

private theorem Move.buffer_entry (move : Move ties moved) (tied : ties.Tied accepted)
    {buffer : BufferId} {id : ObjectId} (entered : moved.buffers buffer = some id) :
    moved.core buffer.connection = true ∧ ∃ pool, moved.stands id = some (.buffer buffer pool) := by
  have owned := tied.buffers.owned
  have entry := tied.buffers.entry
  have within := tied.within.pool
  have alive := tied.pools.live
  have bound := tied.bindings.bound
  have object := tied.callbacks.object
  cases move with
  | openBuffer => grind
  | expire =>
    obtain ⟨live, pool, found⟩ := entry buffer id entered
    have own := (owned id buffer pool found).1
    grind
  | _ => exact (entry buffer id (by grind)).imp (by grind) (Exists.imp (by grind))

/-- A move keeps buffers tied to objects. -/
theorem Move.buffers (move : Move ties moved) (tied : ties.Tied accepted) : moved.BuffersTied where
  owned _ _ _ stands := ⟨move.owned tied stands rfl, move.buffer_carved tied stands⟩
  backed _ _ _ := move.buffer_backed tied
  held _ _ := move.buffer_held tied
  entry _ _ := move.buffer_entry tied

private theorem Move.pool_backed (move : Move ties moved) (tied : ties.Tied accepted)
    {id : ObjectId} {pool : PoolId} (found : moved.stands id = some (.pool pool))
    (live : moved.core pool.connection = true) :
    (moved.pools pool).map PoolRefs.hasObject = some true := by
  have backed := tied.pools.backed
  have single := tied.pools.single
  have buffer_owned := tied.buffers.owned
  have within := tied.within.pool
  have alive := tied.pools.live
  cases move with
  | drop | forget | bind => exact backed id pool found live
  | _ => grind

private theorem Move.pool_single (move : Move ties moved) (tied : ties.Tied accepted)
    {id other : ObjectId} {pool : PoolId} (found : moved.stands id = some (.pool pool))
    (again : moved.stands other = some (.pool pool)) (live : moved.core pool.connection = true) :
    id = other := by
  have backed := tied.pools.backed
  have single := tied.pools.single
  have alive := tied.pools.live
  cases move with
  | drop | forget | bind => exact single id other pool found again live
  | _ => grind

private theorem Move.pool_object (move : Move ties moved) (tied : ties.Tied accepted)
    {pool : PoolId}
    {refs : PoolRefs} (entered : moved.pools pool = some refs) (kept : refs.hasObject = true) :
    ∃ id, moved.stands id = some (.pool pool) := by
  have owned := tied.pools.owned
  have object' := tied.pools.object
  have within := tied.within.pool
  have alive := tied.pools.live
  have bound := tied.bindings.bound
  have object := tied.callbacks.object
  cases move with
  | @openPool id _ opened =>
    rcases eq_or_ne pool opened with rfl | other
    · exact ⟨id, update_self ..⟩
    · exact (object' pool refs (by grind) kept).imp (by grind)
  | @openBuffer _ _ _ counting old | @closeBuffer _ _ counting old =>
    rcases eq_or_ne pool counting with rfl | other
    · exact (object' pool old (by grind) (by grind)).imp (by grind)
    · exact (object' pool refs (by grind) kept).imp (by grind)
  | _ => exact (object' pool refs (by grind) kept).imp (by grind)

private theorem Move.pool_live (move : Move ties moved) (tied : ties.Tied accepted)
    (pool : PoolId) : moved.pool pool = (moved.pools pool).isSome := by
  have live := tied.pools.live
  cases move with
  | reap | openPool | closePool | closeBarePool | openBuffer | closeBuffer | closeLastBuffer =>
    grind
  | _ => exact live pool

private theorem Move.pool_kept (move : Move ties moved) (tied : ties.Tied accepted) {pool : PoolId}
    {refs : PoolRefs} (entered : moved.pools pool = some refs) :
    refs.hasObject = true ∨ 0 < refs.buffers := by
  have kept := tied.pools.kept
  cases move with
  | reap | openPool | closePool | closeBarePool | openBuffer | closeBuffer | closeLastBuffer =>
    grind
  | _ => exact kept pool refs entered

variable (ties) in
private theorem buffersOf_congr {pool : PoolId} (same : ∀ id buffer,
    moved.stands id = some (.buffer buffer pool) ↔ ties.stands id = some (.buffer buffer pool)) :
    moved.buffersOf pool = ties.buffersOf pool :=
  Set.ext fun id => exists_congr (same id)

variable (ties) in
/-- A pool has one object more when the object of a buffer gets its meaning. -/
theorem encard_buffersOf_open {id : ObjectId} {buffer : BufferId} {pool : PoolId}
    (apart : ∀ buffer, ties.stands id ≠ some (.buffer buffer pool))
    (opened : moved.stands = update ties.stands id (some (.buffer buffer pool))) :
    (moved.buffersOf pool).encard = (ties.buffersOf pool).encard + 1 := by
  have grown : moved.buffersOf pool = insert id (ties.buffersOf pool) := by
    ext other
    rcases eq_or_ne other id with rfl | different
    · simp [buffersOf, opened]
    · simp [buffersOf, opened, update_of_ne, different]
  rw [grown]
  exact Set.encard_insert_of_notMem fun ⟨buffer, found⟩ => apart buffer found

/-- A pool has one object less when the object of a buffer dies. -/
theorem encard_buffersOf_close {id : ObjectId} {buffer : BufferId} {pool : PoolId}
    (found : ties.stands id = some (.buffer buffer pool))
    (closed : moved.stands = update ties.stands id none) :
    (moved.buffersOf pool).encard + 1 = (ties.buffersOf pool).encard := by
  have shrunk : moved.buffersOf pool = ties.buffersOf pool \ {id} := by
    ext other
    rcases eq_or_ne other id with rfl | different
    · simp [buffersOf, closed]
    · simp [buffersOf, closed, update_of_ne, different]
  rw [shrunk]
  exact Set.encard_sdiff_singleton_add_one ⟨buffer, found⟩

private theorem eq_sub_one_of_add_one_eq {count : ℕ∞} {more : ℕ} (counted : count + 1 = more) :
    count = (more - 1 : ℕ) := by
  cases count with
  | top => exact (ENat.natCast_ne_top more counted.symm).elim
  | coe count =>
    norm_cast at counted ⊢
    omega

/-- A move counts the objects of the buffers of a pool. -/
theorem Move.pool_count (move : Move ties moved) (tied : ties.Tied accepted) {pool : PoolId}
    {refs : PoolRefs} (entered : moved.pools pool = some refs) :
    (moved.buffersOf pool).encard = refs.buffers := by
  have owned := tied.buffers.owned
  have count := tied.pools.count
  have within := tied.within.pool
  have alive := tied.pools.live
  have bound := tied.bindings.bound
  have object := tied.callbacks.object
  cases move with
  | @openBuffer id _ opened counting old =>
    rcases eq_or_ne pool counting with rfl | other
    · have more : refs.buffers = old.buffers + 1 := by grind
      rw [encard_buffersOf_open ties (by grind) rfl, count pool old (by grind), more]
      rfl
    · rw [buffersOf_congr ties (by grind), count pool refs (by grind)]
  | @closeBuffer id closed counting old found =>
    rcases eq_or_ne pool counting with rfl | other
    · have fewer : refs.buffers = old.buffers - 1 := by grind
      rw [fewer]
      refine eq_sub_one_of_add_one_eq (.trans ?_ (count pool old (by grind)))
      exact encard_buffersOf_close found rfl
    · rw [buffersOf_congr ties (by grind), count pool refs (by grind)]
  | @closePool id closed old found =>
    rw [buffersOf_congr ties (by grind)]
    rcases eq_or_ne pool closed with rfl | other
    · exact (count pool old (by grind)).trans (by grind)
    · exact count pool refs (by grind)
  | @openPool id _ opened _ _ live fresh =>
    rw [buffersOf_congr ties (by grind)]
    rcases eq_or_ne pool opened with rfl | other
    · have empty : refs.buffers = 0 := by grind
      rw [empty, Nat.cast_zero, Set.encard_eq_zero, Set.eq_empty_iff_forall_notMem]
      rintro other ⟨buffer, found⟩
      have entry := (tied.buffers.backed other buffer pool found
        ((owned other buffer pool found).2 ▸ live)).2.2
      exact entry (by simpa [fresh] using (alive pool).symm)
    · exact count pool refs (by grind)
  | _ => rw [buffersOf_congr ties (by grind), count pool refs (by grind)]

/-- A move keeps pools tied to objects, and counts their buffers. -/
theorem Move.pools (move : Move ties moved) (tied : ties.Tied accepted) : moved.PoolsTied where
  owned _ _ stands := move.owned tied stands rfl
  backed _ _ := move.pool_backed tied
  single _ _ _ := move.pool_single tied
  object _ _ := move.pool_object tied
  live := move.pool_live tied
  kept _ _ := move.pool_kept tied
  count _ _ := move.pool_count tied

private theorem Move.window_held (move : Move ties moved) (tied : ties.Tied accepted)
    {window : WindowSurfaceId} (live : moved.window window ≠ none) :
    ∃ id shell, moved.stands id = some (.windowSurface window shell) := by
  have owned := tied.windows.owned
  have held := tied.windows.held
  have within := tied.within.window
  have bound := tied.bindings.bound
  have object := tied.callbacks.object
  cases move with
  | drop | forget | bind => exact held window live
  | @openWindow id _ opened _ shell =>
    rcases eq_or_ne window opened with rfl | other
    · exact ⟨id, shell, update_self ..⟩
    · exact (held window (by grind)).imp fun id => Exists.imp (by grind)
  | _ => exact (held window (by grind)).imp fun id => Exists.imp (by grind)

private theorem Move.toplevel_held (move : Move ties moved) (tied : ties.Tied accepted)
    {toplevel : ToplevelId} (live : moved.toplevel toplevel ≠ none) :
    moved.toplevels toplevel ≠ none := by
  have held := tied.windows.toplevel_held
  cases move with
  | reap | closeSurface | closeWindow | openToplevel | closeToplevel => grind
  | _ => exact held toplevel live

private theorem Move.toplevel_entry (move : Move ties moved) (tied : ties.Tied accepted)
    {toplevel : ToplevelId} {objects : ToplevelObjects}
    (entered : moved.toplevels toplevel = some objects) :
    moved.core toplevel.connection = true ∧
      moved.stands objects.toplevel = some (.toplevel toplevel) := by
  have owned := tied.windows.toplevel_owned
  have entry := tied.windows.entry
  have bound := tied.bindings.bound
  have object := tied.callbacks.object
  cases move with
  | drop | forget | bind => exact entry toplevel objects entered
  | _ => grind

/-- A move keeps window surfaces and toplevels tied to objects. -/
theorem Move.windows (move : Move ties moved) (tied : ties.Tied accepted) :
    moved.WindowsTied where
  owned _ _ _ stands := move.owned tied stands rfl
  held _ := move.window_held tied
  toplevel_owned _ _ stands := move.owned tied stands rfl
  toplevel_held _ := move.toplevel_held tied
  entry _ _ := move.toplevel_entry tied

private theorem Move.binding_bound (move : Move ties moved) (tied : ties.Tied accepted)
    {id : ObjectId} {binding : BindingId} (entered : moved.bindings id = some binding) :
    moved.owner id.client = some binding.connection ∧ moved.core binding.connection = true ∧
      moved.binding binding = true ∧
        ∃ resource, moved.stands id = some resource ∧ resource.isCapability = true := by
  have bound := tied.bindings.bound
  have single := tied.bindings.single
  have object := tied.callbacks.object
  cases move with
  | drop => exact bound id binding entered
  | _ => grind

/-- A move keeps bindings tied to objects. -/
theorem Move.bindings (move : Move ties moved) (tied : ties.Tied accepted) :
    moved.BindingsTied := by
  obtain ⟨bound, held, single, listener⟩ := tied.bindings
  have within := tied.within.binding
  constructor
  case bound => exact fun _ _ => move.binding_bound tied
  case held =>
    intro binding live
    cases move with
    | @bind id _ given =>
      rcases eq_or_ne binding given with rfl | other
      · exact ⟨id, update_self ..⟩
      · exact (held binding (by grind)).imp (by grind)
    | reap | unbind => exact (held binding (by grind)).imp (by grind)
    | _ => exact held binding live
  -- Only these moves change what is bound, and who hears of it.
  all_goals
    cases move with
    | reap | bind | unbind => grind
    | _ => assumption

/-- **Every move keeps the ties.** -/
theorem Move.tied (move : Move ties moved) (tied : ties.Tied accepted) : moved.Tied accepted where
  within := move.within tied
  clients := move.clients tied
  surfaces := move.surfaces tied
  callbacks := move.callbacks tied
  pools := move.pools tied
  buffers := move.buffers tied
  windows := move.windows tied
  bindings := move.bindings tied

/-- A client arrives, with the connection that the server just accepted or with none. -/
theorem Tied.arrive (tied : ties.Tied accepted) (connection : Option ConnectionId) {more : Nat}
    (least : accepted ≤ more)
    (fresh : ∀ id, connection = some id → id.number.toNat = accepted ∧ accepted < more) :
    Tied more { ties with
      core := fun id => decide (connection = some id) || ties.core id
      nextClient := ties.nextClient + 1
      known := update ties.known ties.nextClient true
      owner := update ties.owner ties.nextClient connection
      served := update ties.served ties.nextClient true } := by
  obtain ⟨within, clients, surfaces, callbacks, pools, buffers, windows, bindings⟩ := tied
  have born := clients.born
  have begotten := clients.begotten
  have numbers := clients.numbered
  constructor
  case within =>
    obtain ⟨binding, pool, buffer, surface, window, toplevel⟩ := within
    constructor <;> grind
  case clients =>
    obtain ⟨single, numbers, live, away, departed, known, arrived, born, begotten⟩ := clients
    constructor <;> grind
  case surfaces =>
    obtain ⟨owned, backed, held, single⟩ := surfaces
    constructor <;> grind
  case callbacks =>
    obtain ⟨own, entered, awaited, object, born', single, owned, kept⟩ := callbacks
    constructor <;> grind
  case pools =>
    obtain ⟨owned, backed, single, object, live, kept, count⟩ := pools
    constructor
    case count => exact count
    all_goals grind
  case buffers =>
    obtain ⟨owned, backed, held, entry⟩ := buffers
    constructor <;> grind
  case windows =>
    obtain ⟨owned, held, toplevel_owned, toplevel_held, entry⟩ := windows
    constructor <;> grind
  case bindings =>
    obtain ⟨bound, held, single, listener⟩ := bindings
    constructor <;> grind

/-- A client gets another object, which stands for nothing that the server holds yet. -/
theorem Tied.create (tied : ties.Tied accepted) {id : ObjectId} {resource : Resource}
    (there : ties.known id.client = true) (unborn : ties.born id = false)
    (plain : resource.IsPlain) :
    Tied accepted { ties with
      stands := update ties.stands id (some resource)
      born := update ties.born id true } := by
  obtain ⟨within, clients, surfaces, callbacks, pools, buffers, windows, bindings⟩ := tied
  have alive := clients.born
  constructor
  case within =>
    obtain ⟨binding, pool, buffer, surface, window, toplevel⟩ := within
    constructor <;> grind
  case clients =>
    obtain ⟨single, numbers, live, away, departed, known, arrived, born, begotten⟩ := clients
    constructor <;> grind
  case surfaces =>
    obtain ⟨owned, backed, held, single⟩ := surfaces
    constructor
    case held => exact fun surface live => (held surface live).imp (by grind)
    all_goals grind
  case callbacks =>
    obtain ⟨own, entered, awaited, object, born', single, owned, kept⟩ := callbacks
    constructor <;> grind
  case pools =>
    obtain ⟨owned, backed, single, object, live, kept, count⟩ := pools
    constructor
    case count =>
      intro pool refs entered
      rw [buffersOf_congr ties (by grind), count pool refs entered]
    case object => exact fun pool refs entered has => (object pool refs entered has).imp (by grind)
    all_goals grind
  case buffers =>
    obtain ⟨owned, backed, held, entry⟩ := buffers
    constructor
    case held => exact fun buffer pool live => (held buffer pool live).imp (by grind)
    case entry =>
      exact fun buffer object entered =>
        ⟨(entry buffer object entered).1, (entry buffer object entered).2.imp (by grind)⟩
    all_goals grind
  case windows =>
    obtain ⟨owned, held, toplevel_owned, toplevel_held, entry⟩ := windows
    constructor
    case held => exact fun window live => (held window live).imp fun _ => Exists.imp (by grind)
    all_goals grind
  case bindings =>
    obtain ⟨bound, held, single, listener⟩ := bindings
    constructor <;> grind

/-- No move makes an object inert. -/
theorem Move.inert (move : Move ties moved) {id : ObjectId} {interface : Wire.Interface}
    (inert : moved.stands id = some (.inert interface)) :
    ties.stands id = some (.inert interface) := by
  cases move with
  | drop | forget | reap | bind => exact inert
  | _ => grind

/-- The entry of a callback is new only if its object is about to become one. -/
theorem Move.recalls (move : Move ties moved) {callback : CallbackId} {id : ObjectId}
    (entry : moved.callbacks callback = some id) :
    ties.callbacks callback = some id ∨ ties.stands id = some (.inert .callback) ∧
      ties.served id.client = true ∧ ∃ connection, ties.owner id.client = some connection := by
  cases move with
  | reap | closeSurface | request | fire => grind
  | _ => exact .inl entry

/-- An object becomes that of a callback only when the callback is entered for it. -/
theorem Move.calls (move : Move ties moved) {id : ObjectId}
    (stands : moved.stands id = some .callback) :
    ties.stands id = some .callback ∨ ties.stands id = some (.inert .callback) ∧
      ties.served id.client = true ∧ ∃ connection, ties.owner id.client = some connection := by
  cases move with
  | drop | forget | reap | bind => exact .inl stands
  | _ => grind

/-- Nobody is served again. -/
theorem Move.served (move : Move ties moved) {client : ClientId}
    (served : moved.served client = true) : ties.served client = true := by
  cases move with
  | drop | forget => grind
  | _ => exact served

end Kept

end Ties
end DisplayServer
