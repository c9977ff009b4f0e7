import DisplayServer.Proofs.Disconnection

/-! # What a destruction is to each object

Something of a client that is destroyed takes along what stands on it: a surface its window surface
and toplevel, a pool its buffers. What stays forgets it: a pool strikes a buffer off its list, a
buffer loses the claims of a surface. Each object can tell from what it says itself whether it goes,
and what it has to forget (`Destruction.bindingAfter` to `Destruction.toplevelAfter`). So nothing
has to be known of the order of destructions.

The server does not ask each object. It follows the links and lists from the object that goes, and
comes to the same as long as they are right (`Connection.Coherent.undergoes_destroyed`). As a
connection keeps its objects in the order of their handles, it is what its handles find
(`Connection.eq_of_get?_eq`), and two destructions may trade places (`Connection.Undergoes.comm`).
-/

namespace DisplayServer

/-- Something of a client to be destroyed, whether it is live or not. -/
inductive Destruction where
  | binding (id : BindingId)
  | pool (id : PoolId)
  | buffer (id : BufferId)
  | surface (id : SurfaceId)
  | windowSurface (id : WindowSurfaceId)
  | toplevel (id : ToplevelId)
deriving DecidableEq, Repr

namespace Arena

variable {α : Type}

/-- An arena that lists its objects in the order of their handles is what the handles find. -/
theorem eq_of_get?_eq {kind : ObjectKind} {first second : Arena (Handle kind) α}
    (ordered : first.keys.Pairwise fun one other => one.index < other.index)
    (ordered' : second.keys.Pairwise fun one other => one.index < other.index)
    (same : ∀ id, first.get? id = second.get? id) : first = second := by
  have distinct {arena : Arena (Handle kind) α}
      (ordered : arena.keys.Pairwise fun one other => one.index < other.index) :
      arena.keys.Nodup := by
    refine ordered.imp fun {one other} before equal => ?_
    rw [equal] at before
    exact UInt32.lt_irrefl _ before
  have listed (entry : Handle kind × α) : entry ∈ first.entries ↔ entry ∈ second.entries := by
    rw [← get?_eq_some_iff (distinct ordered), ← get?_eq_some_iff (distinct ordered'), same]
  have permuted : first.entries.Perm second.entries :=
    (List.perm_ext_iff_of_nodup (distinct ordered).of_map (distinct ordered').of_map).mpr listed
  have entries : first.entries = second.entries := by
    unfold keys at ordered ordered'
    rw [List.pairwise_map] at ordered ordered'
    refine permuted.eq_of_pairwise (fun one other _ _ before after => ?_) ordered ordered'
    exact (UInt32.lt_asymm before after).elim
  exact congrArg mk entries

end Arena

namespace Destruction

/-- The request of a client that destroys something. -/
def operation : Destruction → Operation
  | binding id => .unbind id
  | pool id => .destroyPool id
  | buffer id => .destroyBuffer id
  | surface id => .destroySurface id
  | windowSurface id => .destroyWindowSurface id
  | toplevel id => .destroyToplevel id

/-- The connection that loses something. -/
def connection : Destruction → ConnectionId
  | binding id => id.connection
  | pool id => id.connection
  | buffer id => id.connection
  | surface id => id.connection
  | windowSurface id => id.connection
  | toplevel id => id.connection

/-- A destruction is a withdrawal on its connection. -/
theorem withdrawal?_operation (gone : Destruction) :
    gone.operation.withdrawal? = some gone.connection := by
  cases gone <;> rfl

/-- A destruction is addressed to its connection. -/
theorem addressee?_operation (gone : Destruction) :
    gone.operation.addressee? = some gone.connection := by
  cases gone <;> rfl

/-! ### What becomes of single objects -/

/-- An object that stands on what goes is gone as well. Any other changes. -/
def spare {α : Type} (gone : Destruction) (foundations : α → List Destruction) (change : α → α)
    (value : α) : Option α :=
  if gone ∈ foundations value then none else some (change value)

def bindingAfter (gone : Destruction) (id : BindingId) : Binding → Option Binding :=
  gone.spare (fun _ => [.binding id]) fun binding => binding

/-- A pool strikes a buffer that goes off its list. -/
def poolAfter (gone : Destruction) (id : PoolId) : Pool → Option Pool :=
  gone.spare (fun _ => [.pool id]) fun pool => { pool with
    buffers := pool.buffers.filter fun buffer => decide (gone ≠ .buffer buffer) }

/-- A buffer goes along with its pool, and loses the claims of a surface that goes. -/
def bufferAfter (gone : Destruction) (claimant : Option Surface) (id : BufferId) :
    Buffer → Option Buffer :=
  gone.spare (fun buffer => [.buffer id, .pool buffer.pool]) fun buffer =>
    claimant.elim buffer fun surface => Connection.abandon surface id buffer

/-- A surface forgets a window surface that goes. -/
def surfaceAfter (gone : Destruction) (id : SurfaceId) : Surface → Option Surface :=
  gone.spare (fun _ => [.surface id]) fun surface => { surface with
    windowSurface := surface.windowSurface.filter fun window =>
      decide (gone ≠ .windowSurface window) }

/-- A window surface goes along with its surface, and forgets a toplevel that goes. -/
def windowAfter (gone : Destruction) (id : WindowSurfaceId) :
    WindowSurface → Option WindowSurface :=
  gone.spare (fun window => [.windowSurface id, .surface window.surface]) fun window =>
    { window with
      toplevel := window.toplevel.filter fun toplevel => decide (gone ≠ .toplevel toplevel) }

def toplevelAfter (gone : Destruction) (id : ToplevelId) : Toplevel → Option Toplevel :=
  gone.spare
    (fun toplevel => [.toplevel id, .windowSurface toplevel.windowSurface,
      .surface toplevel.surface])
    fun toplevel => toplevel

/-- The view forgets a surface that goes. -/
def viewAfter (gone : Destruction) (view : Arena SurfaceId Metadata) : Arena SurfaceId Metadata :=
  match gone with
  | .surface id => view.erase id
  | _ => view

/-- The kinds of objects that may notice a destruction. -/
def reaches (gone : Destruction) (kind : ObjectKind) : Bool :=
  match gone, kind with
  | binding _, .binding => true
  | pool _, .pool | pool _, .buffer => true
  | buffer _, .pool | buffer _, .buffer => true
  | surface _, .buffer | surface _, .surface | surface _, .windowSurface
  | surface _, .toplevel => true
  | windowSurface _, .surface | windowSurface _, .windowSurface
  | windowSurface _, .toplevel => true
  | toplevel _, .windowSurface | toplevel _, .toplevel => true
  | _, _ => false

section Unnoticed

variable {gone : Destruction}

/-- A destruction that an object does not notice. -/
theorem eq_bind_of_unnoticed {α : Type} {held : Option α} {after : α → Option α}
    (unnoticed : ∀ value, held = some value → after value = some value) :
    held = held.bind after := by
  cases held with
  | none => rfl
  | some value => exact (unnoticed value rfl).symm

private theorem filter_eq_of_all {α : Type} {held : Option α} {test : α → Bool}
    (passes : ∀ value, held = some value → test value = true) : held.filter test = held := by
  cases held with
  | none => rfl
  | some value => exact if_pos (passes value rfl)

private theorem spare_eq_some {α : Type} {foundations : α → List Destruction} {change : α → α}
    {value : α} (stands : gone ∉ foundations value) (same : change value = value) :
    gone.spare foundations change value = some value := by
  rw [spare, if_neg stands, same]

private theorem bindingAfter_eq_some {id : BindingId} {binding : Binding}
    (apart : gone ≠ .binding id) : gone.bindingAfter id binding = some binding :=
  spare_eq_some (by simpa using apart) rfl

private theorem poolAfter_eq_some {id : PoolId} {pool : Pool} (apart : gone ≠ .pool id)
    (unlisted : ∀ buffer ∈ pool.buffers, gone ≠ .buffer buffer) :
    gone.poolAfter id pool = some pool := by
  apply spare_eq_some
  · simpa using apart
  · have kept : pool.buffers.filter (fun buffer => decide (gone ≠ .buffer buffer)) =
        pool.buffers :=
      List.filter_eq_self.mpr fun buffer listed => decide_eq_true (unlisted buffer listed)
    rw [kept]

private theorem bufferAfter_eq_some {id : BufferId} {buffer : Buffer} (apart : gone ≠ .buffer id)
    (backed : gone ≠ .pool buffer.pool) : gone.bufferAfter none id buffer = some buffer :=
  spare_eq_some (by simp [apart, backed]) rfl

private theorem surfaceAfter_eq_some {id : SurfaceId} {surface : Surface}
    (apart : gone ≠ .surface id)
    (unnamed : ∀ window, surface.windowSurface = some window → gone ≠ .windowSurface window) :
    gone.surfaceAfter id surface = some surface := by
  apply spare_eq_some
  · simpa using apart
  · have kept : surface.windowSurface.filter
        (fun window => decide (gone ≠ .windowSurface window)) = surface.windowSurface :=
      filter_eq_of_all fun window names => decide_eq_true (unnamed window names)
    rw [kept]

private theorem windowAfter_eq_some {id : WindowSurfaceId} {window : WindowSurface}
    (apart : gone ≠ .windowSurface id) (shown : gone ≠ .surface window.surface)
    (unnamed : ∀ toplevel, window.toplevel = some toplevel → gone ≠ .toplevel toplevel) :
    gone.windowAfter id window = some window := by
  apply spare_eq_some
  · simp [apart, shown]
  · have kept : window.toplevel.filter (fun toplevel => decide (gone ≠ .toplevel toplevel)) =
        window.toplevel :=
      filter_eq_of_all fun toplevel names => decide_eq_true (unnamed toplevel names)
    rw [kept]

private theorem toplevelAfter_eq_some {id : ToplevelId} {toplevel : Toplevel}
    (apart : gone ≠ .toplevel id) (opened : gone ≠ .windowSurface toplevel.windowSurface)
    (shown : gone ≠ .surface toplevel.surface) :
    gone.toplevelAfter id toplevel = some toplevel :=
  spare_eq_some (by simp [apart, opened, shown]) rfl

private theorem bindings_unreached (unreached : gone.reaches .binding = false)
    (held : Option Binding) (id : BindingId) : held = held.bind (gone.bindingAfter id) := by
  refine eq_bind_of_unnoticed fun binding _ => bindingAfter_eq_some ?_
  rintro rfl
  cases unreached

private theorem pools_unreached (unreached : gone.reaches .pool = false) (held : Option Pool)
    (id : PoolId) : held = held.bind (gone.poolAfter id) := by
  refine eq_bind_of_unnoticed fun pool _ => poolAfter_eq_some ?_ fun buffer _ => ?_ <;>
    rintro rfl <;> cases unreached

private theorem buffers_unreached (unreached : gone.reaches .buffer = false) (held : Option Buffer)
    (id : BufferId) : held = held.bind (gone.bufferAfter none id) := by
  refine eq_bind_of_unnoticed fun buffer _ => bufferAfter_eq_some ?_ ?_ <;>
    rintro rfl <;> cases unreached

private theorem surfaces_unreached (unreached : gone.reaches .surface = false)
    (held : Option Surface) (id : SurfaceId) : held = held.bind (gone.surfaceAfter id) := by
  refine eq_bind_of_unnoticed fun surface _ => surfaceAfter_eq_some ?_ fun window _ => ?_ <;>
    rintro rfl <;> cases unreached

private theorem windows_unreached (unreached : gone.reaches .windowSurface = false)
    (held : Option WindowSurface) (id : WindowSurfaceId) :
    held = held.bind (gone.windowAfter id) := by
  refine eq_bind_of_unnoticed fun window _ => windowAfter_eq_some ?_ ?_ fun toplevel _ => ?_ <;>
    rintro rfl <;> cases unreached

private theorem toplevels_unreached (unreached : gone.reaches .toplevel = false)
    (held : Option Toplevel) (id : ToplevelId) : held = held.bind (gone.toplevelAfter id) := by
  refine eq_bind_of_unnoticed fun toplevel _ => toplevelAfter_eq_some ?_ ?_ ?_ <;>
    rintro rfl <;> cases unreached

end Unnoticed

section Commuting

variable (first second : Destruction)

/-- What becomes of an object does not depend on the order, if neither change touches what the
object stands on. -/
theorem spare_comm {α : Type} {foundations : α → List Destruction} {change change' : α → α}
    {value : α} (kept : foundations (change value) = foundations value)
    (kept' : foundations (change' value) = foundations value)
    (commute : change' (change value) = change (change' value)) :
    (first.spare foundations change value).bind (second.spare foundations change') =
      (second.spare foundations change' value).bind (first.spare foundations change) := by
  by_cases early : first ∈ foundations value <;> by_cases late : second ∈ foundations value <;>
    simp [spare, early, late, kept, kept', commute]

private theorem bindingAfter_comm (id : BindingId) (binding : Binding) :
    (first.bindingAfter id binding).bind (second.bindingAfter id) =
      (second.bindingAfter id binding).bind (first.bindingAfter id) :=
  spare_comm first second rfl rfl rfl

/-- What two destructions do to a pool does not depend on their order. -/
theorem poolAfter_comm (id : PoolId) (pool : Pool) :
    (first.poolAfter id pool).bind (second.poolAfter id) =
      (second.poolAfter id pool).bind (first.poolAfter id) := by
  apply spare_comm first second
  · rfl
  · rfl
  · simp only [List.filter_filter, Bool.and_comm]

private theorem abandon_comm (one other : Surface) (id : BufferId) (buffer : Buffer) :
    Connection.abandon one id (Connection.abandon other id buffer) =
      Connection.abandon other id (Connection.abandon one id buffer) := by
  unfold Connection.abandon
  split_ifs <;> rfl

/-- What two destructions do to a buffer does not depend on their order. -/
theorem bufferAfter_comm (claimant claimant' : Option Surface) (id : BufferId) (buffer : Buffer) :
    (first.bufferAfter claimant id buffer).bind (second.bufferAfter claimant' id) =
      (second.bufferAfter claimant' id buffer).bind (first.bufferAfter claimant id) := by
  apply spare_comm first second
  · cases claimant <;> simp [Connection.pool_abandon]
  · cases claimant' <;> simp [Connection.pool_abandon]
  · cases claimant <;> cases claimant' <;> first | rfl | exact abandon_comm ..

/-- What two destructions do to a surface does not depend on their order. -/
theorem surfaceAfter_comm (id : SurfaceId) (surface : Surface) :
    (first.surfaceAfter id surface).bind (second.surfaceAfter id) =
      (second.surfaceAfter id surface).bind (first.surfaceAfter id) := by
  apply spare_comm first second
  · rfl
  · rfl
  · simp only [Option.filter_filter, Bool.and_comm]

/-- What two destructions do to a window surface does not depend on their order. -/
theorem windowAfter_comm (id : WindowSurfaceId) (window : WindowSurface) :
    (first.windowAfter id window).bind (second.windowAfter id) =
      (second.windowAfter id window).bind (first.windowAfter id) := by
  apply spare_comm first second
  · rfl
  · rfl
  · simp only [Option.filter_filter, Bool.and_comm]

/-- What two destructions do to a toplevel does not depend on their order. -/
theorem toplevelAfter_comm (id : ToplevelId) (toplevel : Toplevel) :
    (first.toplevelAfter id toplevel).bind (second.toplevelAfter id) =
      (second.toplevelAfter id toplevel).bind (first.toplevelAfter id) :=
  spare_comm first second rfl rfl rfl

/-- What two destructions do to the view does not depend on their order. -/
theorem viewAfter_comm (view : Arena SurfaceId Metadata) :
    second.viewAfter (first.viewAfter view) = first.viewAfter (second.viewAfter view) := by
  cases first <;> cases second <;> first | rfl | exact view.erase_comm ..

end Commuting

/-- A surface that does not go keeps everything but the name of its window surface. -/
theorem surfaceAfter_of_ne {gone : Destruction} {id : SurfaceId} (apart : gone ≠ .surface id)
    (surface : Surface) :
    ∃ window, gone.surfaceAfter id surface = some { surface with windowSurface := window } :=
  ⟨_, if_neg (by simpa using apart)⟩

end Destruction

namespace Connection

open Destruction

/-- What is left of a connection when something of it is destroyed. -/
def destroyed (client : Connection) : Destruction → Connection
  | .binding id => client.unbind id
  | .pool id => client.destroyPool id
  | .buffer id => client.destroyBuffer id
  | .surface id => (client.destroySurface? id).elim client Prod.snd
  | .windowSurface id => (client.destroyWindowSurface? id).getD client
  | .toplevel id => (client.destroyToplevel? id).getD client

/-- What is left of a connection once a surface is destroyed. -/
theorem destroyed_surface {client left : Connection} {id : SurfaceId} {callbacks : List CallbackId}
    (done : client.destroySurface? id = some (callbacks, left)) :
    client.destroyed (.surface id) = left := by
  rw [destroyed, done]
  rfl

/-- What is left of a connection once a window surface is destroyed. -/
theorem destroyed_windowSurface {client left : Connection} {id : WindowSurfaceId}
    (done : client.destroyWindowSurface? id = some left) :
    client.destroyed (.windowSurface id) = left := by
  rw [destroyed, done]
  rfl

/-- What is left of a connection once a toplevel is destroyed. -/
theorem destroyed_toplevel {client left : Connection} {id : ToplevelId}
    (done : client.destroyToplevel? id = some left) :
    client.destroyed (.toplevel id) = left := by
  rw [destroyed, done]
  rfl

/-- Whether there is something to destroy. -/
def Holds (client : Connection) : Destruction → Prop
  | .binding id => ∃ binding, client.bindings.get? id = some binding
  | .pool id => ∃ pool, client.pools.get? id = some pool
  | .buffer id => ∃ buffer, client.buffers.get? id = some buffer
  | .surface id => ∃ surface, client.surfaces.get? id = some surface
  | .windowSurface id => ∃ window, client.windowSurfaces.get? id = some window
  | .toplevel id => ∃ toplevel, client.toplevels.get? id = some toplevel

/-- The surface whose claims on buffers are dropped. -/
def claimant (client : Connection) : Destruction → Option Surface
  | .surface id => client.surfaces.get? id
  | _ => none

/-- A destruction as each object of a connection sees it. -/
structure Undergoes (old : Connection) (gone : Destruction) (new : Connection) : Prop where
  frame : new = { old with
    bindings := new.bindings, pools := new.pools, buffers := new.buffers, surfaces := new.surfaces
    windowSurfaces := new.windowSurfaces, toplevels := new.toplevels }
  binding : ∀ id, new.bindings.get? id = (old.bindings.get? id).bind (gone.bindingAfter id)
  pool : ∀ id, new.pools.get? id = (old.pools.get? id).bind (gone.poolAfter id)
  buffer : ∀ id, new.buffers.get? id =
    (old.buffers.get? id).bind (gone.bufferAfter (old.claimant gone) id)
  surface : ∀ id, new.surfaces.get? id = (old.surfaces.get? id).bind (gone.surfaceAfter id)
  window : ∀ id, new.windowSurfaces.get? id =
    (old.windowSurfaces.get? id).bind (gone.windowAfter id)
  toplevel : ∀ id, new.toplevels.get? id = (old.toplevels.get? id).bind (gone.toplevelAfter id)

/-- Whatever an object stands on, lists or names is live, and knows it. -/
structure Coherent (client : Connection) : Prop where
  agree : client.links.Agree
  enlisted : client.Enlisted
  backed : ∀ {id buffer}, client.buffers.get? id = some buffer →
    ∃ pool, client.pools.get? buffer.pool = some pool ∧ id ∈ pool.buffers

variable {client : Connection}

namespace Coherent

variable (coherent : client.Coherent)

include coherent

private theorem pool_of_listed {id : PoolId} {pool : Pool} {buffer : BufferId}
    (found : client.pools.get? id = some pool) (listed : buffer ∈ pool.buffers) :
    ∃ record, client.buffers.get? buffer = some record ∧ record.pool = id :=
  Arena.exists_of_view (coherent.enlisted id pool found buffer listed)

private theorem surface_of_window {id : WindowSurfaceId} {window : WindowSurface}
    (found : client.windowSurfaces.get? id = some window) :
    ∃ surface, client.surfaces.get? window.surface = some surface ∧
      surface.windowSurface = some id := by
  have named := coherent.agree.window _ _ _ (Arena.view_of_get? found)
  obtain ⟨surface, held, same⟩ := Arena.exists_of_view named
  exact ⟨surface, held, congrArg Prod.snd same⟩

private theorem window_of_surface {id : SurfaceId} {surface : Surface} {window : WindowSurfaceId}
    (held : client.surfaces.get? id = some surface) (names : surface.windowSurface = some window) :
    ∃ shown, client.windowSurfaces.get? window = some shown ∧ shown.surface = id := by
  have seen : client.links.surface id = some (surface.role, some window) :=
    names ▸ Arena.view_of_get? held
  obtain ⟨_, sees, same⟩ := Option.map_eq_some_iff.mp (coherent.agree.surface _ _ _ seen)
  obtain ⟨shown, found, rfl⟩ := Arena.exists_of_view sees
  exact ⟨shown, found, same⟩

private theorem window_of_toplevel {id : ToplevelId} {toplevel : Toplevel}
    (held : client.toplevels.get? id = some toplevel) :
    ∃ window, client.windowSurfaces.get? toplevel.windowSurface = some window ∧
      window.surface = toplevel.surface ∧ window.toplevel = some id := by
  have named := (coherent.agree.toplevel _ _ _).mp (Arena.view_of_get? held)
  obtain ⟨window, found, same⟩ := Arena.exists_of_view named
  exact ⟨window, found, congrArg Prod.fst same, congrArg Prod.snd same⟩

private theorem toplevel_of_window {id : WindowSurfaceId} {window : WindowSurface}
    {toplevel : ToplevelId} (found : client.windowSurfaces.get? id = some window)
    (names : window.toplevel = some toplevel) :
    ∃ shown, client.toplevels.get? toplevel = some shown ∧ shown.windowSurface = id := by
  have seen : client.links.window id = some (window.surface, some toplevel) :=
    names ▸ Arena.view_of_get? found
  obtain ⟨shown, held, same⟩ := Arena.exists_of_view ((coherent.agree.toplevel _ _ _).mpr seen)
  exact ⟨shown, held, congrArg Prod.fst same⟩

/-- Nothing notices that a dead thing is destroyed. -/
theorem undergoes_self {gone : Destruction} (dead : ¬ client.Holds gone) :
    client.Undergoes gone client where
  frame := rfl
  binding id := eq_bind_of_unnoticed fun binding found =>
    bindingAfter_eq_some fun same => dead (same ▸ ⟨binding, found⟩)
  pool id := eq_bind_of_unnoticed fun pool found => by
    refine poolAfter_eq_some (fun same => dead (same ▸ ⟨pool, found⟩)) fun buffer listed same => ?_
    obtain ⟨record, held, _⟩ := coherent.pool_of_listed found listed
    exact dead (same ▸ ⟨record, held⟩)
  buffer id := eq_bind_of_unnoticed fun buffer found => by
    obtain ⟨pool, backed, _⟩ := coherent.backed found
    have unclaimed : client.claimant gone = none := by
      cases gone with
      | surface other =>
        exact Option.eq_none_iff_forall_ne_some.mpr fun surface held => dead ⟨surface, held⟩
      | _ => rfl
    rw [unclaimed]
    exact bufferAfter_eq_some (fun same => dead (same ▸ ⟨buffer, found⟩))
      fun same => dead (same ▸ ⟨pool, backed⟩)
  surface id := eq_bind_of_unnoticed fun surface found => by
    refine surfaceAfter_eq_some (fun same => dead (same ▸ ⟨surface, found⟩))
      fun window names same => ?_
    obtain ⟨shown, live, _⟩ := coherent.window_of_surface found names
    exact dead (same ▸ ⟨shown, live⟩)
  window id := eq_bind_of_unnoticed fun window found => by
    obtain ⟨surface, live, _⟩ := coherent.surface_of_window found
    refine windowAfter_eq_some (fun same => dead (same ▸ ⟨window, found⟩))
      (fun same => dead (same ▸ ⟨surface, live⟩)) fun toplevel names same => ?_
    obtain ⟨shown, live, _⟩ := coherent.toplevel_of_window found names
    exact dead (same ▸ ⟨shown, live⟩)
  toplevel id := eq_bind_of_unnoticed fun toplevel found => by
    obtain ⟨window, live, shows, _⟩ := coherent.window_of_toplevel found
    obtain ⟨surface, shown, _⟩ := coherent.surface_of_window live
    rw [shows] at shown
    exact toplevelAfter_eq_some (fun same => dead (same ▸ ⟨toplevel, found⟩))
      (fun same => dead (same ▸ ⟨window, live⟩)) fun same => dead (same ▸ ⟨surface, shown⟩)

end Coherent

/-- A dead thing is destroyed in vain. -/
theorem destroyed_of_dead {gone : Destruction} (dead : ¬ client.Holds gone) :
    client.destroyed gone = client := by
  have absent {κ α : Type} [DecidableEq κ] {arena : Arena κ α} {key : κ}
      (dead : ¬ ∃ value, arena.get? key = some value) : arena.get? key = none :=
    Option.eq_none_iff_forall_ne_some.mpr fun value found => dead ⟨value, found⟩
  cases gone with
  | binding id =>
    have erased : client.bindings.erase id = client.bindings :=
      Arena.erase_of_notMem fun listed => dead (Arena.get?_of_mem_keys listed)
    simp only [destroyed, unbind, erased]
  | pool id => simp only [destroyed, destroyPool, absent dead]
  | buffer id => simp only [destroyed, destroyBuffer, absent dead]
  | surface id =>
    simp only [destroyed, destroySurface?, absent dead, Option.map_none, Option.elim_none]
  | windowSurface id =>
    simp only [destroyed, destroyWindowSurface?, absent dead, Option.map_none, Option.getD_none]
  | toplevel id =>
    simp only [destroyed, destroyToplevel?, absent dead, Option.map_none, Option.getD_none]

section Single

private theorem undergoes_unbind (id : BindingId) : client.Undergoes (.binding id)
    (client.unbind id) where
  frame := rfl
  binding := Arena.get?_erase_eq_bind (fun _ _ => if_pos List.mem_cons_self)
    fun _ _ apart _ => bindingAfter_eq_some (mt Destruction.binding.inj apart)
  pool _ := pools_unreached rfl ..
  buffer _ := buffers_unreached rfl ..
  surface _ := surfaces_unreached rfl ..
  window _ := windows_unreached rfl ..
  toplevel _ := toplevels_unreached rfl ..

/-- Under the invariants, the list of a pool tells what a buffer that goes is struck off. -/
theorem Enlisted.get?_poolsWithout (enlisted : client.Enlisted) (id : BufferId) (pool : PoolId) :
    (client.poolsWithout id).get? pool =
      (client.pools.get? pool).map fun owner => owner.strike id := by
  have unlisted {owner : Pool} (found : client.pools.get? pool = some owner)
      (elsewhere : client.census.buffer id ≠ some pool) : owner.strike id = owner := by
    have kept : owner.buffers.filter (· ≠ id) = owner.buffers :=
      List.filter_eq_self.mpr fun other listed => decide_eq_true fun same =>
        elsewhere (same ▸ enlisted pool owner found other listed)
    rw [Pool.strike, kept]
  have still (elsewhere : client.census.buffer id ≠ some pool) :
      client.pools.get? pool = (client.pools.get? pool).map fun owner => owner.strike id := by
    cases found : client.pools.get? pool with
    | none => rfl
    | some owner => exact congrArg some (unlisted found elsewhere).symm
  unfold poolsWithout
  split
  · rename_i buffer held
    rw [Arena.get?_modify]
    split
    · rfl
    · rename_i apart
      have lies : client.census.buffer id = some buffer.pool := Arena.view_of_get? held
      exact still (lies ▸ fun same => apart (Option.some.inj same).symm)
  · rename_i dead
    have lies : client.census.buffer id = none := congrArg (Option.map Buffer.pool) dead
    exact still (by simp [lies])

/-- A connection undergoes the destruction of a buffer. -/
theorem undergoes_destroyBuffer (enlisted : client.Enlisted) (id : BufferId) :
    client.Undergoes (.buffer id) (client.destroyBuffer id) := by
  rw [destroyBuffer_eq]
  exact {
    frame := rfl
    binding _ := bindings_unreached rfl ..
    pool other := by
      rw [enlisted.get?_poolsWithout, Option.map_eq_bind]
      refine Option.bind_congr fun pool _ => ?_
      simp [poolAfter, spare, Pool.strike, eq_comm]
    buffer := Arena.get?_erase_eq_bind (fun _ _ => if_pos List.mem_cons_self)
      fun _ _ apart _ => bufferAfter_eq_some (mt Destruction.buffer.inj apart) (by simp)
    surface _ := surfaces_unreached rfl ..
    window _ := windows_unreached rfl ..
    toplevel _ := toplevels_unreached rfl .. }

/-- Destroying buffers leaves alone the pools that do not list them. -/
theorem Enlisted.get?_pools_foldl_destroyBuffer (enlisted : client.Enlisted) {pool : PoolId}
    {gone : List BufferId} (unlisted : ∀ owner, client.pools.get? pool = some owner →
      ∀ buffer ∈ gone, buffer ∉ owner.buffers) :
    (gone.foldl Connection.destroyBuffer client).pools.get? pool = client.pools.get? pool := by
  induction gone generalizing client with
  | nil => rfl
  | cons first rest ih =>
    have kept : (client.destroyBuffer first).pools.get? pool = client.pools.get? pool := by
      rw [destroyBuffer_eq, enlisted.get?_poolsWithout]
      cases found : client.pools.get? pool with
      | none => rfl
      | some owner =>
        have same : owner.buffers.filter (· ≠ first) = owner.buffers := by
          refine List.filter_eq_self.mpr fun other listed => decide_eq_true ?_
          rintro rfl
          exact unlisted owner found other List.mem_cons_self listed
        rw [Option.map_some, Pool.strike, same]
    rw [List.foldl_cons, ih (enlisted.destroyBuffer first), kept]
    intro owner found buffer listed
    rw [kept] at found
    exact unlisted owner found buffer (List.mem_cons_of_mem _ listed)

/-- A connection undergoes the destruction of a pool, and its buffers go with it. -/
theorem undergoes_destroyPool (coherent : client.Coherent) {id : PoolId} {owner : Pool}
    (live : client.pools.get? id = some owner) :
    client.Undergoes (.pool id) (client.destroyPool id) := by
  have listed {other : BufferId} {buffer : Buffer}
      (found : client.buffers.get? other = some buffer) :
      other ∈ owner.buffers ↔ .pool id = Destruction.pool buffer.pool := by
    constructor
    · intro listed
      obtain ⟨record, held, rfl⟩ := coherent.pool_of_listed live listed
      cases found.symm.trans held
      rfl
    · rintro ⟨⟩
      obtain ⟨pool, backed, listed⟩ := coherent.backed found
      cases live.symm.trans backed
      exact listed
  have buffers (other : BufferId) :
      (owner.buffers.foldl destroyBuffer client).buffers.get? other =
        (client.buffers.get? other).bind ((Destruction.pool id).bufferAfter none other) := by
    rw [get?_buffers_foldl_destroyBuffer]
    cases found : client.buffers.get? other with
    | none => exact ite_self none
    | some buffer => exact if_congr (by rw [listed found]; simp) rfl rfl
  have pools (other : PoolId) :
      ((owner.buffers.foldl destroyBuffer client).pools.erase id).get? other =
        (client.pools.get? other).bind ((Destruction.pool id).poolAfter other) := by
    rw [Arena.get?_erase]
    split
    · rename_i same
      rw [same, live]
      exact (if_pos (List.mem_singleton_self _)).symm
    · rename_i apart
      rw [coherent.enlisted.get?_pools_foldl_destroyBuffer]
      · refine eq_bind_of_unnoticed fun _ _ => poolAfter_eq_some ?_ (by simp)
        exact fun same => apart (Destruction.pool.inj same).symm
      · intro pool found buffer here there
        obtain ⟨record, held, rfl⟩ := coherent.pool_of_listed live here
        obtain ⟨_, held', rfl⟩ := coherent.pool_of_listed found there
        cases held.symm.trans held'
        exact apart rfl
  obtain ⟨pools', buffers', frame⟩ : ∃ pools buffers,
      owner.buffers.foldl destroyBuffer client = { client with pools, buffers } :=
    ⟨_, _, foldl_destroyBuffer_frame ..⟩
  simp only [frame] at buffers pools
  simp only [destroyPool, live, frame]
  exact {
    frame := rfl
    binding _ := bindings_unreached rfl ..
    pool := pools
    buffer := buffers
    surface _ := surfaces_unreached rfl ..
    window _ := windows_unreached rfl ..
    toplevel _ := toplevels_unreached rfl .. }

private theorem Coherent.get?_toplevelsWithout (coherent : client.Coherent) (id : WindowSurfaceId)
    (other : ToplevelId) : (client.toplevelsWithout id).get? other =
      (client.toplevels.get? other).bind ((Destruction.windowSurface id).toplevelAfter other) := by
  unfold toplevelsWithout
  split
  · rename_i gone held
    obtain ⟨window, live, names⟩ := Option.bind_eq_some_iff.mp held
    refine Arena.get?_erase_eq_bind (fun toplevel found => ?_)
      (fun other toplevel apart found => ?_) other
    · obtain ⟨shown, found', rfl⟩ := coherent.toplevel_of_window live names
      cases found.symm.trans found'
      exact if_pos (List.mem_cons_of_mem _ List.mem_cons_self)
    · refine toplevelAfter_eq_some (by simp) ?_ (by simp)
      rintro ⟨⟩
      obtain ⟨_, live', _, names'⟩ := coherent.window_of_toplevel found
      cases live.symm.trans live'
      exact apart (Option.some.inj (names.symm.trans names'))
  · rename_i free
    refine eq_bind_of_unnoticed fun toplevel found => toplevelAfter_eq_some (by simp) ?_ (by simp)
    rintro ⟨⟩
    obtain ⟨window, live, _, names⟩ := coherent.window_of_toplevel found
    simp [live, names] at free

section Surface

variable {id : SurfaceId} {surface : Surface} (coherent : client.Coherent)
  (found : client.surfaces.get? id = some surface)

include coherent found

/-- The window surface of a surface is the one it names. -/
theorem Coherent.names_of_shows {other : WindowSurfaceId} {window : WindowSurface}
    (live : client.windowSurfaces.get? other = some window) (shows : window.surface = id) :
    surface.windowSurface = some other := by
  subst shows
  obtain ⟨_, found', names⟩ := coherent.surface_of_window live
  cases found.symm.trans found'
  exact names

private theorem Coherent.get?_windows_destroySurface (other : WindowSurfaceId) :
    (match surface.windowSurface with
      | some window => client.windowSurfaces.erase window
      | none => client.windowSurfaces).get? other =
      (client.windowSurfaces.get? other).bind ((Destruction.surface id).windowAfter other) := by
  cases names : surface.windowSurface with
  | none =>
    refine eq_bind_of_unnoticed fun window live => windowAfter_eq_some (by simp) ?_ (by simp)
    rintro ⟨⟩
    cases names.symm.trans (coherent.names_of_shows found live rfl)
  | some shown =>
    refine Arena.get?_erase_eq_bind (fun window live => ?_)
      (fun other window apart live => ?_) other
    · obtain ⟨_, live', rfl⟩ := coherent.window_of_surface found names
      cases live.symm.trans live'
      exact if_pos (List.mem_cons_of_mem _ List.mem_cons_self)
    · refine windowAfter_eq_some (by simp) ?_ (by simp)
      rintro ⟨⟩
      exact apart (Option.some.inj (names.symm.trans (coherent.names_of_shows found live rfl)))

/-- The toplevels that stand on a surface are those that stand on its window surface. -/
theorem Coherent.get?_toplevels_destroySurface (other : ToplevelId) :
    (match surface.windowSurface with
      | some window => client.toplevelsWithout window
      | none => client.toplevels).get? other =
      (client.toplevels.get? other).bind ((Destruction.surface id).toplevelAfter other) := by
  have stands {other : ToplevelId} {toplevel : Toplevel}
      (held : client.toplevels.get? other = some toplevel) :
      surface.windowSurface = some toplevel.windowSurface ↔ toplevel.surface = id := by
    obtain ⟨window, live, shows, _⟩ := coherent.window_of_toplevel held
    constructor
    · intro names
      obtain ⟨_, live', same⟩ := coherent.window_of_surface found names
      cases live.symm.trans live'
      exact shows.symm.trans same
    · intro same
      exact coherent.names_of_shows found live (shows.trans same)
  cases names : surface.windowSurface with
  | none =>
    refine eq_bind_of_unnoticed fun toplevel held => toplevelAfter_eq_some (by simp) (by simp) ?_
    rintro ⟨⟩
    cases names.symm.trans ((stands held).mpr rfl)
  | some window =>
    rw [coherent.get?_toplevelsWithout]
    refine Option.bind_congr fun toplevel held => if_congr ?_ rfl rfl
    have same := stands held
    rw [names] at same
    simpa [eq_comm] using same

end Surface

/-- A connection undergoes the destruction of a surface, and the window goes with it. -/
theorem undergoes_destroySurface (coherent : client.Coherent) {id : SurfaceId} {surface : Surface}
    {left : Connection} {callbacks : List CallbackId}
    (found : client.surfaces.get? id = some surface)
    (done : client.destroySurface? id = some (callbacks, left)) :
    client.Undergoes (.surface id) left := by
  have buffers := get?_buffers_destroySurface found done
  obtain ⟨kept, frame⟩ : ∃ kept, left = { client with
      surfaces := client.surfaces.erase id
      buffers := kept
      windowSurfaces := match surface.windowSurface with
        | some window => client.windowSurfaces.erase window
        | none => client.windowSurfaces
      toplevels := match surface.windowSurface with
        | some window => client.toplevelsWithout window
        | none => client.toplevels } := ⟨_, destroySurface?_eq found done⟩
  subst frame
  exact {
    frame := rfl
    binding _ := bindings_unreached rfl ..
    pool _ := pools_unreached rfl ..
    buffer other := by
      rw [buffers, Option.map_eq_bind]
      refine Option.bind_congr fun buffer _ => ?_
      simp [bufferAfter, spare, claimant, found]
    surface := Arena.get?_erase_eq_bind (fun _ _ => if_pos List.mem_cons_self)
      fun _ _ apart _ => surfaceAfter_eq_some (mt Destruction.surface.inj apart) (by simp)
    window := coherent.get?_windows_destroySurface found
    toplevel := coherent.get?_toplevels_destroySurface found }

/-- A connection undergoes the destruction of a window surface, and the toplevel goes with it. -/
theorem undergoes_destroyWindowSurface (coherent : client.Coherent) {id : WindowSurfaceId}
    {left : Connection} (done : client.destroyWindowSurface? id = some left) :
    client.Undergoes (.windowSurface id) left := by
  obtain ⟨window, found, rfl⟩ := destroyWindowSurface?_eq_some done
  exact {
    frame := rfl
    binding _ := bindings_unreached rfl ..
    pool _ := pools_unreached rfl ..
    buffer _ := buffers_unreached rfl ..
    surface := by
      refine Arena.get?_modify_eq_bind (fun surface held => ?_) fun other surface apart held => ?_
      · obtain ⟨_, held', names⟩ := coherent.surface_of_window found
        cases held.symm.trans held'
        simp [surfaceAfter, spare, names]
      · refine surfaceAfter_eq_some (by simp) ?_
        rintro _ names ⟨⟩
        obtain ⟨_, found', rfl⟩ := coherent.window_of_surface held names
        cases found.symm.trans found'
        exact apart rfl
    window := Arena.get?_erase_eq_bind (fun _ _ => if_pos List.mem_cons_self)
      fun _ _ apart _ =>
        windowAfter_eq_some (mt Destruction.windowSurface.inj apart) (by simp) (by simp)
    toplevel := coherent.get?_toplevelsWithout id }

/-- A connection undergoes the destruction of a toplevel. -/
theorem undergoes_destroyToplevel (coherent : client.Coherent) {id : ToplevelId}
    {left : Connection} (done : client.destroyToplevel? id = some left) :
    client.Undergoes (.toplevel id) left := by
  obtain ⟨toplevel, found, rfl⟩ := destroyToplevel?_eq_some done
  exact {
    frame := rfl
    binding _ := bindings_unreached rfl ..
    pool _ := pools_unreached rfl ..
    buffer _ := buffers_unreached rfl ..
    surface _ := surfaces_unreached rfl ..
    window := by
      refine Arena.get?_modify_eq_bind (fun window held => ?_) fun other window apart held => ?_
      · obtain ⟨_, held', _, names⟩ := coherent.window_of_toplevel found
        cases held.symm.trans held'
        simp [windowAfter, spare, names]
      · refine windowAfter_eq_some (by simp) (by simp) ?_
        rintro _ names ⟨⟩
        obtain ⟨_, found', rfl⟩ := coherent.toplevel_of_window held names
        cases found.symm.trans found'
        exact apart rfl
    toplevel := Arena.get?_erase_eq_bind (fun _ _ => if_pos List.mem_cons_self)
      fun _ _ apart _ =>
        toplevelAfter_eq_some (mt Destruction.toplevel.inj apart) (by simp) (by simp) }

/-- **What a destruction is to each object**, whether there is something to destroy or not. -/
theorem Coherent.undergoes_destroyed (coherent : client.Coherent) (gone : Destruction) :
    client.Undergoes gone (client.destroyed gone) := by
  by_cases live : client.Holds gone
  · cases gone with
    | binding id => exact undergoes_unbind id
    | pool id =>
      obtain ⟨_, found⟩ := live
      exact undergoes_destroyPool coherent found
    | buffer id => exact undergoes_destroyBuffer coherent.enlisted id
    | surface id =>
      obtain ⟨surface, found⟩ := live
      obtain ⟨⟨_, left⟩, done⟩ : ∃ result, client.destroySurface? id = some result :=
        ⟨_, congrArg (Option.map _) found⟩
      rw [destroyed_surface done]
      exact undergoes_destroySurface coherent found done
    | windowSurface id =>
      obtain ⟨window, found⟩ := live
      obtain ⟨left, done⟩ : ∃ left, client.destroyWindowSurface? id = some left :=
        ⟨_, congrArg (Option.map _) found⟩
      rw [destroyed_windowSurface done]
      exact undergoes_destroyWindowSurface coherent done
    | toplevel id =>
      obtain ⟨toplevel, found⟩ := live
      obtain ⟨left, done⟩ : ∃ left, client.destroyToplevel? id = some left :=
        ⟨_, congrArg (Option.map _) found⟩
      rw [destroyed_toplevel done]
      exact undergoes_destroyToplevel coherent done
  · rw [destroyed_of_dead live]
    exact coherent.undergoes_self live

end Single

/-- What goes is not held any more. -/
theorem Undergoes.not_holds {gone : Destruction} {left : Connection}
    (undergoes : client.Undergoes gone left) : ¬ left.Holds gone := by
  have lost {κ α : Type} [DecidableEq κ] {arena rest : Arena κ α} {key : κ}
      {after : α → Option α} (found : rest.get? key = (arena.get? key).bind after)
      (none : ∀ value, after value = none) : ¬ ∃ value, rest.get? key = some value := by
    rintro ⟨value, live⟩
    obtain ⟨old, _, kept⟩ := Option.bind_eq_some_iff.mp (found.symm.trans live)
    cases (none old).symm.trans kept
  cases gone with
  | binding id => exact lost (undergoes.binding id) fun _ => if_pos List.mem_cons_self
  | pool id => exact lost (undergoes.pool id) fun _ => if_pos List.mem_cons_self
  | buffer id => exact lost (undergoes.buffer id) fun _ => if_pos List.mem_cons_self
  | surface id => exact lost (undergoes.surface id) fun _ => if_pos List.mem_cons_self
  | windowSurface id => exact lost (undergoes.window id) fun _ => if_pos List.mem_cons_self
  | toplevel id => exact lost (undergoes.toplevel id) fun _ => if_pos List.mem_cons_self

section Pair

variable {first second : Destruction} {one other both both' : Connection} {count count' : Nat}

/-- A connection is what its handles find. -/
theorem eq_of_get?_eq {rest : Connection} (drawn : client.Drawn count) (drawn' : rest.Drawn count')
    (frame : rest = { client with
      bindings := rest.bindings, pools := rest.pools, buffers := rest.buffers
      surfaces := rest.surfaces, windowSurfaces := rest.windowSurfaces
      toplevels := rest.toplevels })
    (binding : ∀ id, client.bindings.get? id = rest.bindings.get? id)
    (pool : ∀ id, client.pools.get? id = rest.pools.get? id)
    (buffer : ∀ id, client.buffers.get? id = rest.buffers.get? id)
    (surface : ∀ id, client.surfaces.get? id = rest.surfaces.get? id)
    (window : ∀ id, client.windowSurfaces.get? id = rest.windowSurfaces.get? id)
    (toplevel : ∀ id, client.toplevels.get? id = rest.toplevels.get? id) : client = rest := by
  rw [frame,
    ← Arena.eq_of_get?_eq (drawn.ordered .binding) (drawn'.ordered .binding) binding,
    ← Arena.eq_of_get?_eq (drawn.ordered .pool) (drawn'.ordered .pool) pool,
    ← Arena.eq_of_get?_eq (drawn.ordered .buffer) (drawn'.ordered .buffer) buffer,
    ← Arena.eq_of_get?_eq (drawn.ordered .surface) (drawn'.ordered .surface) surface,
    ← Arena.eq_of_get?_eq (drawn.ordered .windowSurface) (drawn'.ordered .windowSurface) window,
    ← Arena.eq_of_get?_eq (drawn.ordered .toplevel) (drawn'.ordered .toplevel) toplevel]

/-- A surface that does not go has the same claims as before when something else went. -/
theorem Undergoes.bufferAfter_eq (undergoes : client.Undergoes first one) (apart : first ≠ second)
    (id : BufferId) (buffer : Buffer) :
    second.bufferAfter (one.claimant second) id buffer =
      second.bufferAfter (client.claimant second) id buffer := by
  cases second with
  | surface other =>
    simp only [claimant, undergoes.surface]
    cases client.surfaces.get? other with
    | none => rfl
    | some surface =>
      obtain ⟨_, same⟩ := surfaceAfter_of_ne apart surface
      rw [Option.bind_some, same]
      rfl
  | _ => rfl

private theorem bind_bind_comm {α : Type} {after after' : α → Option α}
    (commute : ∀ value, (after value).bind after' = (after' value).bind after) (held : Option α) :
    (held.bind after).bind after' = (held.bind after').bind after := by
  cases held with
  | none => rfl
  | some value => exact commute value

/-- **Two things of a connection go in either order.** -/
theorem Undergoes.comm (apart : first ≠ second) (drawn : both.Drawn count)
    (drawn' : both'.Drawn count') (early : client.Undergoes first one)
    (late : one.Undergoes second both) (early' : client.Undergoes second other)
    (late' : other.Undergoes first both') : both = both' := by
  apply eq_of_get?_eq drawn drawn'
  · rw [late'.frame, early'.frame, late.frame, early.frame]
  · intro id
    rw [late.binding, early.binding, late'.binding, early'.binding]
    exact bind_bind_comm (bindingAfter_comm first second id) _
  · intro id
    rw [late.pool, early.pool, late'.pool, early'.pool]
    exact bind_bind_comm (poolAfter_comm first second id) _
  · intro id
    -- A surface gives up the same claims whether it goes first or second.
    rw [late.buffer, early.buffer, late'.buffer, early'.buffer,
      funext (early.bufferAfter_eq apart id), funext (early'.bufferAfter_eq apart.symm id)]
    exact bind_bind_comm (bufferAfter_comm first second _ _ id) _
  · intro id
    rw [late.surface, early.surface, late'.surface, early'.surface]
    exact bind_bind_comm (surfaceAfter_comm first second id) _
  · intro id
    rw [late.window, early.window, late'.window, early'.window]
    exact bind_bind_comm (windowAfter_comm first second id) _
  · intro id
    rw [late.toplevel, early.toplevel, late'.toplevel, early'.toplevel]
    exact bind_bind_comm (toplevelAfter_comm first second id) _

end Pair

end Connection

end DisplayServer
