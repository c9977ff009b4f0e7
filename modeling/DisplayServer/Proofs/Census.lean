import DisplayServer.Proofs.Bounds
import DisplayServer.Proofs.Issuing
import DisplayServer.Proofs.WindowLinks

/-! # What is held

The *census* of a connection, and of a server, says which bindings, pools, buffers, surfaces and
windows are live and whose they are, and nothing more. Most operations leave it as it is
(`Operation.isCalm`); the others change it in one place, and what goes along with it.
-/

namespace DisplayServer

open Function (update update_apply)

/-- What is held, and whose it is. -/
@[ext]
structure Census where
  binding : BindingId → Bool
  pool : PoolId → Bool
  /-- The pool of a live buffer. -/
  buffer : BufferId → Option PoolId
  /-- The callbacks that wait on a live surface. -/
  surface : SurfaceId → Option (List CallbackId)
  /-- The surface of a live window surface. -/
  window : WindowSurfaceId → Option SurfaceId
  /-- The window surface of a live toplevel. -/
  toplevel : ToplevelId → Option WindowSurfaceId

/-- What stays when some connections go. -/
def Census.without (census : Census) (gone : ConnectionId → Bool) : Census where
  binding id := if gone id.connection then false else census.binding id
  pool id := if gone id.connection then false else census.pool id
  buffer id := if gone id.connection then none else census.buffer id
  surface id := if gone id.connection then none else census.surface id
  window id := if gone id.connection then none else census.window id
  toplevel id := if gone id.connection then none else census.toplevel id

/-- Whether an operation leaves every census as it is. -/
def Operation.isCalm : Operation → Bool
  | connect | disconnect _ | bind _ _ _ | unbind _ | createPool _ _ _ | createBuffer _ _
  | destroyPool _ | destroyBuffer _ | createSurface _ _ | frame _ | present _ _ | presentAll _
  | destroySurface _ | getWindowSurface _ | getToplevel _ | destroyWindowSurface _
  | destroyToplevel _ => false
  | _ => true

/-- Whether an operation neither accepts a client nor drops one. -/
def Operation.isWithin : Operation → Bool
  | connect | disconnect _ => false
  | _ => true

/-- What is calm accepts and drops nobody. -/
theorem Operation.isWithin_of_isCalm {operation : Operation} (calm : operation.isCalm = true) :
    operation.isWithin = true := by
  cases operation <;> first | rfl | cases calm

namespace Connection

variable {server : Server} {host : Host} {operation : Operation} {old new client : Connection}

def census (client : Connection) : Census where
  binding id := (client.bindings.get? id).isSome
  pool id := (client.pools.get? id).isSome
  buffer := client.buffers.view Buffer.pool
  surface := client.surfaces.view Surface.waitingCallbacks
  window := client.windowSurfaces.view WindowSurface.surface
  toplevel := client.toplevels.view Toplevel.windowSurface

section Alike

/-- Censuses are the same if they list the same. -/
theorem census_eq
    (bindings : ∀ id, (new.bindings.get? id).isSome = (old.bindings.get? id).isSome)
    (pools : ∀ id, (new.pools.get? id).isSome = (old.pools.get? id).isSome)
    (buffers : new.buffers.view Buffer.pool = old.buffers.view Buffer.pool)
    (surfaces : new.surfaces.view Surface.waitingCallbacks =
      old.surfaces.view Surface.waitingCallbacks)
    (windows : new.windowSurfaces.view WindowSurface.surface =
      old.windowSurfaces.view WindowSurface.surface)
    (toplevels : new.toplevels.view Toplevel.windowSurface =
      old.toplevels.view Toplevel.windowSurface) : new.census = old.census := by
  simp only [census, funext bindings, funext pools, buffers, surfaces, windows, toplevels]

private theorem isSome_get?_modify {κ α : Type} [DecidableEq κ] (arena : Arena κ α) (key other : κ)
    (change : α → α) :
    ((arena.modify key change).get? other).isSome = (arena.get? other).isSome := by
  rw [Arena.get?_modify]
  split <;> simp

private theorem ReadFailure.census_eq {id : BufferId} (failure : old.ReadFailure id new) :
    new.census = old.census := by
  cases failure with
  | refused => rfl
  | faulted =>
    exact Connection.census_eq (fun _ => rfl) (isSome_get?_modify _ _ · _) rfl rfl rfl rfl

/-- Buffers that change, each on its own, stay in their pools. -/
theorem view_pool_of_map (change : BufferId → Buffer → Buffer)
    (buffers : ∀ id, new.buffers.get? id = (old.buffers.get? id).map (change id))
    (stays : ∀ id buffer, (change id buffer).pool = buffer.pool) :
    new.buffers.view Buffer.pool = old.buffers.view Buffer.pool := by
  funext id
  rw [Arena.view, buffers, Option.map_map, Arena.view]
  exact congrFun (congrArg Option.map (funext (stays id))) _

private theorem census_commit {id : SurfaceId} {commit : Commit}
    (done : client.commit? id = some commit) : commit.client.census = client.census := by
  obtain ⟨surface, found⟩ := surface_of_commit? done
  obtain ⟨change, surfaces, promotes⟩ := surfaces_commit found done
  refine census_eq (fun _ => ?_) (fun _ => ?_) ?_ ?_ ?_ ?_
  · rw [commit?_frame done]
  · rw [commit?_frame done]
  · exact view_pool_of_map (client.settle surface) (get?_buffers_commit found done)
      fun id buffer => by rw [settle_frame]
  · rw [surfaces]
    refine Arena.view_modify_of_eq fun value live => ?_
    cases found.symm.trans live
    rw [promotes]
    simp [Surface.waitingCallbacks, Surface.promote]
  · rw [commit?_frame done]
  · rw [commit?_frame done]

private theorem waitingCallbacks_assumeRole {surface changed : Surface} {role : Role}
    (taken : surface.assumeRole role = .ok changed) :
    changed.waitingCallbacks = surface.waitingCallbacks := by
  unfold Surface.assumeRole at taken
  split at taken
  · cases taken
    rfl
  · split at taken <;> cases taken
    rfl

/-- An operation that is calm changes no census. -/
theorem Change.census_eq (change : Change server host operation old new)
    (calm : operation.isCalm = true) : new.census = old.census := by
  cases change with
  | same | takeEvents _ => rfl
  | resizePool =>
    exact Connection.census_eq (fun _ => rfl) (isSome_get?_modify _ _ · _) rfl rfl rfl rfl
  | failRead _ failure => exact failure.census_eq
  | @attach _ id attachment _ surface found =>
    refine Connection.census_eq (fun _ => ?_) (fun _ => ?_) ?_ ?_ ?_ ?_
    case refine_3 =>
      exact view_pool_of_map (reattach surface attachment)
        (old.get?_buffers_reattach surface attachment) fun id buffer => by rw [reattach_frame]
    case refine_4 =>
      unfold modifySurface
      rw [claim_frame, withdraw_frame]
      exact Arena.view_modify_of_eq fun _ _ => rfl
    all_goals
      unfold modifySurface
      rw [claim_frame, withdraw_frame]
  | request found request =>
    refine Connection.census_eq (fun _ => rfl) (fun _ => rfl) rfl ?_ rfl rfl
    refine Arena.view_modify_of_eq fun value live => ?_
    cases found.symm.trans live
    cases request with
    | role taken => exact waitingCallbacks_assumeRole taken
    | _ => rfl
  | commit done => exact census_commit done
  | commitUnread done _ failure => exact failure.census_eq.trans (census_commit done)
  | sendConfigure done =>
    obtain ⟨_, window, _, shown, _, rfl⟩ := configure_eq_ok done
    refine Connection.census_eq (fun _ => rfl) (fun _ => rfl) rfl rfl ?_
      (Arena.view_modify_of_eq fun _ _ => rfl)
    refine Arena.view_modify_of_eq fun value live => ?_
    cases shown.symm.trans live
    rfl
  | ackConfigure =>
    exact Connection.census_eq (fun _ => rfl) (fun _ => rfl) rfl rfl
      (Arena.view_modify_of_eq fun _ _ => rfl) rfl
  | setWindowGeometry found =>
    refine Connection.census_eq (fun _ => rfl) (fun _ => rfl) rfl rfl ?_ rfl
    refine Arena.view_modify_of_eq fun value live => ?_
    cases found.symm.trans live
    rfl
  | missConfigure | setTitle | setAppId =>
    exact Connection.census_eq (fun _ => rfl) (fun _ => rfl) rfl rfl rfl
      (Arena.view_modify_of_eq fun _ _ => rfl)
  | _ => cases calm

end Alike

section Changing

variable (client : Connection)

private theorem census_bind (kind : CapabilityKind) (version : UInt32)
    (formats : List PixelFormat) :
    (client.bind kind version formats).2.census = { client.census with
      binding := update client.census.binding (client.fresh .binding) true } := by
  have binding (id : BindingId) :
      ((client.bindings.insert (client.fresh .binding) { kind, version }).get? id).isSome =
        update client.census.binding (client.fresh .binding) true id := by
    rw [Arena.get?_insert, update_apply]
    split <;> rfl
  cases kind <;> exact Census.ext (funext binding) rfl rfl rfl rfl rfl

/-- A binding that is given up leaves the census. -/
theorem census_unbind (id : BindingId) : (client.unbind id).census =
    { client.census with binding := update client.census.binding id false } := by
  have binding (other : BindingId) : ((client.bindings.erase id).get? other).isSome =
      update client.census.binding id false other := by
    rw [Arena.get?_erase, update_apply]
    split <;> rfl
  exact Census.ext (funext binding) rfl rfl rfl rfl rfl

private theorem census_addPool (mapping : Mapping) : (client.addPool mapping).2.census =
    { client.census with pool := update client.census.pool (client.fresh .pool) true } := by
  have pool (id : PoolId) :
      ((client.pools.insert (client.fresh .pool) { mapping }).get? id).isSome =
        update client.census.pool (client.fresh .pool) true id := by
    rw [Arena.get?_insert, update_apply]
    split <;> rfl
  exact Census.ext rfl (funext pool) rfl rfl rfl rfl

private theorem census_addBuffer (pool : PoolId) (geometry : BufferGeometry) :
    (client.addBuffer pool geometry).2.census = { client.census with
      buffer := update client.census.buffer (client.fresh .buffer) (some pool) } := by
  have pools (id : PoolId) := isSome_get?_modify client.pools pool id
    fun owner => owner.enlist (client.fresh .buffer)
  exact Census.ext rfl (funext pools) (Arena.view_insert ..) rfl rfl rfl

/-- A buffer that is destroyed leaves the census. -/
theorem census_destroyBuffer (id : BufferId) : (client.destroyBuffer id).census =
    { client.census with buffer := update client.census.buffer id none } := by
  rw [destroyBuffer_eq]
  have pools (other : PoolId) : ((client.poolsWithout id).get? other).isSome =
      (client.pools.get? other).isSome := by
    unfold poolsWithout
    split
    · exact isSome_get?_modify ..
    · rfl
  exact Census.ext rfl (funext pools) (Arena.view_erase ..) rfl rfl rfl

private theorem census_addSurface (version : UInt32) : (client.addSurface version).2.census =
    { client.census with
      surface := update client.census.surface (client.fresh .surface) (some []) } :=
  Census.ext rfl rfl rfl (Arena.view_insert ..) rfl rfl

variable {client}

private theorem census_addCallback {id : SurfaceId} {surface : Surface}
    (found : client.surfaces.get? id = some surface) :
    (client.addCallback id).2.census = { client.census with
      surface := update client.census.surface id
        (some (surface.waitingCallbacks ++ [client.fresh .callback])) } := by
  have more : (surface.addCallback (client.fresh .callback)).waitingCallbacks =
      surface.waitingCallbacks ++ [client.fresh .callback] := (List.append_assoc ..).symm
  simp only [addCallback, draw, found]
  rw [← more]
  exact Census.ext rfl rfl rfl (Arena.view_modify found _) rfl rfl

/-- The callbacks that a presentation leaves waiting. -/
theorem census_presentAll (time : UInt32) : (client.presentAll time).census = { client.census with
    surface := client.surfaces.view fun surface =>
      if surface.current.buffer.isSome then surface.pending.callbacks
      else surface.waitingCallbacks } := by
  refine Census.ext rfl rfl rfl (funext fun id => ?_) rfl rfl
  simp only [census, presentAll, Arena.view, Arena.get?_mapValues, Option.map_map]
  refine congrFun (congrArg Option.map (funext fun surface => ?_)) _
  simp only [Function.comp_apply, apply_ite Surface.waitingCallbacks]
  rfl

/-- A window surface that is new. -/
theorem census_getWindowSurface {id : SurfaceId} {grant : WindowGrant}
    (done : client.getWindowSurface id = .ok grant) (created : client.windowSurfaceOf? id = none) :
    grant.id = client.fresh .windowSurface ∧ grant.client.id = client.id ∧
      grant.client.census = { client.census with
        window := update client.census.window (client.fresh .windowSurface) (some id) } := by
  obtain ⟨surface, changed, found, taken, ⟨window, had, rfl⟩ | ⟨_, rfl⟩⟩ :=
    getWindowSurface_eq_ok done
  · rw [windowSurfaceOf?_assumeRole found taken, created] at had
    cases had
  · have kept : (client.surfaces.modify id fun _ => changed).view Surface.waitingCallbacks =
        client.census.surface := Arena.view_modify_of_eq fun value live => by
      cases found.symm.trans live
      exact waitingCallbacks_assumeRole taken
    refine ⟨rfl, rfl, Census.ext rfl rfl rfl (.trans ?_ kept) (Arena.view_insert ..) rfl⟩
    exact Arena.view_modify_of_eq fun _ _ => rfl

private theorem census_getToplevel {id : WindowSurfaceId} {size : Size} {toplevel : ToplevelId}
    {opened : Connection} (done : client.getToplevel id size = .ok (toplevel, opened)) :
    toplevel = client.fresh .toplevel ∧ opened.id = client.id ∧ opened.census = { client.census with
      toplevel := update client.census.toplevel (client.fresh .toplevel) (some id) } := by
  obtain ⟨window, found, _, rfl, rfl⟩ := getToplevel_eq_ok done
  have named : (client.windowSurfaces.modify id fun window =>
      { window with toplevel := some (client.fresh .toplevel) }).view WindowSurface.surface =
        client.census.window := Arena.view_modify_of_eq fun _ _ => rfl
  have more : (client.toplevels.insert (client.fresh .toplevel)
      { windowSurface := id, surface := window.surface, size }).view Toplevel.windowSurface =
        update client.census.toplevel (client.fresh .toplevel) (some id) := Arena.view_insert ..
  refine ⟨rfl, rfl, Census.ext rfl rfl rfl rfl (.trans ?_ named) (.trans ?_ more)⟩
  · refine Arena.view_modify_of_eq fun value live => ?_
    rw [Arena.get?_modify, if_pos rfl, found] at live
    cases live
    rfl
  · exact Arena.view_modify_of_eq fun _ _ => rfl

/-- The census and the links know the same window surfaces. -/
theorem census_window_eq (id : WindowSurfaceId) :
    client.census.window id = (client.links.window id).map Prod.fst := by
  simp only [census, links, Arena.view, Option.map_map]
  rfl

/-- The census and the links know the same toplevels. -/
theorem census_toplevel_eq (id : ToplevelId) :
    client.census.toplevel id = (client.links.toplevel id).map Prod.fst := by
  simp only [census, links, Arena.view, Option.map_map]
  rfl

/-- The toplevels without that of a window surface are those of other window surfaces. -/
theorem census_toplevelsWithout (agree : client.links.Agree) (id : WindowSurfaceId) :
    (client.toplevelsWithout id).view Toplevel.windowSurface = fun toplevel =>
      if client.census.toplevel toplevel = some id then none
      else client.census.toplevel toplevel := by
  have names {toplevel : ToplevelId} (named : client.census.toplevel toplevel = some id) :
      (client.windowSurfaces.get? id).bind WindowSurface.toplevel = some toplevel := by
    rw [census_toplevel_eq, Option.map_eq_some_iff] at named
    obtain ⟨⟨_, surface⟩, linked, rfl⟩ := named
    obtain ⟨window, found, same⟩ := Arena.exists_of_view ((agree.toplevel _ _ _).mp linked)
    rw [found]
    exact (Prod.mk.inj same).2
  funext toplevel
  unfold toplevelsWithout
  split
  · rename_i gone held
    rw [Arena.view_erase, update_apply]
    obtain ⟨window, found, taken⟩ := Option.bind_eq_some_iff.mp held
    have linked := (agree.toplevel gone id window.surface).mpr
      (taken ▸ Arena.view_of_get? found)
    by_cases same : toplevel = gone
    · subst same
      rw [if_pos rfl, if_pos (by rw [census_toplevel_eq, linked]; rfl)]
    · rw [if_neg same, if_neg fun named => same (Option.some.inj ((names named).symm.trans held))]
      rfl
  · rename_i free
    rw [if_neg fun named => Option.some_ne_none _ ((names named).symm.trans free)]
    rfl

/-- A surface that is destroyed moves no buffer. -/
theorem pool_abandon (surface : Surface) (id : BufferId) (buffer : Buffer) :
    (abandon surface id buffer).pool = buffer.pool := by
  rw [abandon_frame]

/-- A surface that is destroyed leaves the census, along with its window surface and toplevel. -/
theorem census_destroySurface (agree : client.links.Agree) {id : SurfaceId}
    {callbacks : List CallbackId} {left : Connection}
    (done : client.destroySurface? id = some (callbacks, left)) :
    left.census = { client.census with
      surface := update client.census.surface id none
      window := fun window =>
        if client.census.window window = some id then none else client.census.window window
      toplevel := fun toplevel =>
        if (client.census.toplevel toplevel).bind client.census.window = some id then none
        else client.census.toplevel toplevel } := by
  obtain ⟨surface, found⟩ := surface_of_destroySurface? done
  have buffers := view_pool_of_map (abandon surface) (get?_buffers_destroySurface found done)
    (pool_abandon surface)
  have linked : client.links.surface id = some (surface.role, surface.windowSurface) :=
    Arena.view_of_get? found
  -- the window surface of the surface is the one that the surface names
  have names (window : WindowSurfaceId) :
      client.census.window window = some id ↔ surface.windowSurface = some window := by
    rw [census_window_eq]
    constructor
    · rintro named
      obtain ⟨⟨_, toplevel⟩, shown, rfl⟩ := Option.map_eq_some_iff.mp named
      exact (Prod.mk.inj (Option.some.inj (linked.symm.trans (agree.window _ _ _ shown)))).2
    · intro named
      exact agree.surface id surface.role window (named ▸ linked)
  have above (toplevel : ToplevelId) :
      (client.census.toplevel toplevel).bind client.census.window = some id ↔
        ∃ window, client.census.toplevel toplevel = some window ∧
          surface.windowSurface = some window := by
    simp only [Option.bind_eq_some_iff, names]
  simp only [names, above]
  rw [destroySurface?_eq found done]
  refine Census.ext rfl rfl buffers (Arena.view_erase ..) ?_ ?_
  · cases surface.windowSurface with
    | none => simp [census]
    | some window =>
      refine (Arena.view_erase ..).trans (funext fun other => ?_)
      rw [update_apply]
      simp only [Option.some.injEq, eq_comm]
      rfl
  · cases surface.windowSurface with
    | none => simp [census]
    | some window =>
      refine (census_toplevelsWithout agree window).trans (funext fun toplevel => ?_)
      simp

/-- A window surface that is destroyed leaves the census, along with its toplevel. -/
theorem census_destroyWindowSurface (agree : client.links.Agree) {id : WindowSurfaceId}
    {left : Connection} (done : client.destroyWindowSurface? id = some left) :
    left.census = { client.census with
      window := update client.census.window id none
      toplevel := fun toplevel =>
        if client.census.toplevel toplevel = some id then none
        else client.census.toplevel toplevel } := by
  obtain ⟨window, found, rfl⟩ := destroyWindowSurface?_eq_some done
  refine Census.ext rfl rfl rfl ?_ (Arena.view_erase ..) (census_toplevelsWithout agree id)
  refine Arena.view_modify_of_eq fun value _ => ?_
  split <;> rfl

/-- A toplevel that is destroyed leaves the census. -/
theorem census_destroyToplevel {id : ToplevelId} {left : Connection}
    (done : client.destroyToplevel? id = some left) :
    left.census = { client.census with
      toplevel := update client.census.toplevel id none } := by
  obtain ⟨toplevel, found, rfl⟩ := destroyToplevel?_eq_some done
  exact Census.ext rfl rfl rfl rfl (Arena.view_modify_of_eq fun _ _ => rfl) (Arena.view_erase ..)

end Changing

section Lists

/-- Only three operations say which buffers there are, and of which pools. -/
theorem Change.census_buffer (change : Change server host operation old new) :
    new.census.buffer = old.census.buffer ∨
      (∃ pool geometry, new = (old.addBuffer pool geometry).2) ∨
        (∃ id, new = old.destroyPool id) ∨ ∃ id, new = old.destroyBuffer id := by
  cases change with
  | createBuffer => exact .inr (.inl ⟨_, _, rfl⟩)
  | destroyPool => exact .inr (.inr (.inl ⟨_, rfl⟩))
  | destroyBuffer => exact .inr (.inr (.inr ⟨_, rfl⟩))
  | bind => exact .inl (by rw [census_bind])
  | createPool => exact .inl (by rw [census_addPool])
  | createSurface => exact .inl (by rw [census_addSurface])
  | @frame _ id =>
    refine .inl ?_
    simp only [addCallback, draw]
    split <;> rfl
  | present done =>
    obtain ⟨_, _, rfl⟩ := present?_eq_some done
    exact .inl rfl
  | destroySurface done =>
    obtain ⟨surface, found⟩ := surface_of_destroySurface? done
    exact .inl (view_pool_of_map (abandon surface) (get?_buffers_destroySurface found done)
      (pool_abandon surface))
  | getWindowSurface done =>
    obtain ⟨_, _, _, _, ⟨_, _, rfl⟩ | ⟨_, rfl⟩⟩ := getWindowSurface_eq_ok done <;> exact .inl rfl
  | getToplevel done =>
    obtain ⟨_, _, _, _, rfl⟩ := getToplevel_eq_ok done
    exact .inl rfl
  | destroyWindowSurface done =>
    obtain ⟨_, _, rfl⟩ := destroyWindowSurface?_eq_some done
    exact .inl rfl
  | destroyToplevel done =>
    obtain ⟨_, _, rfl⟩ := destroyToplevel?_eq_some done
    exact .inl rfl
  | failRead _ failure => exact .inl (by rw [failure.census_eq])
  | attach found allowed carried =>
    exact .inl (by rw [Change.census_eq (.attach found allowed carried :
      Change server host _ old _) rfl])
  | commit done => exact .inl (by rw [census_commit done])
  | commitUnread done _ failure => exact .inl (by rw [failure.census_eq, census_commit done])
  | sendConfigure done =>
    obtain ⟨_, _, _, _, _, rfl⟩ := configure_eq_ok done
    exact .inl rfl
  | same | takeEvents | unbind | resizePool | request | presentAll | ackConfigure
  | setWindowGeometry | setTitle | setAppId => exact .inl rfl
  | missConfigure missed =>
    exact .inl (by rw [Change.census_eq (.missConfigure missed :
      Change server host _ old _) rfl])

/-- Every buffer on the list of a pool is live, and of that pool. -/
def Enlisted (client : Connection) : Prop :=
  ∀ id pool, client.pools.get? id = some pool → ∀ buffer ∈ pool.buffers,
    client.census.buffer buffer = some id

/-- Pools list live buffers also after one is destroyed. -/
theorem Enlisted.destroyBuffer (enlisted : client.Enlisted) (gone : BufferId) :
    (client.destroyBuffer gone).Enlisted := by
  intro id pool found buffer listed
  simp only [census_destroyBuffer, update_apply]
  rw [destroyBuffer_eq] at found
  simp only [poolsWithout] at found
  split at found
  · rename_i struck held
    rw [Arena.get?_modify] at found
    split at found
    · obtain ⟨owner, foundOwner, rfl⟩ := Option.map_eq_some_iff.mp found
      obtain ⟨listedBefore, apart⟩ := List.mem_filter.mp listed
      rw [if_neg (of_decide_eq_true apart)]
      exact enlisted id owner foundOwner buffer listedBefore
    · rename_i apart
      have named := enlisted id pool found buffer listed
      rw [if_neg, named]
      rintro rfl
      have same := (Arena.view_of_get? held).symm.trans named
      exact apart (Option.some.inj same).symm
  · rename_i dead
    have named := enlisted id pool found buffer listed
    rw [if_neg, named]
    rintro rfl
    obtain ⟨held, live, _⟩ := Arena.exists_of_view named
    cases dead.symm.trans live

private theorem Enlisted.destroyBuffers (enlisted : client.Enlisted) (gone : List BufferId) :
    (gone.foldl Connection.destroyBuffer client).Enlisted := by
  induction gone generalizing client with
  | nil => exact enlisted
  | cons first rest ih => exact ih (enlisted.destroyBuffer first)

/-- Pools list live buffers also after one of the pools is destroyed. -/
theorem Enlisted.destroyPool (enlisted : client.Enlisted) (gone : PoolId) :
    (client.destroyPool gone).Enlisted := by
  unfold Connection.destroyPool
  split
  · exact enlisted
  · rename_i destroyed _
    intro id pool found buffer listed
    rw [Arena.get?_erase] at found
    split at found
    · cases found
    · exact enlisted.destroyBuffers destroyed.buffers id pool found buffer listed

/-- **Every operation keeps the lists of pools to live buffers.** -/
theorem Change.enlisted {count : Nat} (change : Change server host operation old new)
    (enlisted : old.Enlisted) (drawn : old.Drawn count)
    (room : count + old.drawnUntil new ≤ UInt32.size) : new.Enlisted := by
  have stays (kept : ∀ id ∈ old.buffers.keys, new.census.buffer id = old.census.buffer id) :
      new.Enlisted := by
    intro id later live buffer listed
    rcases change.holding.pool_source live with ⟨_, _, empty⟩ | ⟨pool, found, stems⟩
    · exact (List.not_mem_nil (empty ▸ listed)).elim
    rcases stems.listed buffer listed with earlier | ⟨geometry, carved, _⟩
    · have named := enlisted id pool found buffer earlier
      obtain ⟨_, held, _⟩ := Arena.exists_of_view named
      rw [kept buffer (Arena.mem_keys_of_get? held), named]
    · exact Arena.view_of_get? carved
  rcases change.census_buffer with same | ⟨pool, geometry, rfl⟩ | ⟨id, rfl⟩ | ⟨id, rfl⟩
  · exact stays fun id _ => congrFun same id
  · refine stays fun id held => ?_
    have apart : id ≠ old.fresh .buffer := fun carved =>
      drawn.fresh_of_advanced room rfl .buffer (carved ▸ held)
    simp only [census_addBuffer, update_apply, if_neg apart]
  · exact enlisted.destroyPool id
  · exact enlisted.destroyBuffer id

/-- A pool takes along the buffers that name it. -/
theorem census_destroyPool (enlisted : client.Enlisted)
    (held : ∀ id buffer, client.buffers.get? id = some buffer →
      ∃ pool, client.pools.get? buffer.pool = some pool ∧ id ∈ pool.buffers) (id : PoolId) :
    (client.destroyPool id).census = { client.census with
      pool := update client.census.pool id false
      buffer := fun buffer =>
        if client.census.buffer buffer = some id then none else client.census.buffer buffer } := by
  have holds {buffer : BufferId} (named : client.census.buffer buffer = some id) :
      ∃ pool, client.pools.get? id = some pool ∧ buffer ∈ pool.buffers := by
    obtain ⟨record, live, rfl⟩ := Arena.exists_of_view named
    exact held buffer record live
  unfold destroyPool
  split
  · rename_i dead
    have free (buffer : BufferId) : client.census.buffer buffer ≠ some id := fun named => by
      obtain ⟨pool, found, _⟩ := holds named
      exact nomatch dead.symm.trans found
    refine Census.ext rfl ?_ ?_ rfl rfl rfl
    · exact (Function.update_eq_self_iff.mpr (by simp only [census, dead]; rfl)).symm
    · exact funext fun buffer => (if_neg (free buffer)).symm
  · rename_i pool found
    have pools (other : PoolId) :
        (((pool.buffers.foldl destroyBuffer client).pools.erase id).get? other).isSome =
          update client.census.pool id false other := by
      rw [Arena.get?_erase, update_apply]
      split
      · rfl
      · refine Bool.eq_iff_iff.mpr ((Arena.contains_iff_mem_keys ..).trans ?_)
        rw [keys_pools_foldl_destroyBuffer]
        exact (Arena.contains_iff_mem_keys ..).symm
    have listed (buffer : BufferId) :
        buffer ∈ pool.buffers ↔ client.census.buffer buffer = some id := by
      refine ⟨enlisted id pool found buffer, fun named => ?_⟩
      obtain ⟨owner, foundOwner, listed⟩ := holds named
      cases found.symm.trans foundOwner
      exact listed
    have buffers (buffer : BufferId) :
        (pool.buffers.foldl destroyBuffer client).buffers.view Buffer.pool buffer =
          if client.census.buffer buffer = some id then none else client.census.buffer buffer := by
      rw [Arena.view, get?_buffers_foldl_destroyBuffer, if_congr (listed buffer) rfl rfl]
      split <;> rfl
    rw [foldl_destroyBuffer_frame]
    exact Census.ext rfl (funext pools) (funext buffers) rfl rfl rfl

end Lists

end Connection

/-- Two censuses say the same of some connections. -/
structure Census.SameOn (first second : Census) (among : ConnectionId → Prop) : Prop where
  binding : ∀ id, among id.connection → first.binding id = second.binding id
  pool : ∀ id, among id.connection → first.pool id = second.pool id
  buffer : ∀ id, among id.connection → first.buffer id = second.buffer id
  surface : ∀ id, among id.connection → first.surface id = second.surface id
  window : ∀ id, among id.connection → first.window id = second.window id
  toplevel : ∀ id, among id.connection → first.toplevel id = second.toplevel id

namespace Census.SameOn

variable {first second third : Census} {among : ConnectionId → Prop}

/-- To be the same on some connections is transitive. -/
theorem trans (before : first.SameOn second among) (after : second.SameOn third among) :
    first.SameOn third among := by
  constructor <;> intro handle listed
  · exact (before.binding handle listed).trans (after.binding handle listed)
  · exact (before.pool handle listed).trans (after.pool handle listed)
  · exact (before.buffer handle listed).trans (after.buffer handle listed)
  · exact (before.surface handle listed).trans (after.surface handle listed)
  · exact (before.window handle listed).trans (after.window handle listed)
  · exact (before.toplevel handle listed).trans (after.toplevel handle listed)

theorem symm (same : first.SameOn second among) : second.SameOn first among where
  binding id here := (same.binding id here).symm
  pool id here := (same.pool id here).symm
  buffer id here := (same.buffer id here).symm
  surface id here := (same.surface id here).symm
  window id here := (same.window id here).symm
  toplevel id here := (same.toplevel id here).symm

/-- Censuses that are the same on a connection and on all others are equal. -/
theorem eq_of (id : ConnectionId) (here : first.SameOn second (· = id))
    (there : first.SameOn second (· ≠ id)) : first = second := by
  ext handle : 2
  · exact (em _).elim (here.binding handle) (there.binding handle)
  · exact (em _).elim (here.pool handle) (there.pool handle)
  · exact (em _).elim (here.buffer handle) (there.buffer handle)
  · exact (em _).elim (here.surface handle) (there.surface handle)
  · exact (em _).elim (here.window handle) (there.window handle)
  · exact (em _).elim (here.toplevel handle) (there.toplevel handle)

end Census.SameOn

/-- An attempt that is refused leaves the state alone. -/
theorem Outcome.state_of_refused {σ α ε : Type} {state : σ} {log : List LogMessage}
    {attempt : Except ε (α × σ)} {cause : ε}
    (refused : (Outcome.ofAttempt state log attempt).answer = .error cause) :
    (Outcome.ofAttempt state log attempt).state = state := by
  cases attempt with
  | error => rfl
  | ok => cases refused

namespace Server

variable {server after : Server} {host : Host} {operation : Operation}

def census (server : Server) : Census where
  binding id := (server.connection? id.connection).any fun client => client.census.binding id
  pool id := (server.connection? id.connection).any fun client => client.census.pool id
  buffer id := (server.connection? id.connection).bind fun client => client.census.buffer id
  surface id := (server.connection? id.connection).bind fun client => client.census.surface id
  window id := (server.connection? id.connection).bind fun client => client.census.window id
  toplevel id := (server.connection? id.connection).bind fun client => client.census.toplevel id

/-- A server holds what its connections hold. -/
theorem census_sameOn {id : ConnectionId} {client : Connection}
    (live : server.connection? id = some client) :
    server.census.SameOn client.census (· = id) := by
  constructor <;> rintro handle rfl <;> simp [census, live]

/-- Servers with the same connections among some hold the same among them. -/
theorem sameOn_of_connection? {among : ConnectionId → Prop}
    (same : ∀ id, among id → after.connection? id = server.connection? id) :
    after.census.SameOn server.census among := by
  constructor <;> intro handle listed <;> simp only [census, same _ listed]

/-- A connection that was worked on brings its census along. -/
theorem census_putBack {id : ConnectionId} {old new : Connection} {census : Census}
    (live : server.connection? id = some old) (kept : new.id = id)
    (here : new.census.SameOn census (· = id)) (there : server.census.SameOn census (· ≠ id)) :
    (server.putBack new).census = census := by
  subst kept
  have found : (server.putBack new).connection? new.id = some new := by
    rw [connection?_putBack, if_pos rfl, live]
    rfl
  have others (other : ConnectionId) (apart : other ≠ new.id) :
      (server.putBack new).connection? other = server.connection? other := by
    rw [connection?_putBack, if_neg apart]
  exact ((census_sameOn found).trans here).eq_of _ ((sameOn_of_connection? others).trans there)

/-- Connections with the same census make servers with the same census. -/
theorem census_congr (same : ∀ id, (after.connection? id).map Connection.census =
    (server.connection? id).map Connection.census) : after.census = server.census := by
  have any (see : Census → Bool) (id : ConnectionId) :
      (after.connection? id).any (fun client => see client.census) =
        (server.connection? id).any fun client => see client.census := by
    simpa only [Option.any_map, Function.comp_def] using congrArg (Option.any see) (same id)
  have bind {β : Type} (see : Census → Option β) (id : ConnectionId) :
      ((after.connection? id).bind fun client => see client.census) =
        (server.connection? id).bind fun client => see client.census := by
    simpa only [Option.bind_map, Function.comp_def] using
      congrArg (fun census => Option.bind census see) (same id)
  exact Census.ext (funext fun handle => any (Census.binding · handle) _)
    (funext fun handle => any (Census.pool · handle) _)
    (funext fun handle => bind (Census.buffer · handle) _)
    (funext fun handle => bind (Census.surface · handle) _)
    (funext fun handle => bind (Census.window · handle) _)
    (funext fun handle => bind (Census.toplevel · handle) _)

/-- A calm operation changes no census. -/
theorem census_next_of_calm (named : server.Named) (host : Host) (calm : operation.isCalm = true) :
    (server.next host operation).census = server.census := by
  have effect := effect_next named host operation (by rintro rfl; cases calm)
    (by rintro _ rfl; cases calm)
  refine census_congr fun id => ?_
  cases found : server.connection? id with
  | none =>
    cases reached : (server.next host operation).connection? id with
    | none => rfl
    | some new =>
      obtain ⟨old, live, _⟩ := effect.source reached
      exact nomatch found.symm.trans live
  | some old =>
    obtain ⟨new, reached, change⟩ := effect.change id old found
    rw [reached, Option.map_some, Option.map_some, change.census_eq calm]

/-- What an operation holds on to for a client, under a handle. -/
structure Grants (server after : Server) (owner : ConnectionId) {kind : ObjectKind}
    (handle : Handle kind) (census : Census) : Prop where
  own : handle.connection = owner
  live : server.isConnected owner = true
  census : after.census = census

section Granting

variable {kind : ObjectKind} {handle : Handle kind} {census : Census}

/-- Who has a connection is connected. -/
theorem isConnected_of_connection? {id : ConnectionId} {client : Connection}
    (live : server.connection? id = some client) : server.isConnected id = true :=
  congrArg Option.isSome live

/-- A connection that drew a handle and is put back grants it. -/
theorem Grants.of_putBack (named : server.Named) {id : ConnectionId} {old new : Connection}
    (live : server.connection? id = some old) (kept : new.id = old.id)
    (given : handle = old.fresh kind) {made : Census} (makes : new.census = made)
    (fits : handle = old.fresh kind → handle.connection = id →
      server.census.SameOn old.census (· = id) →
      made.SameOn census (· = id) ∧ server.census.SameOn census (· ≠ id)) :
    server.Grants (server.putBack new) id handle census := by
  have own : handle.connection = id := given ▸ named id old live
  obtain ⟨here, there⟩ := fits given own (census_sameOn live)
  exact ⟨own, isConnected_of_connection? live,
    census_putBack live (kept.trans (named id old live)) (makes ▸ here) there⟩

variable (named : server.Named)

include named

/-- To bind a capability grants a binding. -/
theorem grants_bind {connection : ConnectionId} {name : String} {version : UInt32}
    {binding : BindingId} (bound : (server.bind connection name version).answer = .ok binding) :
    server.Grants (server.bind connection name version).state connection binding
      { server.census with binding := update server.census.binding binding true } := by
  obtain ⟨kind, old, live, rfl, state⟩ := bind_eq_ok bound
  obtain ⟨kept, drawn, _⟩ := old.bind_draws kind version server.formats
  refine state.symm ▸ .of_putBack named live kept drawn (old.census_bind ..) fun given own same => ?_
  constructor <;> constructor <;> grind [Census.SameOn]

/-- To create a pool grants it. -/
theorem grants_createPool {connection : ConnectionId} {descriptor : Descriptor} {size : Int32}
    {pool : PoolId}
    (created : (server.createPool host connection descriptor size).answer = .ok pool) :
    server.Grants (server.createPool host connection descriptor size).state connection pool
      { server.census with pool := update server.census.pool pool true } := by
  obtain ⟨old, mapping, live, drawn, state⟩ := createPool_eq_ok created
  refine state.symm ▸ .of_putBack named live rfl drawn (old.census_addPool mapping)
    fun given own same => ?_
  constructor <;> constructor <;> grind [Census.SameOn]

/-- To create a buffer grants it, in its pool. -/
theorem grants_createBuffer {pool : PoolId} {geometry : BufferGeometry}
    {buffer : BufferId} (created : (server.createBuffer pool geometry).answer = .ok buffer) :
    server.Grants (server.createBuffer pool geometry).state pool.connection buffer
      { server.census with buffer := update server.census.buffer buffer (some pool) } := by
  obtain ⟨old, live, drawn, state⟩ := createBuffer_eq_ok created
  refine state.symm ▸ .of_putBack named live rfl drawn (old.census_addBuffer pool geometry)
    fun given own same => ?_
  constructor <;> constructor <;> grind [Census.SameOn]

/-- To create a surface grants it, without callbacks. -/
theorem grants_createSurface {connection : ConnectionId} {version : UInt32}
    {surface : SurfaceId}
    (created : (server.createSurface connection version).answer = .ok surface) :
    server.Grants (server.createSurface connection version).state connection surface
      { server.census with surface := update server.census.surface surface (some []) } := by
  obtain ⟨old, live, drawn, state⟩ := createSurface_eq_ok created
  refine state.symm ▸ .of_putBack named live rfl drawn (old.census_addSurface version)
    fun given own same => ?_
  constructor <;> constructor <;> grind [Census.SameOn]

/-- To ask for a frame grants a callback, which waits on the surface. -/
theorem grants_frame {surface : SurfaceId} {callback : CallbackId}
    (given : (server.frame surface).answer = .ok callback) :
    ∃ waiting, server.census.surface surface = some waiting ∧
      server.Grants (server.frame surface).state surface.connection callback { server.census with
        surface := update server.census.surface surface (some (waiting ++ [callback])) } := by
  obtain ⟨old, live, answered, state⟩ := frame_eq_ok given
  obtain ⟨drawn, kept, _⟩ := old.addCallback_draws answered
  cases found : old.surfaces.get? surface with
  | none => simp [Connection.addCallback, Connection.draw, found] at answered
  | some record =>
    have waits : server.census.surface surface = some record.waitingCallbacks :=
      ((census_sameOn live).surface surface rfl).trans (Arena.view_of_get? found)
    refine ⟨record.waitingCallbacks, waits, state.symm ▸ .of_putBack named live kept drawn
      (Connection.census_addCallback found) fun given own same => ?_⟩
    constructor <;> constructor <;> grind [Census.SameOn]

/-- The first time that it is asked for, a window surface is granted. -/
theorem grants_getWindowSurface {surface : SurfaceId}
    {window : WindowSurfaceId} (given : (server.getWindowSurface surface).answer = .ok window)
    (created : server.windowSurfaceOf? surface = none) :
    server.Grants (server.getWindowSurface surface).state surface.connection window
      { server.census with window := update server.census.window window (some surface) } := by
  obtain ⟨old, grant, live, done, rfl, state⟩ := getWindowSurface_eq_ok given
  rw [windowSurfaceOf?, live] at created
  obtain ⟨drawn, kept, census⟩ := Connection.census_getWindowSurface done created
  refine state.symm ▸ .of_putBack named live kept drawn census fun given own same => ?_
  constructor <;> constructor <;> grind [Census.SameOn]

/-- To ask for a toplevel grants it. -/
theorem grants_getToplevel {window : WindowSurfaceId} {toplevel : ToplevelId}
    (given : (server.getToplevel window).answer = .ok toplevel) :
    server.Grants (server.getToplevel window).state window.connection toplevel
      { server.census with toplevel := update server.census.toplevel toplevel (some window) } := by
  obtain ⟨old, new, live, done, state⟩ := putBack_of_answer given
  obtain ⟨drawn, kept, census⟩ := Connection.census_getToplevel done
  refine state.symm ▸ .of_putBack named live kept drawn census fun given own same => ?_
  constructor <;> constructor <;> grind [Census.SameOn]

end Granting

/-! ### What is refused leaves the server as it is -/

section Refusals

variable {connection : ConnectionId}

/-- A capability that cannot be bound leaves the server alone. -/
theorem state_bind_of_error {name : String} {version : UInt32} {cause : BindError}
    (failed : (server.bind connection name version).answer = .error cause) :
    (server.bind connection name version).state = server := by
  unfold bind at failed ⊢
  split
  · rfl
  · rename_i known
    simp only [known] at failed
    split
    · rfl
    · rename_i inRange
      rw [if_neg inRange] at failed
      exact Outcome.state_of_refused failed

/-- A pool that cannot be created leaves the server alone. -/
theorem state_createPool_of_error {descriptor : Descriptor} {size : Int32} {cause : PoolError}
    (failed : (server.createPool host connection descriptor size).answer = .error cause) :
    (server.createPool host connection descriptor size).state = server := by
  unfold createPool at failed ⊢
  grind [Outcome.refuse]

/-- A window surface that is refused leaves the server alone. -/
theorem state_getWindowSurface_of_error {surface : SurfaceId} {cause : WindowError}
    (failed : (server.getWindowSurface surface).answer = .error cause) :
    (server.getWindowSurface surface).state = server := by
  unfold getWindowSurface at failed ⊢
  grind [Outcome.refuse]

/-- A commit that is refused leaves the server alone. -/
theorem state_commit_of_error {surface : SurfaceId} {cause : SurfaceError}
    (failed : (server.commit host surface).answer = .error cause) :
    (server.commit host surface).state = server := by
  unfold commit at failed ⊢
  grind [Outcome.refuse]

end Refusals

end Server

end DisplayServer
