import DisplayServer.Proofs.Change

/-! # Handles and the counter they are drawn from

All handles of a connection come from its counter. An operation draws at most one, and every handle
that is live afterwards was live before or is the one drawn (`Connection.Change.handles`). As long
as the counter has not gone around, its value is the number of handles drawn, and all handles lie
below it in the order in which they were drawn (`Connection.Drawn`).
-/

namespace DisplayServer

namespace Arena

variable {κ α : Type} [DecidableEq κ]

/-- What is inserted is listed last, unless it replaces something. -/
theorem keys_insert_sublist (arena : Arena κ α) (key : κ) (value : α) :
    (arena.insert key value).keys.Sublist (arena.keys ++ [key]) := by
  rw [keys_insert]
  split
  · exact List.sublist_append_left ..
  · exact .refl _

/-- To erase something keeps the order of the rest. -/
theorem keys_erase_sublist (arena : Arena κ α) (key : κ) :
    (arena.erase key).keys.Sublist arena.keys := by
  rw [keys_erase]
  exact List.filter_sublist

end Arena

/-- Whether an operation may draw a handle or a connection number. -/
def Operation.draws : Operation → Bool
  | connect | bind _ _ _ | createPool _ _ _ | createBuffer _ _ | createSurface _ _ | frame _
  | getWindowSurface _ | getToplevel _ => true
  | _ => false

namespace Connection

/-- The handles under which a connection keeps objects of a kind, oldest first. Frame callbacks are
not looked up by their handles. -/
def handles (client : Connection) : (kind : ObjectKind) → List (Handle kind)
  | .binding => client.bindings.keys
  | .pool => client.pools.keys
  | .buffer => client.buffers.keys
  | .surface => client.surfaces.keys
  | .windowSurface => client.windowSurfaces.keys
  | .toplevel => client.toplevels.keys
  | .callback => []

/-- The handle that a connection draws next. -/
def fresh (client : Connection) (kind : ObjectKind) : Handle kind :=
  ⟨client.id, client.nextIndex⟩

/-- No handle was drawn, and no object came into being. -/
def DrewNone (old new : Connection) : Prop :=
  new.nextIndex = old.nextIndex ∧ ∀ kind, (new.handles kind).Sublist (old.handles kind)

/-- A handle was drawn, and no object came into being but one, of some kind, under this handle. -/
def DrewOne (old new : Connection) : Prop :=
  new.nextIndex = old.nextIndex + 1 ∧
    ∃ kind, (new.handles kind).Sublist (old.handles kind ++ [old.fresh kind]) ∧
      ∀ other, other ≠ kind → new.handles other = old.handles other

section Handles

variable {server : Server} {host : Host} {operation : Operation} {old new : Connection}

private theorem DrewNone.of_eq (index : new.nextIndex = old.nextIndex)
    (handles : ∀ kind, new.handles kind = old.handles kind) : DrewNone old new :=
  ⟨index, fun kind => handles kind ▸ .refl _⟩

/-- The handle that is drawn comes last among those of any kind, if it is listed at all. -/
theorem DrewOne.sublist (drew : DrewOne old new) (kind : ObjectKind) :
    (new.handles kind).Sublist (old.handles kind ++ [old.fresh kind]) := by
  obtain ⟨_, created, drawn, others⟩ := drew
  by_cases same : kind = created
  · exact same ▸ drawn
  · rw [others kind same]
    exact List.sublist_append_left ..

/-- A handle that is live after one was drawn was live before, or is that one. -/
theorem DrewOne.mem_handles (drew : DrewOne old new) {kind : ObjectKind} {handle : Handle kind}
    (listed : handle ∈ new.handles kind) : handle ∈ old.handles kind ∨ handle = old.fresh kind :=
  (List.mem_append.mp ((drew.sublist kind).subset listed)).imp_right List.mem_singleton.mp

private theorem ReadFailure.handles {id : BufferId} (failure : old.ReadFailure id new)
    (kind : ObjectKind) : new.handles kind = old.handles kind := by
  cases failure <;> cases kind <;> simp [Connection.handles, emit, setMapping]

/-- A commit creates and destroys nothing. -/
theorem handles_commit {client : Connection} {id : SurfaceId} {commit : Commit}
    (done : client.commit? id = some commit) (kind : ObjectKind) :
    commit.client.handles kind = client.handles kind := by
  obtain ⟨surface, found⟩ := surface_of_commit? done
  obtain ⟨change, surfaces, _⟩ := surfaces_commit found done
  cases kind with
  | buffer => exact keys_buffers_commit done
  | surface =>
    simp only [handles, surfaces]
    exact Arena.keys_modify ..
  | _ =>
    rw [commit?_frame done]
    rfl

private theorem keys_toplevelsWithout_sublist (client : Connection) (id : WindowSurfaceId) :
    (client.toplevelsWithout id).keys.Sublist client.toplevels.keys := by
  unfold toplevelsWithout
  split
  · exact Arena.keys_erase_sublist ..
  · exact .refl _

/-- To destroy a surface creates nothing. -/
theorem handles_destroySurface {client left : Connection} {id : SurfaceId}
    {callbacks : List CallbackId} (done : client.destroySurface? id = some (callbacks, left))
    (kind : ObjectKind) : (left.handles kind).Sublist (client.handles kind) := by
  obtain ⟨surface, found⟩ := surface_of_destroySurface? done
  have buffers := keys_buffers_destroySurface done
  rw [destroySurface?_eq found done]
  cases kind with
  | buffer => simp only [handles, buffers, List.Sublist.refl]
  | surface => exact Arena.keys_erase_sublist ..
  | windowSurface =>
    unfold handles
    split
    · exact Arena.keys_erase_sublist ..
    · exact .refl _
  | toplevel =>
    unfold handles
    split
    · exact keys_toplevelsWithout_sublist ..
    · exact .refl _
  | _ => exact .refl _

/-- To destroy a pool creates nothing. -/
theorem handles_destroyPool (client : Connection) (id : PoolId) (kind : ObjectKind) :
    ((client.destroyPool id).handles kind).Sublist (client.handles kind) := by
  unfold destroyPool
  cases client.pools.get? id with
  | none => exact .refl _
  | some pool =>
    cases kind with
    | pool =>
      refine (Arena.keys_erase_sublist ..).trans ?_
      rw [keys_pools_foldl_destroyBuffer]
      exact .refl _
    | buffer => exact keys_buffers_foldl_destroyBuffer ..
    | callback => exact .refl _
    | _ =>
      obtain ⟨pools, buffers, kept⟩ : ∃ pools buffers,
          pool.buffers.foldl destroyBuffer client = { client with pools, buffers } :=
        ⟨_, _, foldl_destroyBuffer_frame ..⟩
      simp only [handles, kept, List.Sublist.refl]

/-- **Where handles come from.** An operation draws at most one handle on a connection, if it draws
any, and the handles that are live afterwards were live before, but for the one drawn. -/
theorem Change.handles (change : Change server host operation old new) :
    DrewNone old new ∨ operation.draws = true ∧ DrewOne old new := by
  cases change with
  | same | takeEvents _ => exact .inl (.of_eq rfl fun _ => rfl)
  | request _ _ | ackConfigure | setWindowGeometry _ _ | missConfigure _ | setTitle | setAppId
  | resizePool _ _ _ | presentAll =>
    refine .inl (.of_eq rfl fun kind => ?_)
    cases kind <;> simp [Connection.handles, modifySurface, modifyWindow, modifyToplevel,
      setMapping, Connection.presentAll]
  | @bind _ _ _ _ capability _ =>
    refine .inr ⟨rfl, ?_, .binding, ?_, fun kind other => ?_⟩
    · cases capability.kind <;> rfl
    · cases capability.kind <;> exact Arena.keys_insert_sublist ..
    · cases capability.kind <;> cases kind <;> first | rfl | exact (other rfl).elim
  | createPool _ _ =>
    refine .inr ⟨rfl, rfl, .pool, Arena.keys_insert_sublist .., fun kind other => ?_⟩
    cases kind <;> first | rfl | exact (other rfl).elim
  | createBuffer _ _ =>
    refine .inr ⟨rfl, rfl, .buffer, Arena.keys_insert_sublist .., fun kind other => ?_⟩
    cases kind with
    | buffer => exact (other rfl).elim
    | pool => exact Arena.keys_modify ..
    | _ => rfl
  | createSurface =>
    refine .inr ⟨rfl, rfl, .surface, Arena.keys_insert_sublist .., fun kind other => ?_⟩
    cases kind <;> first | rfl | exact (other rfl).elim
  | frame =>
    refine .inr ⟨rfl, ?_, .callback, ?_, fun kind _ => ?_⟩
    · simp only [addCallback, draw]
      split <;> rfl
    · exact List.nil_sublist _
    · simp only [addCallback, draw]
      cases old.surfaces.get? _ <;> cases kind <;> simp [Connection.handles, modifySurface]
  | unbind =>
    refine .inl ⟨rfl, fun kind => ?_⟩
    cases kind with
    | binding => exact Arena.keys_erase_sublist ..
    | _ => exact .refl _
  | @destroyPool _ id =>
    refine .inl ⟨?_, fun kind => handles_destroyPool old id kind⟩
    rw [destroyPool_frame]
  | destroyBuffer =>
    rw [destroyBuffer_eq]
    refine .inl ⟨rfl, fun kind => ?_⟩
    cases kind with
    | buffer => exact Arena.keys_erase_sublist ..
    | pool => simp only [Connection.handles, keys_poolsWithout, List.Sublist.refl]
    | _ => exact .refl _
  | failRead _ failure =>
    exact .inl (.of_eq (by rw [failure.frame]) failure.handles)
  | attach _ _ _ =>
    refine .inl (.of_eq ?_ fun kind => ?_)
    · unfold modifySurface
      rw [claim_frame, withdraw_frame]
    · cases kind with
      | buffer => exact (keys_buffers_claim ..).trans (keys_buffers_withdraw ..)
      | surface =>
        simp only [Connection.handles, modifySurface, Arena.keys_modify]
        rw [claim_frame, withdraw_frame]
      | _ =>
        unfold modifySurface
        rw [claim_frame, withdraw_frame]
        rfl
  | commit done => exact .inl (.of_eq (by rw [commit?_frame done]) (handles_commit done))
  | commitUnread done _ failure =>
    refine .inl (.of_eq ?_ fun kind => (failure.handles kind).trans (handles_commit done kind))
    rw [failure.frame, commit?_frame done]
  | present done =>
    obtain ⟨_, _, rfl⟩ := present?_eq_some done
    refine .inl (.of_eq rfl fun kind => ?_)
    cases kind <;> simp [Connection.handles]
  | destroySurface done =>
    obtain ⟨surface, found⟩ := surface_of_destroySurface? done
    exact .inl ⟨by rw [destroySurface?_eq found done], handles_destroySurface done⟩
  | getWindowSurface done =>
    obtain ⟨surface, changed, _, _, ⟨_, _, rfl⟩ | ⟨_, rfl⟩⟩ := getWindowSurface_eq_ok done
    · refine .inl (.of_eq rfl fun kind => ?_)
      cases kind <;> simp [Connection.handles, modifySurface]
    · refine .inr ⟨rfl, rfl, .windowSurface, Arena.keys_insert_sublist .., fun kind other => ?_⟩
      cases kind with
      | windowSurface => exact (other rfl).elim
      | surface => exact (Arena.keys_modify ..).trans (Arena.keys_modify ..)
      | _ => rfl
  | getToplevel done =>
    obtain ⟨window, _, _, rfl, rfl⟩ := getToplevel_eq_ok done
    refine .inr ⟨rfl, rfl, .toplevel, ?_, fun kind other => ?_⟩
    · simp only [Connection.handles, Arena.keys_modify]
      exact Arena.keys_insert_sublist ..
    · cases kind with
      | toplevel => exact (other rfl).elim
      | windowSurface => exact (Arena.keys_modify ..).trans (Arena.keys_modify ..)
      | _ => rfl
  | sendConfigure done =>
    obtain ⟨_, _, _, _, _, rfl⟩ := configure_eq_ok done
    refine .inl (.of_eq rfl fun kind => ?_)
    cases kind <;> simp [Connection.handles]
  | destroyWindowSurface done =>
    obtain ⟨_, _, rfl⟩ := destroyWindowSurface?_eq_some done
    refine .inl ⟨rfl, fun kind => ?_⟩
    cases kind with
    | surface => simp only [Connection.handles, Arena.keys_modify, List.Sublist.refl]
    | windowSurface => exact Arena.keys_erase_sublist ..
    | toplevel => exact keys_toplevelsWithout_sublist ..
    | _ => exact .refl _
  | destroyToplevel done =>
    obtain ⟨_, _, rfl⟩ := destroyToplevel?_eq_some done
    refine .inl ⟨rfl, fun kind => ?_⟩
    cases kind with
    | toplevel => exact Arena.keys_erase_sublist ..
    | windowSurface => simp only [Connection.handles, Arena.keys_modify, List.Sublist.refl]
    | _ => exact .refl _

end Handles

/-- The number of handles by which the counter of a connection advanced. -/
def drawnUntil (old new : Connection) : Nat :=
  (new.nextIndex - old.nextIndex).toNat

/-- **Nothing lies ahead of the counter.** The connection drew `count` handles, its counter stands
there, and the handles of its objects are among those drawn, in the order of drawing. -/
structure Drawn (client : Connection) (count : Nat) : Prop where
  counter : client.nextIndex = UInt32.ofNat count
  ordered : ∀ kind, (client.handles kind).Pairwise fun first second => first.index < second.index
  own : ∀ kind, ∀ handle ∈ client.handles kind, handle.connection = client.id
  below : ∀ kind, ∀ handle ∈ client.handles kind, handle.index.toNat < count

section Drawn

variable {server : Server} {host : Host} {operation : Operation} {old new : Connection}
  {count : Nat}

/-- A counter stands where it was, plus the number of handles drawn. -/
theorem nextIndex_eq_add_drawnUntil (old new : Connection) :
    old.nextIndex + UInt32.ofNat (old.drawnUntil new) = new.nextIndex := by
  rw [drawnUntil, UInt32.ofNat_toNat, UInt32.add_comm, UInt32.sub_add_cancel]

/-- A counter that did not move counts nothing. -/
theorem DrewNone.drawnUntil_eq (drew : DrewNone old new) : old.drawnUntil new = 0 := by
  simp [drawnUntil, drew.1]

/-- Most operations draw no handles. -/
theorem Change.drewNone (change : Change server host operation old new)
    (drawless : operation.draws = false) : DrewNone old new := by
  rcases change.handles with drew | ⟨draws, _⟩
  · exact drew
  · cases drawless.symm.trans draws

/-- A counter that moved on by one counts one handle, also where it goes around. -/
theorem drawnUntil_of_advanced (advanced : new.nextIndex = old.nextIndex + 1) :
    old.drawnUntil new = 1 := by
  have difference : new.nextIndex - old.nextIndex = 1 := by
    rw [advanced, UInt32.add_comm, UInt32.add_sub_cancel]
  rw [drawnUntil, difference]
  rfl

/-- An operation draws at most one handle on a connection. -/
theorem Change.drawnUntil_le_one (change : Change server host operation old new) :
    old.drawnUntil new ≤ 1 := by
  rcases change.handles with drew | ⟨_, drew⟩
  · exact drew.drawnUntil_eq ▸ Nat.zero_le 1
  · exact Nat.le_of_eq (drawnUntil_of_advanced drew.1)

/-- A connection without objects has not drawn anything. -/
theorem Drawn.empty (id : ConnectionId) : Drawn { id } 0 where
  counter := rfl
  ordered kind := by cases kind <;> exact List.Pairwise.nil
  own kind handle listed := by cases kind <;> cases listed
  below kind handle listed := by cases kind <;> cases listed

/-- The objects of one kind have distinct handles. -/
theorem Drawn.nodup (drawn : old.Drawn count) (kind : ObjectKind) : (old.handles kind).Nodup :=
  (drawn.ordered kind).imp fun {first second} before same => by
    rw [same] at before
    exact UInt32.lt_irrefl _ before

/-- The index of the next handle is the number of handles drawn before. -/
theorem Drawn.index_fresh (drawn : old.Drawn count) (room : count < UInt32.size)
    (kind : ObjectKind) : (old.fresh kind).index.toNat = count := by
  rw [fresh, drawn.counter, UInt32.toNat_ofNat_of_lt' room]

/-- The handle drawn next names no object. -/
theorem Drawn.fresh_notMem (drawn : old.Drawn count) (room : count < UInt32.size)
    (kind : ObjectKind) : old.fresh kind ∉ old.handles kind := by
  intro listed
  have below := drawn.below kind _ listed
  rw [drawn.index_fresh room] at below
  exact Nat.lt_irrefl _ below

/-- Nothing lies ahead of the counter after an operation that draws nothing. -/
theorem Drawn.of_drewNone (drawn : old.Drawn count) (named : new.id = old.id)
    (drew : DrewNone old new) : new.Drawn count where
  counter := drew.1.trans drawn.counter
  ordered kind := (drawn.ordered kind).sublist (drew.2 kind)
  own kind handle listed := named ▸ drawn.own kind handle ((drew.2 kind).subset listed)
  below kind handle listed := drawn.below kind handle ((drew.2 kind).subset listed)

/-- Nothing lies ahead of the counter after an operation that draws a handle. -/
theorem Drawn.of_drewOne (drawn : old.Drawn count) (room : count < UInt32.size)
    (named : new.id = old.id) (drew : DrewOne old new) : new.Drawn (count + 1) where
  counter := by
    rw [drew.1, drawn.counter, UInt32.ofNat_add]
    rfl
  ordered kind := by
    refine List.Pairwise.sublist (drew.sublist kind) (List.pairwise_append.mpr
      ⟨drawn.ordered kind, List.pairwise_singleton .., fun handle listed other last => ?_⟩)
    rw [List.mem_singleton.mp last, UInt32.lt_iff_toNat_lt, drawn.index_fresh room]
    exact drawn.below kind handle listed
  own kind handle listed := by
    rcases drew.mem_handles listed with earlier | rfl
    · exact named ▸ drawn.own kind handle earlier
    · exact named.symm
  below kind handle listed := by
    rcases drew.mem_handles listed with earlier | rfl
    · exact Nat.lt_succ_of_lt (drawn.below kind handle earlier)
    · rw [drawn.index_fresh room]
      exact Nat.lt_succ_self count

/-- An operation keeps the handles behind the counter until the counter has gone around. -/
theorem Change.drawn (change : Change server host operation old new) (drawn : old.Drawn count)
    (room : count + old.drawnUntil new ≤ UInt32.size) : new.Drawn (count + old.drawnUntil new) := by
  rcases change.handles with drew | ⟨_, drew⟩
  · rw [drew.drawnUntil_eq]
    exact drawn.of_drewNone change.id_eq drew
  · rw [drawnUntil_of_advanced drew.1] at room ⊢
    exact drawn.of_drewOne room change.id_eq drew

/-- A handle that becomes live is the one drawn. -/
theorem Change.eq_fresh_of_notMem (change : Change server host operation old new)
    {kind : ObjectKind} {handle : Handle kind} (live : handle ∈ new.handles kind)
    (absent : handle ∉ old.handles kind) : DrewOne old new ∧ handle = old.fresh kind := by
  rcases change.handles with drew | ⟨_, drew⟩
  · exact (absent ((drew.2 kind).subset live)).elim
  · exact ⟨drew, (drew.mem_handles live).resolve_left absent⟩

end Drawn

end Connection

end DisplayServer
