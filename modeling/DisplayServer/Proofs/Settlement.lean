import DisplayServer.Proofs.Handles

/-! # What an operation does to the claims on buffers

The claims of a surface are the buffer it shows and its attachment (`Surface.claims`). Seen from the
claims and the buffers, few operations do anything at all: `Connection.Settlement` lists what they
do, and `Connection.Change.settlement` says that they do nothing else.
-/

namespace DisplayServer

/-- The claims of a surface on buffers. -/
structure Surface.Claims where
  /-- The buffer that is shown. -/
  shown : Option BufferId := none
  /-- The attachment since the last commit. -/
  attachment : Option Attachment := none
deriving DecidableEq, Repr

namespace Surface

/-- What a surface claims. -/
def claims (surface : Surface) : Claims :=
  ⟨surface.current.buffer, surface.pending.attachment⟩

/-- Whether a buffer is shown. -/
def Claims.shows (claims : Claims) (id : BufferId) : Bool :=
  decide (claims.shown = some id)

/-- Whether a buffer is attached. -/
def Claims.awaits (claims : Claims) (id : BufferId) : Bool :=
  decide (claims.attachment = some (.buffer id))

/-- A claim on a buffer that is shown, as an equation. -/
theorem Claims.shows_iff {claims : Claims} {id : BufferId} :
    claims.shows id = true ↔ claims.shown = some id :=
  decide_eq_true_iff

/-- A claim on a buffer that is attached, as an equation. -/
theorem Claims.awaits_iff {claims : Claims} {id : BufferId} :
    claims.awaits id = true ↔ claims.attachment = some (.buffer id) :=
  decide_eq_true_iff

/-- A role makes no claims. -/
theorem claims_assumeRole {surface changed : Surface} {role : Role}
    (taken : surface.assumeRole role = .ok changed) : changed.claims = surface.claims := by
  unfold assumeRole at taken
  split at taken
  · cases taken
    rfl
  · split at taken
    · cases taken
      rfl
    · cases taken

private theorem Request.claims_eq {operation : Operation} {id : SurfaceId}
    {surface changed : Surface}
    (request : surface.Request operation id changed) : changed.claims = surface.claims := by
  cases request with
  | role taken => exact claims_assumeRole taken
  | _ => rfl

end Surface

namespace Connection

/-- The claims of each surface. -/
def claims (client : Connection) : Arena SurfaceId Surface.Claims :=
  client.surfaces.mapValues fun _ => Surface.claims

/-- Claims are kept under the handles of surfaces. -/
theorem keys_claims (client : Connection) : client.claims.keys = client.surfaces.keys :=
  Arena.keys_mapValues ..

/-- The claims of a surface are looked up like the surface. -/
theorem get?_claims (client : Connection) (id : SurfaceId) :
    client.claims.get? id = (client.surfaces.get? id).map Surface.claims :=
  Arena.get?_mapValues ..

/-- **What becomes of the claims and the buffers.** -/
inductive Settlement (old new : Connection) : Operation → Prop where
  /-- No claim changes. Buffers may disappear. -/
  | quiet {operation : Operation} (claims : new.claims = old.claims)
      (buffers : ∀ id buffer, new.buffers.get? id = some buffer →
        old.buffers.get? id = some buffer) :
      Settlement old new operation
  | bufferCreated {pool : PoolId} {geometry : BufferGeometry} (claims : new.claims = old.claims)
      (buffers : new.buffers = old.buffers.insert (old.fresh .buffer) { pool, geometry })
      (advanced : new.nextIndex = old.nextIndex + 1) :
      Settlement old new (.createBuffer pool geometry)
  | surfaceCreated {connection : ConnectionId} {version : UInt32}
      (claims : new.claims = old.claims.insert (old.fresh .surface) {})
      (buffers : new.buffers = old.buffers) (advanced : new.nextIndex = old.nextIndex + 1) :
      Settlement old new (.createSurface connection version)
  | attached {id : SurfaceId} {attachment : Attachment} {offset : Point} {surface : Surface}
      (found : old.surfaces.get? id = some surface)
      (allowed : old.mayAttach id attachment = true)
      (claims : new.claims = old.claims.modify id fun claims => ⟨claims.shown, some attachment⟩)
      (buffers : new.buffers =
        ((old.withdraw surface.pending.attachment).claim attachment).buffers) :
      Settlement old new (.attach id attachment offset)
  | committed {id : SurfaceId} {surface : Surface} (found : old.surfaces.get? id = some surface)
      (claims : new.claims = old.claims.modify id fun _ => ⟨(old.nextContent surface).buffer, none⟩)
      (buffers : ∀ buffer, new.buffers.get? buffer =
        (old.buffers.get? buffer).map (old.settle surface buffer)) :
      Settlement old new (.commit id)
  | destroyed {id : SurfaceId} {surface : Surface} (found : old.surfaces.get? id = some surface)
      (claims : new.claims = old.claims.erase id)
      (buffers : ∀ buffer, new.buffers.get? buffer =
        (old.buffers.get? buffer).map (abandon surface buffer)) :
      Settlement old new (.destroySurface id)

section Settlement

variable {server : Server} {host : Host} {operation : Operation} {old new : Connection}

/-- Nothing happens to claims and buffers if both arenas stay. -/
theorem Settlement.of_eq (claims : new.claims = old.claims) (buffers : new.buffers = old.buffers) :
    Settlement old new operation :=
  .quiet claims fun _ _ found => buffers ▸ found

/-- A change that no claim notices. -/
theorem claims_modify (client : Connection) (id : SurfaceId) {change : Surface → Surface}
    (unnoticed : ∀ surface, (change surface).claims = surface.claims) :
    ((client.surfaces.modify id change).mapValues fun _ => Surface.claims) = client.claims := by
  rw [Arena.mapValues_modify client.surfaces id change (fun claims => claims) unnoticed]
  exact Arena.modify_id ..

/-- A new surface record with the claims of the old one. -/
theorem claims_replace {client : Connection} (distinct : client.surfaces.keys.Nodup)
    {id : SurfaceId} {surface changed : Surface} (found : client.surfaces.get? id = some surface)
    (same : changed.claims = surface.claims) :
    (client.modifySurface id fun _ => changed).claims = client.claims := by
  have held : client.claims.get? id = some surface.claims := by rw [get?_claims, found]; rfl
  have distinctClaims : client.claims.keys.Nodup := client.keys_claims ▸ distinct
  refine Eq.trans
    (Arena.mapValues_modify client.surfaces id _ (fun _ => changed.claims) fun _ => rfl) ?_
  refine Arena.modify_eq_self distinctClaims fun kept found => ?_
  rw [same, ← Option.some.inj (held.symm.trans found)]

/-- A commit replaces the claims of its surface: nothing is attached any more. -/
theorem claims_commit (distinct : old.surfaces.keys.Nodup) {id : SurfaceId} {surface : Surface}
    {commit : Commit} (found : old.surfaces.get? id = some surface)
    (done : old.commit? id = some commit) :
    commit.client.claims =
      old.claims.modify id fun _ => ⟨(old.nextContent surface).buffer, none⟩ := by
  obtain ⟨change, surfaces, promoted⟩ := surfaces_commit found done
  have same : old.surfaces.modify id change =
      old.surfaces.modify id fun _ => surface.promote (old.nextContent surface) :=
    Arena.modify_congr distinct found promoted
  simp only [claims, surfaces, same]
  exact Arena.mapValues_modify old.surfaces id _ _ fun _ => rfl

/-- A read that fails changes no claim and no buffer. -/
theorem ReadFailure.claims_eq {id : BufferId} (failure : old.ReadFailure id new) :
    new.claims = old.claims ∧ new.buffers = old.buffers := by
  rw [failure.frame]
  exact ⟨rfl, rfl⟩

/-- **An operation only does what `Connection.Settlement` lists.** -/
theorem Change.settlement (change : Change server host operation old new)
    (distinct : old.surfaces.keys.Nodup) : Settlement old new operation := by
  cases change with
  | same | takeEvents _ | unbind | createPool _ _ | resizePool _ _ _ | ackConfigure
  | setWindowGeometry _ _ | missConfigure _ | setTitle | setAppId => exact .of_eq rfl rfl
  | @bind _ _ _ _ capability _ =>
    cases kind : capability.kind <;> exact .of_eq (by simp [claims, Connection.bind, draw, emit])
      (by simp [Connection.bind, draw, emit])
  | createBuffer _ _ => exact .bufferCreated rfl rfl rfl
  | @destroyPool _ id =>
    refine .quiet (by rw [destroyPool_frame]; rfl) fun buffer held found => ?_
    unfold Connection.destroyPool at found
    cases listed : old.pools.get? id with
    | none => simpa only [listed] using found
    | some pool =>
      simp only [listed, get?_buffers_foldl_destroyBuffer] at found
      split at found
      · cases found
      · exact found
  | destroyBuffer =>
    rw [destroyBuffer_eq]
    refine .quiet rfl fun buffer held found => ?_
    rw [Arena.get?_erase] at found
    split at found
    · cases found
    · exact found
  | failRead _ failure => exact .of_eq failure.claims_eq.1 failure.claims_eq.2
  | createSurface => exact .surfaceCreated (Arena.mapValues_insert ..) rfl rfl
  | @attach _ id attachment offset surface found allowed _ =>
    refine .attached found allowed ?_ rfl
    simp only [claims, modifySurface]
    rw [claim_frame, withdraw_frame]
    exact Arena.mapValues_modify old.surfaces id _ _ fun _ => rfl
  | request found request => exact .of_eq (claims_replace distinct found request.claims_eq) rfl
  | @frame _ id =>
    simp only [addCallback, draw]
    cases found : old.surfaces.get? id with
    | none => exact .of_eq rfl rfl
    | some surface => exact .of_eq (claims_modify old id fun _ => rfl) rfl
  | commit done =>
    obtain ⟨surface, found⟩ := surface_of_commit? done
    exact .committed found (claims_commit distinct found done) (get?_buffers_commit found done)
  | commitUnread done _ failure =>
    obtain ⟨surface, found⟩ := surface_of_commit? done
    exact .committed found (failure.claims_eq.1.trans (claims_commit distinct found done))
      (failure.claims_eq.2 ▸ get?_buffers_commit found done)
  | present done =>
    obtain ⟨_, _, rfl⟩ := present?_eq_some done
    exact .of_eq (claims_modify old _ fun _ => rfl) rfl
  | presentAll =>
    refine .of_eq ?_ rfl
    simp only [claims, Connection.presentAll, Arena.mapValues, List.map_map]
    refine congrArg Arena.mk (List.map_congr_left fun entry _ => ?_)
    simp only [Function.comp_apply]
    split <;> rfl
  | destroySurface done =>
    obtain ⟨surface, found⟩ := surface_of_destroySurface? done
    refine .destroyed found ?_ (get?_buffers_destroySurface found done)
    rw [destroySurface?_eq found done]
    exact Arena.mapValues_erase ..
  | getWindowSurface done =>
    obtain ⟨surface, changed, found, taken, ⟨_, _, rfl⟩ | ⟨_, rfl⟩⟩ := getWindowSurface_eq_ok done
    · exact .of_eq (claims_replace distinct found (Surface.claims_assumeRole taken)) rfl
    · refine .of_eq ?_ rfl
      refine Eq.trans ?_ (claims_replace distinct found (Surface.claims_assumeRole taken))
      exact claims_modify (old.modifySurface _ fun _ => changed) _ fun _ => rfl
  | getToplevel done =>
    obtain ⟨_, _, _, _, rfl⟩ := getToplevel_eq_ok done
    exact .of_eq rfl rfl
  | sendConfigure done =>
    obtain ⟨_, _, _, _, _, rfl⟩ := configure_eq_ok done
    exact .of_eq rfl rfl
  | destroyWindowSurface done =>
    obtain ⟨window, _, rfl⟩ := destroyWindowSurface?_eq_some done
    refine .of_eq (claims_modify old _ fun surface => ?_) rfl
    split <;> rfl
  | destroyToplevel done =>
    obtain ⟨_, _, rfl⟩ := destroyToplevel?_eq_some done
    exact .of_eq rfl rfl

end Settlement

end Connection

end DisplayServer
