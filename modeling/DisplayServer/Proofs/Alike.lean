import DisplayServer.Proofs.Change
import DisplayServer.Proofs.Core

/-! # Servers that are alike

A read that fails queues an event and may replace memory by zeros. Both are seen by nobody but the
client that takes the events and by those who read that memory: no request looks at them. Two
servers that differ in nothing else, and in what they publish, are alike (`Server.Alike`), and stay
alike when the same is done to both (`Server.Alike.next`), whether or not either of them reads the
buffers that it publishes.
-/

namespace DisplayServer

/-- The pool over the memory as it was mapped. -/
def Pool.mapped (pool : Pool) : Pool :=
  { pool with mapping := { pool.mapping with isNullified := false } }

/-- To list a buffer does not touch the memory of a pool. -/
theorem Pool.mapped_enlist (id : BufferId) (pool : Pool) :
    (pool.enlist id).mapped = pool.mapped.enlist id := by
  unfold Pool.enlist
  change _ = if id ∈ pool.buffers then _ else _
  split <;> rfl

namespace Connection

/-- The connections differ at most in their events, and in memory that was replaced by zeros. -/
def Alike (client other : Connection) : Prop :=
  ∃ pools events, other = { client with pools, events } ∧
    ∀ id, (pools.get? id).map Pool.mapped = (client.pools.get? id).map Pool.mapped

/-- Attempts that come out the same on connections that are alike. -/
inductive AlikeAttempts {α ε : Type} :
    Except ε (α × Connection) → Except ε (α × Connection) → Prop where
  | refused (cause : ε) : AlikeAttempts (.error cause) (.error cause)
  | done {client other : Connection} (answer : α) (alike : client.Alike other) :
      AlikeAttempts (.ok (answer, client)) (.ok (answer, other))

/-- Attempts that work out alike are alike. -/
theorem AlikeAttempts.of_fst {α ε : Type} {result result' : α × Connection}
    (answer : result.1 = result'.1) (alike : result.2.Alike result'.2) :
    AlikeAttempts (.ok result : Except ε (α × Connection)) (.ok result') := by
  obtain ⟨_, _⟩ := result
  obtain ⟨_, _⟩ := result'
  cases answer
  exact .done _ alike

section Alike

variable {client other : Connection}

private theorem Alike.refl (client : Connection) : client.Alike client :=
  ⟨client.pools, client.events, rfl, fun _ => rfl⟩

private theorem Alike.symm (alike : client.Alike other) : other.Alike client := by
  obtain ⟨pools, events, rfl, same⟩ := alike
  exact ⟨client.pools, client.events, rfl, fun id => (same id).symm⟩

private theorem Alike.trans {third : Connection} (first : client.Alike other)
    (second : other.Alike third) : client.Alike third := by
  obtain ⟨_, _, rfl, same⟩ := first
  obtain ⟨pools, events, rfl, later⟩ := second
  exact ⟨pools, events, rfl, fun id => (later id).trans (same id)⟩

private theorem Alike.id_eq (alike : client.Alike other) : other.id = client.id := by
  obtain ⟨_, _, rfl, _⟩ := alike
  rfl

/-- Changes that neither look at memory and events nor touch them. -/
theorem Alike.of_commutes (alike : client.Alike other) (change : Connection → Connection)
    (pools : (change client).pools = client.pools)
    (commutes : ∀ pools events, change { client with pools, events } =
      { change client with pools, events }) : (change client).Alike (change other) := by
  obtain ⟨mapped, events, rfl, same⟩ := alike
  exact ⟨mapped, events, commutes mapped events, pools ▸ same⟩

private theorem Alike.events (alike : client.Alike other) (first second : List Event) :
    Alike { client with events := first } { other with events := second } := by
  obtain ⟨pools, _, rfl, same⟩ := alike
  exact ⟨pools, second, rfl, same⟩

private theorem Alike.emit (alike : client.Alike other) (first second : List Event) :
    (client.emit first).Alike (other.emit second) :=
  alike.events _ _

/-- Connections that are alike have the same surfaces. -/
theorem Alike.surfaces (alike : client.Alike other) : other.surfaces = client.surfaces := by
  obtain ⟨_, _, rfl, _⟩ := alike
  rfl

/-- Connections that are alike have the same buffers. -/
theorem Alike.buffers (alike : client.Alike other) : other.buffers = client.buffers := by
  obtain ⟨_, _, rfl, _⟩ := alike
  rfl

private theorem Alike.windows (alike : client.Alike other) :
    other.windowSurfaces = client.windowSurfaces := by
  obtain ⟨_, _, rfl, _⟩ := alike
  rfl

private theorem Alike.toplevels (alike : client.Alike other) :
    other.toplevels = client.toplevels := by
  obtain ⟨_, _, rfl, _⟩ := alike
  rfl

/-- Connections that are alike draw the same handle. -/
theorem Alike.draw (alike : client.Alike other) (kind : ObjectKind) :
    (other.draw kind).1 = (client.draw kind).1 ∧
      (client.draw kind).2.Alike (other.draw kind).2 := by
  obtain ⟨pools, events, rfl, same⟩ := alike
  exact ⟨rfl, pools, events, rfl, same⟩

/-- A pool is there on both sides, over the same memory as it was mapped, or on neither. -/
theorem Alike.pool (alike : client.Alike other) (id : PoolId) :
    (client.pools.get? id = none ∧ other.pools.get? id = none) ∨
      ∃ pool pool', client.pools.get? id = some pool ∧ other.pools.get? id = some pool' ∧
        pool'.mapped = pool.mapped := by
  obtain ⟨pools, events, rfl, same⟩ := alike
  have here := same id
  change (_ ∧ pools.get? id = none) ∨ ∃ pool pool', _ ∧ pools.get? id = some pool' ∧ _
  cases found : client.pools.get? id with
  | none =>
    rw [found] at here
    exact .inl ⟨rfl, Option.map_eq_none_iff.mp here⟩
  | some pool =>
    rw [found] at here
    obtain ⟨pool', found', mapped⟩ := Option.map_eq_some_iff.mp here
    exact .inr ⟨pool, pool', rfl, found', mapped⟩

/-- A change of a pool that its mapping shows. -/
theorem Alike.modifyPools (alike : client.Alike other) (key : PoolId) {change : Pool → Pool}
    (view : Pool → Pool) (along : ∀ pool, (change pool).mapped = view pool.mapped) :
    Alike { client with pools := client.pools.modify key change }
      { other with pools := other.pools.modify key change } := by
  obtain ⟨pools, events, rfl, same⟩ := alike
  refine ⟨pools.modify key change, events, rfl, fun id => ?_⟩
  change ((pools.modify key change).get? id).map Pool.mapped =
    ((client.pools.modify key change).get? id).map Pool.mapped
  have changed : Pool.mapped ∘ change = view ∘ Pool.mapped := funext along
  rw [Arena.get?_modify, Arena.get?_modify]
  split
  · rw [Option.map_map, Option.map_map, changed, ← Option.map_map, ← Option.map_map, same]
  · exact same id

/-- A read that fails leaves nothing else behind. -/
theorem ReadFailure.alike {id : BufferId} {failed : Connection}
    (failure : client.ReadFailure id failed) : client.Alike failed := by
  cases failure with
  | refused => exact (Alike.refl client).events client.events _
  | @faulted buffer mapping found =>
    refine ⟨_, _, rfl, fun id => ?_⟩
    simp only [memoryOf?, Option.bind_eq_bind, Option.bind_eq_some_iff] at found
    obtain ⟨_, _, pool, held, same⟩ := found
    cases same
    change ((client.pools.modify buffer.pool _).get? id).map Pool.mapped = _
    rw [Arena.get?_modify]
    split
    · rename_i here
      rw [here, held]
      rfl
    · rfl

section Pools

private theorem Alike.addPool (alike : client.Alike other) (mapping : Mapping) :
    (client.addPool mapping).1 = (other.addPool mapping).1 ∧
      (client.addPool mapping).2.Alike (other.addPool mapping).2 := by
  obtain ⟨pools, events, rfl, same⟩ := alike
  let key := (client.draw .pool).1
  refine ⟨rfl, pools.insert key { mapping }, events, rfl, fun id => ?_⟩
  change ((pools.insert key { mapping }).get? id).map Pool.mapped =
    ((client.pools.insert key { mapping }).get? id).map Pool.mapped
  rw [Arena.get?_insert, Arena.get?_insert]
  split
  · rfl
  · exact same id

private theorem Alike.setMapping (alike : client.Alike other) (id : PoolId) (mapping : Mapping) :
    (client.setMapping id mapping).Alike (other.setMapping id mapping) :=
  alike.modifyPools id (fun pool => Pool.mapped { pool with mapping }) fun _ => rfl

private theorem Alike.addBuffer (alike : client.Alike other) (pool : PoolId)
    (geometry : BufferGeometry) :
    (client.addBuffer pool geometry).1 = (other.addBuffer pool geometry).1 ∧
      (client.addBuffer pool geometry).2.Alike (other.addBuffer pool geometry).2 := by
  let key := (client.draw .buffer).1
  let added (client : Connection) : Connection :=
    { (client.draw .buffer).2 with buffers := client.buffers.insert key { pool, geometry } }
  have inserted : (added client).Alike (added other) := alike.of_commutes added rfl fun _ _ => rfl
  have listed := inserted.modifyPools pool (fun owner => owner.enlist key) (Pool.mapped_enlist key)
  obtain ⟨_, _, rfl, _⟩ := alike
  exact ⟨rfl, listed⟩

private theorem Alike.destroyBuffer (alike : client.Alike other) (id : BufferId) :
    (client.destroyBuffer id).Alike (other.destroyBuffer id) := by
  have same : other.buffers.get? id = client.buffers.get? id := by rw [alike.buffers]
  unfold Connection.destroyBuffer
  rw [same]
  cases client.buffers.get? id with
  | none => exact alike
  | some buffer =>
    let erased (client : Connection) : Connection :=
      { client with buffers := client.buffers.erase id }
    have gone : (erased client).Alike (erased other) :=
      alike.of_commutes erased rfl fun _ _ => rfl
    exact gone.modifyPools buffer.pool (fun owner => owner.strike id) fun _ => rfl

private theorem Alike.destroyBuffers (alike : client.Alike other) (ids : List BufferId) :
    (ids.foldl Connection.destroyBuffer client).Alike
      (ids.foldl Connection.destroyBuffer other) := by
  induction ids generalizing client other with
  | nil => exact alike
  | cons first rest ih => exact ih (alike.destroyBuffer first)

private theorem Alike.destroyPool (alike : client.Alike other) (id : PoolId) :
    (client.destroyPool id).Alike (other.destroyPool id) := by
  unfold Connection.destroyPool
  rcases alike.pool id with ⟨gone, gone'⟩ | ⟨pool, pool', found, found', mapped⟩
  · rw [gone, gone']
    exact alike
  · have listed : pool'.buffers = pool.buffers := (congrArg Pool.buffers mapped :)
    rw [found, found']
    simp only [listed]
    obtain ⟨pools, events, left, same⟩ := alike.destroyBuffers pool.buffers
    refine ⟨pools.erase id, events, ?_, fun other => ?_⟩
    · rw [left]
    · change ((pools.erase id).get? other).map Pool.mapped = ((Arena.erase _ id).get? other).map _
      rw [Arena.get?_erase, Arena.get?_erase]
      split
      · rfl
      · exact same other

/-- A live buffer has its geometry, and its memory is mapped from its file. -/
theorem Alike.memoryOf? (alike : client.Alike other) (id : BufferId) :
    (other.memoryOf? id).map (fun memory => (memory.1, memory.2.file)) =
      (client.memoryOf? id).map fun memory => (memory.1, memory.2.file) := by
  unfold Connection.memoryOf?
  rw [alike.buffers]
  cases client.buffers.get? id with
  | none => rfl
  | some buffer =>
    simp only [Option.bind_eq_bind, Option.bind_some]
    rcases alike.pool buffer.pool with ⟨gone, gone'⟩ | ⟨pool, pool', found, found', mapped⟩
    · rw [gone, gone']
    · have file : pool'.mapping.file = pool.mapping.file :=
        (congrArg (fun pool => pool.mapping.file) mapped :)
      rw [found, found']
      exact congrArg (fun file => some (buffer, file)) file

end Pools

section Surfaces

private theorem Alike.modifySurface (alike : client.Alike other) (id : SurfaceId)
    (change : Surface → Surface) :
    (client.modifySurface id change).Alike (other.modifySurface id change) :=
  alike.of_commutes (fun client => client.modifySurface id change) rfl fun _ _ => rfl

private theorem Alike.modifyBuffer (alike : client.Alike other) (id : BufferId)
    (change : Buffer → Buffer) :
    (client.modifyBuffer id change).Alike (other.modifyBuffer id change) :=
  alike.of_commutes (fun client => client.modifyBuffer id change) rfl fun _ _ => rfl

private theorem Alike.withdraw (alike : client.Alike other) (attachment : Option Attachment) :
    (client.withdraw attachment).Alike (other.withdraw attachment) := by
  cases attachment with
  | none => exact alike
  | some attachment =>
    cases attachment with
    | removed => exact alike
    | buffer id => exact alike.modifyBuffer id Buffer.dropPending

private theorem Alike.claim (alike : client.Alike other) (attachment : Attachment) :
    (client.claim attachment).Alike (other.claim attachment) := by
  cases attachment with
  | removed => exact alike
  | buffer id => exact alike.modifyBuffer id Buffer.addPending

private theorem Alike.retire (alike : client.Alike other) (old : Option BufferId) :
    (client.retire old).Alike (other.retire old) := by
  cases old with
  | none => exact alike
  | some id =>
    simp only [Connection.retire, alike.buffers]
    cases client.buffers.get? id with
    | none => exact alike
    | some buffer =>
      simp only
      split
      · exact Alike.emit (alike.modifyBuffer id _) _ _
      · exact alike.modifyBuffer id _

private theorem Alike.adopt (alike : client.Alike other) (new : Option BufferId) :
    (client.adopt new).Alike (other.adopt new) := by
  cases new with
  | none => exact alike
  | some id => exact alike.modifyBuffer id Buffer.addCurrent

/-- To make an attachment current takes the same course on both. -/
theorem Alike.commitAttachment (alike : client.Alike other) (id : SurfaceId) (surface : Surface)
    (attachment : Attachment) :
    (client.commitAttachment id surface attachment).client.Alike
        (other.commitAttachment id surface attachment).client ∧
      (client.commitAttachment id surface attachment).published =
        (other.commitAttachment id surface attachment).published := by
  have resolved : other.resolve attachment = client.resolve attachment := by
    obtain ⟨_, _, rfl, _⟩ := alike
    cases attachment <;> rfl
  have dimensions : other.dimensionsOf (client.resolve attachment) =
      client.dimensionsOf (client.resolve attachment) := by
    obtain ⟨_, _, rfl, _⟩ := alike
    rfl
  simp only [Connection.commitAttachment, resolved, dimensions, and_true]
  apply Alike.modifySurface
  split
  · exact alike.withdraw _
  · exact ((alike.withdraw _).retire _).adopt _

/-- A commit succeeds on both or on neither, and publishes the same. -/
theorem Alike.commit? (alike : client.Alike other) (id : SurfaceId) :
    Option.Rel (fun commit commit' => commit.client.Alike commit'.client ∧
      commit.published = commit'.published) (client.commit? id) (other.commit? id) := by
  unfold Connection.commit?
  rw [alike.surfaces]
  cases client.surfaces.get? id with
  | none => exact .none
  | some surface =>
    simp only [Option.map_some]
    refine .some ?_
    cases surface.pending.attachment with
    | none => exact ⟨alike.modifySurface id _, rfl⟩
    | some attachment => exact alike.commitAttachment id surface attachment

/-- A presentation succeeds on both or on neither. -/
theorem Alike.present? (alike : client.Alike other) (id : SurfaceId) (time : UInt32) :
    Option.Rel Connection.Alike (client.present? id time) (other.present? id time) := by
  unfold Connection.present?
  rw [alike.surfaces]
  cases client.surfaces.get? id with
  | none => exact .none
  | some surface => exact .some (Alike.emit (alike.modifySurface id _) _ _)

private theorem Alike.removeWindow (alike : client.Alike other) (id : WindowSurfaceId) :
    (client.removeWindow id).Alike (other.removeWindow id) := by
  refine alike.of_commutes (fun client => client.removeWindow id) ?_ fun pools events => ?_
  · simp only [Connection.removeWindow]
    split <;> rfl
  · simp only [Connection.removeWindow]
    split <;> rfl

/-- A surface is destroyed on both or on neither. -/
theorem Alike.destroySurface? (alike : client.Alike other) (id : SurfaceId) :
    Option.Rel (fun left left' => left.2.Alike left'.2) (client.destroySurface? id)
      (other.destroySurface? id) := by
  have same : other.surfaces.get? id = client.surfaces.get? id := by rw [alike.surfaces]
  unfold Connection.destroySurface?
  rw [same]
  cases client.surfaces.get? id with
  | none => exact .none
  | some surface =>
    let erased (client : Connection) : Connection :=
      { client with surfaces := client.surfaces.erase id }
    have gone : (erased client).Alike (erased other) :=
      alike.of_commutes erased rfl fun _ _ => rfl
    have withdrawn := gone.withdraw surface.pending.attachment
    simp only [Option.map_some]
    refine .some ?_
    cases surface.current.buffer with
    | none =>
      cases surface.windowSurface with
      | none => exact withdrawn
      | some window => exact withdrawn.removeWindow window
    | some buffer =>
      have dropped := withdrawn.modifyBuffer buffer Buffer.dropCurrent
      cases surface.windowSurface with
      | none => exact dropped
      | some window => exact dropped.removeWindow window

/-- A request to a surface fails on both for the same cause, or on neither. -/
theorem Alike.request (alike : client.Alike other) (id : SurfaceId)
    (change : Surface → Except SurfaceError Surface) :
    AlikeAttempts (do return ((), ← client.request id change))
      (do return ((), ← other.request id change)) := by
  simp only [Connection.request, alike.surfaces]
  cases client.surfaces.get? id with
  | none => exact .refused _
  | some surface =>
    simp only
    cases change surface with
    | error cause => exact .refused cause
    | ok changed => exact .done () (alike.modifySurface id fun _ => changed)

/-- To attach a buffer fails on both for the same cause, or on neither. -/
theorem Alike.attach (alike : client.Alike other) (id : SurfaceId) (attachment : Attachment)
    (offset : Point) :
    AlikeAttempts (do return ((), ← client.attach id attachment offset))
      (do return ((), ← other.attach id attachment offset)) := by
  have may : other.mayAttach id attachment = client.mayAttach id attachment := by
    obtain ⟨_, _, rfl, _⟩ := alike
    rfl
  simp only [Connection.attach, alike.surfaces, may]
  cases client.surfaces.get? id with
  | none => exact .refused _
  | some surface =>
    simp only
    split
    · exact .refused _
    · split
      · exact .refused _
      · exact .done () (((alike.withdraw _).claim _).modifySurface id _)

private theorem Alike.addCallback (alike : client.Alike other) (id : SurfaceId) :
    (client.addCallback id).2.Alike (other.addCallback id).2 := by
  obtain ⟨handle, drew⟩ := alike.draw .callback
  simp only [Connection.addCallback, drew.surfaces, handle]
  cases (client.draw .callback).2.surfaces.get? id with
  | none => exact drew
  | some _ => exact drew.modifySurface id _

end Surfaces

section Windows

/-- A window surface is granted on both or on neither. -/
theorem Alike.getWindowSurface (alike : client.Alike other) (id : SurfaceId) :
    Option.Rel (fun grant grant' => grant.client.Alike grant'.client)
      (client.getWindowSurface id).toOption (other.getWindowSurface id).toOption := by
  simp only [Connection.getWindowSurface, alike.surfaces]
  cases client.surfaces.get? id with
  | none => exact .none
  | some surface =>
    simp only
    cases surface.assumeRole .window with
    | error cause => cases cause <;> exact .none
    | ok surface =>
      have changed := alike.modifySurface id fun _ => surface
      have found : (other.modifySurface id fun _ => surface).windowSurfaceOf? id =
          (client.modifySurface id fun _ => surface).windowSurfaceOf? id := by
        obtain ⟨_, _, rfl, _⟩ := alike
        rfl
      simp only [found]
      cases (client.modifySurface id fun _ => surface).windowSurfaceOf? id with
      | some window => exact .some changed
      | none =>
        let granted (client : Connection) : Connection :=
          let window := (client.draw .windowSurface).1
          let client := (client.draw .windowSurface).2.modifySurface id fun surface =>
            { surface with windowSurface := some window }
          { client with windowSurfaces := client.windowSurfaces.insert window { surface := id } }
        exact .some (changed.of_commutes granted rfl fun _ _ => rfl)

/-- A configure is sent on both with the same serial, or on neither. -/
theorem Alike.configure (alike : client.Alike other) (id : ToplevelId) (size : Size) :
    AlikeAttempts (client.configure id size) (other.configure id size) := by
  simp only [Connection.configure, alike.toplevels, alike.windows]
  cases client.toplevels.get? id with
  | none => exact .refused _
  | some toplevel =>
    simp only
    cases client.windowSurfaces.get? toplevel.windowSurface with
    | none => exact .refused _
    | some window =>
      let configured (client : Connection) : Connection :=
        (client.modifyToplevel id fun toplevel => { toplevel with size }).modifyWindow
          toplevel.windowSurface fun _ => window.configure.2
      have changed : (configured client).Alike (configured other) :=
        alike.of_commutes configured rfl fun _ _ => rfl
      exact .done _ (changed.emit _ _)

/-- A toplevel is given on both under the same handle, or on neither. -/
theorem Alike.getToplevel (alike : client.Alike other) (id : WindowSurfaceId) (size : Size) :
    AlikeAttempts (client.getToplevel id size) (other.getToplevel id size) := by
  simp only [Connection.getToplevel, alike.windows]
  cases client.windowSurfaces.get? id with
  | none => exact .refused _
  | some window =>
    simp only
    split
    · exact .refused _
    · let key := (client.draw .toplevel).1
      let made (client : Connection) : Connection :=
        let record : Toplevel := { windowSurface := id, surface := window.surface, size }
        let client := (client.draw .toplevel).2
        let client := { client with toplevels := client.toplevels.insert key record }
        client.modifyWindow id fun window => { window with toplevel := some key }
      have changed : (made client).Alike (made other) := alike.of_commutes made rfl fun _ _ => rfl
      have configured := changed.configure key size
      rw [(alike.draw .toplevel).1]
      change AlikeAttempts (do let answered ← (made client).configure key size; return (key, answered.2))
        (do let answered ← (made other).configure key size; return (key, answered.2))
      generalize (made client).configure key size = attempt at configured ⊢
      generalize (made other).configure key size = attempt' at configured ⊢
      cases configured with
      | refused cause => exact .refused cause
      | done serial alike => exact .done key alike

private theorem Alike.modifyWindow (alike : client.Alike other) (id : WindowSurfaceId)
    (change : WindowSurface → WindowSurface) :
    (client.modifyWindow id change).Alike (other.modifyWindow id change) :=
  alike.of_commutes (fun client => client.modifyWindow id change) rfl fun _ _ => rfl

private theorem Alike.modifyToplevel (alike : client.Alike other) (id : ToplevelId)
    (change : Toplevel → Toplevel) :
    (client.modifyToplevel id change).Alike (other.modifyToplevel id change) :=
  alike.of_commutes (fun client => client.modifyToplevel id change) rfl fun _ _ => rfl

private theorem Alike.destroyWindowSurface? (alike : client.Alike other) (id : WindowSurfaceId) :
    Option.Rel Connection.Alike (client.destroyWindowSurface? id)
      (other.destroyWindowSurface? id) := by
  unfold Connection.destroyWindowSurface?
  rw [alike.windows]
  cases client.windowSurfaces.get? id with
  | none => exact .none
  | some window => exact .some ((alike.removeWindow id).modifySurface _ _)

private theorem Alike.destroyToplevel? (alike : client.Alike other) (id : ToplevelId) :
    Option.Rel Connection.Alike (client.destroyToplevel? id) (other.destroyToplevel? id) := by
  have same : other.toplevels.get? id = client.toplevels.get? id := by rw [alike.toplevels]
  unfold Connection.destroyToplevel?
  rw [same]
  cases client.toplevels.get? id with
  | none => exact .none
  | some toplevel =>
    let erased (client : Connection) : Connection :=
      { client with toplevels := client.toplevels.erase id }
    have gone : (erased client).Alike (erased other) := alike.of_commutes erased rfl fun _ _ => rfl
    simp only [Option.map_some]
    exact .some (gone.modifyWindow _ _)

end Windows

private theorem Alike.addSurface (alike : client.Alike other) (version : UInt32) :
    (client.addSurface version).1 = (other.addSurface version).1 ∧
      (client.addSurface version).2.Alike (other.addSurface version).2 := by
  obtain ⟨pools, events, rfl, same⟩ := alike
  exact ⟨rfl, pools, events, rfl, same⟩

private theorem Alike.unbind (alike : client.Alike other) (id : BindingId) :
    (client.unbind id).Alike (other.unbind id) :=
  alike.of_commutes (fun client => client.unbind id) rfl fun _ _ => rfl

private theorem Alike.presentAll (alike : client.Alike other) (time : UInt32) :
    (client.presentAll time).Alike (other.presentAll time) := by
  obtain ⟨pools, events, rfl, same⟩ := alike
  exact ⟨pools, _, rfl, same⟩

/-- The same binding is made on both. -/
theorem Alike.bind (alike : client.Alike other) (kind : CapabilityKind) (version : UInt32)
    (formats : List PixelFormat) :
    (client.bind kind version formats).1 = (other.bind kind version formats).1 ∧
      (client.bind kind version formats).2.Alike (other.bind kind version formats).2 := by
  obtain ⟨pools, events, rfl, same⟩ := alike
  cases kind <;> exact ⟨rfl, pools, _, rfl, same⟩

end Alike

end Connection

namespace Server

/-- The servers differ at most in what they publish, in the events of the connections, and in memory
that was replaced by zeros. -/
structure Alike (server other : Server) : Prop where
  config : other.config = server.config
  formats : other.formats = server.formats
  counter : other.nextConnection = server.nextConnection
  connections : ∀ id, Option.Rel Connection.Alike (server.connection? id) (other.connection? id)

section Alike

variable {server other : Server}

/-- A server is like itself. -/
theorem Alike.refl (server : Server) : server.Alike server where
  config := rfl
  formats := rfl
  counter := rfl
  connections id := by
    cases server.connection? id with
    | none => exact .none
    | some client => exact .some (.refl client)

/-- Which of two servers that are alike comes first does not matter. -/
theorem Alike.symm (alike : server.Alike other) : other.Alike server where
  config := alike.config.symm
  formats := alike.formats.symm
  counter := alike.counter.symm
  connections id := by
    have before := alike.connections id
    generalize server.connection? id = client at before
    generalize other.connection? id = client' at before
    cases before with
    | none => exact .none
    | some same => exact .some same.symm

/-- What is like the same is alike. -/
theorem Alike.trans {third : Server} (first : server.Alike other) (second : other.Alike third) :
    server.Alike third where
  config := second.config.trans first.config
  formats := second.formats.trans first.formats
  counter := second.counter.trans first.counter
  connections id := by
    have before := first.connections id
    have after := second.connections id
    generalize server.connection? id = client at before
    generalize other.connection? id = client' at before after
    generalize third.connection? id = client'' at after
    cases before with
    | none => exact after
    | some same => cases after with
      | some later => exact .some (same.trans later)

/-- A connection is live on both sides, or on neither. -/
theorem Alike.connection (alike : server.Alike other) (id : ConnectionId) :
    (server.connection? id = none ∧ other.connection? id = none) ∨
      ∃ client client', server.connection? id = some client ∧
        other.connection? id = some client' ∧ client.Alike client' := by
  have here := alike.connections id
  generalize server.connection? id = client at here
  generalize other.connection? id = client' at here
  cases here with
  | none => exact .inl ⟨rfl, rfl⟩
  | some same => exact .inr ⟨_, _, rfl, rfl, same⟩

/-- Connections that are alike can be put back on servers that are. -/
theorem Alike.putBack {client client' : Connection} (alike : server.Alike other)
    (same : client.Alike client') : (server.putBack client).Alike (other.putBack client') where
  config := alike.config
  formats := alike.formats
  counter := alike.counter
  connections id := by
    rw [connection?_putBack, connection?_putBack, same.id_eq]
    split
    · rcases alike.connection id with ⟨gone, gone'⟩ | ⟨_, _, live, live', _⟩
      · rw [gone, gone']
        exact .none
      · rw [live, live']
        exact .some same
    · exact alike.connections id

/-- What is published makes no difference. -/
theorem Alike.withPublisher (alike : server.Alike other) (first second : Publisher) :
    (server.withPublisher first).Alike (other.withPublisher second) :=
  ⟨alike.config, alike.formats, alike.counter, alike.connections⟩

/-- A server stays like itself when a connection is replaced by one that is like it. -/
theorem alike_putBack (named : server.Named) {id : ConnectionId} {client new : Connection}
    (live : server.connection? id = some client) (same : client.Alike new) :
    server.Alike (server.putBack new) where
  config := rfl
  formats := rfl
  counter := rfl
  connections other := by
    rw [connection?_putBack, same.id_eq, named id client live]
    split
    · rename_i here
      rw [here, live]
      exact .some same
    · exact (Alike.refl server).connections other

/-- A read makes no difference. -/
theorem alike_withContents {α : Type} (named : server.Named) (host : Host) (id : BufferId)
    (reading : Reading) (read : BufferGeometry → Span → α) :
    server.Alike (server.withContents host id reading read).state := by
  rcases state_withContents server host id reading read with
    same | ⟨client, failed, live, failure, same⟩
  · rw [same]
    exact .refl server
  · rw [same]
    exact alike_putBack named live failure.alike

/-- A commit that reads what it publishes makes no other difference than one that does not. -/
theorem alike_commit (named : server.Named) (host : Host) {id : SurfaceId} {client : Connection}
    {commit : Connection.Commit} (live : server.connection? id.connection = some client)
    (done : client.commit? id = some commit) :
    (server.putBack commit.client).Alike (server.commit host id).state := by
  have effect : Effect server host (.commit id) (server.putBack commit.client) :=
    .putBack named live rfl (.commit done)
  rcases state_commit host live done with
    ⟨publisher, same⟩ | ⟨_, _, _, publisher, _, found, failure, same⟩
  · rw [same]
    exact Alike.withPublisher (.refl (server.putBack commit.client)) server.publisher publisher
  · rw [same]
    have read := alike_putBack (effect.named named) found failure.alike
    exact read.withPublisher server.publisher publisher

/-- Connections are live under their own names on both servers. -/
theorem Alike.named (alike : server.Alike other) (named : server.Named) : other.Named := by
  intro id client' live
  rcases alike.connection id with ⟨_, gone'⟩ | ⟨client, _, found, live', same⟩
  · cases live.symm.trans gone'
  · cases live.symm.trans live'
    rw [same.id_eq, named id client found]

/-- Work on a connection leaves the servers alike if it leaves connections alike. -/
theorem Alike.onConnection {α ε : Type} (alike : server.Alike other) (id : ConnectionId) (dead : ε)
    (log : List LogMessage) {work work' : Connection → Except ε (α × Connection)}
    (works : ∀ client client', client.Alike client' →
      Connection.AlikeAttempts (work client) (work' client')) :
    (Outcome.ofAttempt server log (server.onConnection id dead work)).state.Alike
      (Outcome.ofAttempt other log (other.onConnection id dead work')).state := by
  unfold Server.onConnection
  rcases alike.connection id with ⟨gone, gone'⟩ | ⟨client, client', live, live', same⟩
  · rw [gone, gone']
    exact alike
  · simp only [live, live']
    have attempts := works client client' same
    generalize work client = attempt at attempts
    generalize work' client' = attempt' at attempts
    cases attempts with
    | refused _ => exact alike
    | done _ same => exact alike.putBack same

private theorem Alike.mapValues (alike : server.Alike other) {change : Connection → Connection}
    (same : ∀ client client', client.Alike client' → (change client).Alike (change client')) :
    Server.Alike
      { server with connections := server.connections.mapValues fun _ client => change client }
      { other with connections := other.connections.mapValues fun _ client => change client } where
  config := alike.config
  formats := alike.formats
  counter := alike.counter
  connections id := by
    change Option.Rel _ ((server.connections.mapValues _).get? id)
      ((other.connections.mapValues _).get? id)
    rw [Arena.get?_mapValues, Arena.get?_mapValues]
    change Option.Rel _ ((server.connection? id).map _) ((other.connection? id).map _)
    rcases alike.connection id with ⟨gone, gone'⟩ | ⟨client, client', live, live', here⟩
    · rw [gone, gone']
      exact .none
    · rw [live, live']
      exact .some (same client client' here)

/-- Work on a surface leaves the servers alike. -/
theorem Alike.onSurface (alike : server.Alike other) (id : SurfaceId)
    (change : Surface → Except SurfaceError Surface) :
    (server.onSurface id change).state.Alike (other.onSurface id change).state :=
  alike.onConnection id.connection _ _ fun _ _ same => same.request id change

private theorem Alike.onToplevel (alike : server.Alike other) (id : ToplevelId)
    (change : Toplevel → Toplevel) :
    (server.onToplevel id change).state.Alike (other.onToplevel id change).state := by
  refine alike.onConnection id.connection _ _ fun client client' same => ?_
  rw [same.toplevels]
  cases client.toplevels.get? id with
  | none => exact .refused _
  | some _ => exact .done () (same.modifyToplevel id change)

section Connections

private theorem Alike.connect (alike : server.Alike other) :
    server.connect.state.Alike other.connect.state := by
  refine ⟨alike.config, alike.formats, ?_, fun id => ?_⟩
  · change other.nextConnection + 1 = server.nextConnection + 1
    rw [alike.counter]
  · change Option.Rel _ ((server.connections.insert _ _).get? id)
      ((other.connections.insert _ _).get? id)
    rw [alike.counter, Arena.get?_insert, Arena.get?_insert]
    split
    · exact .some (.refl _)
    · exact alike.connections id

private theorem Alike.disconnect (alike : server.Alike other) (gone : ConnectionId) :
    (server.disconnect gone).state.Alike (other.disconnect gone).state := by
  unfold Server.disconnect
  rcases alike.connection gone with ⟨dead, dead'⟩ | ⟨client, client', live, live', _⟩
  · simp only [dead, dead']
    exact alike
  · simp only [live, live']
    refine ⟨alike.config, alike.formats, alike.counter, fun id => ?_⟩
    change Option.Rel _ ((server.connections.erase gone).get? id)
      ((other.connections.erase gone).get? id)
    rw [Arena.get?_erase, Arena.get?_erase]
    split
    · exact .none
    · exact alike.connections id

private theorem Alike.takeEvents (alike : server.Alike other) (id : ConnectionId) :
    (server.takeEvents id).2.Alike (other.takeEvents id).2 := by
  unfold Server.takeEvents
  rcases alike.connection id with ⟨gone, gone'⟩ | ⟨client, client', live, live', same⟩
  · simp only [gone, gone']
    exact alike
  · simp only [live, live']
    exact alike.putBack (same.events [] [])

private theorem Alike.bind (alike : server.Alike other) (connection : ConnectionId) (name : String)
    (version : UInt32) :
    (server.bind connection name version).state.Alike
      (other.bind connection name version).state := by
  simp only [Server.bind, alike.formats]
  split
  · exact alike
  · split
    · exact alike
    · refine alike.onConnection connection _ _ fun client client' same => ?_
      obtain ⟨answer, bound⟩ := same.bind _ version server.formats
      exact .of_fst answer bound

private theorem Alike.unbind (alike : server.Alike other) (id : BindingId) :
    (server.unbind id).Alike (other.unbind id) := by
  unfold Server.unbind
  rcases alike.connection id.connection with ⟨gone, gone'⟩ | ⟨client, client', live, live', same⟩
  · simp only [gone, gone']
    exact alike
  · simp only [live, live']
    exact alike.putBack (same.unbind id)

end Connections

section Pools

/-- Whether a pool can be created does not depend on what is not alike. -/
theorem Alike.createPool (alike : server.Alike other) (host : Host) (connection : ConnectionId)
    (descriptor : Descriptor) (size : Int32) :
    (server.createPool host connection descriptor size).state.Alike
      (other.createPool host connection descriptor size).state := by
  unfold Server.createPool
  rcases alike.connection connection with ⟨gone, gone'⟩ | ⟨client, client', live, live', same⟩
  · simp only [gone, gone']
    exact alike
  · simp only [live, live']
    cases descriptor with
    | special => exact alike
    | regular file mode =>
      simp only
      split
      · exact alike
      · split
        · exact alike
        · exact alike.putBack (same.addPool _).2

/-- Whether a pool can be resized depends on its file and its length, which are the same. -/
theorem Alike.resizePool (alike : server.Alike other) (host : Host) (id : PoolId) (size : Int32) :
    (server.resizePool host id size).state.Alike (other.resizePool host id size).state := by
  unfold Server.resizePool
  rcases alike.connection id.connection with ⟨gone, gone'⟩ | ⟨client, client', live, live', same⟩
  · simp only [gone, gone']
    exact alike
  · simp only [live, live']
    rcases same.pool id with ⟨gone, gone'⟩ | ⟨pool, pool', held, held', mapped⟩
    · simp only [gone, gone']
      exact alike
    · have length : pool'.length = pool.length := (congrArg Pool.length mapped :)
      have file : pool'.mapping.file = pool.mapping.file :=
        (congrArg (fun pool => pool.mapping.file) mapped :)
      simp only [held, held', length, file]
      split
      · exact alike
      · split
        · exact alike
        · exact alike.putBack (same.setMapping id _)

private theorem Alike.createBuffer (alike : server.Alike other) (pool : PoolId)
    (geometry : BufferGeometry) :
    (server.createBuffer pool geometry).state.Alike (other.createBuffer pool geometry).state := by
  simp only [Server.createBuffer, alike.formats]
  refine alike.onConnection pool.connection _ _ fun client client' same => ?_
  rcases same.pool pool with ⟨gone, gone'⟩ | ⟨owner, owner', held, held', mapped⟩
  · rw [gone, gone']
    exact .refused _
  · have length : owner'.length = owner.length := (congrArg Pool.length mapped :)
    rw [held, held']
    simp only [length]
    cases geometry.check owner.length server.formats with
    | error cause => exact .refused cause
    | ok fits =>
      obtain ⟨answer, added⟩ := same.addBuffer pool geometry
      exact .of_fst answer added

private theorem Alike.destroyPool (alike : server.Alike other) (id : PoolId) :
    (server.destroyPool id).state.Alike (other.destroyPool id).state := by
  unfold Server.destroyPool
  rcases alike.connection id.connection with ⟨gone, gone'⟩ | ⟨client, client', live, live', same⟩
  · simp only [gone, gone']
    exact alike
  · have kept : client'.pools.contains id = client.pools.contains id := by
      rcases same.pool id with ⟨gone, gone'⟩ | ⟨pool, pool', held, held', _⟩
      · simp only [Arena.contains, gone, gone']
      · simp only [Arena.contains, held, held', Option.isSome_some]
    simp only [live, live', kept]
    split
    · exact alike.putBack (same.destroyPool id)
    · exact alike

private theorem Alike.destroyBuffer (alike : server.Alike other) (id : BufferId) :
    (server.destroyBuffer id).Alike (other.destroyBuffer id) := by
  unfold Server.destroyBuffer
  rcases alike.connection id.connection with ⟨gone, gone'⟩ | ⟨client, client', live, live', same⟩
  · simp only [gone, gone']
    exact alike
  · simp only [live, live']
    exact alike.putBack (same.destroyBuffer id)

/-- A read leaves the servers alike: whether it fails is not seen but in events and memory. -/
theorem Alike.withContents {α : Type} (alike : server.Alike other) (named : server.Named)
    (host : Host) (id : BufferId) (reading : Reading) (read : BufferGeometry → Span → α) :
    (server.withContents host id reading read).state.Alike
      (other.withContents host id reading read).state := by
  have unread := alike_withContents named host id reading read
  have unread' := alike_withContents (alike.named named) host id reading read
  exact unread.symm.trans (alike.trans unread')

end Pools

section Surfaces

private theorem Alike.frame (alike : server.Alike other) (id : SurfaceId) :
    (server.frame id).state.Alike (other.frame id).state := by
  unfold Server.frame
  rcases alike.connection id.connection with ⟨gone, gone'⟩ | ⟨client, client', live, live', same⟩
  · simp only [gone, gone']
    exact alike
  · simp only [live, live']
    exact alike.putBack (same.addCallback id)

/-- Whether what a commit publishes is read on one side, on the other one, or on both, makes no
difference to what is left. -/
theorem Alike.commit (alike : server.Alike other) (named : server.Named) (host : Host)
    (id : SurfaceId) : (server.commit host id).state.Alike (other.commit host id).state := by
  rcases alike.connection id.connection with ⟨gone, gone'⟩ | ⟨client, client', live, live', same⟩
  · simp only [Server.commit, gone, gone']
    exact alike
  · have committed := same.commit? id
    generalize done : client.commit? id = result at committed
    generalize done' : client'.commit? id = result' at committed
    cases committed with
    | none =>
      simp only [Server.commit, live, live', done, done']
      exact alike
    | some left =>
      have unread := alike_commit named host live done
      have unread' := alike_commit (alike.named named) host live' done'
      exact unread.symm.trans ((alike.putBack left.1).trans unread')

private theorem Alike.present (alike : server.Alike other) (id : SurfaceId) (time : UInt32) :
    (server.present id time).state.Alike (other.present id time).state := by
  refine alike.onConnection id.connection _ _ fun client client' same => ?_
  have presented := same.present? id time
  generalize client.present? id time = result at presented
  generalize client'.present? id time = result' at presented
  cases presented with
  | none => exact .refused _
  | some left => exact .done () left

private theorem Alike.destroySurface (alike : server.Alike other) (id : SurfaceId) :
    (server.destroySurface id).state.Alike (other.destroySurface id).state := by
  unfold Server.destroySurface
  rcases alike.connection id.connection with ⟨gone, gone'⟩ | ⟨client, client', live, live', same⟩
  · simp only [gone, gone']
    exact alike
  · simp only [live, live']
    have destroyed := same.destroySurface? id
    generalize client.destroySurface? id = result at destroyed
    generalize client'.destroySurface? id = result' at destroyed
    cases destroyed with
    | none => exact alike
    | some left => exact (alike.putBack left).withPublisher _ _

end Surfaces

section Windows

private theorem Alike.getWindowSurface (alike : server.Alike other) (id : SurfaceId) :
    (server.getWindowSurface id).state.Alike (other.getWindowSurface id).state := by
  unfold Server.getWindowSurface
  rcases alike.connection id.connection with ⟨gone, gone'⟩ | ⟨client, client', live, live', same⟩
  · simp only [gone, gone']
    exact alike
  · simp only [live, live']
    have granted := same.getWindowSurface id
    generalize client.getWindowSurface id = result at granted
    generalize client'.getWindowSurface id = result' at granted
    cases result with
    | error _ =>
      cases result' with
      | error _ => exact alike
      | ok _ => cases granted
    | ok grant =>
      cases result' with
      | error _ => cases granted
      | ok grant' =>
        cases granted with
        | some left => exact alike.putBack left

private theorem Alike.getToplevel (alike : server.Alike other) (id : WindowSurfaceId) :
    (server.getToplevel id).state.Alike (other.getToplevel id).state := by
  simp only [Server.getToplevel, alike.config]
  exact alike.onConnection id.connection _ _ fun _ _ same => same.getToplevel id _

private theorem Alike.sendConfigure (alike : server.Alike other) (id : ToplevelId) (size : Size) :
    (server.sendConfigure id size).state.Alike (other.sendConfigure id size).state := by
  unfold Server.sendConfigure
  rcases alike.connection id.connection with ⟨gone, gone'⟩ | ⟨client, client', live, live', same⟩
  · simp only [gone, gone']
    exact alike
  · simp only [live, live', Connection.suggest]
    have configured := same.configure id size
    generalize client.configure id size = attempt at configured ⊢
    generalize client'.configure id size = attempt' at configured ⊢
    cases configured with
    | refused cause => exact alike.putBack (same.modifyToplevel id _)
    | done serial same => exact alike.putBack same

private theorem Alike.ackConfigure (alike : server.Alike other) (id : WindowSurfaceId)
    (serial : Serial) :
    (server.ackConfigure id serial).state.Alike (other.ackConfigure id serial).state := by
  unfold Server.ackConfigure
  rcases alike.connection id.connection with ⟨gone, gone'⟩ | ⟨client, client', live, live', same⟩
  · simp only [gone, gone']
    exact alike
  · simp only [live, live', same.windows]
    cases client.windowSurfaces.get? id with
    | none => exact alike
    | some window => exact alike.putBack (same.modifyWindow id _)

private theorem Alike.setWindowGeometry (alike : server.Alike other) (id : WindowSurfaceId)
    (rect : Rectangle) :
    (server.setWindowGeometry id rect).state.Alike (other.setWindowGeometry id rect).state := by
  refine alike.onConnection id.connection _ _ fun client client' same => ?_
  rw [same.windows]
  cases client.windowSurfaces.get? id with
  | none => exact .refused _
  | some window =>
    simp only
    split
    · exact .done () (same.modifyWindow id _)
    · exact .refused _

private theorem Alike.destroyWindowSurface (alike : server.Alike other) (id : WindowSurfaceId) :
    (server.destroyWindowSurface id).state.Alike (other.destroyWindowSurface id).state := by
  unfold Server.destroyWindowSurface
  rcases alike.connection id.connection with ⟨gone, gone'⟩ | ⟨client, client', live, live', same⟩
  · simp only [gone, gone']
    exact alike
  · simp only [live, live']
    have destroyed := same.destroyWindowSurface? id
    generalize client.destroyWindowSurface? id = result at destroyed
    generalize client'.destroyWindowSurface? id = result' at destroyed
    cases destroyed with
    | none => exact alike
    | some left => exact alike.putBack left

private theorem Alike.destroyToplevel (alike : server.Alike other) (id : ToplevelId) :
    (server.destroyToplevel id).state.Alike (other.destroyToplevel id).state := by
  unfold Server.destroyToplevel
  rcases alike.connection id.connection with ⟨gone, gone'⟩ | ⟨client, client', live, live', same⟩
  · simp only [gone, gone']
    exact alike
  · simp only [live, live']
    have destroyed := same.destroyToplevel? id
    generalize client.destroyToplevel? id = result at destroyed
    generalize client'.destroyToplevel? id = result' at destroyed
    cases destroyed with
    | none => exact alike
    | some left => exact alike.putBack left

end Windows

/-- **Servers that are alike stay alike**, when the same is done to both. -/
theorem Alike.next (alike : server.Alike other) (named : server.Named) (host : Host)
    (operation : Operation) :
    (server.next host operation).Alike (other.next host operation) := by
  cases operation with
  | connect => exact alike.connect
  | disconnect gone => exact alike.disconnect gone
  | takeEvents id => exact alike.takeEvents id
  | drainEvents => exact alike.mapValues fun _ _ same => same.events [] []
  | bind connection name version => exact alike.bind connection name version
  | unbind id => exact alike.unbind id
  | createPool connection descriptor size => exact alike.createPool host connection descriptor size
  | resizePool id size => exact alike.resizePool host id size
  | createBuffer pool geometry => exact alike.createBuffer pool geometry
  | destroyPool id => exact alike.destroyPool id
  | destroyBuffer id => exact alike.destroyBuffer id
  | readBuffer id | peekBuffer id _ | snapshot id =>
    exact alike.withContents named host id _ _
  | createSurface connection version =>
    refine alike.onConnection connection _ _ fun client client' same => ?_
    obtain ⟨answer, added⟩ := same.addSurface version
    exact .of_fst answer added
  | attach id attachment offset =>
    exact alike.onConnection id.connection _ _ fun _ _ same => same.attach id attachment offset
  | setOffset id _ | addDamage id _ | setScale id _ | setTransform id _ | giveRole id _ =>
    exact alike.onSurface id _
  | frame id => exact alike.frame id
  | commit id => exact alike.commit named host id
  | present id time => exact alike.present id time
  | presentAll time => exact alike.mapValues fun _ _ same => same.presentAll time
  | destroySurface id => exact alike.destroySurface id
  | getWindowSurface id => exact alike.getWindowSurface id
  | getToplevel id => exact alike.getToplevel id
  | sendConfigure id size =>
    exact alike.sendConfigure id size
  | ackConfigure id serial => exact alike.ackConfigure id serial
  | setWindowGeometry id rect => exact alike.setWindowGeometry id rect
  | setTitle id _ | setAppId id _ => exact alike.onToplevel id _
  | destroyWindowSurface id => exact alike.destroyWindowSurface id
  | destroyToplevel id => exact alike.destroyToplevel id
  | subscribeMetadata | subscribeBroadcast | unsubscribe _ | receiveMetadata _
  | receiveBroadcast _ | nextMetadata _ | nextSnapshot _ => exact alike.withPublisher _ _

end Alike

end Server

end DisplayServer
