import DisplayServer.Proofs.Happening

/-! # The frontend and the server are coupled

As long as the server holds a connection, the objects of its client and what the server holds for
it go together (`Frontend.Coupled`): a pool has an entry in the frontend as long as it is live, and
it is live as long as its object or an object of one of its buffers is. So the object that a request
creates gets its meaning, or the client is told what it did wrong; the frontend never runs into
something that the server does not hold any more (`Frontend.frontend_stays_coupled`).
-/

namespace DisplayServer

open Wire

namespace Frontend

/-- An object is alive and stands for something. -/
def Stands (frontend : Frontend) (id : ObjectId) (resource : Resource) : Prop :=
  ∃ object, frontend.object? id = some object ∧ object.isAlive = true ∧ object.resource = resource

/-- The objects of the buffers that were created from a pool. -/
def buffersOf (frontend : Frontend) (pool : PoolId) : Set ObjectId :=
  {id | ∃ buffer, frontend.Stands id (.buffer buffer pool)}

/-- Whether the frontend accepted a client itself. -/
def isManaged (frontend : Frontend) (client : ClientId) : Bool :=
  ((frontend.clients.get? client).bind Client.connection).isSome

/-- What the frontend keeps of the objects of connections that were not reaped yet agrees with what
the server holds for them. -/
structure Coupled (frontend : Frontend) : Prop where
  pool_entry : ∀ pool, frontend.pools.contains pool = true ↔ frontend.server.IsLive pool
  pool_kept : ∀ pool : PoolId, frontend.server.isConnected pool.connection = true →
    (frontend.pools.contains pool = true ↔
      (∃ id, frontend.Stands id (.pool pool)) ∨ (frontend.buffersOf pool).Nonempty)
  has_object : ∀ pool refs, frontend.pools.get? pool = some refs →
    (refs.hasObject = true ↔ ∃ id, frontend.Stands id (.pool pool))
  count : ∀ pool refs, frontend.pools.get? pool = some refs →
    (frontend.buffersOf pool).encard = refs.buffers
  /-- One buffer less can always be counted. -/
  counted : ∀ id buffer pool, frontend.Stands id (.buffer buffer pool) →
    ∀ refs, frontend.pools.get? pool = some refs → 0 < refs.buffers
  surface_live : ∀ id surface, frontend.Stands id (.surface surface) →
    frontend.server.isConnected surface.connection = true → frontend.server.IsLive surface
  buffer_live : ∀ id buffer pool, frontend.Stands id (.buffer buffer pool) →
    frontend.server.isConnected buffer.connection = true →
      frontend.server.IsLive buffer ∧ frontend.server.IsLive pool
  pool_live : ∀ id pool, frontend.Stands id (.pool pool) →
    frontend.server.isConnected pool.connection = true → frontend.server.IsLive pool
  /-- No object is left without a meaning. -/
  meant : ∀ id, frontend.isConnected id.client = true → frontend.isManaged id.client = true →
    ∀ interface, ¬ frontend.Stands id (.inert interface)

section Coupling

variable {frontend : Frontend} {config : Config} {accepted : Nat} {drawn : ConnectionId → Nat}

/-- What stands behind an object, by its ties. -/
theorem stands_iff {id : ObjectId} {resource : Resource} :
    frontend.Stands id resource ↔ frontend.ties.stands id = some resource :=
  stands_eq_some.symm

private theorem buffersOf_eq (pool : PoolId) :
    frontend.buffersOf pool = frontend.ties.buffersOf pool :=
  Set.ext fun _ => exists_congr fun _ => stands_iff

private theorem isLive_pool_iff {pool : PoolId} :
    frontend.server.IsLive pool ↔ frontend.ties.pool pool = true :=
  Server.census_holds_iff.symm

private theorem contains_pool_iff {pool : PoolId} :
    frontend.pools.contains pool = true ↔ ∃ refs, frontend.pools.get? pool = some refs :=
  Option.isSome_iff_exists

variable (sound : frontend.Sound config accepted drawn)

include sound

/-- There are entries for live pools only. -/
theorem Sound.pool_entry (pool : PoolId) :
    frontend.pools.contains pool = true ↔ frontend.server.IsLive pool := by
  rw [isLive_pool_iff, sound.tied.pools.live pool]
  rfl

/-- An entry knows whether the pool has an object. -/
theorem Sound.has_object {pool : PoolId} {refs : PoolRefs}
    (entered : frontend.pools.get? pool = some refs) :
    refs.hasObject = true ↔ ∃ id, frontend.Stands id (.pool pool) := by
  simp only [stands_iff]
  refine ⟨sound.tied.pools.object pool refs entered, fun ⟨id, stands⟩ => ?_⟩
  have live := isLive_pool_iff.mp ((sound.pool_entry pool).mp (contains_pool_iff.mpr ⟨_, entered⟩))
  have backed := sound.tied.pools.backed id pool stands (sound.tied.within.pool pool live)
  obtain ⟨refs', entered', has⟩ := Option.map_eq_some_iff.mp backed
  cases entered.symm.trans entered'
  exact has

/-- An entry counts the objects of the buffers of the pool. -/
theorem Sound.count {pool : PoolId} {refs : PoolRefs}
    (entered : frontend.pools.get? pool = some refs) :
    (frontend.buffersOf pool).encard = refs.buffers := by
  rw [buffersOf_eq]
  exact sound.tied.pools.count pool refs entered

/-- The buffer of an object is live as long as its client is connected, and so is its pool. -/
theorem Sound.buffer_live {id : ObjectId} {buffer : BufferId} {pool : PoolId}
    (stands : frontend.Stands id (.buffer buffer pool))
    (here : frontend.server.isConnected buffer.connection = true) :
    frontend.server.IsLive buffer ∧ frontend.server.IsLive pool := by
  obtain ⟨held, -, entered⟩ := sound.tied.buffers.backed id buffer pool (stands_iff.mp stands) here
  refine ⟨Server.census_holds_iff.mp (held ▸ Option.some_ne_none pool : _ ≠ none), ?_⟩
  exact (sound.pool_entry pool).mp (Option.isSome_iff_ne_none.mpr entered)

/-- The pool of an object is live as long as its client is connected. -/
theorem Sound.pool_live {id : ObjectId} {pool : PoolId} (stands : frontend.Stands id (.pool pool))
    (here : frontend.server.isConnected pool.connection = true) : frontend.server.IsLive pool := by
  have backed := sound.tied.pools.backed id pool (stands_iff.mp stands) here
  obtain ⟨refs, entered, -⟩ := Option.map_eq_some_iff.mp backed
  exact (sound.pool_entry pool).mp (contains_pool_iff.mpr ⟨refs, entered⟩)

/-- A pool is kept by its object and by those of its buffers. -/
theorem Sound.pool_kept {pool : PoolId}
    (here : frontend.server.isConnected pool.connection = true) :
    frontend.pools.contains pool = true ↔
      (∃ id, frontend.Stands id (.pool pool)) ∨ (frontend.buffersOf pool).Nonempty := by
  constructor
  · rw [contains_pool_iff]
    rintro ⟨refs, entered⟩
    simp only [stands_iff, buffersOf_eq]
    exact sound.tied.pools.exists_object entered
  · rintro (⟨id, stands⟩ | ⟨id, buffer, stands⟩)
    · exact (sound.pool_entry pool).mpr (sound.pool_live stands here)
    · have same := (sound.tied.buffers.owned id buffer pool (stands_iff.mp stands)).2
      exact (sound.pool_entry pool).mpr (sound.buffer_live stands (same ▸ here)).2

/-- **A sound frontend is coupled to its server.** -/
theorem Sound.coupled : frontend.Coupled where
  pool_entry := sound.pool_entry
  pool_kept _ := sound.pool_kept
  has_object _ _ := sound.has_object
  count _ _ := sound.count
  counted id buffer pool stands refs entered := by
    have some := Set.encard_pos.mpr (⟨id, buffer, stands⟩ : (frontend.buffersOf pool).Nonempty)
    rw [sound.count entered] at some
    exact_mod_cast some
  surface_live id surface stands here :=
    Server.census_holds_iff.mp (sound.tied.surfaces.backed id surface (stands_iff.mp stands) here)
  buffer_live _ _ _ := sound.buffer_live
  pool_live _ _ := sound.pool_live
  meant id served managed interface stands :=
    sound.meant id ⟨served, Option.isSome_iff_exists.mp managed, interface, stands_iff.mp stands⟩

end Coupling

/-- **The frontend stays coupled to the server.** Whatever happened, entries, objects and what the
server holds agree. A request that passes all checks and creates an object gives it a meaning, or
the client is told off and not served any more; and it never fails for something that is gone. -/
theorem frontend_stays_coupled (config : Config) (life : Life)
    (range : (start config).state.InRange life) :
    (after config life).Coupled ∧
      ∀ front host client index name arguments back,
        life = front ++ .act host (.request client index name arguments) :: back →
        (after config front).isConnected client = true →
        (after config front).isManaged client = true → ∀ object signature,
        (after config front).dispatched? ⟨client, index⟩ name arguments = some (object, signature) →
        signature.created? ≠ none →
        Turn.Settles { frontend := after config front }
          ((after config front).happen (.act host (.request client index name arguments)))
          ((after config front).nextObject client) := by
  refine ⟨(sound_after range).coupled, ?_⟩
  rintro front host client index name arguments back rfl served managed object signature dispatched
    creates
  have before := sound_after range.of_append
  have heard : (after config front).ignores (.request client index name arguments) = false := by
    simp [ignores, Action.client?, served]
  have acts : (after config front).happen (.act host (.request client index name arguments)) =
      Turn.request { frontend := after config front } host ⟨client, index⟩ name arguments := by
    simp only [happen, heard, Bool.false_eq_true, if_false, Turn.act]
  rw [acts]
  refine Turn.settles_request { frontend := after config front } before served
    (fun operation asks id => ?_) (Option.isSome_iff_exists.mp managed) dispatched creates
  have fits := range.of_cons.handles id
  have asks : (after config front).asked (.act host (.request client index name arguments)) =
      some (host, operation) := by
    simp only [asked, heard, Bool.false_eq_true, if_false]
    exact congrArg _ asks
  rw [drawn_concat, asks] at fits
  exact fits

/-- The object of a pool is gone, and the pool stays for the buffer that was created from it. -/
theorem frontend_stays_coupled_shared :
    (start {}).state.InRange Life.shared ∧
      (after {} Life.shared).server.IsLive (⟨⟨0⟩, 1⟩ : PoolId) ∧
      ((after {} Life.shared).buffersOf ⟨⟨0⟩, 1⟩).encard = 1 ∧
      Turn.Settles { frontend := after {} Life.pooled }
        ((after {} Life.pooled).happen (.act .withFile Action.createBuffer)) ⟨0, 2⟩ := by
  have range : (start {}).state.InRange Life.shared := inRange_of_length _ (by decide)
  obtain ⟨coupled, settles⟩ := frontend_stays_coupled {} Life.shared range
  have entered : (after {} Life.shared).pools.get? ⟨⟨0⟩, 1⟩ =
      some { hasObject := false, buffers := 1 } := rfl
  exact ⟨range, (coupled.pool_entry _).mp (contains_pool_iff.mpr ⟨_, entered⟩),
    coupled.count _ _ entered,
    settles Life.pooled .withFile 0 1 _ _ _ rfl rfl rfl _ _ rfl (by decide)⟩

end Frontend

end DisplayServer
