import DisplayServer.Proofs.Serving

/-! # Creating objects

The request that creates an object gives it its meaning, or the client is told what it did wrong
and not served any more (`Turn.Settles`). What the frontend logs for a thing that the server does
not hold any more (`LogMessage.isLapse`) it never logs here: as long as a client is served, the
surfaces and pools that its live objects stand for are live.
-/

namespace DisplayServer

open Function (update update_self update_of_ne update_apply)
open Relation (ReflTransGen)
open Wire

/-- Whether a message tells of an object that was created and got no meaning, and of nobody who was
told. -/
def LogMessage.isLapse : LogMessage → Bool
  | .bufferFromDeadPool | .surfaceRequestIgnored | .windowSurfaceFailed => true
  | _ => false

namespace Server

variable {config : Config} {server : Server} {host : Host} {operation : Operation} {accepted : Nat}
  {drawn : ConnectionId → Nat}

/-- No more clients were accepted than there are numbers. -/
theorem IsAfter.room (isAfter : IsAfter config server accepted drawn) :
    accepted ≤ UInt32.size := by
  obtain ⟨script, range, -, rfl, -⟩ := isAfter
  exact range.connections

/-- What is granted was in no census before. -/
theorem IsAfter.not_holds (isAfter : IsAfter config server accepted drawn) {kind : ObjectKind}
    (operation : Operation) (handle : Handle kind) (accepts : operation.accepted = 0)
    (rooms : ∀ id, drawn id + server.drawnBy host operation id ≤ UInt32.size)
    (issues : server.Issues host operation handle) :
    ¬ server.census.Holds handle :=
  have room : accepted + operation.accepted ≤ UInt32.size := by
    rw [accepts]
    exact isAfter.room
  census_holds_iff.not.mpr (issues.not_isLive (isAfter.ready room rooms))

/-- An attempt that gives out a handle, unless it is at a window surface, issues it. -/
theorem issues_of_answer {kind : ObjectKind} {ε : Type} {failure : ε → Failure}
    {outcome : Outcome Server (Except ε (Handle kind))} {handle : Handle kind}
    (step : server.step host operation = outcome.map (.ofAttempt failure .handle))
    (answer : outcome.answer = .ok handle) (other : kind ≠ .windowSurface) :
    server.Issues host operation handle where
  answered := by
    rw [step]
    exact congrArg (Answer.ofAttempt failure .handle) answer
  created surface asked := by
    subst asked
    have answered : Answer.ofAttempt .window .handle (server.getWindowSurface surface).answer =
        Answer.handle handle :=
      (congrArg Outcome.answer step).trans (congrArg (Answer.ofAttempt failure .handle) answer)
    generalize (server.getWindowSurface surface).answer = attempt at answered
    cases attempt <;> cases answered
    exact (other rfl).elim

end Server

/-- An operation of the server logs no lapse. -/
def Outcome.IsClean {σ α : Type} (outcome : Outcome σ α) : Prop :=
  ∀ message ∈ outcome.log, message.isLapse = false

/-- An attempt is clean if its log is. -/
theorem Outcome.isClean_ofAttempt {σ α ε : Type} {state : σ} {log : List LogMessage}
    (attempt : Except ε (α × σ)) (clean : ∀ message ∈ log, message.isLapse = false) :
    (Outcome.ofAttempt state log attempt).IsClean := by
  cases attempt with
  | ok => exact clean
  | error => exact nofun

namespace Server

variable {server : Server} {host : Host}

variable (host) in
private theorem isClean_createPool (connection : ConnectionId) (descriptor : Descriptor)
    (size : Int32) : (server.createPool host connection descriptor size).IsClean := by
  unfold createPool Outcome.IsClean
  grind [Outcome.refuse, LogMessage.isLapse]

private theorem isClean_frame (surface : SurfaceId) : (server.frame surface).IsClean := by
  unfold frame Outcome.IsClean
  grind [Outcome.refuse]

private theorem isClean_getWindowSurface (surface : SurfaceId) :
    (server.getWindowSurface surface).IsClean := by
  unfold getWindowSurface Outcome.IsClean
  grind [Outcome.refuse, LogMessage.isLapse]

end Server

/-! ### What the server cannot refuse -/

namespace Server

variable {server : Server}

/-- A live surface always gives a callback. -/
theorem answer_frame {surface : SurfaceId} (live : server.census.surface surface ≠ none) :
    ∃ callback, (server.frame surface).answer = .ok callback := by
  obtain ⟨waiting, live⟩ := Option.ne_none_iff_exists'.mp live
  obtain ⟨client, found, waits⟩ := Option.bind_eq_some_iff.mp live
  obtain ⟨record, held, -⟩ := Arena.exists_of_view waits
  simp [frame, found, Connection.addCallback, Connection.draw, held]

/-- On a live pool, what is wrong with a buffer is its geometry. -/
theorem answer_createBuffer_ne_dead {pool : PoolId} (live : server.census.pool pool = true)
    (geometry : BufferGeometry) : (server.createBuffer pool geometry).answer ≠ .error .dead := by
  obtain ⟨client, found, held⟩ := (Option.any_eq_true _ _).mp live
  obtain ⟨owner, held⟩ := Option.isSome_iff_exists.mp held
  simp only [createBuffer, onConnection, found, held]
  cases checked : geometry.check owner.length server.formats with
  | ok =>
    intro failed
    cases failed
  | error cause =>
    intro failed
    cases failed
    unfold BufferGeometry.check at checked
    grind

/-- A live surface refuses a window surface only because of another role. -/
theorem cause_getWindowSurface {surface : SurfaceId}
    (live : server.census.surface surface ≠ none) {cause : WindowError}
    (failed : (server.getWindowSurface surface).answer = .error cause) :
    ∃ role, cause = .alreadyHasRole role := by
  obtain ⟨waiting, live⟩ := Option.ne_none_iff_exists'.mp live
  obtain ⟨client, found, waits⟩ := Option.bind_eq_some_iff.mp live
  obtain ⟨record, held, -⟩ := Arena.exists_of_view waits
  simp only [getWindowSurface, found, Connection.getWindowSurface, held] at failed
  unfold Surface.assumeRole at failed
  grind [Outcome.refuse]

private theorem cause_configure {client : Connection} {toplevel : ToplevelId} {size : Size}
    {cause : WindowError} (failed : client.configure toplevel size = .error cause) :
    cause = .dead := by
  unfold Connection.configure at failed
  grind

private theorem cause_onConnection {α ε : Type} {id : ConnectionId} {dead cause : ε}
    {log : List LogMessage} {work : Connection → Except ε (α × Connection)}
    (failed : (Outcome.ofAttempt server log (server.onConnection id dead work)).answer =
      .error cause) :
    cause = dead ∨ ∃ client, work client = .error cause := by
  unfold onConnection at failed
  cases found : server.connection? id with
  | none =>
    simp only [found] at failed
    cases failed
    exact .inl rfl
  | some client =>
    simp only [found] at failed
    cases done : work client with
    | ok => simp only [done] at failed; cases failed
    | error =>
      simp only [done] at failed
      cases failed
      exact .inr ⟨client, done⟩

/-- A toplevel is refused by a dead window surface, or by one that has one. -/
theorem cause_getToplevel {window : WindowSurfaceId} {cause : WindowError}
    (failed : (server.getToplevel window).answer = .error cause) :
    cause = .dead ∨ cause = .alreadyConstructed := by
  rcases cause_onConnection failed with dead | ⟨client, refused⟩
  · exact .inl dead
  · unfold Connection.getToplevel at refused
    split at refused
    · cases refused
      exact .inl rfl
    · split at refused
      · cases refused
        exact .inr rfl
      · simp only [Bind.bind, Except.bind] at refused
        split at refused
        · rename_i configured
          cases refused
          exact .inl (cause_configure configured)
        · cases refused

end Server

namespace Frontend.Standing

variable {config : Config} {accepted : Nat} {drawn : ConnectionId → Nat} {frontend : Frontend}
  {id : ObjectId} (standing : frontend.Standing config accepted drawn)
  (served : frontend.isConnected id.client = true)

include standing served

/-- As long as its client is served, a surface lives as long as its object. -/
theorem surface_live {surface : SurfaceId}
    (stands : frontend.ties.stands id = some (.surface surface)) :
    frontend.server.census.surface surface ≠ none :=
  standing.tied.surfaces.backed id surface stands
    (standing.tied.clients.live _ _ served (standing.tied.surfaces.owned id surface stands)).1

/-- As long as its client is served, a pool lives as long as its object. -/
theorem pool_live {pool : PoolId} (stands : frontend.ties.stands id = some (.pool pool)) :
    ∃ refs, frontend.pools.get? pool = some refs ∧ refs.hasObject = true ∧
      frontend.server.census.pool pool = true := by
  have backed := standing.tied.pools.backed id pool stands
    (standing.tied.clients.live _ _ served (standing.tied.pools.owned id pool stands)).1
  obtain ⟨refs, entered, has⟩ := Option.map_eq_some_iff.mp backed
  have live : frontend.server.census.pool pool = _ := standing.tied.pools.live pool
  exact ⟨refs, entered, has, by rw [live, entered]; rfl⟩

end Frontend.Standing

namespace Turn

variable {turn turn' : Turn} {id created : ObjectId}

/-- A turn logs no lapse. -/
def LogsClean (turn turn' : Turn) : Prop :=
  ∀ message ∈ turn'.log, message.isLapse = true → message ∈ turn.log

variable (turn) in
/-- What is absorbed of a clean outcome logs no lapse. -/
theorem logsClean_absorb {α : Type} {outcome : Outcome Server α} (clean : outcome.IsClean) :
    turn.LogsClean (turn.absorb outcome) := by
  intro message logged lapse
  refine (List.mem_append.mp logged).resolve_right fun more => ?_
  rw [clean message more] at lapse
  cases lapse

/-- A new object has its meaning, or its client was told off and is not served any more; and no
lapse was logged. -/
structure Settles (turn turn' : Turn) (created : ObjectId) : Prop where
  meant : (∃ resource, turn'.frontend.ties.stands created = some resource ∧
      ∀ interface, resource ≠ .inert interface) ∨
    turn'.frontend.isConnected created.client = false ∧
      ∃ source code text, ⟨created.client, source, .error code text⟩ ∈ turn'.sent
  clean : turn.LogsClean turn'

private theorem isConnected_drop (client : ClientId) :
    (turn.drop client).frontend.isConnected client = false := by
  have dropped := congrFun (congrArg Ties.served (ties_drop turn client)) client
  exact dropped.trans (update_self ..)

/-- To drop a client logs this and nothing else. -/
theorem log_drop (client : ClientId) (message : LogMessage)
    (logged : message ∈ (turn.drop client).log) :
    message ∈ turn.log ∨ message = .clientDisconnected := by
  unfold drop at logged
  split at logged
  · exact .inl logged
  · split at logged
    · exact .inl logged
    · simpa [modify, note] using logged

/-- A protocol error settles what was to be created. -/
theorem settles_postError {code : ErrorCode} {text : String} {resource : Resource}
    (alive : turn'.frontend.ties.stands id = some resource)
    (served : turn'.frontend.isConnected id.client = true) (same : created.client = id.client)
    (clean : turn.LogsClean turn') :
    turn.Settles (turn'.postError id code text) created := by
  obtain ⟨object, found, alive, -⟩ := Frontend.stands_eq_some.mp alive
  have sends : turn'.send id (.error code text) = { turn' with
      sent := turn'.sent ++ [⟨id.client, .object id.index, .error code text⟩] } := by
    simp [send, say, Frontend.isAlive, found, alive, served]
  refine ⟨.inr ⟨same ▸ isConnected_drop _, .object id.index, code, text, ?_⟩, ?_⟩
  · have kept := (minds_drop (turn'.send id (.error code text)) id.client).said
    obtain ⟨more, sent, -⟩ := kept
    rw [postError, sent, sends, same]
    simp
  · intro message logged lapse
    rcases log_drop _ _ logged with before | rfl
    · rw [sends] at before
      exact clean message before lapse
    · cases lapse

variable {config : Config} {accepted : Nat} {drawn : ConnectionId → Nat} {host : Host}
  {connection : ConnectionId} {interface : Interface} {resource : Resource}

/-- A pool that something keeps stays. -/
theorem updatePool_of_kept {pool : PoolId} (refs : PoolRefs) {change : PoolRefs → PoolRefs}
    (entered : turn.frontend.pools.get? pool = some refs)
    (kept : (change refs).hasObject = true ∨ 0 < (change refs).buffers) :
    turn.updatePool pool change = turn.modify fun frontend =>
      { frontend with pools := frontend.pools.insert pool (change refs) } := by
  simp only [updatePool, entered]
  rw [if_neg]
  rintro ⟨gone, bare⟩
  rcases kept with kept | kept
  · rw [gone] at kept
    cases kept
  · omega

section Creating

variable (host) in
/-- What is tied after something is granted for a new object. -/
theorem ties_granted {α : Type} (operation : Operation) (outcome : Outcome Server α)
    {owner : ConnectionId} {kind : ObjectKind} {handle : Handle kind} {census : Census}
    (named : turn.frontend.server.Named)
    (state : outcome.state = turn.frontend.server.next host operation)
    (within : operation.isWithin = true)
    (grants : turn.frontend.server.Grants outcome.state owner handle census)
    (inert : turn.frontend.ties.stands created = some (.inert interface)) (resource : Resource) :
    ((turn.absorb outcome).establish created resource).frontend.ties =
      { turn.frontend.ties with
        toCensus := census
        stands := update turn.frontend.ties.stands created (some resource) } := by
  have absorbed := ties_absorb host operation outcome named state within
  refine (Frontend.ties_establish resource
    ((congrFun (congrArg Ties.stands absorbed) created).trans inert)).trans ?_
  rw [absorbed, grants.census]

variable (standing : turn.frontend.Standing config accepted drawn)
  (served : turn.frontend.isConnected id.client = true)
  (owned : turn.frontend.ties.owner id.client = some connection)
  (alive : turn.frontend.ties.stands id = some resource)
  (same : created.client = id.client)
  (inert : turn.frontend.ties.stands created = some (.inert interface))

include standing served owned alive same inert

/-- A surface that is asked for is served: its object gets a meaning. -/
theorem serves_createSurface {version : UInt32}
    (rooms : ∀ client, drawn client +
      turn.frontend.server.drawnBy host (.createSurface connection version) client ≤ UInt32.size) :
    turn.Serves host (.createSurface connection version) (turn.createSurface id created version) ∧
      turn.Settles (turn.createSurface id created version) created := by
  have owner : (turn.frontend.clients.get? id.client).bind Client.connection = some connection :=
    owned
  have clean : turn.LogsClean
      (turn.absorb (turn.frontend.server.createSurface connection version)) :=
    logsClean_absorb turn (Outcome.isClean_ofAttempt _ nofun)
  simp only [createSurface, owner]
  cases answer : (turn.frontend.server.createSurface connection version).answer with
  | ok surface =>
    have fresh := standing.server.not_holds (.createSurface connection version) surface rfl
      rooms (Server.issues_of_answer rfl answer (by decide))
    have grants := Server.grants_createSurface standing.server.named answer
    have granted := ties_granted host (.createSurface connection version) _
      standing.server.named rfl rfl grants inert (.surface surface)
    have move := Ties.Move.openSurface surface inert (by rw [same, owned, grants.own])
      (grants.own ▸ grants.live) (not_not.mp fresh)
    exact ⟨.of_move standing rfl rfl rfl (granted ▸ move) rfl rfl,
      .inl ⟨_, (congrFun (congrArg Ties.stands granted) created).trans (update_self ..), by simp⟩,
      clean⟩
  | error cause =>
    exact ⟨.of_refused standing rfl rfl (Outcome.state_of_refused answer)
      (minds_postError ..), settles_postError alive served same clean⟩

/-- A pool that is asked for is served: its object gets a meaning, or its client an error. -/
theorem serves_createPool {descriptor : Descriptor} {size : Int32}
    (rooms : ∀ client, drawn client +
      turn.frontend.server.drawnBy host (.createPool connection descriptor size) client ≤
        UInt32.size) :
    turn.Serves host (.createPool connection descriptor size)
        (turn.createPool host id created descriptor size) ∧
      turn.Settles (turn.createPool host id created descriptor size) created := by
  have owner : (turn.frontend.clients.get? id.client).bind Client.connection = some connection :=
    owned
  have clean := logsClean_absorb turn (turn.frontend.server.isClean_createPool host connection
    descriptor size)
  simp only [createPool, owner]
  cases answer : (turn.frontend.server.createPool host connection descriptor size).answer with
  | ok pool =>
    have fresh := standing.server.not_holds (.createPool connection descriptor size) pool rfl
      rooms (Server.issues_of_answer rfl answer (by decide))
    have grants := Server.grants_createPool standing.server.named answer
    have granted := ties_granted host (.createPool connection descriptor size)
      (turn.frontend.server.createPool host connection descriptor size)
      standing.server.named rfl rfl grants inert (.pool pool)
    have entered := Frontend.ties_insertPool granted pool {}
    have move := Ties.Move.openPool pool inert (by rw [same, owned, grants.own])
      (grants.own ▸ grants.live) (Bool.eq_false_iff.mpr fresh)
    exact ⟨.of_move standing rfl rfl rfl (entered ▸ move) rfl rfl,
      .inl ⟨_, (congrFun (congrArg Ties.stands entered) created).trans (update_self ..), by simp⟩,
      clean⟩
  | error cause =>
    have refused := Server.state_createPool_of_error answer
    cases cause <;> exact ⟨.of_refused standing rfl rfl refused (minds_postError ..),
      settles_postError alive served same clean⟩

omit owned alive inert in
/-- A callback that is asked for is served: its object gets a meaning. -/
theorem serves_frame {surface : SurfaceId}
    (inert : turn.frontend.ties.stands created = some (.inert .callback))
    (stands : turn.frontend.ties.stands id = some (.surface surface))
    (rooms : ∀ client, drawn client +
      turn.frontend.server.drawnBy host (.frame surface) client ≤ UInt32.size) :
    turn.Serves host (.frame surface) (turn.frame id created surface) ∧
      turn.Settles (turn.frame id created surface) created := by
  have clean := logsClean_absorb turn (turn.frontend.server.isClean_frame surface)
  have live := standing.surface_live served stands
  obtain ⟨callback, answer⟩ := Server.answer_frame live
  obtain ⟨waiting, waits, grants⟩ := Server.grants_frame standing.server.named answer
  have granted := ties_granted host (.frame surface) (turn.frontend.server.frame surface)
    standing.server.named rfl rfl grants inert .callback
  have entered := Frontend.ties_insertCallback granted callback created
  have fresh : turn.frontend.ties.callbacks callback = none := by
    by_contra entry
    obtain ⟨other, others, found, among⟩ := standing.tied.callbacks.awaited callback entry
    exact standing.server.waiting_fresh standing.server.room rooms answer found among
  have holder := standing.tied.surfaces.owned id surface stands
  have move := Ties.Move.request inert (same ▸ served) waits (by rw [same, holder, grants.own])
    grants.own fresh
  simp only [frame, answer]
  exact ⟨.of_move standing rfl rfl rfl (entered ▸ move) rfl rfl,
    .inl ⟨_, (congrFun (congrArg Ties.stands entered) created).trans (update_self ..), by simp⟩,
    clean⟩

omit owned in
/-- A buffer that is asked for is served: its object gets a meaning, or its client an error. -/
theorem serves_createBuffer {pool : PoolId} {geometry : BufferGeometry}
    (stands : turn.frontend.ties.stands id = some (.pool pool))
    (rooms : ∀ client, drawn client +
      turn.frontend.server.drawnBy host (.createBuffer pool geometry) client ≤ UInt32.size) :
    turn.Serves host (.createBuffer pool geometry)
        (turn.createBuffer id created pool geometry) ∧
      turn.Settles (turn.createBuffer id created pool geometry) created := by
  have clean : turn.LogsClean
      (turn.absorb (turn.frontend.server.createBuffer pool geometry)) :=
    logsClean_absorb turn (Outcome.isClean_ofAttempt _ nofun)
  obtain ⟨refs, entered, -, live⟩ := standing.pool_live served stands
  simp only [createBuffer]
  cases answer : (turn.frontend.server.createBuffer pool geometry).answer with
  | ok buffer =>
    have fresh := standing.server.not_holds (.createBuffer pool geometry) buffer rfl rooms
      (Server.issues_of_answer rfl answer (by decide))
    have grants := Server.grants_createBuffer standing.server.named answer
    have granted := ties_granted host (.createBuffer pool geometry)
      (turn.frontend.server.createBuffer pool geometry) standing.server.named rfl rfl
      grants inert (.buffer buffer pool)
    have listed := Frontend.ties_insertBuffer granted buffer created
    have counted := Frontend.ties_insertPool listed pool { refs with buffers := refs.buffers + 1 }
    have holder := standing.tied.pools.owned id pool stands
    have move := Ties.Move.openBuffer pool inert (by rw [same, holder, grants.own])
      grants.own.symm entered (not_not.mp fresh)
    simp only [enterBuffer]
    rw [updatePool_of_kept refs]
    · exact ⟨.of_move standing rfl rfl rfl (counted ▸ move) rfl rfl,
        .inl ⟨_, (congrFun (congrArg Ties.stands counted) created).trans (update_self ..), by simp⟩,
        clean⟩
    · exact entered
    · exact .inr (Nat.succ_pos _)
  | error cause =>
    have refused := Outcome.state_of_refused answer
    cases cause with
    | dead => exact (Server.answer_createBuffer_ne_dead live geometry answer).elim
    | _ => exact ⟨.of_refused standing rfl rfl refused (minds_postError ..),
        settles_postError alive served same clean⟩

omit owned in
/-- The window surface of a surface that has none. -/
theorem serves_createWindowSurface {surface : SurfaceId} {index : ObjectIndex}
    (stands : turn.frontend.ties.stands ⟨id.client, index⟩ = some (.surface surface))
    (bare : turn.frontend.server.windowSurfaceOf? surface = none) :
    turn.Serves host (.getWindowSurface surface) (turn.createWindowSurface id created index) ∧
      turn.Settles (turn.createWindowSurface id created index) created := by
  have clean := logsClean_absorb turn
    (turn.frontend.server.isClean_getWindowSurface surface)
  have live := standing.surface_live
    (show turn.frontend.isConnected (⟨id.client, index⟩ : ObjectId).client = true from served)
    stands
  obtain ⟨object, found, -, means⟩ := Frontend.stands_eq_some.mp stands
  simp only [createWindowSurface, found, Option.map_some, means, bare, Option.isSome_none,
    Bool.false_eq_true, if_false]
  cases answer : (turn.frontend.server.getWindowSurface surface).answer with
  | ok window =>
    have grants := Server.grants_getWindowSurface standing.server.named answer bare
    have granted := ties_granted host (.getWindowSurface surface)
      (turn.frontend.server.getWindowSurface surface) standing.server.named rfl rfl
      grants inert (.windowSurface window id.index)
    have holder := standing.tied.surfaces.owned _ surface stands
    have move := Ties.Move.openWindow window surface id.index inert
      (by rw [same, holder, grants.own]) (grants.own ▸ grants.live)
    exact ⟨.of_move standing rfl rfl rfl (granted ▸ move) rfl rfl,
      .inl ⟨_, (congrFun (congrArg Ties.stands granted) created).trans (update_self ..), by simp⟩,
      clean⟩
  | error cause =>
    have refused := Server.state_getWindowSurface_of_error answer
    obtain ⟨role, rfl⟩ := Server.cause_getWindowSurface live answer
    exact ⟨.of_refused standing rfl rfl refused (minds_postError ..),
      settles_postError alive served same clean⟩

end Creating

end Turn

end DisplayServer
