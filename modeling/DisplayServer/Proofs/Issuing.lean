import DisplayServer.Proofs.Lifetimes

/-! # Handles are given out once

An operation that creates something answers with its handle, whose index is the counter of the
connection at that time. Counters have 32 bits and go around without notice, so two handles of one
kind are the same exactly if a multiple of `2 ^ 32` handles was drawn between them. Short of that no
handle is given out twice, nothing live is ever replaced and nothing that is gone comes back.
-/

namespace DisplayServer

private theorem Answer.ofAttempt_eq_iff {α ε : Type} {failure : ε → Failure} {success : α → Answer}
    {attempt : Except ε α} {answer : Answer} (worked : ∀ cause, answer ≠ .failed cause) :
    ofAttempt failure success attempt = answer ↔
      ∃ value, attempt = .ok value ∧ success value = answer := by
  cases attempt with
  | error cause => simp [ofAttempt, (worked (failure cause)).symm]
  | ok value => simp [ofAttempt]

/-- An attempt answers with a handle only if it works out. -/
theorem Answer.ofAttempt_eq_handle {α ε : Type} {failure : ε → Failure} {success : α → Answer}
    {attempt : Except ε α} {kind : ObjectKind} {handle : Handle kind} :
    ofAttempt failure success attempt = .handle handle ↔
      ∃ value, attempt = .ok value ∧ success value = .handle handle :=
  ofAttempt_eq_iff fun _ => by simp

/-- The kind of what an operation creates. -/
def Operation.created? : Operation → Option ObjectKind
  | bind _ _ _ => some .binding
  | createPool _ _ _ => some .pool
  | createBuffer _ _ => some .buffer
  | createSurface _ _ => some .surface
  | frame _ => some .callback
  | getWindowSurface _ => some .windowSurface
  | getToplevel _ => some .toplevel
  | _ => none

namespace Connection

variable (client : Connection)

/-- A binding takes the next handle. -/
theorem bind_draws (kind : CapabilityKind) (version : UInt32) (formats : List PixelFormat) :
    (client.bind kind version formats).2.id = client.id ∧
      (client.bind kind version formats).1 = client.fresh .binding ∧
      (client.bind kind version formats).2.nextIndex = client.nextIndex + 1 := by
  cases kind <;> exact ⟨rfl, rfl, rfl⟩

/-- A callback that is given has the next handle. -/
theorem addCallback_draws {id : SurfaceId} {callback : CallbackId}
    (given : (client.addCallback id).1 = .ok callback) :
    callback = client.fresh .callback ∧ (client.addCallback id).2.id = client.id ∧
      (client.addCallback id).2.nextIndex = client.nextIndex + 1 := by
  simp only [addCallback, draw] at given ⊢
  cases found : client.surfaces.get? id with
  | none => simp [found] at given
  | some surface =>
    simp only [found] at given ⊢
    cases given
    exact ⟨rfl, rfl, rfl⟩

/-- Which window surface a surface has does not depend on its role. -/
theorem windowSurfaceOf?_assumeRole {client : Connection} {id : SurfaceId}
    {surface changed : Surface} {role : Role} (found : client.surfaces.get? id = some surface)
    (taken : surface.assumeRole role = .ok changed) :
    (client.modifySurface id fun _ => changed).windowSurfaceOf? id =
      client.windowSurfaceOf? id := by
  have kept : changed.windowSurface = surface.windowSurface := by
    unfold Surface.assumeRole at taken
    split at taken
    · cases taken
      rfl
    · split at taken <;> cases taken
      rfl
  simp [windowSurfaceOf?, modifySurface, Arena.get?_modify, found, kept]

end Connection

namespace Server

section Creating

variable {server : Server} {host : Host}

/-- Only what creates something answers with a handle, and with one of its kind. -/
theorem created?_of_answer {operation : Operation} {kind : ObjectKind} {handle : Handle kind}
    (answered : (server.step host operation).answer = .handle handle) :
    operation.created? = some kind := by
  cases operation with
  | bind | createPool | createBuffer | createSurface | frame | getWindowSurface | getToplevel =>
    obtain ⟨_, _, same⟩ := Answer.ofAttempt_eq_handle.mp answered
    cases same
    rfl
  | connect | disconnect | takeEvents | drainEvents | unbind | destroyPool | destroyBuffer
  | presentAll | destroySurface | destroyWindowSurface | destroyToplevel | subscribeMetadata
  | subscribeBroadcast | unsubscribe | receiveMetadata | receiveBroadcast
  | nextMetadata | nextSnapshot => cases answered
  -- The other answers are successes without a handle, or failures.
  | _ => simp [step, Outcome.map, Answer.ofAttempt_eq_iff] at answered

/-- An attempt on a connection fails and changes nothing, or puts the connection back. -/
theorem ofAttempt_onConnection {α ε : Type} (server : Server) (connection : ConnectionId) (dead : ε)
    (log : List LogMessage) (work : Connection → Except ε (α × Connection)) :
    (∃ cause, Outcome.ofAttempt server log (server.onConnection connection dead work) =
        .refuse server cause) ∨
      ∃ client answer new, server.connection? connection = some client ∧
        work client = .ok (answer, new) ∧
        Outcome.ofAttempt server log (server.onConnection connection dead work) =
          { answer := .ok answer, state := server.putBack new, log } := by
  unfold onConnection
  cases live : server.connection? connection with
  | none => exact .inl ⟨dead, rfl⟩
  | some client =>
    simp only
    cases done : work client with
    | error cause => exact .inl ⟨cause, rfl⟩
    | ok result => exact .inr ⟨client, result.1, result.2, rfl, done, rfl⟩

/-- A connection was worked on and put back. -/
theorem putBack_of_answer {α ε : Type} {id : ConnectionId} {dead : ε} {log : List LogMessage}
    {work : Connection → Except ε (α × Connection)} {value : α}
    (answered : (Outcome.ofAttempt server log (server.onConnection id dead work)).answer =
      .ok value) :
    ∃ old new, server.connection? id = some old ∧ work old = .ok (value, new) ∧
      (Outcome.ofAttempt server log (server.onConnection id dead work)).state =
        server.putBack new := by
  rcases ofAttempt_onConnection server id dead log work with
    ⟨cause, refused⟩ | ⟨old, answer, new, live, done, worked⟩
  · rw [refused] at answered
    cases answered
  · rw [worked] at answered
    cases answered
    exact ⟨old, new, live, done, congrArg Outcome.state worked⟩

/-- What it takes that a capability is bound, and what that leaves. -/
theorem bind_eq_ok {connection : ConnectionId} {name : String} {version : UInt32}
    {binding : BindingId} (bound : (server.bind connection name version).answer = .ok binding) :
    ∃ kind old, server.connection? connection = some old ∧
      (old.bind kind version server.formats).1 = binding ∧
      (server.bind connection name version).state =
        server.putBack (old.bind kind version server.formats).2 := by
  unfold bind at bound ⊢
  cases known : Capability.ofName? name with
  | none =>
    rw [known] at bound
    cases bound
  | some capability =>
    simp only [known] at bound ⊢
    split at bound
    · cases bound
    · rename_i supported
      rw [if_neg supported]
      obtain ⟨old, new, live, done, state⟩ := putBack_of_answer bound
      have both := Except.ok.inj done
      exact ⟨capability.kind, old, live, congrArg Prod.fst both,
        state.trans (congrArg (fun made => server.putBack made.2) both.symm)⟩

/-- What it takes that a pool is created, and what that leaves. -/
theorem createPool_eq_ok {connection : ConnectionId} {descriptor : Descriptor} {size : Int32}
    {pool : PoolId}
    (created : (server.createPool host connection descriptor size).answer = .ok pool) :
    ∃ old mapping, server.connection? connection = some old ∧ pool = old.fresh .pool ∧
      (server.createPool host connection descriptor size).state =
        server.putBack (old.addPool mapping).2 := by
  unfold createPool at created ⊢
  cases live : server.connection? connection with
  | none =>
    rw [live] at created
    cases created
  | some old =>
    cases descriptor with
    | special =>
      rw [live] at created
      cases created
    | regular file mode =>
      simp only [live] at created ⊢
      split at created
      · cases created
      · rename_i positive
        rw [if_neg positive]
        cases held : Mapping.establish? host.files file mode size.toInt.toNat with
        | none =>
          rw [held] at created
          cases created
        | some mapping =>
          rw [held] at created
          cases created
          exact ⟨old, mapping, rfl, rfl, rfl⟩

/-- What it takes that a buffer is created, and what that leaves. -/
theorem createBuffer_eq_ok {pool : PoolId} {geometry : BufferGeometry} {buffer : BufferId}
    (created : (server.createBuffer pool geometry).answer = .ok buffer) :
    ∃ old, server.connection? pool.connection = some old ∧ buffer = old.fresh .buffer ∧
      (server.createBuffer pool geometry).state =
        server.putBack (old.addBuffer pool geometry).2 := by
  obtain ⟨old, new, live, done, state⟩ := putBack_of_answer created
  cases found : old.pools.get? pool with
  | none => simp [found] at done
  | some owner =>
    simp only [found] at done
    cases checked : geometry.check owner.length server.formats with
    | error cause =>
      rw [checked] at done
      cases done
    | ok fits =>
      rw [checked] at done
      obtain ⟨given, rfl⟩ := Prod.mk.inj (Except.ok.inj done)
      exact ⟨old, live, given.symm, state⟩

/-- What it takes that a surface is created, and what that leaves. -/
theorem createSurface_eq_ok {connection : ConnectionId} {version : UInt32} {surface : SurfaceId}
    (created : (server.createSurface connection version).answer = .ok surface) :
    ∃ old, server.connection? connection = some old ∧ surface = old.fresh .surface ∧
      (server.createSurface connection version).state =
        server.putBack (old.addSurface version).2 := by
  obtain ⟨old, new, live, done, state⟩ := putBack_of_answer created
  obtain ⟨given, rfl⟩ := Prod.mk.inj (Except.ok.inj done)
  exact ⟨old, live, given.symm, state⟩

/-- What it takes that a callback is given, and what that leaves. -/
theorem frame_eq_ok {surface : SurfaceId} {callback : CallbackId}
    (given : (server.frame surface).answer = .ok callback) :
    ∃ old, server.connection? surface.connection = some old ∧
      (old.addCallback surface).1 = .ok callback ∧
      (server.frame surface).state = server.putBack (old.addCallback surface).2 := by
  unfold frame at given ⊢
  cases live : server.connection? surface.connection with
  | none =>
    rw [live] at given
    cases given
  | some old =>
    rw [live] at given
    exact ⟨old, rfl, given, rfl⟩

/-- What it takes that a window surface is granted, and what that leaves. -/
theorem getWindowSurface_eq_ok {surface : SurfaceId} {window : WindowSurfaceId}
    (given : (server.getWindowSurface surface).answer = .ok window) :
    ∃ old grant, server.connection? surface.connection = some old ∧
      old.getWindowSurface surface = .ok grant ∧ grant.id = window ∧
      (server.getWindowSurface surface).state = server.putBack grant.client := by
  unfold getWindowSurface at given ⊢
  cases live : server.connection? surface.connection with
  | none =>
    rw [live] at given
    cases given
  | some old =>
    simp only [live] at given ⊢
    cases done : old.getWindowSurface surface with
    | error cause =>
      rw [done] at given
      cases given
    | ok grant =>
      rw [done] at given
      exact ⟨old, grant, rfl, done, Except.ok.inj given, rfl⟩

end Creating

/-- An operation gives out a handle: it answers with the handle of something new. Asking for the
window surface of a surface that has one gives out nothing. -/
structure Issues (server : Server) (host : Host) (operation : Operation) {kind : ObjectKind}
    (handle : Handle kind) : Prop where
  answered : (server.step host operation).answer = .handle handle
  created : ∀ surface, operation = .getWindowSurface surface →
    server.windowSurfaceOf? surface = none

/-- An operation gives out a number of a connection. -/
def Accepts (server : Server) (host : Host) (operation : Operation) (id : ConnectionId) : Prop :=
  (server.step host operation).answer = .connection id

/-- A handle is the one that its connection draws next, and the counter moves on. -/
def Draws (server after : Server) {kind : ObjectKind} (handle : Handle kind) : Prop :=
  ∃ old new, server.connection? handle.connection = some old ∧
    after.connection? handle.connection = some new ∧ handle = old.fresh kind ∧
    new.nextIndex = old.nextIndex + 1

section Step

variable {server : Server} {host : Host} {operation : Operation} {accepted : Nat}
  {drawn : ConnectionId → Nat} {kind : ObjectKind} {handle : Handle kind}

/-- A connection whose counter moved on by one and that is put back drew a handle. -/
theorem draws_of_putBack (named : server.Named) {after : Server} {id : ConnectionId}
    {old new : Connection} (live : server.connection? id = some old)
    (state : after = server.putBack new) (kept : new.id = old.id)
    (advanced : new.nextIndex = old.nextIndex + 1) : server.Draws after (old.fresh kind) := by
  subst state
  have found : server.connection? old.id = some old := by rw [named id old live, live]
  refine ⟨old, new, found, ?_, rfl, advanced⟩
  change (server.putBack new).connection? old.id = _
  rw [connection?_putBack, if_pos kept.symm]
  exact congrArg (Option.map fun _ => new) found

/-- **A handle that is given out has just been drawn.** -/
theorem Issues.draws (named : server.Named) (issues : server.Issues host operation handle) :
    server.Draws (server.next host operation) handle := by
  have answered := issues.answered
  cases operation with
  | bind connection name version =>
    obtain ⟨_, bound, same⟩ := Answer.ofAttempt_eq_handle.mp answered
    cases same
    obtain ⟨kind, old, live, rfl, state⟩ := bind_eq_ok bound
    obtain ⟨kept, drawn, advanced⟩ := old.bind_draws kind version server.formats
    rw [drawn]
    exact draws_of_putBack named live state kept advanced
  | createPool connection descriptor size =>
    obtain ⟨_, created, same⟩ := Answer.ofAttempt_eq_handle.mp answered
    cases same
    obtain ⟨old, mapping, live, rfl, state⟩ := createPool_eq_ok created
    exact draws_of_putBack named live state rfl rfl
  | createBuffer pool geometry =>
    obtain ⟨_, created, same⟩ := Answer.ofAttempt_eq_handle.mp answered
    cases same
    obtain ⟨old, live, rfl, state⟩ := createBuffer_eq_ok created
    exact draws_of_putBack named live state rfl rfl
  | createSurface connection version =>
    obtain ⟨_, created, same⟩ := Answer.ofAttempt_eq_handle.mp answered
    cases same
    obtain ⟨old, live, rfl, state⟩ := createSurface_eq_ok created
    exact draws_of_putBack named live state rfl rfl
  | frame surface =>
    obtain ⟨_, given, same⟩ := Answer.ofAttempt_eq_handle.mp answered
    cases same
    obtain ⟨old, live, answered, state⟩ := frame_eq_ok given
    obtain ⟨rfl, kept, advanced⟩ := old.addCallback_draws answered
    exact draws_of_putBack named live state kept advanced
  | getWindowSurface surface =>
    obtain ⟨_, given, same⟩ := Answer.ofAttempt_eq_handle.mp answered
    cases same
    obtain ⟨old, grant, live, done, rfl, state⟩ := getWindowSurface_eq_ok given
    have bare := issues.created surface rfl
    rw [windowSurfaceOf?, live] at bare
    obtain ⟨_, _, found, taken, ⟨window, had, _⟩ | ⟨_, rfl⟩⟩ :=
      Connection.getWindowSurface_eq_ok done
    · rw [Connection.windowSurfaceOf?_assumeRole found taken] at had
      cases had.symm.trans bare
    · exact draws_of_putBack named live state rfl rfl
  | getToplevel window =>
    obtain ⟨_, opened, same⟩ := Answer.ofAttempt_eq_handle.mp answered
    cases same
    obtain ⟨old, new, live, done, state⟩ := putBack_of_answer opened
    obtain ⟨_, _, _, rfl, rfl⟩ := Connection.getToplevel_eq_ok done
    exact draws_of_putBack named live state rfl rfl
  | _ => cases created?_of_answer answered

/-- The index of a handle that is given out is the number of handles drawn before it, as far as that
fits into the counter. -/
theorem Issues.index_eq (numbered : server.Numbered accepted drawn)
    (issues : server.Issues host operation handle) :
    handle.index = UInt32.ofNat (drawn handle.connection) := by
  obtain ⟨old, new, found, _, given, _⟩ := issues.draws numbered.named
  have counter := numbered.counters _ old found
  rw [given] at counter ⊢
  exact counter

/-- What gives out a handle draws one on its connection. -/
theorem Issues.drawnBy_eq_one (named : server.Named)
    (issues : server.Issues host operation handle) :
    server.drawnBy host operation handle.connection = 1 := by
  obtain ⟨old, new, before, after, _, advanced⟩ := issues.draws named
  rw [drawnBy_eq before after, Connection.drawnUntil_of_advanced advanced]

/-- A handle that is given out names nothing live. -/
theorem Issues.not_isLive (ready : server.Ready host operation accepted drawn)
    (issues : server.Issues host operation handle) : ¬ server.IsLive handle := by
  intro live
  have behind := ready.drawn_of_isLive live
  have room := ready.rooms handle.connection
  rw [issues.drawnBy_eq_one ready.named] at room
  have small : drawn handle.connection < UInt32.size := room
  rw [issues.index_eq ready.toNumbered, UInt32.toNat_ofNat_of_lt' small] at behind
  exact Nat.lt_irrefl _ behind

/-- Only a new client is given a number, and it is the one that is next. -/
theorem Accepts.eq {id : ConnectionId} (accepts : server.Accepts host operation id) :
    operation = .connect ∧ id = ⟨server.nextConnection⟩ := by
  unfold Accepts at accepts
  cases operation with
  | connect =>
    cases accepts
    exact ⟨rfl, rfl⟩
  | disconnect | takeEvents | drainEvents | unbind | destroyPool | destroyBuffer | presentAll
  | destroySurface | destroyWindowSurface | destroyToplevel | subscribeMetadata
  | subscribeBroadcast | unsubscribe | receiveMetadata | receiveBroadcast
  | nextMetadata | nextSnapshot => cases accepts
  | _ => simp [step, Outcome.map, Answer.ofAttempt_eq_iff] at accepts

end Step

/-- **No handle is given out twice.** Nor is a number of a connection. What is gone never comes
back, and what is new replaces nothing. -/
structure NeverReused (config : Config) (script : Script) : Prop where
  handles : ∀ front host operation middle host' operation' back,
    script = front ++ (host, operation) :: middle ++ (host', operation') :: back →
    ∀ {kind : ObjectKind} (first second : Handle kind),
      (after config front).Issues host operation first →
      (after config (front ++ (host, operation) :: middle)).Issues host' operation' second →
      first ≠ second
  connections : ∀ front host operation middle host' operation' back,
    script = front ++ (host, operation) :: middle ++ (host', operation') :: back →
    ∀ first second, (after config front).Accepts host operation first →
      (after config (front ++ (host, operation) :: middle)).Accepts host' operation' second →
      first ≠ second
  gone : ∀ front middle back, script = front ++ middle ++ back →
    ∀ {kind : ObjectKind} (handle : Handle kind), (after config front).IsLive handle →
      ¬ (after config (front ++ middle)).IsLive handle → ¬ (after config script).IsLive handle
  disconnected : ∀ front middle back, script = front ++ middle ++ back → ∀ id,
    (after config front).isConnected id = true →
      (after config (front ++ middle)).isConnected id = false →
      (after config script).isConnected id = false
  fresh : ∀ front host operation back, script = front ++ (host, operation) :: back →
    ∀ {kind : ObjectKind} (handle : Handle kind),
      (after config front).Issues host operation handle → ¬ (after config front).IsLive handle
  unknown : ∀ front host operation back, script = front ++ (host, operation) :: back → ∀ id,
    (after config front).Accepts host operation id →
      (after config front).isConnected id = false

private theorem isConnected_eq_false_iff {server : Server} {id : ConnectionId} :
    server.isConnected id = false ↔ id ∉ server.connections.keys := by
  rw [isConnected, ← Bool.not_eq_true, Arena.contains_iff_mem_keys]

section Runs

variable {config : Config} {front middle back : Script} {host host' : Host}
  {operation operation' : Operation} {kind : ObjectKind}

/-- Between two handles of a connection that are given out, the first one at least is drawn. -/
theorem drawnAfter_lt_of_issues {first : Handle kind}
    (few : Script.accepted (front ++ (host, operation) :: middle) ≤ UInt32.size)
    (issues : (after config front).Issues host operation first) :
    drawnAfter config front first.connection <
      drawnAfter config (front ++ (host, operation) :: middle) first.connection := by
  rw [accepted_append] at few
  have numbered : (after config front).Numbered front.accepted (drawnAfter config front) :=
    numbered_after front (by omega)
  have one := issues.drawnBy_eq_one numbered.named
  have more := drawnAfter_le config (front ++ [(host, operation)]) middle first.connection
  rw [drawnAfter_concat, one, List.append_assoc] at more
  exact more

/-- **When a handle is given out again.** If the numbers of connections last, two handles that are
given out are the same exactly if they are of one connection and the number of handles that it drew
from one to the other fills its counter a whole number of times. -/
theorem issues_eq_iff {first second : Handle kind}
    (few : Script.accepted (front ++ (host, operation) :: middle) ≤ UInt32.size)
    (earlier : (after config front).Issues host operation first)
    (later : (after config (front ++ (host, operation) :: middle)).Issues host' operation'
      second) :
    first = second ↔ first.connection = second.connection ∧
      drawnAfter config (front ++ (host, operation) :: middle) first.connection % UInt32.size =
        drawnAfter config front first.connection % UInt32.size := by
  have fewer : front.accepted ≤ UInt32.size := by
    rw [accepted_append] at few
    omega
  have index := earlier.index_eq (numbered_after front fewer)
  have index' := later.index_eq (numbered_after _ few)
  rw [← UInt32.toNat_inj, UInt32.toNat_ofNat'] at index index'
  rw [← index]
  constructor
  · rintro rfl
    exact ⟨rfl, index'.symm⟩
  · rintro ⟨owner, around⟩
    rw [owner, ← index'] at around
    obtain ⟨connection, place⟩ := first
    obtain ⟨connection', place'⟩ := second
    cases owner
    have place_eq : place' = place := UInt32.toNat_inj.mp around
    rw [place_eq]

/-- **When a number of a connection is given out again.** -/
theorem accepts_eq_iff {first second : ConnectionId}
    (earlier : (after config front).Accepts host operation first)
    (later : (after config (front ++ (host, operation) :: middle)).Accepts host' operation'
      second) :
    first = second ↔
      Script.accepted (front ++ (host, operation) :: middle) % UInt32.size =
        front.accepted % UInt32.size := by
  have number := congrArg UInt32.toNat (nextConnection_after config front)
  have number' := congrArg UInt32.toNat
    (nextConnection_after config (front ++ (host, operation) :: middle))
  rw [UInt32.toNat_ofNat'] at number number'
  rw [earlier.eq.2, later.eq.2, ← number, ← number', UInt32.toNat_inj, ConnectionId.mk.injEq]
  exact eq_comm

/-- **Until a counter goes around, no handle is given out twice.** -/
theorem neverReused_of_inRange {script : Script}
    (range : (Server.start config).state.InRange script) : NeverReused config script where
  handles front host operation middle host' operation' back split kind first second earlier
      later := by
    have range' := (split ▸ range).of_cons
    have few := range'.of_append.connections
    intro same
    have around := ((issues_eq_iff few earlier later).mp same).2
    have more := drawnAfter_lt_of_issues few earlier
    have room := (ready_after range').rooms first.connection
    rw [same, later.drawnBy_eq_one (numbered_after _ few).named] at room
    rw [same] at around more
    rw [Nat.mod_eq_of_lt (by omega), Nat.mod_eq_of_lt (by omega)] at around
    omega
  connections front host operation middle host' operation' back split first second earlier
      later := by
    have range' := (split ▸ range).of_cons
    have room := (ready_after range').room
    intro same
    have around := (accepts_eq_iff earlier later).mp same
    obtain ⟨rfl, _⟩ := earlier.eq
    obtain ⟨rfl, _⟩ := later.eq
    have more : Script.accepted (front ++ (host, .connect) :: middle) =
        front.accepted + (1 + Script.accepted middle) :=
      accepted_append front ((host, .connect) :: middle)
    rw [more] at room around
    simp only [Operation.accepted] at room
    rw [Nat.mod_eq_of_lt (by omega), Nat.mod_eq_of_lt (by omega)] at around
    omega
  gone front middle back split kind handle live gone := by
    subst split
    have accounted := accounted_after _ range.of_append.of_append
    have drawn := accounted.drawn_of_isLive live
    have more := drawnAfter_le config front middle handle.connection
    exact not_isLive_of_gone range (Nat.lt_of_lt_of_le drawn more) gone
  disconnected front middle back split id live gone := by
    subst split
    rw [isConnected_eq_false_iff] at gone ⊢
    have listed := (Arena.contains_iff_mem_keys _ id).mp live
    have accounted := accounted_after _ range.of_append.of_append
    have number := accounted.below id listed
    refine not_isConnected_of_gone range ?_ gone
    rw [accepted_append]
    exact Nat.lt_add_right _ number
  fresh front host operation back split kind handle issues :=
    issues.not_isLive (ready_after (split ▸ range).of_cons)
  unknown front host operation back split id accepts := by
    have ready := ready_after (split ▸ range).of_cons
    obtain ⟨rfl, rfl⟩ := accepts.eq
    exact isConnected_eq_false_iff.mpr (ready.notMem ready.room)

/-- A handle is given out at one point of a script. -/
theorem NeverReused.once {script front' back' : Script} (never : NeverReused config script)
    {handle : Handle kind} (split : script = front ++ (host, operation) :: back)
    (split' : script = front' ++ (host', operation') :: back')
    (issues : (after config front).Issues host operation handle)
    (issues' : (after config front').Issues host' operation' handle) :
    operation = operation' := by
  rcases List.append_eq_append_iff.mp (split.symm.trans split') with
    ⟨middle, rfl, rest⟩ | ⟨middle, rfl, rest⟩
  · cases middle with
    | nil =>
      cases rest
      rfl
    | cons entry middle =>
      cases rest
      exact (never.handles front host operation middle host' operation' back' (by simp [split'])
        handle handle issues issues' rfl).elim
  · cases middle with
    | nil =>
      cases rest
      rfl
    | cons entry middle =>
      cases rest
      exact (never.handles front' host' operation' middle host operation back (by simp [split])
        handle handle issues' issues rfl).elim

/-- **When handles are reused.** After any number of operations, the numbers of two connections are
the same exactly if the clients accepted from one to the other fill the counter a whole number of
times. If the numbers of connections last, two handles of a kind are the same exactly if they are of
one connection and so do the handles that it drew in between. Until then nothing is reused. -/
theorem handles_reused_exactly (config : Config) (script : Script) :
    (∀ front host operation middle host' operation' back,
      script = front ++ (host, operation) :: middle ++ (host', operation') :: back →
      ∀ first second, (after config front).Accepts host operation first →
        (after config (front ++ (host, operation) :: middle)).Accepts host' operation' second →
        (first = second ↔
          Script.accepted (front ++ (host, operation) :: middle) % UInt32.size =
            front.accepted % UInt32.size)) ∧
    (script.accepted ≤ UInt32.size → ∀ front host operation middle host' operation' back,
      script = front ++ (host, operation) :: middle ++ (host', operation') :: back →
      ∀ {kind : ObjectKind} (first second : Handle kind),
        (after config front).Issues host operation first →
        (after config (front ++ (host, operation) :: middle)).Issues host' operation' second →
        (first = second ↔ first.connection = second.connection ∧
          drawnAfter config (front ++ (host, operation) :: middle) first.connection % UInt32.size =
            drawnAfter config front first.connection % UInt32.size)) ∧
    ((Server.start config).state.InRange script → NeverReused config script) := by
  refine ⟨?_, ?_, neverReused_of_inRange⟩
  · intro front host operation middle host' operation' back _ first second earlier later
    exact accepts_eq_iff earlier later
  · intro few front host operation middle host' operation' back split kind first second
      earlier later
    rw [split, accepted_append] at few
    exact issues_eq_iff (Nat.le_trans (Nat.le_add_right ..) few) earlier later

/-- While a client has few objects, none of them is ever taken for another. -/
theorem handles_reused_exactly_takenBack :
    (Server.start {}).state.InRange Script.takenBack ∧ NeverReused {} Script.takenBack := by
  have range : (Server.start {}).state.InRange Script.takenBack := inRange_of_length _ (by decide)
  exact ⟨range, (handles_reused_exactly {} Script.takenBack).2.2 range⟩

end Runs

section Around

variable {server : Server} {client : Connection}

/-- On a live connection, a surface is always created, under the next handle. -/
theorem issues_createSurface (host : Host) {id : ConnectionId} (version : UInt32)
    (live : server.connection? id = some client) :
    server.Issues host (.createSurface id version) (client.fresh .surface) where
  answered := by
    simp only [step, createSurface, onConnection, live]
    rfl
  created surface other := by cases other

/-- Asking for a frame of a surface that is gone draws a handle and does nothing else. -/
theorem connection?_next_frame (host : Host) {id : SurfaceId}
    (live : server.connection? id.connection = some client) (own : client.id = id.connection)
    (gone : client.surfaces.get? id = none) :
    (server.next host (.frame id)).connection? id.connection =
      some { client with nextIndex := client.nextIndex + 1 } := by
  have put : server.next host (.frame id) =
      server.putBack { client with nextIndex := client.nextIndex + 1 } := by
    simp only [next, step, frame, live, Connection.addCallback, Connection.draw, gone]
    rfl
  rw [put, connection?_putBack, if_pos own.symm, live]
  rfl

/-- Asking so many times draws as many handles and does nothing else. -/
theorem connection?_run_frame (host : Host) {id : SurfaceId}
    (live : server.connection? id.connection = some client) (own : client.id = id.connection)
    (gone : client.surfaces.get? id = none) (count : Nat) :
    (server.run (List.replicate count (host, .frame id))).connection? id.connection =
      some { client with nextIndex := client.nextIndex + UInt32.ofNat count } := by
  induction count generalizing server client with
  | zero =>
    have still : client.nextIndex + UInt32.ofNat 0 = client.nextIndex := UInt32.add_zero _
    rw [still]
    exact live
  | succ count ih =>
    have next := ih (connection?_next_frame host live own gone) own gone
    have moved : client.nextIndex + UInt32.ofNat (count + 1) =
        client.nextIndex + 1 + UInt32.ofNat count := by
      rw [Nat.add_comm, UInt32.ofNat_add, UInt32.add_assoc]
      rfl
    rw [moved]
    exact next

end Around

end Server

/-- A client creates two surfaces and destroys the second one. -/
def Script.givenUp : Script :=
  [.connect, .createSurface ⟨0⟩ 4, .createSurface ⟨0⟩ 4, .destroySurface ⟨⟨0⟩, 1⟩].map
    fun operation => (.withFile, operation)

/-- The client asks so many times for a frame of the surface that is gone, and creates a third
surface. -/
def Script.askedInVain (count : Nat) : Script :=
  givenUp ++ List.replicate count (.withFile, .frame ⟨⟨0⟩, 1⟩) ++
    [(.withFile, .createSurface ⟨0⟩ 4)]

/-- **One handle too many.** When the counter is back where it was, the third surface is given the
handle of the first one. -/
theorem Server.not_neverReused_askedInVain :
    ¬ NeverReused {} (Script.askedInVain (UInt32.size - 2)) := by
  intro never
  have first : (after {} [(.withFile, .connect)]).Issues .withFile (.createSurface ⟨0⟩ 4)
      (⟨⟨0⟩, 0⟩ : SurfaceId) := ⟨rfl, fun _ other => by cases other⟩
  obtain ⟨client, live, own, counter, gone⟩ : ∃ client,
      (after {} Script.givenUp).connection? ⟨0⟩ = some client ∧ client.id = ⟨0⟩ ∧
        client.nextIndex = 2 ∧ client.surfaces.get? ⟨⟨0⟩, 1⟩ = none :=
    ⟨_, rfl, rfl, rfl, rfl⟩
  have asked : (after {} (Script.givenUp ++
      List.replicate (UInt32.size - 2) (.withFile, .frame ⟨⟨0⟩, 1⟩))).connection? ⟨0⟩ =
        some { client with nextIndex := client.nextIndex + UInt32.ofNat (UInt32.size - 2) } := by
    rw [after, run_append]
    exact connection?_run_frame .withFile live own gone (UInt32.size - 2)
  have around : client.nextIndex + UInt32.ofNat (UInt32.size - 2) = 0 := by
    rw [counter]
    decide
  have second := issues_createSurface .withFile 4 asked
  rw [around, Connection.fresh, own] at second
  exact never.handles [(.withFile, .connect)] .withFile (.createSurface ⟨0⟩ 4)
    ((.withFile, .createSurface ⟨0⟩ 4) :: (.withFile, .destroySurface ⟨⟨0⟩, 1⟩) ::
      List.replicate (UInt32.size - 2) (.withFile, .frame ⟨⟨0⟩, 1⟩))
    .withFile (.createSurface ⟨0⟩ 4) [] rfl _ _ first second rfl

end DisplayServer
