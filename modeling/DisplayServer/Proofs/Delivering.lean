import DisplayServer.Proofs.Creating

/-! # Delivering events

What waits on the server after an operation is delivered through the maps of the frontend. The
entries and the objects that the events need are there by then (`Turn.Told`), so that each event is
told of. Most deliveries change nothing else (`Turn.Utters`); a buffer that cannot be read ends the
service of its client, and a callback that fires is spent.
-/

namespace DisplayServer

open Function (update update_self update_of_ne update_apply)
open Relation (ReflTransGen)
open Wire

namespace Server

variable (server : Server)

private theorem census_drained : server.drained.census = server.census :=
  census_congr fun id => by
    rw [connection?_drained]
    cases server.connection? id <;> rfl

private theorem isConnected_drained : server.drained.isConnected = server.isConnected := by
  funext id
  have same := congrArg Option.isSome (connection?_drained server id)
  rwa [Option.isSome_map] at same

variable {server}

/-- Where nothing is drained, nobody has events. -/
theorem isQuiet_of_drainEvents (distinct : server.connections.keys.Nodup)
    (none : server.drainEvents.1 = []) : server.IsQuiet := by
  intro id client live
  rw [drainEvents_eq distinct, List.flatMap_eq_nil_iff] at none
  simpa [eventsOf, live] using none id (Arena.mem_keys_of_get? live)

end Server

private theorem Frontend.ties_drained (frontend : Frontend) :
    Frontend.ties { frontend with server := frontend.server.drained } = frontend.ties := by
  rw [ties_server, Server.census_drained, Server.isConnected_drained]
  rfl

namespace Turn

variable {turn turn' : Turn} {id created : ObjectId}

variable (turn) in
/-- Through a live object of a client that is served everything gets through. -/
theorem send_eq {resource : Resource} (stands : turn.frontend.ties.stands id = some resource)
    (served : turn.frontend.isConnected id.client = true) (message : Message) :
    turn.send id message = { turn with
      sent := turn.sent ++ [⟨id.client, .object id.index, message⟩] } := by
  obtain ⟨object, found, alive, -⟩ := Frontend.stands_eq_some.mp stands
  simp [send, say, Frontend.isAlive, found, alive, served]

/-- The delivery of an event comes to some messages and nothing else but logging. -/
def Utters (frontend : Frontend) (event : Event) (said : List Delivery) : Prop :=
  ∀ turn : Turn, turn.frontend = frontend → ∃ log, (∀ message ∈ log, message.isLapse = false) ∧
    turn.deliver event = { turn with sent := turn.sent ++ said, log := turn.log ++ log }

/-- Events that are uttered one by one are delivered in order, and no lapse is logged. -/
theorem foldl_deliver {frontend : Frontend} {events : List (ConnectionId × Event)}
    {said : List (List Delivery)}
    (utters : List.Forall₂ (fun event => Utters frontend event.2) events said)
    (turn : Turn) (here : turn.frontend = frontend) :
    ∃ log, (∀ message ∈ log, message.isLapse = false) ∧
      events.foldl (fun turn event => turn.deliver event.2) turn =
        { turn with sent := turn.sent ++ said.flatten, log := turn.log ++ log } := by
  induction utters generalizing turn with
  | nil => exact ⟨[], nofun, by simp⟩
  | @cons event said' _ _ first _ ih =>
    obtain ⟨log, clean, delivered⟩ := first turn here
    obtain ⟨log', clean', rest⟩ := ih (turn.deliver event.2) (by rw [delivered]; exact here)
    refine ⟨log ++ log', fun message listed =>
      (List.mem_append.mp listed).elim (clean message) (clean' message), ?_⟩
    rw [List.foldl_cons, rest, delivered]
    simp

/-- A turn in which all events of the server are taken. -/
def taken (turn : Turn) : Turn :=
  turn.modify fun frontend => { frontend with server := frontend.server.drained }

/-- To flush is to deliver what is drained, event by event. -/
theorem flush_eq : turn.flush = turn.frontend.server.drainEvents.1.foldl
    (fun turn event => turn.deliver event.2) turn.taken :=
  rfl

/-- To take the events from the server touches no ties. -/
theorem ties_taken : turn.taken.frontend.ties = turn.frontend.ties :=
  turn.frontend.ties_drained

variable {frontend : Frontend}

/-- A format is told to the object that listens, if the wire has a number for it. -/
theorem utters_format {binding : BindingId} {format : PixelFormat} {resource : Resource}
    (told : frontend.formatListeners.get? binding = some id)
    (stands : frontend.ties.stands id = some resource)
    (served : frontend.isConnected id.client = true) :
    Utters frontend (.format binding format) (((numberOf? format).map fun number =>
      (⟨id.client, .object id.index, .format number⟩ : Delivery)).toList) := by
  rintro turn rfl
  simp only [deliver, told]
  cases numberOf? format with
  | none => exact ⟨[.formatNotOnWire], by simp [LogMessage.isLapse], by simp [note]⟩
  | some number => exact ⟨[], by simp, by simp [send_eq _ stands served]⟩

variable (frontend) in
/-- A release is told to the object of the buffer. -/
theorem utters_released {buffer : BufferId} {resource : Resource}
    (told : frontend.buffers.get? buffer = some id)
    (stands : frontend.ties.stands id = some resource)
    (served : frontend.isConnected id.client = true) :
    Utters frontend (.bufferReleased buffer) [⟨id.client, .object id.index, .release⟩] := by
  rintro turn rfl
  exact ⟨[], nofun, by simp [deliver, told, send_eq _ stands served]⟩

variable (frontend) in
/-- A configure is told to the toplevel and then to its window surface. -/
theorem utters_configure {window : WindowSurfaceId} {toplevel : ToplevelId} {size : Size}
    {serial : Serial} {objects : ToplevelObjects} {resource resource' : Resource}
    (told : frontend.toplevels.get? toplevel = some objects)
    (stands : frontend.ties.stands objects.toplevel = some resource)
    (served : frontend.isConnected objects.toplevel.client = true)
    (stands' : frontend.ties.stands objects.windowSurface = some resource')
    (served' : frontend.isConnected objects.windowSurface.client = true) :
    Utters frontend (.configure window toplevel size serial)
      [⟨objects.toplevel.client, .object objects.toplevel.index, .configureToplevel size⟩,
       ⟨objects.windowSurface.client, .object objects.windowSurface.index,
        .configureSurface serial.value⟩] := by
  rintro turn rfl
  refine ⟨[], nofun, ?_⟩
  simp only [deliver, told]
  rw [send_eq _ stands served]
  refine (send_eq { turn with sent := turn.sent ++ _ } stands' served' _).trans ?_
  simp

/-- What is said when a buffer cannot be read. -/
def unreadableThrough (id : ObjectId) : Delivery :=
  ⟨id.client, .object id.index, .error .invalidDescriptor "Error accessing the buffer contents."⟩

variable (turn) in
/-- A client is told through the object of a buffer that it cannot be read, and is not served any
more. -/
theorem deliver_failed {buffer : BufferId} {resource : Resource}
    (told : turn.frontend.buffers.get? buffer = some id)
    (stands : turn.frontend.ties.stands id = some resource)
    (served : turn.frontend.isConnected id.client = true) :
    turn.deliver (.bufferAccessFailed buffer) =
      Turn.drop { turn with sent := turn.sent ++ [unreadableThrough id] } id.client := by
  simp only [deliver, told]
  exact congrArg (Turn.drop · id.client) (send_eq turn stands served _)

/-- What is said of a buffer that may be handed back. -/
theorem exists_said_released {before taken : Frontend} (shown : taken.ties = before.ties)
    {client : ClientId} {connection : ConnectionId} (served : before.isConnected client = true)
    (owned : before.ties.owner client = some connection) {released : Option BufferId}
    (object : ∀ buffer, released = some buffer → ∃ object pool,
      before.ties.stands object = some (.buffer buffer pool) ∧
        before.ties.buffers buffer = some object ∧ object.client = client) :
    ∃ said : List (List Delivery),
      List.Forall₂ (fun event => Utters taken event.2)
        (released.toList.map fun buffer => (connection, .bufferReleased buffer)) said ∧
      (∀ after : Frontend, after.ties.buffers = before.ties.buffers →
        after.ties.stands = before.ties.stands → List.Forall₂ (Told before after)
          (released.toList.map fun buffer => (connection, .bufferReleased buffer)) said) ∧
      ∀ delivery ∈ said.flatten, before.isConnected delivery.client = true := by
  cases released with
  | none => exact ⟨[], .nil, fun _ _ _ => .nil, nofun⟩
  | some buffer =>
    obtain ⟨object, pool, stands, listed, same⟩ := object buffer rfl
    have here : taken.isConnected object.client = true :=
      (congrFun (congrArg Ties.served shown) object.client).trans (same ▸ served)
    refine ⟨[[⟨object.client, .object object.index, .release⟩]], .cons ?_ .nil, ?_,
      by simp [same, served]⟩
    · exact utters_released taken ((congrFun (congrArg Ties.buffers shown) buffer).trans listed)
        ((congrFun (congrArg Ties.stands shown) object).trans stands) here
    · intro after buffers alive
      exact .cons ⟨.released ((congrFun buffers buffer).trans listed)
        ((congrFun alive object).trans stands), by simp [same, owned]⟩ .nil

/-- A client that is served is told of everything. -/
theorem tells_of_served {events : List (ConnectionId × Event)} (said : List (List Delivery))
    (told : List.Forall₂ (Told turn.frontend turn'.frontend) events said)
    (served : ∀ delivery ∈ said.flatten, turn.frontend.isConnected delivery.client = true)
    (sent : turn'.sent = turn.sent ++ said.flatten) : turn.Tells events turn' := by
  refine ⟨_, sent, ?_⟩
  split
  · rename_i none
    subst none
    cases told
    exact nofun
  · exact ⟨said, told, (List.filter_eq_self.mpr served).symm⟩

/-- What waits in a turn comes to some messages, all of them to clients that are served. -/
structure Delivers (before : Frontend) (turn : Turn) (said : List (List Delivery)) : Prop where
  utters : List.Forall₂ (fun event => Utters turn.taken.frontend event.2)
    turn.frontend.server.drainEvents.1 said
  told : List.Forall₂ (Told before turn.taken.frontend) turn.frontend.server.drainEvents.1 said
  served : ∀ delivery ∈ said.flatten, before.isConnected delivery.client = true

/-- The formats of a binding are told through its object. -/
theorem delivers_formats (before : Frontend) (turn : Turn) {connection : ConnectionId}
    {binding : BindingId} {formats : List PixelFormat} {resource : Resource}
    (events : turn.frontend.server.drainEvents.1 =
      formats.map fun format => (connection, .format binding format))
    (listens : turn.frontend.formatListeners.get? binding = some id)
    (bound : turn.frontend.bindings.get? id = some binding)
    (stands : turn.frontend.ties.stands id = some resource)
    (served : turn.frontend.isConnected id.client = true)
    (before_served : before.isConnected id.client = true)
    (owned : before.ties.owner id.client = some connection) :
    ∃ said, Delivers before turn said := by
  have stands : turn.taken.frontend.ties.stands id = some resource := ties_taken.symm ▸ stands
  refine ⟨formats.map fun format => (((numberOf? format).map fun number =>
    (⟨id.client, .object id.index, .format number⟩ : Delivery)).toList), ?_, ?_, ?_⟩
  · rw [events, List.forall₂_map_left_iff, List.forall₂_map_right_iff, List.forall₂_same]
    exact fun format _ => utters_format listens stands served
  · rw [events, List.forall₂_map_left_iff, List.forall₂_map_right_iff, List.forall₂_same]
    intro format _
    cases number : numberOf? format with
    | none => exact ⟨.unspoken number, nofun⟩
    | some number' => exact ⟨.format listens bound number, by simpa using owned⟩
  · simp only [List.mem_flatten, List.mem_map]
    rintro delivery ⟨_, ⟨format, -, rfl⟩, listed⟩
    cases number : numberOf? format <;> simp_all

/-- The first configuration of a toplevel is told through its two objects. -/
theorem delivers_configure (before : Frontend) (turn : Turn) {window : WindowSurfaceId}
    {toplevel : ToplevelId} {size : Size} {serial : Serial} {shell : ObjectIndex}
    (events : turn.frontend.server.drainEvents.1 =
      [(window.connection, .configure window toplevel size serial)])
    (told : turn.frontend.toplevels.get? toplevel = some ⟨created, id⟩)
    (stands : turn.frontend.ties.stands created = some (.toplevel toplevel))
    (stands' : turn.frontend.ties.stands id = some (.windowSurface window shell))
    (same : created.client = id.client) (served : turn.frontend.isConnected id.client = true)
    (before_served : before.isConnected id.client = true)
    (owned : before.ties.owner id.client = some window.connection) :
    ∃ said, Delivers before turn said := by
  have stands : turn.taken.frontend.ties.stands created = some (.toplevel toplevel) :=
    ties_taken.symm ▸ stands
  have stands' : turn.taken.frontend.ties.stands id = some (.windowSurface window shell) :=
    ties_taken.symm ▸ stands'
  refine ⟨[[⟨created.client, .object created.index, .configureToplevel size⟩,
    ⟨id.client, .object id.index, .configureSurface serial.value⟩]], ?_, ?_, ?_⟩
  · rw [events]
    exact .cons (utters_configure turn.taken.frontend told stands (same ▸ served)
      stands' served) .nil
  · rw [events]
    have told : turn.taken.frontend.toplevels.get? toplevel = some ⟨created, id⟩ := told
    exact .cons ⟨.configured told stands stands', by simp [same, owned]⟩ .nil
  · simp [same, before_served]

section Flushing

variable {config : Config} {accepted : Nat} {drawn : ConnectionId → Nat} {host : Host}
  {operation : Operation}

/-- A turn with an operation after which everything is delivered. -/
theorem Delivers.serves {acted : Turn} {said : List (List Delivery)}
    (delivers : Delivers turn.frontend acted said) (host : Host) (operation : Operation)
    (server : acted.frontend.server = turn.frontend.server.next host operation)
    (moves : ReflTransGen Ties.Move turn.frontend.ties acted.frontend.ties)
    (distinct : acted.frontend.bindings.keys.Nodup) (sent : acted.sent = turn.sent) :
    turn.Serves host operation acted.flush ∧
      acted.flush.frontend.ties = acted.frontend.ties ∧ acted.LogsClean acted.flush := by
  obtain ⟨log, clean, delivered⟩ := foldl_deliver delivers.utters acted.taken rfl
  have ties : acted.flush.frontend.ties = acted.frontend.ties := by
    rw [flush_eq, delivered]
    exact ties_taken
  refine ⟨⟨?_, ties ▸ moves, ?_, ?_⟩, ties, ?_⟩
  · rw [flush_eq, delivered, ← server]
    rfl
  · rw [flush_eq, delivered]
    exact fun _ => distinct
  · rw [← server]
    refine tells_of_served said ?_ delivers.served ?_
    · rw [flush_eq, delivered]
      exact delivers.told
    · rw [flush_eq, delivered, ← sent]
      rfl
  · intro message logged lapse
    rw [flush_eq, delivered] at logged
    refine (List.mem_append.mp logged).resolve_right fun more => ?_
    rw [clean message more] at lapse
    cases lapse

/-- To refuse a request on a surface takes no server. -/
theorem minds_refuseOnSurface (cause : SurfaceError) :
    turn.Minds (turn.refuseOnSurface id cause) := by
  cases cause <;> first | exact minds_postError .. | exact minds_note _

private theorem sent_drop (client : ClientId) : (turn.drop client).sent = turn.sent := by
  unfold drop
  split
  · rfl
  · split <;> rfl

/-- Where a buffer that cannot be read comes last, everything is told and the client of the buffer
is dropped. -/
theorem flush_failed {acted : Turn} {events : List (ConnectionId × Event)}
    {said : List (List Delivery)} {connection : ConnectionId} {buffer : BufferId}
    {resource : Resource}
    (queued : acted.frontend.server.drainEvents.1 =
      events ++ [(connection, .bufferAccessFailed buffer)])
    (utters : List.Forall₂ (fun event => Utters acted.taken.frontend event.2) events said)
    (told : acted.taken.frontend.buffers.get? buffer = some id)
    (stands : acted.taken.frontend.ties.stands id = some resource)
    (served : acted.taken.frontend.isConnected id.client = true) :
    ∃ last : Turn, acted.flush = last.drop id.client ∧ last.frontend = acted.taken.frontend ∧
      last.sent = acted.sent ++ said.flatten ++ [unreadableThrough id] := by
  obtain ⟨log, -, delivered⟩ := foldl_deliver utters acted.taken rfl
  refine ⟨{ acted.taken with
    sent := acted.taken.sent ++ said.flatten ++ [unreadableThrough id]
    log := acted.taken.log ++ log }, ?_, rfl, rfl⟩
  rw [flush_eq, queued, List.foldl_append, delivered]
  exact deliver_failed { acted.taken with
    sent := acted.taken.sent ++ said.flatten
    log := acted.taken.log ++ log } told stands served

/-- A turn with an operation that ends with a buffer that cannot be read. -/
theorem serves_of_failed {acted : Turn} {events : List (ConnectionId × Event)}
    {said : List (List Delivery)} {connection : ConnectionId} {buffer : BufferId} {pool : PoolId}
    (queued : acted.frontend.server.drainEvents.1 =
      events ++ [(connection, .bufferAccessFailed buffer)])
    (utters : List.Forall₂ (fun event => Utters acted.taken.frontend event.2) events said)
    (told : ∀ after : Frontend, after.ties.buffers = turn.frontend.ties.buffers →
      after.ties.stands = turn.frontend.ties.stands →
        List.Forall₂ (Told turn.frontend after) events said)
    (within : ∀ delivery ∈ said.flatten, turn.frontend.isConnected delivery.client = true)
    (server : acted.frontend.server = turn.frontend.server.next host operation)
    (ties : acted.frontend.ties = turn.frontend.ties)
    (bindings : acted.frontend.bindings = turn.frontend.bindings) (sent : acted.sent = turn.sent)
    (listed : turn.frontend.ties.buffers buffer = some id)
    (stands : turn.frontend.ties.stands id = some (.buffer buffer pool))
    (served : turn.frontend.isConnected id.client = true)
    (owned : turn.frontend.ties.owner id.client = some connection) :
    turn.Serves host operation acted.flush := by
  have shown : acted.taken.frontend.ties = turn.frontend.ties := ties_taken.trans ties
  obtain ⟨last, flushed, left, added⟩ := flush_failed queued utters
    ((congrFun (congrArg Ties.buffers shown) buffer).trans listed)
    ((congrFun (congrArg Ties.stands shown) id).trans stands)
    ((congrFun (congrArg Ties.served shown) id.client).trans served)
  rw [flushed]
  have drops := minds_drop last id.client
  have dropped := ties_drop last id.client
  have buffers := (congrArg Ties.buffers dropped).trans (left ▸ congrArg Ties.buffers shown)
  have alive := (congrArg Ties.stands dropped).trans (left ▸ congrArg Ties.stands shown)
  constructor
  · rw [drops.server, left, ← server]
    rfl
  · rw [← shown, ← left]
    exact drops.moves
  · refine fun distinct => drops.distinct ?_
    rw [left]
    exact bindings.symm ▸ distinct
  · rw [← server, queued]
    refine tells_of_served (said ++ [[unreadableThrough id]]) ?_ ?_ ?_
    · exact List.rel_append (told _ buffers alive) (.cons ⟨.failed
        ((congrFun buffers buffer).trans listed) ((congrFun alive id).trans stands),
        by simp [unreadableThrough, owned]⟩ .nil)
    · intro delivery listed
      rw [List.flatten_append, List.mem_append] at listed
      refine listed.elim (within delivery) fun alone => ?_
      rw [List.mem_singleton.mp alone]
      exact served
    · rw [sent_drop, added, sent]
      simp

variable (standing : turn.frontend.Standing config accepted drawn)
  (served : turn.frontend.isConnected id.client = true)

include standing served

/-- A fresh object of a capability gets a binding. -/
theorem serves_bindCapability {capability : Capability} {version : UInt32}
    {connection : ConnectionId} (known : Capability.ofName? capability.name = some capability)
    (stands : turn.frontend.ties.stands id = some (.ofCapability capability.kind))
    (unbound : turn.frontend.ties.bindings id = none)
    (owned : turn.frontend.ties.owner id.client = some connection)
    (rooms : ∀ client, drawn client + turn.frontend.server.drawnBy host
      (.bind connection capability.name version) client ≤ UInt32.size) :
    turn.Serves host (.bind connection capability.name version)
      (turn.bindCapability id capability version (some connection)) := by
  have named := standing.server.named
  have nodup := Arena.nodup_keys_insert standing.distinct
  simp only [bindCapability]
  cases answer : (turn.frontend.server.bind connection capability.name version).answer with
  | error cause =>
    exact .of_refused standing rfl rfl (Server.state_bind_of_error answer) (minds_note _)
  | ok binding =>
    have fresh := standing.server.not_holds (.bind connection capability.name version) binding rfl
      rooms (Server.issues_of_answer rfl answer (by decide))
    have grants := Server.grants_bind named answer
    have absorbed := ties_absorb host (.bind connection capability.name version)
      (turn.frontend.server.bind connection capability.name version) named rfl rfl
    rw [grants.census] at absorbed
    have entered := Frontend.ties_insertBinding absorbed id binding
    have moves := Ties.Move.bind binding stands
      (by cases capability.kind <;> rfl) unbound (by rw [owned, grants.own])
      (grants.own ▸ grants.live) (Bool.eq_false_iff.mpr fresh)
    have events := standing.server.drainEvents_bind standing.quiet known answer
    have quiet (none : (turn.frontend.server.bind connection capability.name
        version).state.drainEvents.1 = []) :
        turn.Serves host (.bind connection capability.name version)
          ((turn.absorb (turn.frontend.server.bind connection capability.name version)).modify
            fun frontend => { frontend with bindings := frontend.bindings.insert id binding }) :=
      .of_quiet standing rfl
        (Server.isQuiet_of_drainEvents (keys_next standing rfl) none) rfl
        ⟨.single (entered ▸ moves _ fun _ _ => .inl), fun _ => nodup id binding,
          [], (List.append_nil _).symm, by simp⟩
    cases kind : capability.kind with
    | compositor | windowShell =>
      rw [kind] at events
      exact quiet events
    | sharedMemory =>
      rw [kind] at events
      have listening := Frontend.ties_insertListener entered binding id
      have shown := congrFun (congrArg Ties.stands listening) id
      have heard : ∀ other listener,
          update turn.frontend.ties.listeners binding (some id) other = some listener →
            turn.frontend.ties.listeners other = some listener ∨
              (other = binding ∧ listener = id) := by
        intro other listener hears
        rw [update_apply] at hears
        split at hears
        · rename_i same
          exact .inr ⟨same, (Option.some.inj hears).symm⟩
        · exact .inl hears
      obtain ⟨said, delivers⟩ := delivers_formats turn.frontend
        (((turn.absorb (turn.frontend.server.bind connection capability.name
          version)).modify fun frontend =>
            { frontend with bindings := frontend.bindings.insert id binding }).modify
              fun frontend => { frontend with
                formatListeners := frontend.formatListeners.insert binding id })
        events ((Arena.get?_insert ..).trans (if_pos rfl))
        ((Arena.get?_insert ..).trans (if_pos rfl)) (shown.trans stands) served served owned
      have move := (congrArg turn.frontend.ties.Move listening).mpr (moves _ heard)
      exact (delivers.serves host _ rfl (.single move) (nodup id binding) rfl).1

/-- A fresh toplevel is configured right away. -/
theorem serves_createToplevel {window : WindowSurfaceId} {shell : ObjectIndex}
    {interface : Interface}
    (stands : turn.frontend.ties.stands id = some (.windowSurface window shell))
    (same : created.client = id.client)
    (inert : turn.frontend.ties.stands created = some (.inert interface)) :
    turn.Serves host (.getToplevel window) (turn.createToplevel id created window shell) ∧
      turn.Settles (turn.createToplevel id created window shell) created := by
  have named := standing.server.named
  have clean : turn.LogsClean (turn.absorb (turn.frontend.server.getToplevel window)) :=
    logsClean_absorb turn (Outcome.isClean_ofAttempt _ (by simp [LogMessage.isLapse]))
  simp only [createToplevel]
  cases answer : (turn.frontend.server.getToplevel window).answer with
  | error cause =>
    have refused := Outcome.state_of_refused answer
    rcases Server.cause_getToplevel answer with rfl | rfl <;>
      exact ⟨.of_refused standing rfl rfl refused (minds_postError ..),
        settles_postError stands served same clean⟩
  | ok toplevel =>
    have grants := Server.grants_getToplevel named answer
    have granted := ties_granted host (.getToplevel window)
      (turn.frontend.server.getToplevel window) named rfl rfl grants inert
      (.toplevel toplevel)
    have entered := Frontend.ties_insertToplevel granted toplevel ⟨created, id⟩
    have holder := standing.tied.windows.owned id window shell stands
    have move := Ties.Move.openToplevel toplevel window id inert (by rw [same, holder, grants.own])
      (grants.own ▸ grants.live)
    have other : id ≠ created := by
      rintro rfl
      cases stands.symm.trans inert
    have shown := congrArg Ties.stands entered
    have new := (congrFun shown created).trans (update_self ..)
    have old := ((congrFun shown id).trans (update_of_ne other ..)).trans stands
    obtain ⟨size, serial, events⟩ := standing.server.drainEvents_getToplevel standing.quiet answer
    obtain ⟨said, delivers⟩ := delivers_configure turn.frontend
      ((((turn.absorb (turn.frontend.server.getToplevel window)).establish created
        (.toplevel toplevel)).modify fun frontend =>
          { frontend with toplevels := frontend.toplevels.insert toplevel ⟨created, id⟩ }).notify
            (.newToplevel toplevel))
      events ((Arena.get?_insert ..).trans (if_pos rfl)) new old same
      ((congrFun (congrArg Ties.served entered) id.client).trans served) served holder
    have move := (congrArg turn.frontend.ties.Move entered).mpr move
    obtain ⟨serves, kept, quiet⟩ := delivers.serves host
      (.getToplevel window) rfl (.single move) standing.distinct rfl
    exact ⟨serves, .inl ⟨_, (congrFun (congrArg Ties.stands kept) created).trans new, by simp⟩,
      fun message logged lapse => clean message (quiet message logged lapse) lapse⟩

/-- A live buffer of a client that is served has an object, which is told of it. -/
theorem buffer_object {buffer : BufferId}
    (owned : turn.frontend.ties.owner id.client = some buffer.connection)
    (live : turn.frontend.server.census.buffer buffer ≠ none) :
    ∃ object pool, turn.frontend.ties.stands object = some (.buffer buffer pool) ∧
      turn.frontend.ties.buffers buffer = some object ∧ object.client = id.client := by
  obtain ⟨pool, lies⟩ := Option.ne_none_iff_exists'.mp live
  obtain ⟨object, stands⟩ := standing.tied.buffers.held buffer pool lies
  have here := (standing.tied.buffers.owned object buffer pool stands).1
  have alive := (standing.tied.clients.live _ _ served owned).1
  exact ⟨object, pool, stands, (standing.tied.buffers.backed object buffer pool stands alive).2.1,
    standing.tied.clients.single _ _ _ here owned⟩

/-- A commit may hand a buffer back, and find a buffer that cannot be read. -/
theorem serves_commit {surface : SurfaceId}
    (stands : turn.frontend.ties.stands id = some (.surface surface)) :
    turn.Serves host (.commit surface) (turn.commit host id surface) := by
  simp only [commit]
  cases answer : (turn.frontend.server.commit host surface).answer with
  | error cause =>
    exact .of_refused standing rfl rfl (Server.state_commit_of_error answer)
      (minds_refuseOnSurface cause)
  | ok =>
    obtain ⟨acted, made⟩ : ∃ acted : Turn, acted = (turn.absorb (turn.frontend.server.commit host
      surface)).notify (.commit surface) := ⟨_, rfl⟩
    change turn.Serves host _ (Turn.flush _)
    rw [← made]
    have server : acted.frontend.server = turn.frontend.server.next host (.commit surface) := by
      rw [made]
      rfl
    have ties : acted.frontend.ties = turn.frontend.ties := by
      have absorbed := ties_absorb host (.commit surface)
        (turn.frontend.server.commit host surface) standing.server.named rfl rfl
      have calm : (turn.frontend.server.next host (.commit surface)).census =
          turn.frontend.server.census :=
        Server.census_next_of_calm standing.server.named host rfl
      rw [made]
      exact absorbed.trans (congrArg (fun census => { turn.frontend.ties with toCensus := census })
        calm)
    have holder := standing.tied.surfaces.owned id surface stands
    obtain ⟨released, failed, events, own⟩ := standing.server.drainEvents_commit standing.quiet
      answer
    have object (buffer : BufferId) (queued : released = some buffer ∨ failed = some buffer) :
        ∃ object pool, turn.frontend.ties.stands object = some (.buffer buffer pool) ∧
          turn.frontend.ties.buffers buffer = some object ∧ object.client = id.client :=
      buffer_object standing served (by rw [holder, (own buffer queued).1]) (own buffer queued).2
    have shown : acted.taken.frontend.ties = turn.frontend.ties := ties_taken.trans ties
    have events : acted.frontend.server.drainEvents.1 = (released.toList.map Event.bufferReleased ++
        failed.toList.map Event.bufferAccessFailed).map fun event =>
          (surface.connection, event) := by
      rw [server]
      exact events
    obtain ⟨said, utters, told, within⟩ := exists_said_released shown served holder
      fun buffer handed => object buffer (.inl handed)
    cases failed with
    | none =>
      rw [Option.toList_none, List.map_nil, List.append_nil, List.map_map] at events
      have delivers : Delivers turn.frontend acted said := ⟨events ▸ utters,
        events ▸ told _ (congrArg Ties.buffers shown) (congrArg Ties.stands shown), within⟩
      exact (delivers.serves host _ server (ties ▸ .refl) (by rw [made]; exact standing.distinct)
        (by rw [made]; rfl)).1
    | some buffer =>
      obtain ⟨object, pool, stands', listed, same⟩ := object buffer (.inr rfl)
      rw [Option.toList_some, List.map_append, List.map_map, List.map_singleton] at events
      exact serves_of_failed events utters told within server ties (by rw [made]; rfl)
        (by rw [made]; rfl) listed stands' (same ▸ served) (same ▸ holder)

end Flushing

/-! ### Presentation -/

section Presenting

/-- What is said when a callback fires. -/
def doneThrough (time : UInt32) (id : ObjectId) : Delivery :=
  ⟨id.client, .object id.index, .done time⟩

/-- A callback that fires is spent, and so is its object. Its client is told if it is served. -/
theorem deliver_fired {callback : CallbackId} (time : UInt32)
    (entered : turn.frontend.callbacks.get? callback = some id)
    (kept : turn.frontend.isConnected id.client = true →
      turn.frontend.ties.stands id = some .callback) :
    (turn.deliver (.frameDone callback time)).frontend.ties = { turn.frontend.ties with
        stands := update turn.frontend.ties.stands id none
        callbacks := update turn.frontend.ties.callbacks callback none } ∧
      (turn.deliver (.frameDone callback time)).frontend.server = turn.frontend.server ∧
      (turn.deliver (.frameDone callback time)).frontend.bindings = turn.frontend.bindings ∧
      (turn.deliver (.frameDone callback time)).sent = turn.sent ++ [doneThrough time id].filter
        fun delivery => turn.frontend.isConnected delivery.client := by
  have erased := Frontend.ties_eraseCallback (rfl : turn.frontend.ties = _) callback
  have expired := Frontend.ties_expire { turn.frontend with
    callbacks := turn.frontend.callbacks.erase callback } id
  rw [erased] at expired
  simp only [deliver, entered]
  cases served : turn.frontend.isConnected id.client with
  | true =>
    have sends := send_eq (turn.modify fun frontend =>
        { frontend with callbacks := frontend.callbacks.erase callback })
      ((congrFun (congrArg Ties.stands erased) id).trans (kept served)) served (.done time)
    rw [sends]
    refine ⟨expired, rfl, rfl, ?_⟩
    simp [doneThrough, served, expire, modify]
  | false =>
    have mute : (turn.modify fun frontend =>
        { frontend with callbacks := frontend.callbacks.erase callback }).send id (.done time) =
        turn.modify fun frontend =>
          { frontend with callbacks := frontend.callbacks.erase callback } := by
      have unserved : (turn.modify fun frontend => { frontend with
        callbacks := frontend.callbacks.erase callback }).frontend.isConnected id.client = false :=
        served
      simp [send, say, unserved]
    rw [mute]
    refine ⟨expired, rfl, rfl, ?_⟩
    simp [doneThrough, served, expire, modify]

variable (turn) in
/-- Callbacks that fire one after the other are all spent. -/
theorem foldl_fired (time : UInt32) {due : List (ConnectionId × CallbackId)}
    (distinct : (due.map Prod.snd).Nodup)
    (kept : ∀ fired ∈ due, ∃ id, turn.frontend.ties.callbacks fired.2 = some id ∧
      (turn.frontend.ties.served id.client = true → turn.frontend.ties.stands id = some .callback))
    (single : ∀ callback other id, turn.frontend.ties.callbacks callback = some id →
      turn.frontend.ties.callbacks other = some id → callback = other) :
    (due.foldl (fun turn fired => turn.deliver (.frameDone fired.2 time)) turn).frontend.ties =
        { turn.frontend.ties with
          stands := fun id =>
            if due.any fun fired => decide (turn.frontend.ties.callbacks fired.2 = some id) then
              none
            else turn.frontend.ties.stands id
          callbacks := fun callback =>
            if callback ∈ due.map Prod.snd then none else turn.frontend.ties.callbacks callback } ∧
      (due.foldl (fun turn fired => turn.deliver (.frameDone fired.2 time)) turn).frontend.server =
        turn.frontend.server ∧
      (due.foldl (fun turn fired => turn.deliver (.frameDone fired.2 time))
        turn).frontend.bindings = turn.frontend.bindings ∧
      (due.foldl (fun turn fired => turn.deliver (.frameDone fired.2 time)) turn).sent =
        turn.sent ++ (due.flatMap fun fired =>
          ((turn.frontend.ties.callbacks fired.2).map (doneThrough time)).toList).filter
            fun delivery => turn.frontend.ties.served delivery.client := by
  induction due generalizing turn with
  | nil => simp
  | cons fired rest ih =>
    obtain ⟨id, entered, alive⟩ := kept fired (List.mem_cons_self ..)
    obtain ⟨ties, server, bindings, sent⟩ := deliver_fired time entered alive
    obtain ⟨apart, distinct⟩ := List.nodup_cons.mp distinct
    have others (other : ConnectionId × CallbackId) (listed : other ∈ rest) :
        other.2 ≠ fired.2 := by
      rintro same
      exact apart (same ▸ List.mem_map_of_mem listed)
    obtain ⟨ties', server', bindings', sent'⟩ := ih (turn.deliver (.frameDone fired.2 time))
      distinct (by
        intro other listed
        obtain ⟨id', entered', alive'⟩ := kept other (List.mem_cons_of_mem _ listed)
        refine ⟨id', ?_⟩
        rw [ties]
        refine ⟨(update_of_ne (others other listed) ..).trans entered', fun served => ?_⟩
        refine (update_of_ne ?_ ..).trans (alive' served)
        rintro rfl
        exact others other listed (single _ _ _ entered' entered)) (by
        rw [ties]
        grind)
    have same (other : ConnectionId × CallbackId) (listed : other ∈ rest) :
        (turn.deliver (.frameDone fired.2 time)).frontend.ties.callbacks other.2 =
          turn.frontend.ties.callbacks other.2 := by
      rw [ties]
      exact update_of_ne (others other listed) ..
    rw [List.foldl_cons]
    refine ⟨?_, server'.trans server, bindings'.trans bindings, ?_⟩
    · have spent (id' : ObjectId) : (rest.any fun other => decide ((turn.deliver
          (.frameDone fired.2 time)).frontend.ties.callbacks other.2 = some id')) =
            rest.any fun other => decide (turn.frontend.ties.callbacks other.2 = some id') := by
        rw [Bool.eq_iff_iff]
        simp only [List.any_eq_true, decide_eq_true_eq]
        exact exists_congr fun other => and_congr_right fun listed => by rw [same other listed]
      simp only [ties', spent]
      simp only [ties, Ties.mk.injEq, true_and, and_true]
      refine ⟨?_, ?_⟩ <;> funext key
      · simp only [List.any_cons, entered, update_apply]
        grind
      · simp only [List.map_cons, List.mem_cons, update_apply]
        grind
    · rw [sent', sent, List.append_assoc, List.flatMap_cons, List.filter_append, entered,
        ties]
      congr 2
      refine congrArg (List.filter _) (List.flatMap_congr fun other listed => ?_)
      rw [← same other listed, ties]

section Due

variable {config : Config} {accepted : Nat} {drawn : ConnectionId → Nat} {host : Host}
  (standing : turn.frontend.Standing config accepted drawn)

include standing

/-- A callback that is due has an object, through which its client is told if it is served. -/
theorem due_object {due : ConnectionId × CallbackId}
    (listed : due ∈ turn.frontend.server.dueCallbacks) :
    ∃ id, turn.frontend.ties.callbacks due.2 = some id ∧
      turn.frontend.ties.owner id.client = some due.1 ∧
      (turn.frontend.ties.served id.client = true →
        turn.frontend.ties.stands id = some .callback) := by
  obtain ⟨surface, waiting, live, waits, here⟩ := standing.server.waits_of_due listed
  obtain ⟨id, entered⟩ := Option.ne_none_iff_exists'.mp
    (standing.tied.callbacks.entered surface waiting live due.2 waits)
  have own := standing.tied.callbacks.own surface waiting live due.2 waits
  exact ⟨id, entered, (standing.tied.callbacks.owned _ _ entered).trans (by rw [own, here]),
    standing.tied.callbacks.kept _ _ entered⟩

/-- In a presentation the callbacks that are due leave their surfaces. -/
theorem ties_presentAll (time : UInt32) :
    Frontend.ties { turn.frontend with server := turn.frontend.server.presentAll time } =
      { turn.frontend.ties with
        surface := fun id => (turn.frontend.ties.surface id).map fun waiting =>
          waiting.filter fun callback =>
            callback ∉ turn.frontend.server.dueCallbacks.map Prod.snd } := by
  have core := funext (Server.isConnected_next standing.server.named .withFile (.presentAll time)
    rfl)
  refine (Frontend.ties_server _).trans ?_
  rw [standing.server.census_presentAll, show (turn.frontend.server.presentAll time).isConnected =
    _ from core]
  rfl

/-- All surfaces are presented, and the clients that are served are told. -/
theorem serves_present (time : UInt32) :
    turn.Serves host (.presentAll time) (turn.present time) := by
  obtain ⟨acted, made⟩ : ∃ acted : Turn, acted = turn.modify fun frontend =>
    { frontend with server := frontend.server.presentAll time } := ⟨_, rfl⟩
  have server : acted.frontend.server = turn.frontend.server.next host (.presentAll time) := by
    rw [made]
    rfl
  have events := standing.quiet.drainEvents_presentAll standing.server.distinct time
  have taken := ties_presentAll standing time
  rw [show Frontend.ties { turn.frontend with server := turn.frontend.server.presentAll time } =
    acted.taken.frontend.ties from (by rw [ties_taken, made]; rfl)] at taken
  obtain ⟨ties, kept, bindings, sent⟩ := foldl_fired acted.taken time
    standing.server.nodup_dueCallbacks (by
      intro due listed
      obtain ⟨id, entered, -, alive⟩ := due_object standing listed
      rw [taken]
      exact ⟨id, entered, alive⟩) (by
      rw [taken]
      exact standing.tied.callbacks.single)
  have flushed : turn.present time = turn.frontend.server.dueCallbacks.foldl
      (fun turn fired => turn.deliver (.frameDone fired.2 time)) acted.taken := by
    have same : turn.present time = acted.flush := by
      rw [made]
      rfl
    rw [same, flush_eq, server]
    refine (congrArg (List.foldl _ _) events).trans ?_
    rw [List.foldl_map]
  rw [taken] at ties sent
  constructor
  · rw [flushed, kept, ← server]
    rfl
  · have move : turn.frontend.ties.Move _ := .fire
      (fun callback => decide (callback ∈ turn.frontend.server.dueCallbacks.map Prod.snd))
      (fun id => turn.frontend.server.dueCallbacks.any fun fired =>
        decide (turn.frontend.ties.callbacks fired.2 = some id)) (by
        intro id spent
        obtain ⟨fired, listed, entered⟩ := List.any_eq_true.mp spent
        exact ⟨fired.2, decide_eq_true (List.mem_map_of_mem listed), of_decide_eq_true entered⟩)
    rw [flushed, ties]
    simp only [decide_not, decide_eq_true_eq] at move ⊢
    exact .single move
  · rw [flushed, bindings, made]
    exact id
  · rw [← server]
    have before : acted.taken.sent = turn.sent := by
      rw [made]
      rfl
    refine ⟨_, (congrArg Turn.sent flushed).trans (sent.trans (by rw [before])), ?_⟩
    have events : acted.frontend.server.drainEvents.1 = turn.frontend.server.dueCallbacks.map
        fun due => (due.1, .frameDone due.2 time) := by
      rw [server]
      exact events
    rw [events]
    split
    · rename_i none
      rw [List.map_eq_nil_iff.mp none]
      exact nofun
    · refine ⟨turn.frontend.server.dueCallbacks.map fun fired =>
        ((turn.frontend.ties.callbacks fired.2).map (doneThrough time)).toList, ?_,
        by rw [List.flatMap_def]; rfl⟩
      rw [List.forall₂_map_left_iff, List.forall₂_map_right_iff, List.forall₂_same]
      intro due listed
      obtain ⟨id, entered, owned, alive⟩ := due_object standing listed
      rw [entered]
      refine ⟨.fired entered alive ?_, by simpa [doneThrough] using owned⟩
      rw [flushed, ties]
      exact if_pos (List.any_eq_true.mpr ⟨due, listed, decide_eq_true entered⟩)

end Due

end Presenting

end Turn

end DisplayServer
