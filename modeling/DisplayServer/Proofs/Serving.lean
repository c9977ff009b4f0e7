import DisplayServer.Proofs.FrontendTies

/-! # Serving requests

A turn goes on with an operation of the server and takes over what came of it (`Turn.Serves`): the
server is what the operation leaves of it, with all events taken; the ties moved; and what the
events come to on the wire (`Frontend.Says`) was said, in their order, and no other news. Where
nothing waits after the operation, this is so as long as no news is spread by hand
(`Serves.of_quiet`).
-/

namespace DisplayServer

open Function (update update_self update_of_ne update_apply)
open Relation (ReflTransGen)
open Wire

/-- Whether a message is news: what events come to on the wire, errors apart. -/
def Wire.Message.isNews : Message → Bool
  | .format _ | .release | .done _ | .configureToplevel _ | .configureSurface _ => true
  | _ => false

namespace Turn

/-- One turn after another: what moved, and that nobody was told any news. -/
structure Keeps (turn turn' : Turn) : Prop where
  moves : ReflTransGen Ties.Move turn.frontend.ties turn'.frontend.ties
  distinct : turn.frontend.bindings.keys.Nodup → turn'.frontend.bindings.keys.Nodup
  said : ∃ more, turn'.sent = turn.sent ++ more ∧
    ∀ delivery ∈ more, delivery.message.isNews = false

/-- A turn goes on without the server. -/
structure Minds (turn turn' : Turn) : Prop extends turn.Keeps turn' where
  server : turn'.frontend.server = turn.frontend.server

variable {turn turn' turn'' : Turn}

private theorem Keeps.refl (turn : Turn) : turn.Keeps turn :=
  ⟨.refl, id, [], (List.append_nil _).symm, nofun⟩

private theorem Keeps.trans (first : turn.Keeps turn') (second : turn'.Keeps turn'') :
    turn.Keeps turn'' := by
  obtain ⟨more, sent, mute⟩ := first.said
  obtain ⟨more', sent', mute'⟩ := second.said
  refine ⟨first.moves.trans second.moves, fun distinct => second.distinct (first.distinct distinct),
    more ++ more', ?_, ?_⟩
  · rw [sent', sent, List.append_assoc]
  · intro delivery listed
    exact (List.mem_append.mp listed).elim (mute delivery) (mute' delivery)

/-- What changes neither the ties nor what was said. -/
theorem Keeps.of_eq (ties : turn'.frontend.ties = turn.frontend.ties)
    (bindings : turn'.frontend.bindings = turn.frontend.bindings) (sent : turn'.sent = turn.sent) :
    turn.Keeps turn' :=
  ⟨ties ▸ .refl, fun distinct => bindings ▸ distinct, [], by simpa using sent, nofun⟩

/-- A move that tells nobody anything is a turn that keeps. -/
theorem Keeps.of_move (move : turn.frontend.ties.Move turn'.frontend.ties)
    (bindings : turn'.frontend.bindings = turn.frontend.bindings) (sent : turn'.sent = turn.sent) :
    turn.Keeps turn' :=
  ⟨.single move, fun distinct => bindings ▸ distinct, [], by simpa using sent, nofun⟩

/-- A turn that does nothing goes on without the server. -/
theorem Minds.refl (turn : Turn) : turn.Minds turn :=
  ⟨.refl turn, rfl⟩

/-- Turns that go on without the server do so one after the other. -/
theorem Minds.trans (first : turn.Minds turn') (second : turn'.Minds turn'') :
    turn.Minds turn'' :=
  ⟨first.toKeeps.trans second.toKeeps, second.server.trans first.server⟩

/-- To log a message takes no server. -/
theorem minds_note (message : LogMessage) : turn.Minds (turn.note message) :=
  ⟨.of_eq rfl rfl rfl, rfl⟩

/-- To say something that is no news takes no server. -/
theorem minds_say (client : ClientId) (source : Source) {message : Message}
    (mute : message.isNews = false) : turn.Minds (turn.say client source message) := by
  unfold say
  split
  · exact ⟨⟨.refl, id, [_], rfl, by simpa using mute⟩, rfl⟩
  · exact .refl turn

/-- To send something that is no news takes no server. -/
theorem minds_send (id : ObjectId) {message : Message} (mute : message.isNews = false) :
    turn.Minds (turn.send id message) := by
  unfold send
  split
  · exact minds_say _ _ mute
  · exact .refl turn

variable (turn) in
/-- To drop a client takes no server: its connection is reaped later. -/
theorem minds_drop (client : ClientId) : turn.Minds (turn.drop client) := by
  have move : turn.frontend.ties.Move (turn.drop client).frontend.ties :=
    ties_drop turn client ▸ .drop client
  unfold drop at move ⊢
  split at move <;> (try split at move) <;> exact ⟨.of_move move rfl rfl, rfl⟩

/-- A protocol error ends its client without the server. -/
theorem minds_postError (id : ObjectId) (code : ErrorCode) (text : String) :
    turn.Minds (turn.postError id code text) :=
  (minds_send id rfl).trans (minds_drop ..)

/-- A violation ends its client without the server. -/
theorem minds_violate (client : ClientId) (violation : Violation) :
    turn.Minds (turn.violate client violation) :=
  (minds_say client .display rfl).trans (minds_drop ..)

/-- An object gets a meaning that the server has no part in. -/
theorem minds_establish {id : ObjectId} {interface : Interface} {resource : Resource}
    (inert : turn.frontend.ties.stands id = some (.inert interface)) (plain : resource.IsPlain)
    (settled : ∀ interface, resource ≠ .inert interface) (other : resource ≠ .callback) :
    turn.Minds (turn.establish id resource) := by
  refine ⟨.of_move ?_ rfl rfl, rfl⟩
  exact (Frontend.ties_establish resource inert).symm ▸ .establish inert plain settled other

end Turn

namespace Frontend

/-- A frontend in good order: the server is what a script in range leaves, nothing waits there, and
everything is tied. -/
structure Standing (config : Config) (accepted : Nat) (drawn : ConnectionId → Nat)
    (frontend : Frontend) : Prop where
  server : frontend.server.IsAfter config accepted drawn
  quiet : frontend.server.IsQuiet
  tied : frontend.ties.Tied accepted
  distinct : frontend.bindings.keys.Nodup

/-- What an event comes to on the wire: through which objects what is said, when `before` becomes
`after` by the delivery of events. -/
inductive Says (before after : Frontend) : Event → List Delivery → Prop where
  | format {binding : BindingId} {format : PixelFormat} {number : UInt32} {id : ObjectId}
      (told : after.formatListeners.get? binding = some id)
      (bound : after.bindings.get? id = some binding) (known : numberOf? format = some number) :
      Says before after (.format binding format) [⟨id.client, .object id.index, .format number⟩]
  /-- A format without a number is not told of. -/
  | unspoken {binding : BindingId} {format : PixelFormat} (unknown : numberOf? format = none) :
      Says before after (.format binding format) []
  | released {buffer : BufferId} {pool : PoolId} {id : ObjectId}
      (told : after.buffers.get? buffer = some id)
      (stands : after.ties.stands id = some (.buffer buffer pool)) :
      Says before after (.bufferReleased buffer) [⟨id.client, .object id.index, .release⟩]
  | configured {window : WindowSurfaceId} {toplevel : ToplevelId} {size : Size} {serial : Serial}
      {objects : ToplevelObjects} {shell : ObjectIndex}
      (told : after.toplevels.get? toplevel = some objects)
      (stands : after.ties.stands objects.toplevel = some (.toplevel toplevel))
      (stands' : after.ties.stands objects.windowSurface = some (.windowSurface window shell)) :
      Says before after (.configure window toplevel size serial)
        [⟨objects.toplevel.client, .object objects.toplevel.index, .configureToplevel size⟩,
         ⟨objects.windowSurface.client, .object objects.windowSurface.index,
          .configureSurface serial.value⟩]
  | fired {callback : CallbackId} {time : UInt32} {id : ObjectId}
      (told : before.callbacks.get? callback = some id)
      (stands : before.isConnected id.client = true →
        before.ties.stands id = some .callback)
      (spent : after.ties.stands id = none) :
      Says before after (.frameDone callback time) [⟨id.client, .object id.index, .done time⟩]
  | failed {buffer : BufferId} {pool : PoolId} {id : ObjectId}
      (told : after.buffers.get? buffer = some id)
      (stands : after.ties.stands id = some (.buffer buffer pool)) :
      Says before after (.bufferAccessFailed buffer)
        [⟨id.client, .object id.index, .error .invalidDescriptor
          "Error accessing the buffer contents."⟩]

end Frontend

namespace Turn

variable {turn turn' turn'' : Turn}

/-- What an event that waited for a connection comes to, and that it comes to its client. -/
structure Told (before after : Frontend) (event : ConnectionId × Event)
    (said : List Delivery) : Prop where
  comes : before.Says after event.2 said
  owner : ∀ delivery ∈ said, before.ties.owner delivery.client = some event.1

/-- The events that a turn has to tell of, taken in this order, are told of to those of the clients
that are served. -/
def Tells (events : List (ConnectionId × Event)) (turn turn' : Turn) : Prop :=
  ∃ more, turn'.sent = turn.sent ++ more ∧
    if events = [] then ∀ delivery ∈ more, delivery.message.isNews = false
    else ∃ said, List.Forall₂ (Told turn.frontend turn'.frontend) events said ∧
      more = said.flatten.filter fun delivery => turn.frontend.isConnected delivery.client

/-- A turn goes on with one operation of the server, and delivers what comes of it. -/
structure Serves (host : Host) (operation : Operation) (turn turn' : Turn) : Prop where
  server : turn'.frontend.server = (turn.frontend.server.next host operation).drained
  moves : ReflTransGen Ties.Move turn.frontend.ties turn'.frontend.ties
  distinct : turn.frontend.bindings.keys.Nodup → turn'.frontend.bindings.keys.Nodup
  said : turn.Tells (turn.frontend.server.next host operation).drainEvents.1 turn'

variable {config : Config} {accepted : Nat} {drawn : ConnectionId → Nat} {host : Host}
  {operation : Operation}

variable (host operation) in
/-- What is absorbed from the server shows in its census, and nowhere else. -/
theorem ties_absorb {α : Type} (outcome : Outcome Server α) (named : turn.frontend.server.Named)
    (state : outcome.state = turn.frontend.server.next host operation)
    (within : operation.isWithin = true) :
    (turn.absorb outcome).frontend.ties =
      { turn.frontend.ties with toCensus := outcome.state.census } := by
  refine (Frontend.ties_server outcome.state).trans ?_
  have core : outcome.state.isConnected = turn.frontend.ties.core :=
    funext fun id => state ▸ Server.isConnected_next named host operation within id
  rw [core]

section Serving

variable (standing : turn.frontend.Standing config accepted drawn)

include standing

/-- The numbers of connections stay distinct. -/
theorem keys_next (within : operation.isWithin = true) :
    (turn.frontend.server.next host operation).connections.keys.Nodup := by
  rw [Server.keys_next_of_isWithin standing.server.named host operation within]
  exact standing.server.distinct

/-- A turn with an operation that leaves nothing to deliver. -/
theorem Serves.of_quiet (within : operation.isWithin = true)
    (quiet : (turn.frontend.server.next host operation).IsQuiet)
    (server : turn'.frontend.server = turn.frontend.server.next host operation)
    (keeps : turn.Keeps turn') : turn.Serves host operation turn' where
  server := by rw [server, quiet.drained_eq (keys_next standing within)]
  moves := keeps.moves
  distinct := keeps.distinct
  said := by
    obtain ⟨more, sent, mute⟩ := keeps.said
    refine ⟨more, sent, ?_⟩
    rw [if_pos (quiet.drainEvents_eq_nil (keys_next standing within))]
    exact mute

/-- A turn with an operation that changes nothing that anything is tied to. -/
theorem Serves.of_calm {α : Type} (outcome : Outcome Server α)
    (calm : operation.isCalm = true) (silent : operation.isSilent = true)
    (state : outcome.state = turn.frontend.server.next host operation)
    (minds : (turn.absorb outcome).Minds turn') : turn.Serves host operation turn' := by
  have named := standing.server.named
  have within := Operation.isWithin_of_isCalm calm
  have same : (turn.absorb outcome).frontend.ties = turn.frontend.ties := by
    rw [ties_absorb host operation outcome named state within, state,
      Server.census_next_of_calm named host calm]
    rfl
  exact .of_quiet standing within (standing.quiet.next named host operation silent)
    (minds.server.trans state) ((Keeps.of_eq same rfl rfl).trans minds.toKeeps)

/-- A turn with an operation that is refused. -/
theorem Serves.of_refused {α : Type} {outcome : Outcome Server α}
    (within : operation.isWithin = true)
    (state : outcome.state = turn.frontend.server.next host operation)
    (refused : outcome.state = turn.frontend.server) (minds : (turn.absorb outcome).Minds turn') :
    turn.Serves host operation turn' := by
  have quiet : (turn.frontend.server.next host operation).IsQuiet := by
    rw [state.symm.trans refused]
    exact standing.quiet
  have same : (turn.absorb outcome).frontend.ties = turn.frontend.ties :=
    (Frontend.ties_server outcome.state).trans (by rw [refused]; rfl)
  exact .of_quiet standing within quiet (minds.server.trans state)
    ((Keeps.of_eq same rfl rfl).trans minds.toKeeps)

/-- A turn with an operation that makes one move. -/
theorem Serves.of_move (within : operation.isWithin = true)
    (silent : operation.isSilent = true)
    (server : turn'.frontend.server = turn.frontend.server.next host operation)
    (move : turn.frontend.ties.Move turn'.frontend.ties)
    (bindings : turn'.frontend.bindings = turn.frontend.bindings) (sent : turn'.sent = turn.sent) :
    turn.Serves host operation turn' :=
  .of_quiet standing within (standing.quiet.next standing.server.named host operation silent) server
    (.of_move move bindings sent)

end Serving

end Turn

end DisplayServer
