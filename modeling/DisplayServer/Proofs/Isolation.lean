import DisplayServer.Proofs.Delivery

/-! # Clients do not influence each other

A client meets its own connection, the entries of its surfaces in the view, and what all clients
share: the configuration, the supported formats, the numbers of the next client and of the next
subscriber, and the broadcast subscribers, for the sake of whom its buffers are read. Servers that
agree in all of that are the same to it (`Server.SameTo`). What is addressed to another client
leaves a server the same to it (`Server.sameTo_next`). Everything else keeps two servers the same to
it, and answers it the same (`Server.SameTo.next`). So a run is the same to a client as the run
without all that is addressed to others.

A broadcast subscriber that stopped listening is forgotten at the next publication, whoever
publishes. From then on contents may be wanted no more, and a read that would have failed is not
made. That is the one way in which clients matter to each other, and it takes a subscriber to open
it.
-/

namespace DisplayServer

/-- Whether an operation is addressed to another client. -/
def Operation.isForeign (id : ConnectionId) (operation : Operation) : Bool :=
  operation.addressee?.any fun owner => decide (owner ≠ id)

private theorem Operation.isForeign_eq_true {id : ConnectionId} {operation : Operation} :
    operation.isForeign id = true ↔ ∃ owner, operation.addressee? = some owner ∧ owner ≠ id := by
  unfold isForeign
  rw [Option.any_eq_true]
  simp only [decide_eq_true_eq]

private theorem Operation.isForeign_eq_false {id : ConnectionId} {operation : Operation} :
    operation.isForeign id = false ↔
      operation.addressee? = none ∨ operation.addressee? = some id := by
  unfold isForeign
  cases operation.addressee? with
  | none => simp
  | some owner => simp

/-- A script without what is addressed to other clients than one. -/
def Script.concerning (id : ConnectionId) (script : Script) : Script :=
  script.filter fun entry => !entry.2.isForeign id

/-- Two clients share a file. One shows its buffer and goes away; the other first attaches the
buffer of the one, then shows its own. -/
def Script.neighbours : Script :=
  let one : ConnectionId := ⟨0⟩
  let other : ConnectionId := ⟨1⟩
  [.connect, .connect, .subscribeBroadcast,
    .createPool one (.regular 0 .readWrite) 16, .createPool other (.regular 0 .readWrite) 16,
    .createBuffer ⟨one, 0⟩ ⟨0, 2, 2, 8, .argb8888⟩,
    .createBuffer ⟨other, 0⟩ ⟨0, 2, 2, 8, .argb8888⟩,
    .createSurface one 4, .createSurface other 4,
    .attach ⟨other, 2⟩ (.buffer ⟨one, 1⟩) .zero,
    .attach ⟨one, 2⟩ (.buffer ⟨one, 1⟩) .zero, .commit ⟨one, 2⟩,
    .attach ⟨other, 2⟩ (.buffer ⟨other, 1⟩) .zero, .commit ⟨other, 2⟩,
    .disconnect one, .takeEvents other].map fun operation => (.withFile, operation)

namespace Subscription

variable {α : Type} {subscriptions : List (Subscription α)}

/-- Where everybody listens and nobody leaves, everybody stays and listens on. -/
theorem Step.next_of_isListening (capacity : Option Nat) {step : Step α}
    (attended : ∀ subscription ∈ subscriptions, subscription.isListening = true)
    (stays : ∀ id, step = .leave id → id ∉ subscriptions.map Subscription.id) :
    (∀ subscription ∈ step.next capacity subscriptions, subscription.isListening = true) ∧
      (step.next capacity subscriptions).map Subscription.id =
        subscriptions.map Subscription.id ++
          match step with
          | .enroll id => [id]
          | _ => [] := by
  cases step with
  | send item =>
    rw [List.append_nil]
    cases item with
    | none => exact ⟨attended, rfl⟩
    | some item =>
      have whole : subscriptions.filter Subscription.isListening = subscriptions :=
        List.filter_eq_self.mpr attended
      have sent (subscription : Subscription α) :
          (Subscription.send capacity item subscription).id = subscription.id ∧
            (Subscription.send capacity item subscription).isListening =
              subscription.isListening := by
        unfold Subscription.send
        split <;> exact ⟨rfl, rfl⟩
      simp only [next, broadcast, whole]
      constructor
      · intro subscription listed
        obtain ⟨before, present, rfl⟩ := List.mem_map.mp listed
        rw [(sent before).2, attended before present]
      · rw [List.map_map]
        exact List.map_congr_left fun subscription _ => (sent subscription).1
  | enroll id =>
    constructor
    · intro subscription listed
      rcases List.mem_append.mp listed with earlier | last
      · exact attended subscription earlier
      · rw [List.mem_singleton.mp last]
    · exact List.map_append
  | leave id =>
    have untouched : Subscription.leave subscriptions id = subscriptions := by
      refine (List.map_congr_left fun subscription listed => ?_).trans (List.map_id subscriptions)
      rw [if_neg fun same : subscription.id = id =>
        stays id rfl (same ▸ List.mem_map_of_mem listed)]
      rfl
    rw [next, untouched, List.append_nil]
    exact ⟨attended, rfl⟩
  | receive id =>
    rw [List.append_nil]
    exact ⟨isListening_receive id attended, map_id_receive id⟩
  | drain id =>
    rw [List.append_nil]
    exact ⟨isListening_drain id attended, map_id_drain id⟩

end Subscription

namespace Server

variable {server other : Server} {host : Host} {operation : Operation} {id : ConnectionId}

section Audience

/-- The broadcast subscribers. -/
def audience (server : Server) : List SubscriberId :=
  server.publisher.broadcastSubscribers.map Subscription.id

/-- Every broadcast subscriber listens. -/
def Attended (server : Server) : Prop :=
  ∀ subscription ∈ server.publisher.broadcastSubscribers, subscription.isListening = true

/-- The broadcast subscribers that stop listening in an operation. -/
def hearersLost (server : Server) (_ : Host) : Operation → List SubscriberId
  | .unsubscribe id => server.audience.filter fun hearer => hearer = id
  | _ => []

/-- The broadcast subscribers that come in an operation. -/
def hearersGained (server : Server) : Operation → List SubscriberId
  | .subscribeBroadcast => [server.publisher.nextSubscriber]
  | _ => []

private theorem wantsContents_eq (server : Server) :
    server.publisher.wantsContents = !server.audience.isEmpty := by
  rw [Publisher.wantsContents, audience, List.isEmpty_map]

/-- Without a loss, the audience only grows, by who subscribes. -/
theorem audience_next (named : server.Named) (attended : server.Attended)
    (kept : server.hearersLost host operation = []) :
    (server.next host operation).Attended ∧
      (server.next host operation).audience =
        server.audience ++ server.hearersGained operation := by
  have stays (id : SubscriberId) (leaves : server.snapshotStep host operation = .leave id) :
      id ∉ server.audience := by
    cases snapshotFeed.leaves leaves
    exact fun listed => List.filter_eq_nil_iff.mp kept id listed (decide_eq_true rfl)
  obtain ⟨listening, names⟩ := Subscription.Step.next_of_isListening (some broadcastBacklog)
    attended stays
  rw [← broadcastSubscribers_next named] at listening names
  refine ⟨listening, names.trans (congrArg _ ?_)⟩
  cases operation <;> rfl

end Audience

/-- Two outcomes are the same to a client: the answer is, and what it is left with. -/
structure Agrees {α : Type} (id : ConnectionId) (outcome outcome' : Outcome Server α) : Prop where
  answer : outcome'.answer = outcome.answer
  connection : outcome'.state.connection? id = outcome.state.connection? id

section Agrees

variable {α ε : Type}

private theorem Agrees.map {β : Type} {outcome outcome' : Outcome Server α}
    (agrees : Agrees id outcome outcome') (change : α → β) :
    Agrees id (outcome.map change) (outcome'.map change) :=
  ⟨congrArg change agrees.answer, agrees.connection⟩

private theorem connection?_putBack_congr (same : other.connection? id = server.connection? id)
    (client : Connection) :
    (other.putBack client).connection? id = (server.putBack client).connection? id := by
  rw [connection?_putBack, connection?_putBack, same]

/-- An attempt that fails or puts the connection back comes out the same. -/
theorem Agrees.onConnection (same : other.connection? id = server.connection? id) (dead : ε)
    (log : List LogMessage) (work : Connection → Except ε (α × Connection)) :
    Agrees id (.ofAttempt server log (server.onConnection id dead work))
      (.ofAttempt other log (other.onConnection id dead work)) := by
  unfold Server.onConnection
  rw [same]
  cases server.connection? id with
  | none => exact ⟨rfl, same⟩
  | some client =>
    simp only
    cases work client with
    | error cause => exact ⟨rfl, same⟩
    | ok result => exact ⟨rfl, connection?_putBack_congr same result.2⟩

/-- A read is the same on two servers with the same connection. -/
theorem Agrees.withContents {buffer : BufferId}
    (same : other.connection? buffer.connection = server.connection? buffer.connection)
    (host : Host) (reading : Reading) (read : BufferGeometry → Span → α) :
    Agrees buffer.connection (server.withContents host buffer reading read)
      (other.withContents host buffer reading read) := by
  unfold Server.withContents
  rw [same]
  cases server.connection? buffer.connection with
  | none => exact ⟨rfl, same⟩
  | some client =>
    simp only
    cases client.memoryOf? buffer with
    | none => exact ⟨rfl, same⟩
    | some memory =>
      simp only
      split
      · exact ⟨rfl, connection?_putBack_congr same _⟩
      · split
        · exact ⟨rfl, connection?_putBack_congr same _⟩
        · split
          · exact ⟨rfl, connection?_putBack_congr same _⟩
          · exact ⟨rfl, same⟩

/-- The metadata of a buffer is the same on two servers with the same connection. -/
theorem metadata?_congr {buffer : BufferId}
    (same : other.connection? buffer.connection = server.connection? buffer.connection)
    (surface : SurfaceId) : other.metadata? surface buffer = server.metadata? surface buffer := by
  unfold Server.metadata?
  rw [same]

/-- To publish is the same on two servers with the same connection, if both want contents or neither
does. -/
theorem Agrees.publish {buffer : BufferId}
    (same : other.connection? buffer.connection = server.connection? buffer.connection)
    (wants : other.publisher.wantsContents = server.publisher.wantsContents) (host : Host)
    (surface : SurfaceId) :
    Agrees buffer.connection (server.publish host surface buffer)
      (other.publish host surface buffer) := by
  unfold Server.publish
  rw [metadata?_congr same]
  cases server.metadata? surface buffer with
  | none => exact ⟨rfl, same⟩
  | some metadata =>
    let shown (server : Server) : Server :=
      { server with publisher := server.publisher.publishMetadata metadata }
    have wants : (shown other).publisher.wantsContents =
      (shown server).publisher.wantsContents := wants
    have read : Agrees buffer.connection ((shown server).snapshot host buffer)
        ((shown other).snapshot host buffer) := by
      apply Agrees.withContents
      exact same
    change Agrees _ ((shown server).publishContents host buffer)
      ((shown other).publishContents host buffer)
    simp only [publishContents, wants]
    split
    · rw [read.answer]
      cases ((shown server).snapshot host buffer).answer <;> exact ⟨rfl, read.connection⟩
    · exact ⟨rfl, same⟩

/-- A client publishes its own buffers only. -/
theorem connection_of_published (owned : server.Owned) {surface : SurfaceId} {client : Connection}
    (live : server.connection? surface.connection = some client) {commit : Connection.Commit}
    (done : client.commit? surface = some commit) {buffer : BufferId}
    (published : commit.published = some buffer) : buffer.connection = surface.connection := by
  obtain ⟨shown, found⟩ := Connection.surface_of_commit? done
  obtain ⟨after, before⟩ := (Connection.published_commit found done buffer).mp published
  exact owned _ client live .buffer buffer
    ((Arena.contains_iff_mem_keys ..).mp (client.contains_of_newlyShown after before))

/-- A commit is the same on two servers with the same connection, if both want contents or neither
does. -/
theorem Agrees.commit {surface : SurfaceId} (owned : server.Owned)
    (same : other.connection? surface.connection = server.connection? surface.connection)
    (wants : other.publisher.wantsContents = server.publisher.wantsContents) (host : Host) :
    Agrees surface.connection (server.commit host surface) (other.commit host surface) := by
  unfold Server.commit
  rw [same]
  cases live : server.connection? surface.connection with
  | none => exact ⟨rfl, same⟩
  | some client =>
    simp only
    cases done : client.commit? surface with
    | none => exact ⟨rfl, same⟩
    | some commit =>
      simp only
      have put := connection?_putBack_congr same commit.client
      cases published : commit.published with
      | none => exact ⟨rfl, put⟩
      | some buffer =>
        have own := connection_of_published owned live done published
        rw [← own] at put ⊢
        exact ⟨rfl, (Agrees.publish put wants host surface).connection⟩

end Agrees

/-- Servers that are the same to a client. -/
structure SameTo (id : ConnectionId) (server other : Server) : Prop where
  config : other.config = server.config
  formats : other.formats = server.formats
  counter : other.nextConnection = server.nextConnection
  connection : other.connection? id = server.connection? id
  entries : ∀ surface : SurfaceId, surface.connection = id →
    other.entryOf? surface = server.entryOf? surface
  audience : other.audience = server.audience
  subscribers : other.publisher.nextSubscriber = server.publisher.nextSubscriber

section SameTo

private theorem SameTo.refl (id : ConnectionId) (server : Server) : SameTo id server server :=
  ⟨rfl, rfl, rfl, rfl, fun _ _ => rfl, rfl, rfl⟩

private theorem SameTo.trans {third : Server} (first : SameTo id server other)
    (second : SameTo id other third) : SameTo id server third :=
  ⟨second.config.trans first.config, second.formats.trans first.formats,
    second.counter.trans first.counter, second.connection.trans first.connection,
    fun surface own => (second.entries surface own).trans (first.entries surface own),
    second.audience.trans first.audience, second.subscribers.trans first.subscribers⟩

/-- **What is addressed to a client comes out the same.** -/
theorem SameTo.step (same : SameTo id server other) (owned : server.Owned) (host : Host)
    (addressed : operation.addressee? = some id) :
    Agrees id (server.step host operation) (other.step host operation) := by
  have live := same.connection
  cases operation with
  | connect | drainEvents | presentAll _ | subscribeMetadata | subscribeBroadcast | unsubscribe _
  | receiveMetadata _ | receiveBroadcast _ | nextMetadata _ | nextSnapshot _ => cases addressed
  | disconnect connection =>
    cases addressed
    simp only [Server.step, Server.disconnect, live]
    cases server.connection? id with
    | none => exact ⟨rfl, live⟩
    | some client =>
      refine ⟨rfl, ?_⟩
      simp only [Outcome.map, connection?, Arena.get?_erase, if_true]
  | takeEvents _ | unbind _ | destroyBuffer _ | frame _ =>
    cases addressed
    simp only [Server.step, Server.takeEvents, Server.unbind, Server.destroyBuffer, Server.frame,
      live]
    split
    · exact ⟨rfl, live⟩
    · exact ⟨rfl, connection?_putBack_congr live _⟩
  | bind connection name version =>
    cases addressed
    simp only [Server.step, Server.bind, same.formats]
    split
    · exact ⟨rfl, live⟩
    · split
      · exact ⟨rfl, live⟩
      · exact (Agrees.onConnection live ..).map _
  | createPool connection descriptor size =>
    cases addressed
    simp only [Server.step, Server.createPool, live]
    split
    · exact ⟨rfl, live⟩
    · exact ⟨rfl, live⟩
    · split
      · exact ⟨rfl, live⟩
      · split
        · exact ⟨rfl, live⟩
        · exact ⟨rfl, connection?_putBack_congr live _⟩
  | resizePool pool size =>
    cases addressed
    simp only [Server.step, Server.resizePool, live]
    split
    · exact ⟨rfl, live⟩
    · split
      · exact ⟨rfl, live⟩
      · split
        · exact ⟨rfl, live⟩
        · split
          · exact ⟨rfl, live⟩
          · exact ⟨rfl, connection?_putBack_congr live _⟩
  | destroyPool pool =>
    cases addressed
    simp only [Server.step, Server.destroyPool, live]
    split
    · exact ⟨rfl, live⟩
    · split
      · exact ⟨rfl, connection?_putBack_congr live _⟩
      · exact ⟨rfl, live⟩
  | destroySurface _ | getWindowSurface _ | ackConfigure _ _ | destroyWindowSurface _
  | destroyToplevel _ =>
    cases addressed
    simp only [Server.step, Server.destroySurface, Server.getWindowSurface, Server.ackConfigure,
      Server.destroyWindowSurface, Server.destroyToplevel, live]
    split
    · exact ⟨rfl, live⟩
    · split
      · exact ⟨rfl, live⟩
      · exact ⟨rfl, connection?_putBack_congr live _⟩
  | sendConfigure _ _ =>
    cases addressed
    simp only [Server.step, Server.sendConfigure, live]
    split
    · exact ⟨rfl, live⟩
    · exact ⟨rfl, connection?_putBack_congr live _⟩
  | readBuffer _ | peekBuffer _ _ | snapshot _ =>
    cases addressed
    exact (Agrees.withContents live ..).map _
  | commit surface =>
    cases addressed
    have wants : other.publisher.wantsContents = server.publisher.wantsContents := by
      rw [wantsContents_eq, wantsContents_eq, same.audience]
    exact (Agrees.commit owned live wants host).map _
  | createBuffer _ _ =>
    cases addressed
    simp only [Server.step, Server.createBuffer, same.formats]
    exact (Agrees.onConnection live ..).map _
  | getToplevel _ =>
    cases addressed
    simp only [Server.step, Server.getToplevel, same.config]
    exact (Agrees.onConnection live ..).map _
  | createSurface _ _ | attach _ _ _ | setOffset _ _ | addDamage _ _ | setScale _ _
  | setTransform _ _ | present _ _ | giveRole _ _ | setWindowGeometry _ _ | setTitle _ _
  | setAppId _ _ =>
    cases addressed
    exact (Agrees.onConnection live ..).map _

/-- What is not foreign to a client makes the same of its connection. -/
theorem SameTo.connection_next (same : SameTo id server other) (owned : server.Owned) (host : Host)
    (own : operation.isForeign id = false) :
    (other.next host operation).connection? id = (server.next host operation).connection? id := by
  rcases Operation.isForeign_eq_false.mp own with shared | addressed
  · cases operation with
    | connect =>
      rw [connection?_next_connect, connection?_next_connect, same.counter, same.connection]
    | drainEvents | presentAll _ =>
      change (Arena.mapValues ..).get? id = (Arena.mapValues ..).get? id
      rw [Arena.get?_mapValues, Arena.get?_mapValues]
      exact congrArg (Option.map _) same.connection
    | subscribeMetadata | subscribeBroadcast | unsubscribe _ | receiveMetadata _
    | receiveBroadcast _ | nextMetadata _ | nextSnapshot _ => exact same.connection
    | _ => cases shared
  · exact (same.step owned host addressed).connection

/-- A commit announces the same on two servers with the same connection. -/
theorem announced_congr (owned : server.Owned) {surface : SurfaceId}
    (same : other.connection? surface.connection = server.connection? surface.connection) :
    other.announced surface = server.announced surface := by
  unfold announced
  rw [same]
  cases live : server.connection? surface.connection with
  | none => rfl
  | some client =>
    simp only [Option.bind_eq_bind, Option.bind_some]
    cases done : client.commit? surface with
    | none => rfl
    | some commit =>
      simp only [Option.bind_some]
      cases published : commit.published with
      | none => rfl
      | some buffer =>
        have own := connection_of_published owned live done published
        exact metadata?_congr (own ▸ same) surface

/-- What is not foreign to a client makes the same of its entries in the view. -/
theorem SameTo.entries_next (same : SameTo id server other) (named : server.Named)
    (named' : other.Named) (owned : server.Owned) (owned' : other.Owned) (host : Host)
    {surface : SurfaceId} (own : surface.connection = id) :
    (other.next host operation).entryOf? surface =
      (server.next host operation).entryOf? surface := by
  subst own
  have entry := same.entries surface rfl
  have live : other.surface? surface = server.surface? surface := by
    rw [surface?, surface?, same.connection]
  cases operation with
  | commit committed =>
    rw [entryOf?_next_commit named, entryOf?_next_commit named', entry]
    split
    · rw [announced_congr owned same.connection]
    · rfl
  | destroySurface gone =>
    rw [entryOf?_next_destroySurface, entryOf?_next_destroySurface, live, entry]
  | disconnect gone =>
    rw [entryOf?_next_disconnect owned, entryOf?_next_disconnect owned', live, entry]
  | subscribeMetadata | subscribeBroadcast | unsubscribe _ | receiveMetadata _
  | receiveBroadcast _ | nextMetadata _ | nextSnapshot _ => exact entry
  | _ =>
    rw [entryOf?, entryOf?, publisher_next_of_isPrivate rfl, publisher_next_of_isPrivate rfl]
    exact entry

/-- The configuration of a server never changes. -/
theorem config_next (named : server.Named) (host : Host) (operation : Operation) :
    (server.next host operation).config = server.config := by
  cases operation with
  | connect => rfl
  | disconnect gone =>
    change (server.disconnect gone).state.config = _
    unfold Server.disconnect
    cases server.connection? gone <;> rfl
  | _ => exact (effect_next named host _ (by simp) (by simp)).config

/-- A client keeps its connection whatever is addressed to another one. -/
theorem connection?_next_of_foreign (named : server.Named) (owned : server.Owned) (host : Host)
    {owner : ConnectionId} (addressed : operation.addressee? = some owner) (apart : id ≠ owner) :
    (server.next host operation).connection? id = server.connection? id := by
  cases operation with
  | connect | drainEvents | presentAll _ | subscribeMetadata | subscribeBroadcast | unsubscribe _
  | receiveMetadata _ | receiveBroadcast _ | nextMetadata _ | nextSnapshot _ => cases addressed
  | disconnect gone =>
    cases addressed
    rw [connection?_next_disconnect, if_neg apart]
  | commit surface =>
    cases addressed
    change (server.commit host surface).state.connection? id = _
    cases live : server.connection? surface.connection with
    | none =>
      simp only [Server.commit, live]
      rfl
    | some client =>
      cases done : client.commit? surface with
      | none =>
        simp only [Server.commit, live, done]
        rfl
      | some commit =>
        -- The commit and the read of what it publishes are both put down to the other client.
        have put : (server.putBack commit.client).connection? id = server.connection? id := by
          rw [connection?_putBack, Connection.commit?_frame done, if_neg]
          exact (named _ client live).symm ▸ apart
        rcases state_commit host live done with
          ⟨publisher, same⟩ | ⟨buffer, reader, failed, publisher, published, found, failure, same⟩
        · rw [same]
          exact put
        · have middle : Effect server host (.commit surface) (server.putBack commit.client) :=
            .putBack named live rfl (.commit done)
          have reads : failed.id = surface.connection := by
            rw [failure.frame]
            exact (middle.named named _ reader found).trans
              (connection_of_published owned live done published)
          rw [same]
          change ((server.putBack commit.client).putBack failed).connection? id = _
          rw [connection?_putBack, reads, if_neg apart, put]
  | _ =>
    exact (effect_next named host _ (by simp) (by simp)).elsewhere (by simp) owner addressed id
      apart

/-- **What is addressed to another client leaves everything the same to this one.** -/
theorem sameTo_next (named : server.Named) (owned : server.Owned) (attended : server.Attended)
    (host : Host) (foreign : operation.isForeign id = true) :
    SameTo id (server.next host operation) server := by
  obtain ⟨owner, addressed, apart⟩ := Operation.isForeign_eq_true.mp foreign
  have silent : server.hearersLost host operation = [] ∧ server.hearersGained operation = [] ∧
      operation.accepted = 0 ∧ operation.enrolled = 0 := by
    cases operation with
    | connect | subscribeBroadcast | subscribeMetadata | unsubscribe _ => cases addressed
    | _ => exact ⟨rfl, rfl, rfl, rfl⟩
  obtain ⟨kept, gained, accepted, enrolled⟩ := silent
  constructor
  case config => exact (config_next named host operation).symm
  case formats => exact (formats_next named host operation).symm
  case counter =>
    rw [nextConnection_next named, accepted]
    exact (UInt32.add_zero _).symm
  case connection => exact (connection?_next_of_foreign named owned host addressed apart.symm).symm
  case entries =>
    intro surface own
    refine (entryOf?_next_of_kept named owned ?_ (.inr ⟨?_, ?_⟩)).symm
    all_goals
      rintro rfl
      cases addressed
      exact apart own
  case audience => rw [(audience_next named attended kept).2, gained, List.append_nil]
  case subscribers => rw [nextSubscriber_next named, enrolled, Nat.add_zero]

end SameTo

/-- What is answered to a client in an operation that is addressed to it. -/
def answersTo (id : ConnectionId) (server : Server) (host : Host) (operation : Operation) :
    List Answer :=
  if operation.addressee? = some id then [(server.step host operation).answer] else []

/-- Two runs side by side are the same to a client so far, and every broadcast subscriber is still
there in both. -/
structure Parallel (id : ConnectionId) (server other : Server) : Prop where
  named : server.Named
  named' : other.Named
  owned : server.Owned
  owned' : other.Owned
  attended : server.Attended
  attended' : other.Attended
  same : SameTo id server other

section Parallel

/-- **What is not addressed to another client keeps servers the same to this one.** -/
theorem Parallel.next (parallel : Parallel id server other)
    (kept : server.hearersLost host operation = []) (own : operation.isForeign id = false) :
    Parallel id (server.next host operation) (other.next host operation) := by
  obtain ⟨named, named', owned, owned', attended, attended', same⟩ := parallel
  have kept' : other.hearersLost host operation = [] := by
    cases operation with
    | unsubscribe hearer => exact (congrArg _ same.audience).trans kept
    | _ => rfl
  obtain ⟨listening, audience⟩ := audience_next named attended kept
  obtain ⟨listening', audience'⟩ := audience_next named' attended' kept'
  have gained : other.hearersGained operation = server.hearersGained operation := by
    cases operation with
    | subscribeBroadcast => exact congrArg (fun name => [name]) same.subscribers
    | _ => rfl
  refine ⟨named_next named host operation, named_next named' host operation,
    owned_next named owned host operation, owned_next named' owned' host operation,
    listening, listening', ?_⟩
  constructor
  case config => rw [config_next named, config_next named', same.config]
  case formats => rw [formats_next named, formats_next named', same.formats]
  case counter => rw [nextConnection_next named, nextConnection_next named', same.counter]
  case connection => exact same.connection_next owned host own
  case entries =>
    intro surface mine
    exact same.entries_next named named' owned owned' host mine
  case audience => rw [audience, audience', gained, same.audience]
  case subscribers => rw [nextSubscriber_next named, nextSubscriber_next named', same.subscribers]

/-- Servers in parallel answer a client the same. -/
theorem Parallel.answersTo_eq (parallel : Parallel id server other) (host : Host)
    (operation : Operation) :
    server.answersTo id host operation = other.answersTo id host operation := by
  unfold answersTo
  split
  · rename_i addressed
    rw [(parallel.same.step parallel.owned host addressed).answer]
  · rfl

/-- What is foreign to a client keeps the server in parallel to one that does not see it. -/
theorem Parallel.next_of_isForeign (parallel : Parallel id server other)
    (kept : server.hearersLost host operation = []) (foreign : operation.isForeign id = true) :
    Parallel id (server.next host operation) other := by
  obtain ⟨named, named', owned, owned', attended, attended', same⟩ := parallel
  obtain ⟨listening, _⟩ := audience_next named attended kept
  exact ⟨named_next named host operation, named', owned_next named owned host operation, owned',
    listening, attended', (sameTo_next named owned attended host foreign).trans same⟩

private theorem answersTo_of_isForeign (server : Server) (host : Host)
    (foreign : operation.isForeign id = true) : server.answersTo id host operation = [] := by
  obtain ⟨owner, addressed, apart⟩ := Operation.isForeign_eq_true.mp foreign
  rw [answersTo, addressed, if_neg fun same => apart (Option.some.inj same)]

end Parallel

/-- **Clients do not influence each other.** As long as no broadcast subscriber stops listening, a
client is answered the same, and is left with the same connection and the same entries in the view,
whether or not the other clients do anything. -/
theorem clients_isolated (config : Config) (script : Script) (id : ConnectionId)
    (kept : history config hearersLost script = []) :
    (after config (script.concerning id)).connection? id = (after config script).connection? id ∧
      (∀ surface : SurfaceId, surface.connection = id →
        (after config (script.concerning id)).entryOf? surface =
          (after config script).entryOf? surface) ∧
      history config (answersTo id) (script.concerning id) =
        history config (answersTo id) script := by
  have start : Parallel id (Server.start config).state (Server.start config).state :=
    ⟨named_after config [], named_after config [], owned_after config [], owned_after config [],
      nofun, nofun, .refl id _⟩
  have stays (front : Script) (host : Host) (operation : Operation) (back : Script)
      (parts : script = front ++ (host, operation) :: back) (other : Host) :
      (after config front).hearersLost other operation = [] := by
    apply List.eq_nil_iff_forall_not_mem.mpr
    intro hearer lost
    have shows : hearer ∈ history config hearersLost script :=
      mem_history_iff.mpr ⟨front, host, operation, back, parts, lost⟩
    rw [kept] at shows
    exact List.not_mem_nil shows
  obtain ⟨parallel, same⟩ := trace_filter (Parallel id) (answersTo id)
    (fun server operation => ∀ host, server.hearersLost host operation = [])
    (Operation.isForeign id)
    (fun _ _ host operation parallel kept own =>
      ⟨parallel.next (kept host) own, parallel.answersTo_eq host operation⟩)
    (fun server _ host _ parallel kept foreign =>
      ⟨parallel.next_of_isForeign (kept host) foreign, answersTo_of_isForeign server host foreign⟩)
    script start stays
  exact ⟨parallel.same.connection, parallel.same.entries, same.symm⟩

/-- A client that shares a file with another one is left with the same connection, and its surface
with the same entry, as if it had been alone. -/
theorem clients_isolated_neighbours :
    history {} hearersLost Script.neighbours = [] ∧
      (Script.neighbours.concerning ⟨1⟩).length + 6 = Script.neighbours.length ∧
      (after {} (Script.neighbours.concerning ⟨1⟩)).connection? ⟨1⟩ =
        (after {} Script.neighbours).connection? ⟨1⟩ ∧
      (after {} (Script.neighbours.concerning ⟨1⟩)).entryOf? ⟨⟨1⟩, 2⟩ =
        (after {} Script.neighbours).entryOf? ⟨⟨1⟩, 2⟩ ∧
      ((after {} Script.neighbours).entryOf? ⟨⟨1⟩, 2⟩).map Metadata.buffer = some ⟨⟨1⟩, 1⟩ := by
  have kept : history {} hearersLost Script.neighbours = [] := rfl
  obtain ⟨connection, entries, _⟩ := clients_isolated {} Script.neighbours ⟨1⟩ kept
  exact ⟨kept, rfl, connection, entries ⟨⟨1⟩, 2⟩ rfl, rfl⟩

end Server

end DisplayServer
