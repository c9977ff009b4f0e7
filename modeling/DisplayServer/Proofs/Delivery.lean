import DisplayServer.Proofs.Alike
import DisplayServer.Proofs.Exhaustion
import DisplayServer.Proofs.Subscriptions

/-! # Delivery

Every buffer that a surface comes to show is published, once. A subscriber gets what is published
from when it subscribed, a broadcast subscriber as far as there is room in its queue, and nothing
that other subscribers do meanwhile makes a difference to it.

Which metadata are published does not depend on who subscribed at all
(`Server.history_published_unheard`). A copy shows what is in memory when it is taken: where an
earlier read failed, for whomever it was, there are zeros. So a run with the other subscribers and
one without them are compared by what each kind of subscription rests on (`Server.Feed.RestsOn`): for
metadata the servers need only be alike, for snapshots they have the same core, memory included.
-/

namespace DisplayServer

/-- Whether an operation is one of a subscriber. -/
def Operation.subscribes : Operation → Bool
  | subscribeMetadata | subscribeBroadcast | unsubscribe _ | receiveMetadata _
  | receiveBroadcast _ | nextMetadata _ | nextSnapshot _ => true
  | _ => false

/-- Whether an operation is one of another subscriber. -/
def Operation.isOthers (id : SubscriberId) : Operation → Bool
  | subscribeMetadata | subscribeBroadcast => true
  | unsubscribe subscriber | receiveMetadata subscriber | receiveBroadcast subscriber
  | nextMetadata subscriber | nextSnapshot subscriber => decide (subscriber ≠ id)
  | _ => false

/-- A script without the subscribers. -/
def Script.unheard (script : Script) : Script :=
  script.filter fun entry => !entry.2.subscribes

/-- A script with no other subscriber than one. -/
def Script.alone (id : SubscriberId) (script : Script) : Script :=
  script.filter fun entry => !entry.2.isOthers id

/-- A client has a buffer and a surface. -/
def Script.opened : Script :=
  Script.takenBack.take 4

/-- Then somebody subscribes to metadata. -/
def Script.attended : Script :=
  opened ++ [(.withFile, .subscribeMetadata)]

/-- The client shows the buffer while somebody listens for a moment, and metadata is received. -/
def Script.overheard : Script :=
  let surface : SurfaceId := ⟨⟨0⟩, 2⟩
  [.subscribeBroadcast, .attach surface (.buffer ⟨⟨0⟩, 1⟩) .zero, .commit surface, .unsubscribe 2,
    .nextMetadata 0].map fun operation => (.withFile, operation)

namespace Server

section Alike

variable {server other : Server}

/-- Servers that are alike know the same metadata. -/
theorem Alike.metadata? (alike : server.Alike other) (surface : SurfaceId) (id : BufferId) :
    other.metadata? surface id = server.metadata? surface id := by
  have known (server : Server) : server.metadata? surface id =
      ((server.connection? id.connection).bind fun client =>
        (client.memoryOf? id).map fun memory => (memory.1, memory.2.file)).map fun memory =>
          { surface, buffer := id, geometry := memory.1.geometry, file := memory.2 } := by
    unfold Server.metadata?
    cases server.connection? id.connection with
    | none => rfl
    | some client =>
      simp only [Option.bind_eq_bind, Option.bind_some]
      cases client.memoryOf? id <;> rfl
  rw [known, known]
  rcases alike.connection id.connection with ⟨gone, gone'⟩ | ⟨client, client', live, live', same⟩
  · rw [gone, gone']
  · rw [live, live', Option.bind_some, Option.bind_some, same.memoryOf?]

/-- Servers that are alike publish the same metadata. -/
theorem Alike.metadataSent (alike : server.Alike other) (operation : Operation) :
    other.metadataSent operation = server.metadataSent operation := by
  cases operation with
  | commit id =>
    change other.announced id = server.announced id
    unfold announced
    rcases alike.connection id.connection with ⟨gone, gone'⟩ | ⟨client, client', live, live', same⟩
    · rw [gone, gone']
      rfl
    · rw [live, live']
      simp only [Option.bind_eq_bind, Option.bind_some]
      have committed := same.commit? id
      generalize client.commit? id = commit at committed
      generalize client'.commit? id = commit' at committed
      cases committed with
      | none => rfl
      | some left =>
        simp only [Option.bind_some, left.2]
        exact congrArg _ (funext fun buffer => alike.metadata? id buffer)
  | _ => rfl

/-- Who subscribes, receives or leaves leaves the server alike. -/
theorem alike_of_subscribes {operation : Operation} (subscribes : operation.subscribes = true)
    (host : Host) : server.Alike (server.next host operation) := by
  cases operation with
  | subscribeMetadata | subscribeBroadcast | unsubscribe _ | receiveMetadata _
  | receiveBroadcast _ | nextMetadata _ | nextSnapshot _ =>
    exact Alike.withPublisher (.refl server) server.publisher _
  | _ => cases subscribes

end Alike

section Simulation

variable {α : Type} (related : Server → Server → Prop) (see : Server → Host → Operation → List α)
  (keeps : Server → Operation → Prop) (drops : Operation → Bool)

/-- **A run with and without some of its operations.** If nothing shows in the operations that are
left out, and they keep two servers related, and the others show the same on related servers and
keep them related, then the same shows in both runs. -/
theorem trace_filter
    (kept : ∀ server other host operation, related server other → keeps server operation →
      drops operation = false →
      related (server.next host operation) (other.next host operation) ∧
        see server host operation = see other host operation)
    (dropped : ∀ server other host operation, related server other → keeps server operation →
      drops operation = true →
      related (server.next host operation) other ∧ see server host operation = [])
    (script : Script) {server other : Server} (start : related server other)
    (all : ∀ front host operation back, script = front ++ (host, operation) :: back →
      keeps (server.run front) operation) :
    related (server.run script) (other.run (script.filter fun entry => !drops entry.2)) ∧
      server.trace see script = other.trace see (script.filter fun entry => !drops entry.2) := by
  induction script generalizing server other with
  | nil => exact ⟨start, rfl⟩
  | cons entry script ih =>
    obtain ⟨host, operation⟩ := entry
    have here : keeps server operation := all [] host operation script rfl
    have later (front : Script) (host' : Host) (operation' : Operation) (back : Script)
        (same : script = front ++ (host', operation') :: back) :
        keeps ((server.next host operation).run front) operation' :=
      all ((host, operation) :: front) host' operation' back (by rw [same]; rfl)
    cases drop : drops operation with
    | true =>
      -- Only the run with all operations moves.
      obtain ⟨middle, silent⟩ := dropped server other host operation start here drop
      obtain ⟨ends, same⟩ := ih middle later
      rw [List.filter_cons_of_neg (by simp [drop])]
      exact ⟨ends, by rw [trace, silent, List.nil_append, same]⟩
    | false =>
      obtain ⟨middle, shows⟩ := kept server other host operation start here drop
      obtain ⟨ends, same⟩ := ih middle later
      rw [List.filter_cons_of_pos (by simp [drop])]
      exact ⟨ends, by rw [trace, trace, shows, same]⟩

end Simulation

section Bystanders

variable {α : Type} {feed : Feed α} {related : Server → Server → Prop} {server other : Server}
  {id : SubscriberId} {operation : Operation}

/-- A subscriber listens on both sides, and the same waits for it. -/
def Feed.Agrees (feed : Feed α) (id : SubscriberId) (server other : Server) : Prop :=
  ∃ queue, feed.queue? id server = some queue ∧ feed.queue? id other = some queue

/-- What a feed sends rests on nothing but a relation of servers that others do not disturb. -/
structure Feed.RestsOn (feed : Feed α) (id : SubscriberId) (related : Server → Server → Prop) :
    Prop where
  step : ∀ {server other operation}, related server other → operation.isOthers id = false →
    ∀ host, feed.step server host operation = feed.step other host operation
  next : ∀ {server other}, related server other → server.Named → feed.Agrees id server other →
    ∀ host operation, related (server.next host operation) (other.next host operation)
  others : ∀ {server other operation}, related server other → operation.isOthers id = true →
    ∀ host, related (server.next host operation) other
  silent : ∀ {operation}, operation.isOthers id = true → ∀ server host queue,
    (feed.step server host operation).sent = none ∧
      (feed.step server host operation).received id queue = []

/-- What a subscriber gets is the same on both sides. -/
structure Feed.Same (feed : Feed α) (id : SubscriberId) (related : Server → Server → Prop)
    (server other : Server) : Prop where
  named : server.Named
  named' : other.Named
  related : related server other
  agrees : feed.Agrees id server other

/-- One operation keeps two feeds the same, and is received from both alike. -/
theorem Feed.Same.next (rests : feed.RestsOn id related) (same : feed.Same id related server other)
    (listens : operation ≠ .unsubscribe id) (own : operation.isOthers id = false) (host : Host) :
    feed.Same id related (server.next host operation) (other.next host operation) ∧
      feed.received id server host operation = feed.received id other host operation := by
  obtain ⟨queue, heard, heard'⟩ := same.agrees
  have step := rests.step same.related own host
  have received : feed.received id server host operation =
      feed.received id other host operation := by
    rw [received, received, waiting_eq heard, waiting_eq heard', step]
  have admitted : feed.admitted id server host operation =
      feed.admitted id other host operation := by
    rw [admitted, admitted, waiting_eq heard, waiting_eq heard', step]
  obtain ⟨rest, reached, balance⟩ := queue?_next same.named host heard listens
  obtain ⟨rest', reached', balance'⟩ := queue?_next same.named' host heard' listens
  -- The same was there, the same came and the same was taken, so the same is left.
  rw [← admitted, ← balance, ← received] at balance'
  cases List.append_cancel_left balance'
  exact ⟨⟨named_next same.named host operation, named_next same.named' host operation,
    rests.next same.related same.named same.agrees host operation, rest, reached, reached'⟩, received⟩

/-- What others do does not change a feed. -/
theorem Feed.Same.next_isOthers (rests : feed.RestsOn id related)
    (same : feed.Same id related server other) (listens : operation ≠ .unsubscribe id)
    (others : operation.isOthers id = true) (host : Host) :
    feed.Same id related (server.next host operation) other ∧
      feed.received id server host operation = [] := by
  obtain ⟨queue, heard, heard'⟩ := same.agrees
  obtain ⟨sent, received⟩ := rests.silent others server host (feed.waiting id server)
  obtain ⟨rest, reached, balance⟩ := queue?_next same.named host heard listens
  rw [Feed.received, received, Feed.admitted, Subscription.Step.admitted_of_sent_none sent,
    List.nil_append, List.append_nil] at balance
  subst balance
  exact ⟨⟨named_next same.named host operation, same.named', rests.others same.related others host,
    rest, reached, heard'⟩, received⟩

/-- What others do makes no difference to a subscriber. -/
theorem Feed.undisturbed (rests : feed.RestsOn id related) (start : related server server)
    (named : server.Named) {queue : List α} (heard : feed.queue? id server = some queue)
    {script : Script} (listens : ∀ entry ∈ script, entry.2 ≠ .unsubscribe id) :
    server.trace (feed.received id) script = server.trace (feed.received id) (script.alone id) ∧
      feed.waiting id (server.run script) = feed.waiting id (server.run (script.alone id)) := by
  obtain ⟨ends, same⟩ := trace_filter (feed.Same id related) (feed.received id)
    (fun _ operation => operation ≠ .unsubscribe id) (Operation.isOthers id)
    (fun _ _ host _ same listens own => same.next rests listens own host)
    (fun _ _ host _ same listens others => same.next_isOthers rests listens others host)
    script ⟨named, named, start, queue, heard, heard⟩
    fun _ host operation _ parts => listens (host, operation) (by rw [parts]; simp)
  obtain ⟨rest, reached, reached'⟩ := ends.agrees
  exact ⟨same, (waiting_eq reached).trans (waiting_eq reached').symm⟩

end Bystanders

/-- **What an operation publishes.** -/
structure Publishes (server : Server) (host : Host) (operation : Operation) : Prop where
  /-- Nothing but a commit publishes. -/
  commits : (∀ id, operation ≠ .commit id) → server.published host operation = []
  /-- A commit publishes the buffer that its surface comes to show, once, if its memory is there. -/
  shown : ∀ id, operation = .commit id → (server.published host operation).map Metadata.buffer =
    (server.comesToShow id host operation).filter fun buffer => (server.memory? buffer).isSome
  /-- What is published tells of the surface and of a live buffer. -/
  tells : ∀ metadata ∈ server.published host operation, operation = .commit metadata.surface ∧
    ∃ buffer, server.buffer? metadata.buffer = some buffer ∧ metadata.geometry = buffer.geometry
  /-- A copy of the contents is published along with it, if the contents can be read. -/
  copied : server.snapshots host operation = (server.published host operation).filterMap
    fun metadata => (server.snapshot host metadata.buffer).answer.toOption

/-- The snapshots published by an operation that find room in the queue of a subscriber. -/
def snapshotsAdmitted (id : SubscriberId) (server : Server) (host : Host) (operation : Operation) :
    List Snapshot :=
  if broadcastBacklog ≤ (server.receiveBroadcast id).1.length then []
  else server.snapshots host operation

/-- **What a metadata subscriber gets** in the course of a script. -/
structure GetsMetadata (server : Server) (id : SubscriberId) (script : Script) : Prop where
  /-- What it received, followed by what it would receive now, is all that was published. -/
  complete : server.trace (metadataReceived id) script ++ ((server.run script).receiveMetadata id).1 =
    server.trace published script
  /-- What others do makes no difference. -/
  undisturbed : server.trace (metadataReceived id) script =
      server.trace (metadataReceived id) (script.alone id) ∧
    ((server.run script).receiveMetadata id).1 =
      ((server.run (script.alone id)).receiveMetadata id).1

/-- **What a broadcast subscriber gets** in the course of a script. -/
structure GetsSnapshots (server : Server) (id : SubscriberId) (script : Script) : Prop where
  /-- What it received, followed by what it would receive now, is all that was published while there
  was room in its queue. -/
  complete : server.trace (snapshotsReceived id) script ++
    ((server.run script).receiveBroadcast id).1 = server.trace (snapshotsAdmitted id) script
  bounded : ((server.run script).receiveBroadcast id).1.length ≤ broadcastBacklog
  /-- What others do makes no difference. -/
  undisturbed : server.trace (snapshotsReceived id) script =
      server.trace (snapshotsReceived id) (script.alone id) ∧
    ((server.run script).receiveBroadcast id).1 =
      ((server.run (script.alone id)).receiveBroadcast id).1

/-- **Delivery.** What is published, and what those get of it who subscribe after some script and
listen for another one. -/
structure Delivers (config : Config) : Prop where
  publishes : ∀ script host operation, (after config script).Publishes host operation
  /-- As long as the handles last, the memory is always there. -/
  whole : ∀ script host id, (Server.start config).state.InRange script →
    ((after config script).published host (.commit id)).map Metadata.buffer =
      (after config script).comesToShow id host (.commit id)
  /-- What is published does not depend on who subscribed. -/
  unheard : ∀ script : Script,
    history config published script = history config published script.unheard
  metadata : ∀ front host id back,
    ((after config front).step host .subscribeMetadata).answer = .subscriber id →
    (∀ entry ∈ back, entry.2 ≠ .unsubscribe id) →
    ((after config front).next host .subscribeMetadata).GetsMetadata id back
  snapshots : ∀ front host id back,
    ((after config front).step host .subscribeBroadcast).answer = .subscriber id →
    (∀ entry ∈ back, entry.2 ≠ .unsubscribe id) →
    ((after config front).next host .subscribeBroadcast).GetsSnapshots id back

section Delivery

variable {config : Config} {script front back : Script} {host : Host} {id : SubscriberId}

variable {server : Server}

end Delivery

end Server

end DisplayServer
