import DisplayServer.Operation

/-! # The core of the server

The core is all of the server but what it publishes. Most operations neither look at what is
published nor change it (`Server.step_withPublisher`). A commit looks at it to see whether somebody
wants contents, and at nothing else: as long as two servers agree on that, they keep the same core
whatever they publish (`Server.SameCore.next`).
-/

namespace DisplayServer

/-- Whether an operation has nothing to do with what is published. -/
def Operation.isPrivate : Operation → Bool
  | disconnect _ | commit _ | destroySurface _ | subscribeMetadata | subscribeBroadcast
  | unsubscribe _ | receiveMetadata _ | receiveBroadcast _ | nextMetadata _
  | nextSnapshot _ => false
  | _ => true

namespace Server

variable {server : Server} {host : Host} {operation : Operation} {id : SurfaceId}

/-- The same server, with something else published. -/
def withPublisher (server : Server) (publisher : Publisher) : Server :=
  { server with publisher }

/-- The same outcome, with something else published. -/
def withPublished {α : Type} (outcome : Outcome Server α) (publisher : Publisher) :
    Outcome Server α :=
  { outcome with state := outcome.state.withPublisher publisher }

@[simp] theorem connection?_withPublisher (server : Server) (publisher : Publisher) :
    (server.withPublisher publisher).connection? = server.connection? := rfl

/-- Work on a connection does not depend on who subscribed. -/
theorem onConnection_withPublisher {α ε : Type} (server : Server) (publisher : Publisher)
    (connection : ConnectionId) (dead : ε) (log : List LogMessage)
    (work : Connection → Except ε (α × Connection)) :
    Outcome.ofAttempt (server.withPublisher publisher) log
        ((server.withPublisher publisher).onConnection connection dead work) =
      withPublished (.ofAttempt server log (server.onConnection connection dead work))
        publisher := by
  unfold onConnection
  rw [connection?_withPublisher]
  cases server.connection? connection with
  | none => rfl
  | some client =>
    simp only
    cases work client <;> rfl

/-- A read does not depend on who subscribed. -/
theorem withContents_withPublisher {α : Type} (server : Server) (publisher : Publisher)
    (host : Host) (id : BufferId) (reading : Reading) (read : BufferGeometry → Span → α) :
    (server.withPublisher publisher).withContents host id reading read =
      withPublished (server.withContents host id reading read) publisher := by
  unfold withContents
  rw [connection?_withPublisher]
  cases server.connection? id.connection with
  | none => rfl
  | some client =>
    simp only
    cases client.memoryOf? id with
    | none => rfl
    | some memory =>
      simp only
      split
      · rfl
      · split
        · rfl
        · split <;> rfl

/-- **Most operations have nothing to do with what is published.** They neither look at it nor
change it. -/
theorem step_withPublisher (apart : operation.isPrivate = true) (publisher : Publisher) :
    (server.withPublisher publisher).step host operation =
      withPublished (server.step host operation) publisher := by
  cases operation with
  | connect | drainEvents | presentAll _ => rfl
  | takeEvents id =>
    simp only [step, Server.takeEvents, connection?_withPublisher]
    cases server.connection? id <;> rfl
  | bind connection name version =>
    simp only [step, Server.bind]
    split
    · rfl
    · split
      · rfl
      · exact congrArg (Outcome.map _) (onConnection_withPublisher ..)
  | unbind id =>
    simp only [step, Server.unbind, connection?_withPublisher]
    cases server.connection? id.connection <;> rfl
  | createPool connection descriptor size =>
    simp only [step, Server.createPool, connection?_withPublisher]
    split
    · rfl
    · rfl
    · split
      · rfl
      · split <;> rfl
  | resizePool id size =>
    simp only [step, Server.resizePool, connection?_withPublisher]
    split
    · rfl
    · split
      · rfl
      · split
        · rfl
        · split <;> rfl
  | destroyPool id =>
    simp only [step, Server.destroyPool, connection?_withPublisher]
    split
    · rfl
    · split <;> rfl
  | destroyBuffer id =>
    simp only [step, Server.destroyBuffer, connection?_withPublisher]
    cases server.connection? id.connection <;> rfl
  | readBuffer _ | peekBuffer _ _ | snapshot _ =>
    exact congrArg (Outcome.map _) (withContents_withPublisher ..)
  | frame id =>
    simp only [step, Server.frame, connection?_withPublisher]
    cases server.connection? id.connection <;> rfl
  | getWindowSurface id =>
    simp only [step, Server.getWindowSurface, connection?_withPublisher]
    split
    · rfl
    · split <;> rfl
  | sendConfigure id size =>
    simp only [step, Server.sendConfigure, connection?_withPublisher]
    split <;> rfl
  | ackConfigure id serial =>
    simp only [step, Server.ackConfigure, connection?_withPublisher]
    split
    · rfl
    · split <;> rfl
  | destroyWindowSurface id =>
    simp only [step, Server.destroyWindowSurface, connection?_withPublisher]
    split
    · rfl
    · split <;> rfl
  | destroyToplevel id =>
    simp only [step, Server.destroyToplevel, connection?_withPublisher]
    split
    · rfl
    · split <;> rfl
  | createBuffer _ _ | createSurface _ _ | attach _ _ _ | setOffset _ _ | addDamage _ _
  | setScale _ _ | setTransform _ _ | present _ _ | giveRole _ _ | getToplevel _
  | setWindowGeometry _ _ | setTitle _ _ | setAppId _ _ =>
    exact congrArg (Outcome.map _) (onConnection_withPublisher ..)
  | _ => cases apart

/-- Most operations touch neither the subscriptions nor the view. -/
theorem publisher_next_of_isPrivate (apart : operation.isPrivate = true) :
    (server.next host operation).publisher = server.publisher :=
  congrArg (fun outcome => outcome.state.publisher)
    (step_withPublisher apart server.publisher)

/-- The servers differ in what they publish and in nothing else. -/
def SameCore (server other : Server) : Prop :=
  other = server.withPublisher other.publisher

/-- A commit looks at what is published only to see whether somebody wants contents. -/
theorem sameCore_commit {publisher : Publisher}
    (wants : publisher.wantsContents = server.publisher.wantsContents) :
    (server.next host (.commit id)).SameCore
      ((server.withPublisher publisher).next host (.commit id)) := by
  change Server.SameCore (server.commit host id).state _
  change Server.SameCore _ ((server.withPublisher publisher).commit host id).state
  simp only [Server.commit, connection?_withPublisher]
  cases server.connection? id.connection with
  | none => rfl
  | some client =>
    simp only
    cases client.commit? id with
    | none => rfl
    | some commit =>
      simp only
      cases commit.published with
      | none => rfl
      | some buffer =>
        change Server.SameCore ((server.putBack commit.client).publish host id buffer).state
          (((server.putBack commit.client).withPublisher publisher).publish host id buffer).state
        have known : ((server.putBack commit.client).withPublisher publisher).metadata? id buffer =
          (server.putBack commit.client).metadata? id buffer := rfl
        simp only [publish, known]
        cases (server.putBack commit.client).metadata? id buffer with
        | none => rfl
        | some metadata =>
          have reads (published : Publisher) :
              ((server.putBack commit.client).withPublisher published).snapshot host buffer =
                withPublished ((server.putBack commit.client).snapshot host buffer) published :=
            withContents_withPublisher ..
          change Server.SameCore
            (((server.putBack commit.client).withPublisher
              (server.publisher.publishMetadata metadata)).publishContents host buffer).state
            (((server.putBack commit.client).withPublisher
              (publisher.publishMetadata metadata)).publishContents host buffer).state
          have same : ((server.putBack commit.client).withPublisher
              (publisher.publishMetadata metadata)).publisher.wantsContents =
            ((server.putBack commit.client).withPublisher
              (server.publisher.publishMetadata metadata)).publisher.wantsContents := wants
          simp only [publishContents, same, reads]
          split
          · simp only [withPublished]
            cases ((server.putBack commit.client).snapshot host buffer).answer <;> rfl
          · rfl

/-- Servers with the same core keep it through every operation, if both want contents or neither
does. -/
theorem SameCore.next {other : Server} (same : server.SameCore other)
    (wants : other.publisher.wantsContents = server.publisher.wantsContents) (host : Host)
    (operation : Operation) :
    (server.next host operation).SameCore (other.next host operation) := by
  obtain ⟨publisher, rfl⟩ : ∃ publisher, other = server.withPublisher publisher := ⟨_, same⟩
  by_cases apart : operation.isPrivate = true
  · simp only [Server.next, step_withPublisher apart]
    rfl
  · cases operation with
    | commit id => exact sameCore_commit wants
    | disconnect id =>
      simp only [Server.next, step, Server.disconnect, connection?_withPublisher]
      cases server.connection? id <;> rfl
    | destroySurface id =>
      simp only [Server.next, step, Server.destroySurface, connection?_withPublisher]
      cases server.connection? id.connection with
      | none => rfl
      | some client =>
        simp only
        cases client.destroySurface? id <;> rfl
    | subscribeMetadata | subscribeBroadcast | unsubscribe _ | receiveMetadata _
    | receiveBroadcast _ | nextMetadata _ | nextSnapshot _ => rfl
    | _ => exact (apart rfl).elim

end Server

end DisplayServer
