import DisplayServer.Proofs.Census
import DisplayServer.Proofs.Faults

/-! # What a failed operation leaves

An operation that fails leaves the server as it found it, with two exceptions (`Server.Remains`):
the handle of a frame callback is drawn before its surface is looked up, and a read that fails tells
the client of the buffer. A suggested size is entered before the window surface is looked up as
well, but that shows only if a live toplevel has no window surface, which the links rule out.
-/

namespace DisplayServer

namespace Connection

variable {client : Connection}

/-- Where the links agree, a size is only refused for a toplevel that is dead. -/
theorem configure_eq_error (agree : client.links.Agree) {id : ToplevelId} {size : Size}
    {cause : WindowError} (missed : client.configure id size = .error cause) :
    client.toplevels.get? id = none := by
  unfold configure at missed
  cases found : client.toplevels.get? id with
  | none => rfl
  | some toplevel =>
    obtain ⟨window, held, -⟩ :=
      Arena.exists_of_view ((agree.toplevel ..).mp (Arena.view_of_get? found))
    simp only [found, held] at missed
    cases missed

end Connection

namespace Server

variable {config : Config} {server : Server} {host : Host} {operation : Operation} {cause : Failure}

/-- What an operation that fails leaves of a server. -/
inductive Remains (server : Server) : Operation → Failure → Server → Prop where
  /-- Everything is as it was. -/
  | all {operation : Operation} {cause : Failure} (readable : cause ≠ .read .badMapping)
      (drawless : ∀ id, operation = .frame id → server.isConnected id.connection = false) :
      Remains server operation cause server
  /-- The client of a dead surface has drawn the handle of a callback. -/
  | drawn {id : SurfaceId} {client : Connection}
      (connected : server.connection? id.connection = some client)
      (dead : server.surface? id = none) :
      Remains server (.frame id) (.surface .dead)
        (server.putBack { client with nextIndex := client.nextIndex + 1 })
  /-- The client of an unreadable buffer is told, and after a fault the memory of its pool is
  zeros. -/
  | told {operation : Operation} {id : BufferId} {buffer : Buffer} {client failed : Connection}
      (reads : operation.Reads id) (connected : server.connection? id.connection = some client)
      (live : server.buffer? id = some buffer) (failure : client.ReadFailure id failed) :
      Remains server operation (.read .badMapping) (server.putBack failed)

section Refusals

private theorem state_resizePool_of_error {id : PoolId} {size : Int32} {cause : PoolError}
    (failed : (server.resizePool host id size).answer = .error cause) :
    (server.resizePool host id size).state = server := by
  unfold resizePool at failed ⊢
  grind [Outcome.refuse]

private theorem state_ackConfigure_of_error {id : WindowSurfaceId} {serial : Serial}
    {cause : WindowError} (failed : (server.ackConfigure id serial).answer = .error cause) :
    (server.ackConfigure id serial).state = server := by
  unfold ackConfigure at failed ⊢
  grind [Outcome.refuse]

/-- A configure that is refused leaves the server alone: it draws no serial. -/
theorem state_sendConfigure_of_error (named : server.Named)
    (distinct : server.connections.keys.Nodup)
    (agree : ∀ id client, server.connection? id = some client → client.links.Agree)
    {id : ToplevelId} {size : Size} {cause : WindowError}
    (failed : (server.sendConfigure id size).answer = .error cause) :
    (server.sendConfigure id size).state = server := by
  unfold sendConfigure at failed ⊢
  cases live : server.connection? id.connection with
  | none => rfl
  | some client =>
    simp only [live, Connection.suggest] at failed ⊢
    cases answer : client.configure id size with
    | ok =>
      rw [answer] at failed
      cases failed
    | error =>
      have dead := Connection.configure_eq_error (agree _ client live) answer
      have same : (client.modifyToplevel id fun toplevel => { toplevel with size }) = client := by
        rw [Connection.modifyToplevel, Arena.modify_of_get?_eq_none dead]
      rw [← named _ client live] at live
      simp only [same, putBack, Arena.modify_self distinct live]

/-- A read fails because the buffer is dead, and then nothing happens, or its client is told. -/
theorem state_withContents_of_error {α : Type} {id : BufferId} {reading : Reading}
    {read : BufferGeometry → Span → α} {cause : ReadError}
    (failed : (server.withContents host id reading read).answer = .error cause) :
    cause = .dead ∧ (server.withContents host id reading read).state = server ∨
      cause = .badMapping ∧ ∃ client buffer after,
        server.connection? id.connection = some client ∧ server.buffer? id = some buffer ∧
        client.ReadFailure id after ∧
        (server.withContents host id reading read).state = server.putBack after := by
  unfold withContents at failed ⊢
  cases live : server.connection? id.connection with
  | none =>
    simp only [live] at failed
    cases failed
    exact .inl ⟨rfl, rfl⟩
  | some client =>
    simp only [live] at failed ⊢
    cases found : client.memoryOf? id with
    | none =>
      simp only [found] at failed
      cases failed
      exact .inl ⟨rfl, rfl⟩
    | some memory =>
      obtain ⟨buffer, mapping⟩ := memory
      have held := buffer?_eq_some.mpr ⟨client, live, (Connection.memoryOf?_eq_some.mp found).1⟩
      simp only [found] at failed ⊢
      by_cases nested : host.isReading = true
      · rw [if_pos nested] at failed ⊢
        cases failed
        exact .inr ⟨rfl, client, buffer, _, rfl, held, .refused, rfl⟩
      by_cases outside : mapping.length < buffer.geometry.start + buffer.geometry.size
      · rw [if_neg nested, if_pos outside] at failed ⊢
        cases failed
        exact .inr ⟨rfl, client, buffer, _, rfl, held, .refused, rfl⟩
      rw [if_neg nested, if_neg outside] at failed ⊢
      by_cases faults : mapping.faults host.files buffer.geometry.start buffer.geometry.size
          reading = true
      · rw [if_pos faults] at failed ⊢
        cases failed
        exact .inr ⟨rfl, client, buffer, _, rfl, held, .faulted found, rfl⟩
      · rw [if_neg faults] at failed
        cases failed

end Refusals

section Attempts

variable {α ε : Type} {failure : ε → Failure} {success : α → Answer}
  {outcome : Outcome Server (Except ε α)}

/-- An operation that answers with a failure is an attempt that failed. -/
theorem exists_error_of_failed
    (step : server.step host operation = outcome.map (.ofAttempt failure success))
    (succeeds : ∀ answer cause, success answer ≠ .failed cause)
    (failed : (server.step host operation).answer = .failed cause) :
    ∃ error, outcome.answer = .error error ∧ failure error = cause := by
  rw [step] at failed
  change Answer.ofAttempt failure success outcome.answer = .failed cause at failed
  cases answer : outcome.answer with
  | ok =>
    rw [answer] at failed
    exact (succeeds _ _ failed).elim
  | error error =>
    rw [answer] at failed
    exact ⟨error, rfl, Answer.failed.inj failed⟩

/-- Most attempts that fail leave everything as it was. -/
theorem Remains.of_attempt
    (step : server.step host operation = outcome.map (.ofAttempt failure success))
    (refused : ∀ error, outcome.answer = .error error → outcome.state = server)
    (succeeds : ∀ answer cause, success answer ≠ .failed cause)
    (readable : ∀ error, failure error ≠ .read .badMapping)
    (other : ∀ id, operation ≠ .frame id)
    (failed : (server.step host operation).answer = .failed cause) :
    server.Remains operation cause (server.next host operation) := by
  obtain ⟨error, answer, rfl⟩ := exists_error_of_failed step succeeds failed
  have same : server.next host operation = server := by
    rw [next, step]
    exact refused error answer
  rw [same]
  exact .all (readable error) fun id frames => (other id frames).elim

end Attempts

/-- A frame that is refused costs a handle at most. -/
theorem remains_frame {id : SurfaceId}
    (failed : (server.step host (.frame id)).answer = .failed cause) :
    server.Remains (.frame id) cause (server.next host (.frame id)) := by
  have step : server.step host (.frame id) = (server.frame id).map (.ofAttempt .surface .handle) :=
    rfl
  obtain ⟨error, answer, rfl⟩ := exists_error_of_failed step (by simp) failed
  change server.Remains (.frame id) (.surface error) (server.frame id).state
  unfold frame at answer ⊢
  cases connected : server.connection? id.connection with
  | none =>
    refine .all (by simp) ?_
    rintro other ⟨⟩
    exact Option.isSome_eq_false_iff.mpr (Option.isNone_iff_eq_none.mpr connected)
  | some client =>
    simp only [connected, Connection.addCallback, Connection.draw] at answer ⊢
    cases found : client.surfaces.get? id with
    | none =>
      simp only [found] at answer
      cases answer
      refine .drawn connected ?_
      rw [surface?, connected]
      exact found
    | some surface =>
      simp only [found] at answer
      cases answer

/-- A read that fails tells of it, and may cost the memory. -/
theorem remains_read {α : Type} {success : α → Answer} {id : BufferId} {reading : Reading}
    {read : BufferGeometry → Span → α} (reads : operation.Reads id)
    (step : server.step host operation =
      (server.withContents host id reading read).map (.ofAttempt .read success))
    (succeeds : ∀ answer cause, success answer ≠ .failed cause)
    (other : ∀ id, operation ≠ .frame id)
    (failed : (server.step host operation).answer = .failed cause) :
    server.Remains operation cause (server.next host operation) := by
  obtain ⟨error, answer, rfl⟩ := exists_error_of_failed step succeeds failed
  have left : server.next host operation = (server.withContents host id reading read).state := by
    rw [next, step]
    rfl
  rw [left]
  rcases state_withContents_of_error answer with
    ⟨rfl, same⟩ | ⟨rfl, client, buffer, after, connected, live, failure, same⟩
  · rw [same]
    exact .all (by simp) fun id frames => (other id frames).elim
  · rw [same]
    exact .told reads connected live failure

/-- **A failed operation leaves the server as it found it.** After a script in range, whatever
operation fails has done nothing, but for a callback drawn for a dead surface and for the client
that is told of an unreadable buffer. -/
theorem failure_leaves_state (config : Config) (script : Script)
    (range : (Server.start config).state.InRange script) (host : Host) (operation : Operation)
    (cause : Failure)
    (failed : ((after config script).step host operation).answer = .failed cause) :
    (after config script).Remains operation cause ((after config script).next host operation) := by
  have accounted := accounted_after script range
  cases operation with
  | bind =>
    exact .of_attempt rfl (fun _ => state_bind_of_error) (by simp) (by simp) (by simp) failed
  | createPool =>
    exact .of_attempt rfl (fun _ => state_createPool_of_error) (by simp) (by simp) (by simp) failed
  | resizePool =>
    exact .of_attempt rfl (fun _ => state_resizePool_of_error) (by simp) (by simp) (by simp) failed
  | createBuffer | createSurface | attach | setOffset | addDamage | setScale | setTransform
  | present | giveRole | getToplevel | setWindowGeometry | setTitle | setAppId =>
    exact .of_attempt rfl (fun _ => Outcome.state_of_refused) (by simp) (by simp) (by simp) failed
  | frame => exact remains_frame failed
  | commit =>
    exact .of_attempt rfl (fun _ => state_commit_of_error) (by simp) (by simp) (by simp) failed
  | getWindowSurface =>
    exact .of_attempt rfl (fun _ => state_getWindowSurface_of_error) (by simp) (by simp) (by simp)
      failed
  | sendConfigure =>
    exact .of_attempt rfl (fun _ => state_sendConfigure_of_error accounted.named accounted.nodup
      (agree_after script range)) (by simp) (by simp) (by simp) failed
  | ackConfigure =>
    exact .of_attempt rfl (fun _ => state_ackConfigure_of_error) (by simp) (by simp) (by simp)
      failed
  | readBuffer => exact remains_read .whole rfl (by simp) (by simp) failed
  | peekBuffer => exact remains_read .some rfl (by simp) (by simp) failed
  | snapshot => exact remains_read .copy rfl (by simp) (by simp) failed
  | _ => cases failed

/-- A read of a buffer whose file was cut, and a callback for a surface that never was. -/
theorem failure_leaves_state_cutOff :
    (Server.start {}).state.InRange (Script.cutOff.take 3) ∧
      ((after {} (Script.cutOff.take 3)).step .withCutFile (.readBuffer ⟨⟨0⟩, 1⟩)).answer =
        .failed (.read .badMapping) ∧
      (after {} (Script.cutOff.take 3)).Remains (.readBuffer ⟨⟨0⟩, 1⟩) (.read .badMapping)
        ((after {} (Script.cutOff.take 3)).next .withCutFile (.readBuffer ⟨⟨0⟩, 1⟩)) ∧
      (after {} (Script.cutOff.take 3)).Remains (.frame ⟨⟨0⟩, 2⟩) (.surface .dead)
        ((after {} (Script.cutOff.take 3)).next .withFile (.frame ⟨⟨0⟩, 2⟩)) := by
  have range : (Server.start {}).state.InRange (Script.cutOff.take 3) :=
    inRange_of_length _ (by decide)
  exact ⟨range, rfl, failure_leaves_state {} _ range .withCutFile _ _ rfl,
    failure_leaves_state {} _ range .withFile _ _ rfl⟩

end Server

end DisplayServer
