import DisplayServer.Proofs.Issuing

/-! # When handles run out

A request that fails may draw a handle all the same: who asks for a frame of a surface that is gone
draws one and creates nothing. A client can so turn its counter as far as it likes while everything
else stays as it is (`Server.run_frame`), and come back to handles that are still in use
(`Server.after_turning`). What holds only as long as handles last fails after such a run.
-/

namespace DisplayServer

/-- A client begins with something, asks so many times for a frame of a surface that is gone, and
goes on with something else. -/
def Script.turning (front : Script) (gone : SurfaceId) (count : Nat) (back : Script) : Script :=
  front ++ List.replicate count (.withFile, .frame gone) ++ back

namespace Server

variable {server : Server} {client : Connection} {gone : SurfaceId}

/-- The server with the counter of one connection turned to some index. -/
def turnedTo (server : Server) (id : ConnectionId) (index : UInt32) : Server :=
  { server with
    connections := server.connections.modify id fun client => { client with nextIndex := index } }

/-- To ask for a frame of a surface that is gone moves the counter on, and changes nothing else. -/
theorem next_frame (host : Host) (live : server.connection? gone.connection = some client)
    (own : client.id = gone.connection) (distinct : server.connections.keys.Nodup)
    (dead : client.surfaces.get? gone = none) :
    server.next host (.frame gone) = server.turnedTo gone.connection (client.nextIndex + 1) := by
  have put : server.next host (.frame gone) =
      server.putBack { client with nextIndex := client.nextIndex + 1 } := by
    simp only [next, step, frame, live, Connection.addCallback, Connection.draw, dead]
    rfl
  have turned : server.connections.modify gone.connection (fun _ =>
        { client with nextIndex := client.nextIndex + 1 }) =
      server.connections.modify gone.connection fun held =>
        { held with nextIndex := client.nextIndex + 1 } :=
    Arena.modify_congr distinct live rfl
  rw [put, turnedTo, ← turned]
  exact congrArg (fun id => { server with connections := server.connections.modify id fun _ =>
    { client with nextIndex := client.nextIndex + 1 } }) own

/-- To ask again and again moves the counter on as many times. -/
theorem run_frame (host : Host) (live : server.connection? gone.connection = some client)
    (own : client.id = gone.connection) (distinct : server.connections.keys.Nodup)
    (dead : client.surfaces.get? gone = none) (count : Nat) :
    server.run (List.replicate count (host, .frame gone)) =
      server.turnedTo gone.connection (client.nextIndex + UInt32.ofNat count) := by
  induction count generalizing server client with
  | zero =>
    have still : client.nextIndex + UInt32.ofNat 0 = client.nextIndex := UInt32.add_zero _
    have same : server.connections.modify gone.connection (fun held =>
        { held with nextIndex := client.nextIndex }) = server.connections :=
      Arena.modify_eq_self distinct fun held found => by
        cases live.symm.trans found
        rfl
    rw [still, turnedTo, same]
    rfl
  | succ count ih =>
    have next := next_frame host live own distinct dead
    have moved : client.nextIndex + UInt32.ofNat (count + 1) =
        client.nextIndex + 1 + UInt32.ofNat count := by
      rw [Nat.add_comm, UInt32.ofNat_add, UInt32.add_assoc]
      rfl
    have later := connection?_next_frame host live own dead
    rw [List.replicate_succ, moved]
    change (server.next host (.frame gone)).run _ = _
    rw [ih later own ?_ dead, next, turnedTo, turnedTo, turnedTo, Arena.modify_modify]
    rw [next]
    rwa [turnedTo, Arena.keys_modify]

/-- **A counter can be turned anywhere.** A script that turns the counter of a client from where it
stands to another index goes on as if the client had just that counter. -/
theorem after_turning (config : Config) {front : Script} (few : front.accepted ≤ UInt32.size)
    (live : (after config front).connection? gone.connection = some client)
    (dead : client.surfaces.get? gone = none) {count : Nat} {index : UInt32}
    (turns : client.nextIndex + UInt32.ofNat count = index) (back : Script) :
    after config (front.turning gone count back) =
      ((after config front).turnedTo gone.connection index).run back := by
  have own := named_after config front _ client live
  have numbered : (after config front).Numbered front.accepted (drawnAfter config front) :=
    numbered_after front few
  have distinct := numbered.nodup
  rw [after, Script.turning, run_append, run_append, ← turns,
    ← run_frame .withFile live own distinct dead count]
  rfl

section Silent

variable {α : Type} {see : Server → Host → Operation → List α}
  (silent : ∀ server, see server .withFile (.frame gone) = [])

include silent

private theorem trace_frame (server : Server) (count : Nat) :
    server.trace see (List.replicate count (.withFile, .frame gone)) = [] := by
  induction count generalizing server with
  | zero => rfl
  | succ count ih =>
    rw [List.replicate_succ, trace, silent, List.nil_append]
    exact ih _

/-- What does not show in a request for a frame does not show while a counter turns. -/
theorem history_turning (config : Config) {front : Script} (few : front.accepted ≤ UInt32.size)
    (live : (after config front).connection? gone.connection = some client)
    (dead : client.surfaces.get? gone = none) {count : Nat} {index : UInt32}
    (turns : client.nextIndex + UInt32.ofNat count = index) (back : Script) :
    history config see (front.turning gone count back) =
      history config see front ++
        ((after config front).turnedTo gone.connection index).trace see back := by
  have turned : after config (front ++ List.replicate count (.withFile, .frame gone)) =
      (after config front).turnedTo gone.connection index := by
    have bare := after_turning config few live dead turns []
    rwa [Script.turning, List.append_nil] at bare
  rw [history, Script.turning, trace_append, trace_append, trace_frame silent, List.append_nil]
  exact congrArg (fun server : Server => history config see front ++ server.trace see back) turned

end Silent

end Server

end DisplayServer
