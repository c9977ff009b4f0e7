import DisplayServer.Proofs.Undergoing

/-! # Destructions commute

What is destroyed takes other things along, and is named by things that stay. Still it does not
matter which of two things goes first, or whether one is destroyed again
(`Server.destructions_commute`). For a server, a destruction is a change of one connection and of
the view (`Server.IsAfter.next_destroy`). What it does to the connection does not depend on the
order, and the surfaces that go do not depend on each other's callbacks.
-/

namespace DisplayServer.Server

/-- What is left of a server when something is destroyed. -/
def destroyed (server : Server) (gone : Destruction) : Server :=
  { server with
    connections := server.connections.modify gone.connection fun client => client.destroyed gone
    publisher := { server.publisher with view := gone.viewAfter server.publisher.view } }

/-- It does not matter which of two things is destroyed first, nor in what surroundings. (The same
thing twice comes in one order only; `OnceForAll` tells what its second destruction answers.) -/
structure EitherFirst (server : Server) (first second : Destruction) : Prop where
  state : ∀ host host',
    (server.next host first.operation).next host' second.operation =
      (server.next host' second.operation).next host first.operation
  answerFirst : first ≠ second → ∀ host host',
    ((server.next host' second.operation).step host first.operation).answer =
      (server.step host first.operation).answer
  answerSecond : first ≠ second → ∀ host host',
    ((server.next host first.operation).step host' second.operation).answer =
      (server.step host' second.operation).answer

/-- Something is destroyed once and for all, and its client is not told. -/
structure OnceForAll (server : Server) (gone : Destruction) : Prop where
  state : ∀ host host',
    (server.next host gone.operation).next host' gone.operation = server.next host gone.operation
  answer : ∀ host host',
    ((server.next host gone.operation).step host' gone.operation).answer ∈
      [Answer.done, .callbacks []]
  events : ∀ host connection,
    (server.next host gone.operation).eventsOf connection = server.eventsOf connection

section Destroyed

variable {config : Config} {server : Server} {accepted : Nat} {drawn : ConnectionId → Nat}
  {connection : ConnectionId} {client : Connection} {host : Host} {gone first second : Destruction}

/-- A live connection is coherent. -/
theorem IsAfter.coherent (isAfter : IsAfter config server accepted drawn)
    (live : server.connection? connection = some client) : client.Coherent where
  agree := isAfter.agree live
  enlisted := isAfter.enlisted live
  backed := isAfter.held live

/-- A live connection undergoes every destruction. -/
theorem IsAfter.undergoes_destroyed (isAfter : IsAfter config server accepted drawn)
    (live : server.connection? connection = some client) (gone : Destruction) :
    client.Undergoes gone (client.destroyed gone) :=
  (isAfter.coherent live).undergoes_destroyed gone

/-- The view has nothing to forget of a surface that is not live. -/
theorem IsAfter.viewAfter_eq_self (isAfter : IsAfter config server accepted drawn)
    (dead : ∀ client, server.connection? gone.connection = some client → ¬ client.Holds gone) :
    gone.viewAfter server.publisher.view = server.publisher.view := by
  cases gone with
  | surface id =>
    refine Arena.erase_of_notMem fun listed => ?_
    obtain ⟨_, entry⟩ := Arena.get?_of_mem_keys listed
    obtain ⟨client, found, held⟩ :=
      isAfter.isLive_of_entry (Arena.mem_entries_of_get? entry)
    exact dead client found (Arena.get?_of_mem_keys held)
  | _ => rfl

/-- There is nothing to be done about something dead. -/
theorem IsAfter.destroyed_of_dead (isAfter : IsAfter config server accepted drawn)
    (dead : ∀ client, server.connection? gone.connection = some client → ¬ client.Holds gone) :
    server.destroyed gone = server := by
  have connections : (server.connections.modify gone.connection fun client =>
      client.destroyed gone) = server.connections :=
    Arena.modify_eq_self isAfter.distinct fun client live =>
      Connection.destroyed_of_dead (dead client live)
  simp only [destroyed, connections, isAfter.viewAfter_eq_self dead]

private theorem IsAfter.putBack_destroyed (isAfter : IsAfter config server accepted drawn)
    (gone : Destruction) (live : server.connection? gone.connection = some client) :
    server.putBack (client.destroyed gone) = { server with
      connections := server.connections.modify gone.connection fun client =>
        client.destroyed gone } := by
  have named : (client.destroyed gone).id = gone.connection := by
    rw [(isAfter.undergoes_destroyed live gone).frame]
    exact isAfter.named _ client live
  rw [putBack, named, Arena.modify_congr isAfter.distinct live]
  rfl

/-- **What destroying does to a server**, whether there is something to destroy or not. -/
theorem IsAfter.next_destroy (isAfter : IsAfter config server accepted drawn) (host : Host)
    (gone : Destruction) : server.next host gone.operation = server.destroyed gone := by
  cases live : server.connection? gone.connection with
  | none =>
    have vain : server.InVain host gone.operation :=
      inVain_of_addressee live gone.addressee?_operation
    rw [vain.1, isAfter.destroyed_of_dead]
    intro client found
    cases live.symm.trans found
  | some client =>
    have unheld (dead : ¬ client.Holds gone) : server = server.destroyed gone := by
      refine (isAfter.destroyed_of_dead fun other found => ?_).symm
      cases live.symm.trans found
      exact dead
    have back := isAfter.putBack_destroyed gone live
    cases gone with
    | binding id =>
      change server.connection? id.connection = some client at live
      change server.unbind id = _
      rw [unbind, live]
      exact back
    | pool id =>
      change server.connection? id.connection = some client at live
      change (server.destroyPool id).state = _
      rw [destroyPool, live]
      by_cases held : client.pools.contains id = true
      · simp only [held, if_true]
        exact back
      · simp only [held]
        refine unheld ?_
        rintro ⟨_, found⟩
        exact held (congrArg Option.isSome found)
    | buffer id =>
      change server.connection? id.connection = some client at live
      change server.destroyBuffer id = _
      rw [destroyBuffer, live]
      exact back
    | surface id =>
      change server.connection? id.connection = some client at live
      change (server.destroySurface id).state = _
      rw [destroySurface, live]
      cases done : client.destroySurface? id with
      | none =>
        have absent := Option.map_eq_none_iff.mp done
        simp only [done]
        refine unheld ?_
        rintro ⟨_, found⟩
        cases found.symm.trans absent
      | some result =>
        obtain ⟨callbacks, left⟩ := result
        rw [Connection.destroyed_surface done] at back
        simp only [done, back]
        rfl
    | windowSurface id =>
      change server.connection? id.connection = some client at live
      change (server.destroyWindowSurface id).state = _
      rw [destroyWindowSurface, live]
      cases done : client.destroyWindowSurface? id with
      | none =>
        have absent := Option.map_eq_none_iff.mp done
        simp only [done]
        refine unheld ?_
        rintro ⟨_, found⟩
        cases found.symm.trans absent
      | some left =>
        rw [Connection.destroyed_windowSurface done] at back
        simp only [done]
        exact back
    | toplevel id =>
      change server.connection? id.connection = some client at live
      change (server.destroyToplevel id).state = _
      rw [destroyToplevel, live]
      cases done : client.destroyToplevel? id with
      | none =>
        have absent := Option.map_eq_none_iff.mp done
        simp only [done]
        refine unheld ?_
        rintro ⟨_, found⟩
        cases found.symm.trans absent
      | some left =>
        rw [Connection.destroyed_toplevel done] at back
        simp only [done]
        exact back

/-- Some script leads to what a destruction leaves. -/
theorem IsAfter.destroyed (isAfter : IsAfter config server accepted drawn) (gone : Destruction) :
    IsAfter config (server.destroyed gone) accepted drawn := by
  rw [← isAfter.next_destroy .withFile]
  exact isAfter.next_of_drawless _ _ (Operation.draws_of_withdrawal? gone.withdrawal?_operation)

/-- A destruction changes its own connection and no other. -/
theorem connection?_destroyed (server : Server) (gone : Destruction) (id : ConnectionId) :
    (server.destroyed gone).connection? id =
      if id = gone.connection then (server.connection? id).map fun client => client.destroyed gone
      else server.connection? id :=
  Arena.get?_modify ..

private theorem connection?_destroyed_of_own (live : server.connection? connection = some client)
    (own : gone.connection = connection) :
    (server.destroyed gone).connection? connection = some (client.destroyed gone) := by
  rw [connection?_destroyed, if_pos own.symm, live]
  rfl

/-- What is left of a connection is the same whichever of two things goes first. -/
theorem IsAfter.client_destroyed_comm (isAfter : IsAfter config server accepted drawn)
    (live : server.connection? connection = some client) (own : first.connection = connection)
    (own' : second.connection = connection) :
    (client.destroyed first).destroyed second = (client.destroyed second).destroyed first := by
  by_cases same : first = second
  · rw [same]
  · have early := isAfter.destroyed first
    have early' := isAfter.destroyed second
    have went := connection?_destroyed_of_own live own
    have went' := connection?_destroyed_of_own live own'
    have left := connection?_destroyed_of_own went own'
    have left' := connection?_destroyed_of_own went' own
    exact Connection.Undergoes.comm same
      ((early.destroyed second).accounted.clients _ _ left)
      ((early'.destroyed first).accounted.clients _ _ left')
      (isAfter.undergoes_destroyed live first) (early.undergoes_destroyed went second)
      (isAfter.undergoes_destroyed live second) (early'.undergoes_destroyed went' first)

/-- **Two things go in either order.** -/
theorem IsAfter.destroyed_comm (isAfter : IsAfter config server accepted drawn)
    (first second : Destruction) :
    (server.destroyed first).destroyed second = (server.destroyed second).destroyed first := by
  have connections : ((server.connections.modify first.connection fun client =>
        client.destroyed first).modify second.connection fun client => client.destroyed second) =
      (server.connections.modify second.connection fun client =>
        client.destroyed second).modify first.connection fun client => client.destroyed first := by
    by_cases same : first.connection = second.connection
    · rw [same, Arena.modify_modify, Arena.modify_modify]
      cases live : server.connection? second.connection with
      | none => rw [Arena.modify_of_get?_eq_none live, Arena.modify_of_get?_eq_none live]
      | some client =>
        exact Arena.modify_congr isAfter.distinct live
          (isAfter.client_destroyed_comm live same rfl)
    · exact Arena.modify_comm _ same ..
  simp only [Server.destroyed, connections, Destruction.viewAfter_comm first second]

/-- What a destruction answers. -/
def farewell (server : Server) : Destruction → Answer
  | .surface id => .callbacks ((server.surface? id).elim [] Surface.waitingCallbacks)
  | _ => .done

/-- A destruction answers with its farewell. -/
theorem answer_destroy (server : Server) (host : Host) (gone : Destruction) :
    (server.step host gone.operation).answer = server.farewell gone := by
  cases gone with
  | surface id =>
    refine congrArg Answer.callbacks ?_
    rw [surface?, destroySurface]
    cases server.connection? id.connection with
    | none => rfl
    | some client =>
      simp only [Connection.destroySurface?, Option.bind_eq_bind, Option.bind_some]
      cases client.surfaces.get? id <;> rfl
  | _ => rfl

/-- What a surface discards does not depend on what else goes before it. -/
theorem IsAfter.farewell_destroyed (isAfter : IsAfter config server accepted drawn)
    (apart : first ≠ second) :
    (server.destroyed first).farewell second = server.farewell second := by
  cases second with
  | surface id =>
    refine congrArg Answer.callbacks ?_
    rw [surface?, surface?, connection?_destroyed]
    split
    · cases live : server.connection? id.connection with
      | none => rfl
      | some client =>
        have left := (isAfter.undergoes_destroyed live first).surface id
        simp only [Option.map_some, Option.bind_eq_bind, Option.bind_some, left]
        cases client.surfaces.get? id with
        | none => rfl
        | some surface =>
          obtain ⟨_, same⟩ := Destruction.surfaceAfter_of_ne apart surface
          rw [Option.bind_some, same]
          rfl
    · rfl
  | _ => rfl

/-- What is destroyed is dead. -/
theorem IsAfter.not_holds_destroyed (isAfter : IsAfter config server accepted drawn)
    (gone : Destruction) {client : Connection}
    (live : (server.destroyed gone).connection? gone.connection = some client) :
    ¬ client.Holds gone := by
  rw [connection?_destroyed, if_pos rfl, Option.map_eq_some_iff] at live
  obtain ⟨client, live, rfl⟩ := live
  exact (isAfter.undergoes_destroyed live gone).not_holds

/-- A destruction tells nobody of anything. -/
theorem IsAfter.eventsOf_destroyed (isAfter : IsAfter config server accepted drawn)
    (gone : Destruction) (id : ConnectionId) :
    (server.destroyed gone).eventsOf id = server.eventsOf id := by
  rw [eventsOf, eventsOf, connection?_destroyed]
  split
  · cases live : server.connection? id with
    | none => rfl
    | some client =>
      rw [Option.map_some, (isAfter.undergoes_destroyed live gone).frame]
      rfl
  · rfl

/-- **It does not matter which of two things is destroyed first.** -/
theorem IsAfter.eitherFirst (isAfter : IsAfter config server accepted drawn)
    (first second : Destruction) : server.EitherFirst first second where
  state host host' := by
    rw [isAfter.next_destroy, isAfter.next_destroy, (isAfter.destroyed first).next_destroy,
      (isAfter.destroyed second).next_destroy, isAfter.destroyed_comm]
  answerFirst apart host host' := by
    rw [answer_destroy, answer_destroy, isAfter.next_destroy,
      isAfter.farewell_destroyed apart.symm]
  answerSecond apart host host' := by
    rw [answer_destroy, answer_destroy, isAfter.next_destroy, isAfter.farewell_destroyed apart]

/-- **What is destroyed is destroyed once and for all.** -/
theorem IsAfter.onceForAll (isAfter : IsAfter config server accepted drawn) (gone : Destruction) :
    server.OnceForAll gone where
  state host host' := by
    rw [isAfter.next_destroy, (isAfter.destroyed gone).next_destroy]
    exact (isAfter.destroyed gone).destroyed_of_dead fun _ live =>
      isAfter.not_holds_destroyed gone live
  answer host host' := by
    rw [answer_destroy, isAfter.next_destroy]
    cases gone with
    | surface id =>
      have dead : (server.destroyed (.surface id)).surface? id = none := by
        rw [surface?]
        cases live : (server.destroyed (.surface id)).connection? id.connection with
        | none => rfl
        | some client =>
          exact Option.eq_none_iff_forall_ne_some.mpr fun surface found =>
            isAfter.not_holds_destroyed (.surface id) live ⟨surface, found⟩
      rw [farewell, dead]
      exact List.mem_cons_of_mem _ List.mem_cons_self
    | _ => exact List.mem_cons_self
  events host connection := by
    rw [isAfter.next_destroy, isAfter.eventsOf_destroyed]

end Destroyed

/-- **Destructions commute, and one is enough.** Take any script in range, and any two things of its
clients, live or dead, of one client or of two. Whichever of the two is destroyed first, the same
state is left, and a surface among them discards the same callbacks. To destroy one of them again
does nothing, and no client is told anything. -/
theorem destructions_commute (config : Config) (script : Script)
    (range : (Server.start config).state.InRange script) :
    (∀ first second, (after config script).EitherFirst first second) ∧
      ∀ gone, (after config script).OnceForAll gone := by
  have isAfter : IsAfter config (after config script) _ _ := ⟨script, range, rfl, rfl, rfl⟩
  exact ⟨isAfter.eitherFirst, isAfter.onceForAll⟩

/-- A surface that shows a buffer goes before or after the pool of the buffer. -/
theorem destructions_commute_takenBack :
    (Server.start {}).state.InRange (Script.takenBack.take 6) ∧
      (after {} (Script.takenBack.take 6)).EitherFirst (.surface ⟨⟨0⟩, 2⟩) (.pool ⟨⟨0⟩, 0⟩) ∧
      (after {} (Script.takenBack.take 6)).OnceForAll (.surface ⟨⟨0⟩, 2⟩) := by
  have range : (Server.start {}).state.InRange (Script.takenBack.take 6) :=
    inRange_of_length _ (by decide)
  obtain ⟨either, once⟩ := destructions_commute {} (Script.takenBack.take 6) range
  exact ⟨range, either _ _, once _⟩

end DisplayServer.Server
