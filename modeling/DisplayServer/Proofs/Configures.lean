import DisplayServer.Proofs.Census
import DisplayServer.Proofs.Isolation
import DisplayServer.Proofs.Publishing
import DisplayServer.Proofs.Releases
import DisplayServer.Proofs.Serials
import DisplayServer.Proofs.WindowLinks

/-! # Configure events

The serials of the configure events of a window surface are drawn from its counter, one for each
event (`Connection.Sequences`), and nothing else moves the counter. Toplevels come and go meanwhile;
the sequence of a window surface goes on over all of them, without gaps.
-/

namespace DisplayServer

open Function (update update_apply update_of_ne update_self)

/-- What a configure event asks of a toplevel. -/
structure Suggestion where
  toplevel : ToplevelId
  size : Size
  serial : Serial
deriving DecidableEq, Repr

/-- What an event asks of the toplevel of a window surface. -/
def Event.suggestion? (id : WindowSurfaceId) : Event → Option Suggestion
  | .configure window toplevel size serial =>
    if window = id then some { toplevel, size, serial } else none
  | _ => none

/-- Whether an event is a configure event of some window surface. -/
def Event.isConfigure : Event → Bool
  | .configure _ _ _ _ => true
  | _ => false

/-- Only a configure makes a suggestion. -/
theorem Event.suggestion?_of_calm {event : Event} (calm : event.isConfigure = false)
    (id : WindowSurfaceId) : event.suggestion? id = none := by
  cases event <;> first | rfl | cases calm

/-- The counter of a window surface, and the serial that it sent last. -/
def WindowSurface.outgoing (window : WindowSurface) : SerialCounter × Option Serial :=
  (window.serials, window.lastSent)

namespace Connection

variable {server : Server} {host : Host} {operation : Operation} {old new : Connection}

/-- The counters of the live window surfaces. -/
def counters (client : Connection) : WindowSurfaceId → Option SerialCounter :=
  client.windowSurfaces.view WindowSurface.serials

/-- The counters of the live window surfaces, each with the serial that it sent last. -/
def outgoing (client : Connection) : WindowSurfaceId → Option (SerialCounter × Option Serial) :=
  client.windowSurfaces.view WindowSurface.outgoing

/-- An operation asks for a configure event: it opens a toplevel, or suggests a size to one. -/
inductive Configures (server : Server) (old new : Connection) (id : WindowSurfaceId)
    (toplevel : ToplevelId) (size : Size) (serial : Serial) : Operation → Prop where
  | opened (done : old.getToplevel id server.config.defaultWindowSize = .ok (toplevel, new))
      (asked : size = server.config.defaultWindowSize) :
      Configures server old new id toplevel size serial (.getToplevel id)
  | suggested {record : Toplevel} (done : old.configure toplevel size = .ok (serial, new))
      (live : old.toplevels.get? toplevel = some record) (shows : record.windowSurface = id) :
      Configures server old new id toplevel size serial (.sendConfigure toplevel size)

/-- What an operation does to the configure sequences of a connection. -/
inductive Sequences (server : Server) (operation : Operation) (old new : Connection) : Prop where
  | still (calm : ∀ event ∈ old.queuedUntil new, event.isConfigure = false)
      (kept : ∀ id counter, new.counters id = some counter → old.counters id = some counter ∨
        counter = {} ∧ id = old.fresh .windowSurface ∧ new.nextIndex = old.nextIndex + 1)
  | drawn {id : WindowSurfaceId} {toplevel : ToplevelId} {size : Size} {counter : SerialCounter}
      (asked : Configures server old new id toplevel size counter.draw.1 operation)
      (found : old.counters id = some counter)
      (queued : old.queuedUntil new = [.configure id toplevel size counter.draw.1])
      (advanced : new.counters = update old.counters id (some counter.draw.2))

/-- What an operation does to the counters of a connection and to what they sent last. -/
inductive Sends (server : Server) (operation : Operation) (old new : Connection) : Prop where
  | still (calm : ∀ event ∈ old.queuedUntil new, event.isConfigure = false)
      (kept : ∀ id out, new.outgoing id = some out → old.outgoing id = some out ∨
        (∃ surface, operation = .getWindowSurface surface) ∧ out = ({}, none) ∧
          id = old.fresh .windowSurface ∧ new.nextIndex = old.nextIndex + 1)
  | drawn {id : WindowSurfaceId} {toplevel : ToplevelId} {size : Size} {counter : SerialCounter}
      {last : Option Serial}
      (asked : Configures server old new id toplevel size counter.draw.1 operation)
      (found : old.outgoing id = some (counter, last))
      (queued : old.queuedUntil new = [.configure id toplevel size counter.draw.1])
      (advanced : new.outgoing =
        update old.outgoing id (some (counter.draw.2, some counter.draw.1)))

section Sequences

/-- What queues no configure and touches no counter sends nothing. -/
theorem Sends.of_outgoing {queued : List Event} (appended : new.events = old.events ++ queued)
    (calm : ∀ event ∈ queued, event.isConfigure = false) (kept : new.outgoing = old.outgoing) :
    Sends server operation old new :=
  .still (queuedUntil_of_append appended ▸ calm) fun _ _ live => .inl (kept ▸ live)

private theorem Sends.of_eq (events : new.events = old.events)
    (kept : new.outgoing = old.outgoing) : Sends server operation old new :=
  .of_outgoing (events.trans (List.append_nil _).symm) (fun _ listed => by cases listed) kept

/-- A window surface is destroyed at most. -/
theorem Sends.of_erased (events : new.events = old.events)
    (kept : ∀ id out, new.outgoing id = some out → old.outgoing id = some out) :
    Sends server operation old new := by
  refine .still ?_ fun id out live => .inl (kept id out live)
  rw [queuedUntil_of_append (events.trans (List.append_nil _).symm)]
  intro _ listed
  cases listed

private theorem outgoing_erase (client : Connection) (gone id : WindowSurfaceId)
    {out : SerialCounter × Option Serial}
    (live : (client.windowSurfaces.erase gone).view WindowSurface.outgoing id = some out) :
    client.outgoing id = some out := by
  rw [Arena.view_erase, update_apply] at live
  split at live
  · cases live
  · exact live

private theorem outgoing_modify (client : Connection) {id : WindowSurfaceId}
    {change : WindowSurface → WindowSurface}
    (same : ∀ window, client.windowSurfaces.get? id = some window →
      (change window).outgoing = window.outgoing) :
    (client.windowSurfaces.modify id change).view WindowSurface.outgoing = client.outgoing :=
  Arena.view_modify_of_eq same

/-- **An operation sends one configure event, or none.** -/
theorem Change.sends (change : Change server host operation old new) :
    Sends server operation old new := by
  cases change with
  | takeEvents =>
    refine .still (fun event queued => ?_) fun _ _ live => .inl live
    simp [queuedUntil] at queued
  | same | unbind | createPool | resizePool | createBuffer | createSurface | request
  | missConfigure | setTitle | setAppId => exact .of_eq rfl rfl
  | @bind _ _ _ _ capability =>
    cases kind : capability.kind with
    | sharedMemory => exact .of_outgoing rfl (by simp [Event.isConfigure]) rfl
    | compositor | windowShell => exact .of_eq rfl rfl
  | destroyPool =>
    rw [destroyPool_frame]
    exact .of_eq rfl rfl
  | destroyBuffer =>
    rw [destroyBuffer_eq]
    exact .of_eq rfl rfl
  | failRead _ failure =>
    exact .of_outgoing failure.events_eq (by simp [Event.isConfigure]) (by rw [failure.frame]; rfl)
  | attach =>
    unfold modifySurface
    rw [claim_frame, withdraw_frame]
    exact .of_eq rfl rfl
  | frame =>
    simp only [addCallback, draw]
    split <;> exact .of_eq rfl rfl
  | commit done =>
    obtain ⟨surface, found⟩ := surface_of_commit? done
    exact .of_outgoing (events_commit found done) (by simp [Event.isConfigure])
      (by rw [commit?_frame done]; rfl)
  | commitUnread done _ failure =>
    obtain ⟨surface, found⟩ := surface_of_commit? done
    have events := failure.events_eq
    rw [events_commit found done, List.append_assoc] at events
    refine .of_outgoing events ?_ ?_
    · simp [Event.isConfigure, or_imp, forall_and]
    · rw [failure.frame, commit?_frame done]
      rfl
  | present done =>
    obtain ⟨_, _, rfl⟩ := present?_eq_some done
    exact .of_outgoing rfl (by simp [Event.isConfigure]) rfl
  | presentAll =>
    refine .of_outgoing rfl (fun event queued => ?_) rfl
    obtain ⟨surface, _, fired⟩ := List.mem_flatMap.mp queued
    split at fired
    · obtain ⟨callback, _, rfl⟩ := List.mem_map.mp fired
      rfl
    · cases fired
  | destroySurface done =>
    obtain ⟨surface, found⟩ := surface_of_destroySurface? done
    rw [destroySurface?_eq found done]
    refine .of_erased rfl fun id out live => ?_
    simp only [outgoing] at live
    split at live
    · exact outgoing_erase old _ id live
    · exact live
  | getWindowSurface done =>
    obtain ⟨_, _, _, _, ⟨_, _, rfl⟩ | ⟨_, rfl⟩⟩ := getWindowSurface_eq_ok done
    · exact .of_eq rfl rfl
    · refine .still (by simp [queuedUntil]) fun id out live => ?_
      simp only [outgoing, Arena.view_insert, update_apply] at live
      split at live
      · cases live
        exact .inr ⟨⟨_, rfl⟩, rfl, ‹_›, rfl⟩
      · exact .inl live
  | ackConfigure => exact .of_eq rfl (outgoing_modify old fun _ _ => rfl)
  | setWindowGeometry found =>
    refine .of_eq rfl (outgoing_modify old fun window live => ?_)
    cases found.symm.trans live
    rfl
  | getToplevel done =>
    obtain ⟨window, found, free, rfl, same⟩ := getToplevel_eq_ok done
    refine .drawn (.opened done rfl) (Arena.view_of_get? found)
      (queuedUntil_of_append (congrArg events same)) ((congrArg outgoing same).trans ?_)
    have held : (old.windowSurfaces.modify _ fun window =>
        { window with toplevel := some ⟨old.id, old.nextIndex⟩ }).get? _ = _ :=
      (Arena.get?_modify ..).trans ((if_pos rfl).trans (congrArg (Option.map _) found))
    refine (Arena.view_modify held _).trans (congrArg (update · _ _) ?_)
    exact outgoing_modify old fun _ _ => rfl
  | sendConfigure done =>
    obtain ⟨toplevel, window, live, found, rfl, same⟩ := configure_eq_ok done
    exact .drawn (.suggested done live rfl) (Arena.view_of_get? found)
      (queuedUntil_of_append (congrArg events same))
      ((congrArg outgoing same).trans (Arena.view_modify found _))
  | destroyWindowSurface done =>
    obtain ⟨_, _, rfl⟩ := destroyWindowSurface?_eq_some done
    exact .of_erased rfl fun id out live => outgoing_erase old _ id live
  | destroyToplevel done =>
    obtain ⟨_, _, rfl⟩ := destroyToplevel?_eq_some done
    exact .of_eq rfl (outgoing_modify old fun _ _ => rfl)

private theorem counters_eq (client : Connection) (id : WindowSurfaceId) :
    client.counters id = (client.outgoing id).map Prod.fst := by
  simp only [counters, outgoing, Arena.view, Option.map_map]
  rfl

/-- **An operation moves one configure sequence on, or none.** -/
theorem Change.sequences (change : Change server host operation old new) :
    Sequences server operation old new := by
  cases change.sends with
  | still calm kept =>
    refine .still calm fun id counter live => ?_
    rw [counters_eq] at live ⊢
    obtain ⟨out, held, rfl⟩ := Option.map_eq_some_iff.mp live
    rcases kept id out held with before | ⟨_, rfl, fresh, drew⟩
    · exact .inl (congrArg (Option.map Prod.fst) before)
    · exact .inr ⟨rfl, fresh, drew⟩
  | drawn asked found queued advanced =>
    refine .drawn asked ((counters_eq ..).trans (congrArg (Option.map Prod.fst) found)) queued ?_
    funext id
    rw [counters_eq, advanced, update_apply, update_apply]
    split
    · rfl
    · exact (counters_eq ..).symm

/-- What opening a toplevel queues, and the size that the toplevel has then. -/
theorem getToplevel_configures {id : WindowSurfaceId} {size : Size} {toplevel : ToplevelId}
    (done : old.getToplevel id size = .ok (toplevel, new)) :
    new.id = old.id ∧ toplevel.connection = old.id ∧
      (∃ serial, old.queuedUntil new = [.configure id toplevel size serial]) ∧
      (new.toplevels.get? toplevel).map Toplevel.size = some size := by
  obtain ⟨window, found, free, rfl, rfl⟩ := getToplevel_eq_ok done
  exact ⟨rfl, rfl, ⟨_, queuedUntil_of_append rfl⟩, by simp [Arena.get?_modify, Arena.get?_insert]⟩

/-- What suggesting a size queues, and the size that the toplevel has then. -/
theorem configure_configures {size : Size} {toplevel : ToplevelId} {serial : Serial}
    (done : old.configure toplevel size = .ok (serial, new)) :
    new.id = old.id ∧ ∃ record, old.toplevels.get? toplevel = some record ∧
      record.windowSurface ∈ old.handles .windowSurface ∧
      old.queuedUntil new = [.configure record.windowSurface toplevel size serial] ∧
      (new.toplevels.get? toplevel).map Toplevel.size = some size := by
  obtain ⟨record, window, live, found, rfl, rfl⟩ := configure_eq_ok done
  exact ⟨rfl, record, live, Arena.mem_keys_of_get? found, queuedUntil_of_append rfl,
    by simp [Arena.get?_modify, live]⟩

end Sequences

end Connection

namespace Server

variable {config : Config} {server : Server} {host : Host} {operation : Operation}

/-- What an operation suggests to the toplevels of a window surface: the configure events that it
queues. -/
def suggestions (id : WindowSurfaceId) (server : Server) (host : Host) (operation : Operation) :
    List Suggestion :=
  (server.queued host operation id.connection).filterMap (Event.suggestion? id)

/-- The counter of a live window surface. -/
def counter? (server : Server) (id : WindowSurfaceId) : Option SerialCounter :=
  (server.windowSurface? id).map WindowSurface.serials

/-- An operation queues a configure event exactly if it opens a toplevel, or suggests a size to
one. -/
structure ConfiguresOnce (server : Server) (host : Host) (operation : Operation) : Prop where
  opened : ∀ id (toplevel : ToplevelId), operation = .getToplevel id →
    (server.step host operation).answer = .handle toplevel →
    ∃ serial, server.suggestions id host operation =
        [⟨toplevel, server.config.defaultWindowSize, serial⟩] ∧
      ((server.next host operation).toplevel? toplevel).map Toplevel.size =
        some server.config.defaultWindowSize
  suggested : ∀ toplevel size serial, operation = .sendConfigure toplevel size →
    (server.step host operation).answer = .serial serial →
    ∃ record, server.toplevel? toplevel = some record ∧
      server.suggestions record.windowSurface host operation = [⟨toplevel, size, serial⟩] ∧
      ((server.next host operation).toplevel? toplevel).map Toplevel.size = some size
  others : ∀ told id toplevel size serial,
    .configure id toplevel size serial ∈ server.queued host operation told →
    told = id.connection ∧
      (operation = .getToplevel id ∧ (server.step host operation).answer = .handle toplevel ∨
        operation = .sendConfigure toplevel size ∧
          (server.step host operation).answer = .serial serial ∧
          (server.toplevel? toplevel).map Toplevel.windowSurface = some id)

/-- A counter is that of a live window surface. -/
theorem counter?_eq_some {id : WindowSurfaceId} {counter : SerialCounter} :
    server.counter? id = some counter ↔
      ∃ client, server.connection? id.connection = some client ∧
        client.counters id = some counter := by
  rw [counter?, windowSurface?, Option.bind_eq_bind, Option.map_bind, Option.bind_eq_some_iff]
  rfl

section Steps

variable (named : server.Named)

include named

/-- Work on a connection that is put back queues what it adds. -/
theorem queued_of_putBack (host : Host) (operation : Operation) {told : ConnectionId}
    {old new : Connection} (found : server.connection? told = some old) (kept : new.id = old.id)
    (state : server.next host operation = server.putBack new) :
    (server.next host operation).connection? told = some new ∧
      server.queued host operation told = old.queuedUntil new := by
  have own : told = new.id := ((kept.trans (named told old found)).symm)
  have after : (server.next host operation).connection? told = some new := by
    rw [state, connection?_putBack, if_pos own, found]
    rfl
  exact ⟨after, queued_eq found after⟩

/-- A toplevel that is given is suggested the default size, and takes it. -/
theorem configures_opened {id : WindowSurfaceId} {toplevel : ToplevelId}
    (answered : (server.step host (.getToplevel id)).answer = .handle toplevel) :
    ∃ serial, server.suggestions id host (.getToplevel id) =
        [⟨toplevel, server.config.defaultWindowSize, serial⟩] ∧
      ((server.next host (.getToplevel id)).toplevel? toplevel).map Toplevel.size =
        some server.config.defaultWindowSize := by
  change Answer.ofAttempt .window .handle (server.getToplevel id).answer = .handle toplevel
    at answered
  cases given : (server.getToplevel id).answer with
  | error cause =>
    rw [given] at answered
    cases answered
  | ok made =>
    rw [given] at answered
    cases answered
    obtain ⟨old, new, found, done, state⟩ := putBack_of_answer given
    obtain ⟨kept, own, ⟨serial, queued⟩, size⟩ := Connection.getToplevel_configures done
    obtain ⟨after, events⟩ := queued_of_putBack named host (.getToplevel id) found kept state
    refine ⟨serial, ?_, ?_⟩
    · rw [suggestions, events, queued]
      simp [Event.suggestion?]
    · rw [toplevel?, own.trans (named _ old found), after]
      exact size

/-- A size that is suggested is sent to the window surface, and taken by the toplevel. -/
theorem configures_suggested (owned : server.Owned) {toplevel : ToplevelId} {size : Size}
    {serial : Serial}
    (answered : (server.step host (.sendConfigure toplevel size)).answer = .serial serial) :
    ∃ record, server.toplevel? toplevel = some record ∧
      server.suggestions record.windowSurface host (.sendConfigure toplevel size) =
        [⟨toplevel, size, serial⟩] ∧
      ((server.next host (.sendConfigure toplevel size)).toplevel? toplevel).map Toplevel.size =
        some size := by
  change Answer.ofAttempt .window .serial (server.sendConfigure toplevel size).answer =
    .serial serial at answered
  cases found : server.connection? toplevel.connection with
  | none =>
    simp only [sendConfigure, found] at answered
    cases answered
  | some old =>
    simp only [sendConfigure, found, Connection.suggest] at answered
    cases done : old.configure toplevel size with
    | error cause =>
      rw [done] at answered
      cases answered
    | ok given =>
      obtain ⟨given, new⟩ := given
      rw [done] at answered
      cases answered
      have state : server.next host (.sendConfigure toplevel size) = server.putBack new := by
        change (server.sendConfigure toplevel size).state = _
        simp only [sendConfigure, found, Connection.suggest, done]
      obtain ⟨kept, record, held, listed, queued, size⟩ := Connection.configure_configures done
      obtain ⟨after, events⟩ := queued_of_putBack named host (.sendConfigure toplevel _) found kept
        state
      refine ⟨record, toplevel?_eq_some.mpr ⟨old, found, held⟩, ?_, ?_⟩
      · rw [suggestions, owned _ old found .windowSurface _ listed, events, queued]
        simp [Event.suggestion?]
      · rw [toplevel?, after]
        exact size

/-- Nothing else is ever told of as a configure. -/
theorem configures_others {told : ConnectionId} {id : WindowSurfaceId} {toplevel : ToplevelId}
    {size : Size} {serial : Serial} (owned : server.Owned)
    (listed : .configure id toplevel size serial ∈ server.queued host operation told) :
    told = id.connection ∧
      (operation = .getToplevel id ∧ (server.step host operation).answer = .handle toplevel ∨
        operation = .sendConfigure toplevel size ∧
          (server.step host operation).answer = .serial serial ∧
          (server.toplevel? toplevel).map Toplevel.windowSurface = some id) := by
  cases before : server.connection? told with
  | none => simp [queued, before] at listed
  | some old =>
    cases after : (server.next host operation).connection? told with
    | none => simp [queued, after] at listed
    | some new =>
      rw [queued_eq before after] at listed
      rcases connection?_next named after with ⟨_, _, rfl⟩ | ⟨_, found, change⟩
      · simp [Connection.queuedUntil] at listed
      cases before.symm.trans found
      cases change.sequences with
      | still calm _ => cases calm _ listed
      | drawn asked found queued _ =>
        rw [queued, List.mem_singleton] at listed
        cases listed
        obtain ⟨window, live, _⟩ := Arena.exists_of_view found
        have own := owned told old before .windowSurface id (Arena.mem_keys_of_get? live)
        refine ⟨own.symm, ?_⟩
        subst own
        cases asked with
        | opened done _ =>
          refine .inl ⟨rfl, ?_⟩
          change Answer.ofAttempt .window .handle (server.getToplevel id).answer = _
          simp only [getToplevel, onConnection, before, done]
          rfl
        | suggested done held shows =>
          have own := owned _ old before .toplevel toplevel (Arena.mem_keys_of_get? held)
          refine .inr ⟨rfl, ?_, ?_⟩
          · change Answer.ofAttempt .window .serial (server.sendConfigure toplevel size).answer = _
            simp only [sendConfigure, own, before, Connection.suggest, done]
            rfl
          · rw [toplevel?, own, before]
            exact (congrArg (Option.map _) held).trans (congrArg some shows)

/-- **Configure events are queued one by one.** -/
theorem configuresOnce (owned : server.Owned) (host : Host) (operation : Operation) :
    server.ConfiguresOnce host operation where
  opened := by
    rintro id toplevel rfl answered
    exact configures_opened named answered
  suggested := by
    rintro toplevel size serial rfl answered
    exact configures_suggested named owned answered
  others told id toplevel size serial listed := configures_others named owned listed

/-- What an operation makes of a counter: it stays and nothing is suggested, or its next serial goes
out. A window surface that appears has the handle drawn last. -/
theorem counter_next (host : Host) (operation : Operation) (id : WindowSurfaceId) :
    (server.suggestions id host operation = [] ∧ ∀ counter,
        (server.next host operation).counter? id = some counter →
          server.counter? id = some counter ∨
            counter = {} ∧ ∃ old new, server.connection? id.connection = some old ∧
              (server.next host operation).connection? id.connection = some new ∧
              id = old.fresh .windowSurface ∧ new.nextIndex = old.nextIndex + 1) ∨
      ∃ counter suggestion, server.counter? id = some counter ∧
        server.suggestions id host operation = [suggestion] ∧
        suggestion.serial = counter.draw.1 ∧
        ∀ later, (server.next host operation).counter? id = some later →
          later = counter.draw.2 := by
  cases after : (server.next host operation).connection? id.connection with
  | none =>
    refine .inl ⟨by simp [suggestions, queued, after], fun counter live => ?_⟩
    obtain ⟨new, found, _⟩ := counter?_eq_some.mp live
    cases after.symm.trans found
  | some new =>
    rcases connection?_next named after with ⟨_, _, rfl⟩ | ⟨old, before, change⟩
    · refine .inl ⟨?_, fun counter live => ?_⟩
      · unfold suggestions queued
        split
        · rename_i reached
          cases after.symm.trans reached
          simp [Connection.queuedUntil]
        · rfl
      · obtain ⟨_, found, held⟩ := counter?_eq_some.mp live
        cases after.symm.trans found
        cases held
    have still {counter : SerialCounter}
        (live : (server.next host operation).counter? id = some counter) :
        new.counters id = some counter := by
      obtain ⟨_, found, held⟩ := counter?_eq_some.mp live
      cases after.symm.trans found
      exact held
    rw [suggestions, queued_eq before after]
    cases change.sequences with
    | still calm kept =>
      refine .inl ⟨List.filterMap_eq_nil_iff.mpr fun event listed =>
        Event.suggestion?_of_calm (calm event listed) id, fun counter live => ?_⟩
      rcases kept id counter (still live) with held | ⟨fresh, drew⟩
      · exact .inl (counter?_eq_some.mpr ⟨old, before, held⟩)
      · exact .inr ⟨fresh, old, new, before, rfl, drew⟩
    | @drawn window toplevel size counter asked found queued advanced =>
      rw [queued]
      by_cases here : window = id
      · subst here
        refine .inr ⟨counter, ⟨toplevel, size, counter.draw.1⟩,
          counter?_eq_some.mpr ⟨old, before, found⟩, by simp [Event.suggestion?], rfl,
          fun later live => ?_⟩
        have held := still live
        rw [advanced, update_self] at held
        exact (Option.some.inj held).symm
      · refine .inl ⟨by simp [Event.suggestion?, here], fun other live => .inl ?_⟩
        have held := still live
        rw [advanced, update_of_ne (Ne.symm here)] at held
        exact counter?_eq_some.mpr ⟨old, before, held⟩

end Steps

/-- The configure sequence of a window surface has come as far as its counter says. -/
structure Sequenced (config : Config) (script : Script) (server : Server) (id : WindowSurfaceId) :
    Prop where
  serials : (history config (suggestions id) script).map Suggestion.serial =
    (List.range (history config (suggestions id) script).length).map Serial.nth
  counter : ∀ counter, server.counter? id = some counter →
    counter.HasDrawn (history config (suggestions id) script).length
  ahead : drawnAfter config script id.connection ≤ id.index.toNat →
    history config (suggestions id) script = []

private theorem isLive_of_counter? {id : WindowSurfaceId} {counter : SerialCounter}
    (live : server.counter? id = some counter) : server.IsLive id := by
  obtain ⟨client, found, held⟩ := counter?_eq_some.mp live
  obtain ⟨window, shown, _⟩ := Arena.exists_of_view held
  exact ⟨client, found, Arena.mem_keys_of_get? shown⟩

/-- **One operation takes the sequence at most one serial further.** -/
theorem Sequenced.next {script : Script} {id : WindowSurfaceId}
    (ready : (after config script).Ready host operation script.accepted (drawnAfter config script))
    (sequenced : Sequenced config script (after config script) id) :
    Sequenced config (script ++ [(host, operation)]) ((after config script).next host operation)
      id := by
  have more : drawnAfter config script id.connection ≤
      drawnAfter config (script ++ [(host, operation)]) id.connection :=
    drawnAfter_le config script _ id.connection
  rcases counter_next ready.named host operation id with
    ⟨none, kept⟩ | ⟨counter, suggestion, live, one, serial, advanced⟩
  · have same : history config (suggestions id) (script ++ [(host, operation)]) =
        history config (suggestions id) script := by
      rw [history_concat, none, List.append_nil]
    refine ⟨by rw [same]; exact sequenced.serials, fun counter live => ?_, fun ahead => ?_⟩
    · rw [same]
      rcases kept counter live with before | ⟨rfl, old, new, found, reached, fresh, drew⟩
      · exact sequenced.counter counter before
      · -- A window surface that has just appeared has never been configured.
        obtain ⟨behind, room⟩ := ready.client found reached
        rw [Connection.drawnUntil_of_advanced drew] at room
        have index := behind.index_fresh room .windowSurface
        rw [← fresh] at index
        rw [sequenced.ahead (Nat.le_of_eq index.symm)]
        exact SerialCounter.hasDrawn_fresh
    · rw [same]
      exact sequenced.ahead (Nat.le_trans more ahead)
  · have drawn := sequenced.counter counter live
    have longer : history config (suggestions id) (script ++ [(host, operation)]) =
        history config (suggestions id) script ++ [suggestion] := by
      rw [history_concat, one]
    refine ⟨?_, fun later live => ?_, fun ahead => ?_⟩
    · rw [longer, List.length_append, List.length_singleton, List.range_succ, List.map_append,
        List.map_append, sequenced.serials, List.map_singleton, List.map_singleton, serial]
      exact congrArg (_ ++ [·]) drawn
    · rw [longer, List.length_append, advanced later live]
      exact drawn.draw
    · have behind := ready.drawn_of_isLive (isLive_of_counter? live)
      omega

/-- After a script in range, the serials sent to a window surface follow its counter. -/
theorem sequenced_after (script : Script) (range : (Server.start config).state.InRange script)
    (id : WindowSurfaceId) : Sequenced config script (after config script) id := by
  refine after_induction
    (motive := fun script server => Sequenced config script server id) ?_ ?_ script range
  · exact ⟨rfl, by simp [counter?, windowSurface?, connection?, Server.start], fun _ => rfl⟩
  · exact fun script host operation range sequenced => sequenced.next (ready_after range)

/-- After every script, the configuration is the one the server was started with. -/
theorem config_after (config : Config) (script : Script) :
    (after config script).config = config := by
  induction script using List.reverseRecOn with
  | nil => rfl
  | append_singleton script entry ih =>
    rw [after_concat, config_next (named_after config script), ih]

/-- **The configure events of a window surface are numbered without gaps.** Over its whole life, and
whatever toplevels come and go on it, the serials of its configure events are those that a fresh
counter draws, 1 first, and never 0. An operation queues one such event if it opens a toplevel on
the window surface, which then has the configured default size, or if it suggests a size to one,
which then has that size. No other operation queues any. -/
theorem configures_gapless (config : Config) (script : Script)
    (range : (Server.start config).state.InRange script) :
    (∀ id count suggestion,
      (history config (suggestions id) script)[count]? = some suggestion →
        suggestion.serial.value.toNat = count % 4294967295 + 1) ∧
      ∀ front host operation back, script = front ++ (host, operation) :: back →
        (after config front).config = config ∧
          (after config front).ConfiguresOnce host operation := by
  constructor
  · intro id count suggestion shown
    have serials := (sequenced_after script range id).serials
    have nth := congrArg (·[count]?) serials
    simp only [List.getElem?_map, shown, Option.map_some] at nth
    obtain ⟨bound, -⟩ := List.getElem?_eq_some_iff.mp shown
    rw [List.getElem?_range bound, Option.map_some] at nth
    rw [Option.some.inj nth, Serial.toNat_nth]
  · intro front host operation back split
    exact ⟨config_after config front,
      configuresOnce (named_after config front) (owned_after config front) host operation⟩

/-- The second toplevel of a window surface is configured with the serial after that of the first
one, which is gone by then. -/
theorem configures_gapless_windowed :
    (Server.start {}).state.InRange Script.windowed ∧
      (∃ suggestion,
        (history {} (suggestions ⟨⟨0⟩, 1⟩) Script.windowed)[1]? = some suggestion ∧
          suggestion.toplevel = ⟨⟨0⟩, 3⟩ ∧ suggestion.serial.value.toNat = 2) ∧
      ∃ serial, (after {} (Script.windowed.take 5)).suggestions ⟨⟨0⟩, 1⟩ .withFile
        (.getToplevel ⟨⟨0⟩, 1⟩) = [⟨⟨⟨0⟩, 3⟩, ({} : Config).defaultWindowSize, serial⟩] := by
  have range : (Server.start {}).state.InRange Script.windowed := inRange_of_length _ (by decide)
  obtain ⟨numbered, once⟩ := configures_gapless {} Script.windowed range
  obtain ⟨same, configures⟩ := once (Script.windowed.take 5) _ _ [] rfl
  obtain ⟨serial, queued, -⟩ := configures.opened ⟨⟨0⟩, 1⟩ ⟨⟨0⟩, 3⟩ rfl rfl
  rw [same] at queued
  have second : ∃ suggestion,
      (history {} (suggestions ⟨⟨0⟩, 1⟩) Script.windowed)[1]? = some suggestion ∧
        suggestion.toplevel = ⟨⟨0⟩, 3⟩ := ⟨_, rfl, rfl⟩
  obtain ⟨suggestion, shown, shows⟩ := second
  exact ⟨range, ⟨suggestion, shown, shows, numbered _ _ _ shown⟩, serial, queued⟩

end Server

end DisplayServer
