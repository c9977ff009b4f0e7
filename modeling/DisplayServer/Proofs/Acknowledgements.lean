import DisplayServer.Proofs.Configures

/-! # Acknowledged serials

A client may acknowledge any serial. A warning is due for one that was never sent, but the server
only remembers the serial that it sent last, and gives the warning for the serials that are newer
(`Server.JudgesByLast`). A serial that lies behind the last one on the circle passes unnoticed, and
0, which is never sent, is one of them. As long as less than half a circle was sent, no serial that
was sent is taken for unknown.

What a window surface sent since its creation (`Server.sent`) is numbered from 1, and the last of it
is what the window surface remembers (`WindowSurface.HasSent`).
-/

namespace DisplayServer

open Function (update_of_ne update_self)

namespace WindowSurface

/-- A window surface has sent some serials since it was created. -/
structure HasSent (window : WindowSurface) (sent : List Serial) : Prop where
  serials : sent = (List.range sent.length).map Serial.nth
  counter : window.serials.HasDrawn sent.length
  last : window.lastSent = sent.getLast?

variable {window later : WindowSurface} {sent : List Serial}

/-- A fresh window surface has sent nothing. -/
theorem HasSent.of_fresh (fresh : window.outgoing = ({}, none)) : window.HasSent [] := by
  have counter : window.serials = {} := congrArg Prod.fst fresh
  exact ⟨rfl, counter ▸ SerialCounter.hasDrawn_fresh, congrArg Prod.snd fresh⟩

/-- What has been sent rests on the counter and the last serial. -/
theorem HasSent.of_outgoing (hasSent : window.HasSent sent)
    (same : later.outgoing = window.outgoing) : later.HasSent sent := by
  have counter : later.serials = window.serials := congrArg Prod.fst same
  have last : later.lastSent = window.lastSent := congrArg Prod.snd same
  exact ⟨hasSent.serials, counter ▸ hasSent.counter, last.trans hasSent.last⟩

/-- One more serial is sent. -/
theorem HasSent.send (hasSent : window.HasSent sent)
    (advanced : later.outgoing = (window.serials.draw.2, some window.serials.draw.1)) :
    later.HasSent (sent ++ [window.serials.draw.1]) := by
  have counter : later.serials = window.serials.draw.2 := congrArg Prod.fst advanced
  have last : later.lastSent = some window.serials.draw.1 := congrArg Prod.snd advanced
  refine ⟨?_, ?_, last.trans List.getLast?_concat.symm⟩
  · rw [List.length_append, List.length_singleton, List.range_succ, List.map_append,
      ← hasSent.serials, List.map_singleton]
    exact congrArg (sent ++ [·]) hasSent.counter
  · rw [counter, List.length_append]
    exact hasSent.counter.draw

/-- The serials are judged by the one sent last. -/
theorem HasSent.mayHaveSent_eq_false_iff (hasSent : window.HasSent sent) (serial : Serial) :
    window.mayHaveSent serial = false ↔
      ∀ last, sent.getLast? = some last → serial.IsNewer last := by
  unfold mayHaveSent
  rw [hasSent.last]
  cases sent.getLast? with
  | none => exact iff_of_true rfl nofun
  | some last =>
    refine Serial.isNoOlderThan_eq_false_iff.trans ⟨?_, fun newer => newer last rfl⟩
    rintro newer _ ⟨⟩
    exact newer

/-- As long as a counter has not come around, the serials sent are the numbers up to their count. -/
theorem HasSent.mem_iff (hasSent : window.HasSent sent) (few : sent.length ≤ 2147483648)
    (serial : Serial) :
    serial ∈ sent ↔ 1 ≤ serial.value.toNat ∧ serial.value.toNat ≤ sent.length := by
  rw [hasSent.serials, List.length_map, List.length_range, List.mem_map]
  constructor
  · rintro ⟨index, listed, rfl⟩
    have within := List.mem_range.mp listed
    rw [Serial.toNat_nth]
    omega
  · rintro ⟨positive, within⟩
    refine ⟨serial.value.toNat - 1, List.mem_range.mpr (by omega), ?_⟩
    rw [Serial.eq_iff_toNat, Serial.toNat_nth]
    omega

/-- Until the serials run out, the last one is the number of those sent. -/
theorem HasSent.toNat_last (hasSent : window.HasSent sent) (few : sent.length ≤ 2147483648)
    {last : Serial} (ends : sent.getLast? = some last) : last.value.toNat = sent.length := by
  have nonempty : 0 < sent.length := by
    rw [List.length_pos_iff]
    rintro rfl
    cases ends
  have serials := congrArg (·[sent.length - 1]?) hasSent.serials
  simp only [List.getElem?_map] at serials
  rw [← List.getLast?_eq_getElem?, ends, List.getElem?_range (by omega), Option.map_some] at serials
  rw [Option.some.inj serials, Serial.toNat_nth]
  omega

/-- Up to half a circle, newer than the last serial is what lies ahead by at most half a circle. -/
theorem HasSent.isNewer_iff (hasSent : window.HasSent sent) (few : sent.length ≤ 2147483648)
    (serial : Serial) :
    (∀ last, sent.getLast? = some last → serial.IsNewer last) ↔
      sent = [] ∨ sent.length < serial.value.toNat ∧
        serial.value.toNat ≤ sent.length + 2147483648 := by
  cases ends : sent.getLast? with
  | none => exact iff_of_true nofun (.inl (List.getLast?_eq_none_iff.mp ends))
  | some last =>
    have number := hasSent.toNat_last few ends
    have nonempty : sent ≠ [] := by
      rintro rfl
      cases ends
    have newer : serial.IsNewer last ↔ sent.length < serial.value.toNat ∧
        serial.value.toNat ≤ sent.length + 2147483648 := by
      unfold Serial.IsNewer
      omega
    rw [← newer, or_iff_right nonempty]
    refine ⟨fun all => all last rfl, ?_⟩
    rintro ahead _ ⟨⟩
    exact ahead

end WindowSurface

/-- A window surface that is granted is the one that the surface has, or a fresh one. -/
theorem Connection.windowSurfaces_getWindowSurface {client : Connection} {id : SurfaceId}
    {grant : WindowGrant} (done : client.getWindowSurface id = .ok grant) :
    grant.client.id = client.id ∧
      ((client.windowSurfaceOf? id).isNone = false ∧
          grant.client.windowSurfaces = client.windowSurfaces ∨
        (client.windowSurfaceOf? id).isNone = true ∧ grant.id.connection = client.id ∧
          grant.client.windowSurfaces =
            client.windowSurfaces.insert grant.id { surface := id }) := by
  obtain ⟨surface, changed, found, taken, granted⟩ := getWindowSurface_eq_ok done
  rw [windowSurfaceOf?_assumeRole found taken] at granted
  obtain ⟨window, had, rfl⟩ | ⟨had, rfl⟩ := granted
  · exact ⟨rfl, .inl ⟨congrArg Option.isNone had, rfl⟩⟩
  · exact ⟨rfl, .inr ⟨congrArg Option.isNone had, rfl, rfl⟩⟩

namespace Server

/-- Whether an operation creates a window surface. Asking for one that a surface already has does
not. -/
def creates (id : WindowSurfaceId) (server : Server) (host : Host) (operation : Operation) : Bool :=
  match operation, (server.step host operation).answer with
  | .getWindowSurface surface, @Answer.handle .windowSurface window =>
    (server.windowSurfaceOf? surface).isNone && decide (window = id)
  | _, _ => false

/-- The serials sent for a window surface after one more operation. -/
def sentStep (server : Server) (id : WindowSurfaceId) (sent : List Serial) (host : Host)
    (operation : Operation) : List Serial :=
  if server.creates id host operation then []
  else sent ++ (server.suggestions id host operation).map Suggestion.serial

/-- The serials sent for a window surface after a script, from those before it. -/
def sentFrom (server : Server) (id : WindowSurfaceId) (sent : List Serial) : Script → List Serial
  | [] => sent
  | (host, operation) :: rest =>
    (server.next host operation).sentFrom id (server.sentStep id sent host operation) rest

/-- The serials of the configure events that were queued for a window surface since it was created,
oldest first. -/
def sent (config : Config) (script : Script) (id : WindowSurfaceId) : List Serial :=
  (Server.start config).state.sentFrom id [] script

/-- These are the serials of the configure events that were queued for a window surface since its
handle was given out, for the last time. -/
def SentSince (config : Config) (script : Script) (id : WindowSurfaceId) (sent : List Serial) :
    Prop :=
  ∃ front host operation back, script = front ++ (host, operation) :: back ∧
    (after config front).Issues host operation id ∧
    (∀ middle host' operation' rest, back = middle ++ (host', operation') :: rest →
      ¬ (after config (front ++ (host, operation) :: middle)).Issues host' operation' id) ∧
    sent = (((after config front).next host operation).trace (suggestions id) back).map
      Suggestion.serial

/-- What an operation does to the configure sequence of a window surface that is live after it. -/
inductive SendsOn (server : Server) (host : Host) (operation : Operation) (id : WindowSurfaceId)
    (after : WindowSurface) : Prop where
  | created (creates : server.creates id host operation = true)
      (fresh : after.outgoing = ({}, none))
  | kept {before : WindowSurface} (live : server.windowSurface? id = some before)
      (stays : server.creates id host operation = false)
      (none : server.suggestions id host operation = [])
      (same : after.outgoing = before.outgoing)
  | sent {before : WindowSurface} {suggestion : Suggestion}
      (live : server.windowSurface? id = some before)
      (stays : server.creates id host operation = false)
      (one : server.suggestions id host operation = [suggestion])
      (drawn : suggestion.serial = before.serials.draw.1)
      (advanced : after.outgoing = (before.serials.draw.2, some before.serials.draw.1))

section Steps

variable {server : Server} {host : Host} {operation : Operation} {id : WindowSurfaceId}

/-- What creates a window surface gives its handle out. -/
theorem creates_iff_issues :
    server.creates id host operation = true ↔ server.Issues host operation id := by
  constructor
  · intro creates
    unfold Server.creates at creates
    split at creates
    · rename_i surface window answered
      obtain ⟨vacant, same⟩ := Bool.and_eq_true_iff.mp creates
      cases of_decide_eq_true same
      refine ⟨answered, ?_⟩
      rintro _ ⟨⟩
      exact Option.isNone_iff_eq_none.mp vacant
    · cases creates
  · intro issues
    have answered := issues.answered
    cases operation with
    | getWindowSurface surface =>
      simp only [creates, answered, issues.created surface rfl, Option.isNone_none, decide_true,
        Bool.and_self]
    | _ => cases created?_of_answer answered

private theorem creates_eq_false (other : ∀ surface, operation ≠ .getWindowSurface surface) :
    server.creates id host operation = false := by
  unfold creates
  split
  · exact (other _ rfl).elim
  · rfl

/-- Putting a connection back replaces its window surfaces, and leaves those of others alone. -/
theorem windowSurface?_putBack {connection : ConnectionId} {client new : Connection}
    (named : server.Named) (live : server.connection? connection = some client)
    (same : new.id = client.id) (id : WindowSurfaceId) :
    (server.putBack new).windowSurface? id =
      if id.connection = connection then new.windowSurfaces.get? id
      else server.windowSurface? id := by
  simp only [windowSurface?, connection?_putBack, same, named connection client live]
  by_cases here : id.connection = connection
  · simp [here, live]
  · simp [here]

/-- What asking for the window surface of a surface does to the window surfaces. -/
theorem windowSurface?_next_getWindowSurface (named : server.Named) (host : Host)
    (surface : SurfaceId) (id : WindowSurfaceId) :
    (server.next host (.getWindowSurface surface)).windowSurface? id =
      if server.creates id host (.getWindowSurface surface) then some { surface }
      else server.windowSurface? id := by
  have step : server.step host (.getWindowSurface surface) =
    (server.getWindowSurface surface).map (.ofAttempt .window .handle) := rfl
  cases live : server.connection? surface.connection with
  | none =>
    simp only [next, creates, step, getWindowSurface, live]
    rfl
  | some client =>
    cases done : client.getWindowSurface surface with
    | error cause =>
      simp only [next, creates, step, getWindowSurface, live, done]
      rfl
    | ok grant =>
      have held : server.windowSurfaceOf? surface = client.windowSurfaceOf? surface := by
        rw [windowSurfaceOf?, live]
        rfl
      have creates : server.creates id host (.getWindowSurface surface) =
          ((client.windowSurfaceOf? surface).isNone && decide (grant.id = id)) := by
        rw [← held]
        simp only [creates, step, getWindowSurface, live, done]
        rfl
      have state : server.next host (.getWindowSurface surface) = server.putBack grant.client := by
        simp only [next, step, getWindowSurface, live, done]
        rfl
      obtain ⟨kept, granted⟩ := Connection.windowSurfaces_getWindowSurface done
      have stays (same : grant.client.windowSurfaces.get? id = client.windowSurfaces.get? id) :
          (if id.connection = surface.connection then grant.client.windowSurfaces.get? id
            else server.windowSurface? id) = server.windowSurface? id := by
        split
        · rename_i here
          rw [same, windowSurface?, here, live]
          rfl
        · rfl
      rw [state, creates, windowSurface?_putBack named live kept]
      rcases granted with ⟨had, same⟩ | ⟨had, own, inserted⟩
      · rw [had, Bool.false_and, if_neg Bool.false_ne_true]
        exact stays (by rw [same])
      · rw [had, Bool.true_and]
        by_cases fresh : grant.id = id
        · subst fresh
          rw [if_pos (own.trans (named _ client live)), if_pos (decide_eq_true rfl), inserted,
            Arena.get?_insert, if_pos rfl]
        · rw [decide_eq_false fresh, if_neg Bool.false_ne_true]
          exact stays (by rw [inserted, Arena.get?_insert, if_neg (Ne.symm fresh)])

/-- **An operation sends one serial for a window surface, or none.** -/
theorem sendsOn_next (named : server.Named) (host : Host) (operation : Operation)
    {after : WindowSurface}
    (reached : (server.next host operation).windowSurface? id = some after) :
    server.SendsOn host operation id after := by
  obtain ⟨new, found, held⟩ := windowSurface?_eq_some.mp reached
  rcases connection?_next named found with ⟨_, _, rfl⟩ | ⟨old, before, change⟩
  · cases held
  have sees : new.outgoing id = some after.outgoing := Arena.view_of_get? held
  have source {out : SerialCounter × Option Serial} (shown : old.outgoing id = some out) :
      ∃ window, server.windowSurface? id = some window ∧ window.outgoing = out := by
    obtain ⟨window, live, same⟩ := Arena.exists_of_view shown
    exact ⟨window, windowSurface?_eq_some.mpr ⟨old, before, live⟩, same⟩
  have suggested : server.suggestions id host operation =
      (old.queuedUntil new).filterMap (Event.suggestion? id) := by
    rw [suggestions, queued_eq before found]
  cases change.sends with
  | still calm kept =>
    have none : server.suggestions id host operation = [] := by
      rw [suggested]
      exact List.filterMap_eq_nil_iff.mpr fun event listed =>
        Event.suggestion?_of_calm (calm event listed) id
    -- A handle may be given out again over a live window surface, so the change alone does not tell
    -- whether this one is new.
    by_cases asks : ∃ surface, operation = .getWindowSurface surface
    · obtain ⟨surface, rfl⟩ := asks
      rw [windowSurface?_next_getWindowSurface named] at reached
      split at reached
      · rename_i creates
        cases reached
        exact .created creates rfl
      · rename_i stays
        exact .kept reached (Bool.eq_false_iff.mpr stays) none rfl
    · have other : ∀ surface, operation ≠ .getWindowSurface surface :=
        fun surface same => asks ⟨surface, same⟩
      rcases kept id _ sees with earlier | ⟨created, _⟩
      · obtain ⟨window, live, same⟩ := source earlier
        exact .kept live (creates_eq_false other) none same.symm
      · exact (asks created).elim
  | @drawn window toplevel size counter last asked drew queued advanced =>
    have other : ∀ surface, operation ≠ .getWindowSurface surface := by
      rintro surface rfl
      cases asked
    rw [queued] at suggested
    rw [advanced] at sees
    by_cases here : id = window
    · subst here
      obtain ⟨earlier, live, same⟩ := source drew
      have counted : earlier.serials = counter := congrArg Prod.fst same
      rw [update_self] at sees
      have one : server.suggestions id host operation = [⟨toplevel, size, counter.draw.1⟩] :=
        suggested.trans (by simp [Event.suggestion?])
      subst counted
      exact .sent live (creates_eq_false other) one rfl (Option.some.inj sees).symm
    · rw [update_of_ne here] at sees
      obtain ⟨earlier, live, same⟩ := source sees
      exact .kept live (creates_eq_false other)
        (suggested.trans (by simp [Event.suggestion?, Ne.symm here])) same.symm

/-- What a live window surface remembers keeps up with what is sent for it. -/
theorem hasSent_next {sent : List Serial} (named : server.Named)
    (hasSent : ∀ window, server.windowSurface? id = some window → window.HasSent sent)
    {after : WindowSurface}
    (reached : (server.next host operation).windowSurface? id = some after) :
    after.HasSent (server.sentStep id sent host operation) := by
  unfold sentStep
  cases sendsOn_next named host operation reached with
  | created creates fresh =>
    rw [if_pos creates]
    exact .of_fresh fresh
  | kept live stays none same =>
    rw [stays, if_neg Bool.false_ne_true, none, List.map_nil, List.append_nil]
    exact (hasSent _ live).of_outgoing same
  | sent live stays one drawn advanced =>
    rw [stays, if_neg Bool.false_ne_true, one, List.map_singleton, drawn]
    exact (hasSent _ live).send advanced

end Steps

section Runs

variable {config : Config} {script : Script} {id : WindowSurfaceId} {window : WindowSurface}

private theorem sentFrom_concat {server : Server} (sent : List Serial) (script : Script)
    (host : Host) (operation : Operation) :
    server.sentFrom id sent (script ++ [(host, operation)]) =
      (server.run script).sentStep id (server.sentFrom id sent script) host operation := by
  induction script generalizing server sent with
  | nil => rfl
  | cons entry rest ih => exact ih _

private theorem sent_concat (script : Script) (host : Host) (operation : Operation) :
    sent config (script ++ [(host, operation)]) id =
      (after config script).sentStep id (sent config script id) host operation :=
  sentFrom_concat ..

/-- After every script, a live window surface has sent what was sent since it was created. -/
theorem hasSent_after (live : (after config script).windowSurface? id = some window) :
    window.HasSent (sent config script id) := by
  induction script using List.reverseRecOn generalizing window with
  | nil => cases live
  | append_singleton script entry ih =>
    rw [after_concat] at live
    rw [sent_concat]
    exact hasSent_next (named_after config script) (fun before held => ih held) live

/-- One more operation that does not create the window surface. -/
theorem SentSince.concat {sent : List Serial} {host : Host} {operation : Operation}
    (since : SentSince config script id sent)
    (other : ¬ (after config script).Issues host operation id) :
    SentSince config (script ++ [(host, operation)]) id
      (sent ++ ((after config script).suggestions id host operation).map Suggestion.serial) := by
  obtain ⟨front, host', operation', back, rfl, issues, last, rfl⟩ := since
  refine ⟨front, host', operation', back ++ [(host, operation)], by simp, issues, ?_, ?_⟩
  · intro middle host'' operation'' rest split
    rcases List.eq_nil_or_concat rest with rfl | ⟨rest, entry, rfl⟩
    · obtain ⟨rfl, same⟩ := List.append_inj' split rfl
      cases same
      exact other
    · rw [List.concat_eq_append, ← List.cons_append, ← List.append_assoc] at split
      exact last middle host'' operation'' rest (List.append_inj_left' split rfl)
  · have reached : after config (front ++ (host', operation') :: back) =
        ((after config front).next host' operation').run back := run_append ..
    rw [trace_append, ← reached, List.map_append]
    simp only [trace, List.append_nil]

/-- After every script, what was sent to a live window surface is what it sent since it was created.
-/
theorem sentSince_after (live : (after config script).windowSurface? id = some window) :
    SentSince config script id (sent config script id) := by
  induction script using List.reverseRecOn generalizing window with
  | nil => cases live
  | append_singleton script entry ih =>
    obtain ⟨host, operation⟩ := entry
    rw [after_concat] at live
    rw [sent_concat, sentStep]
    have stays {before : WindowSurface}
        (held : (after config script).windowSurface? id = some before)
        (other : (after config script).creates id host operation = false) :
        SentSince config (script ++ [(host, operation)]) id
          (if (after config script).creates id host operation then [] else sent config script id ++
            ((after config script).suggestions id host operation).map Suggestion.serial) := by
      rw [other, if_neg Bool.false_ne_true]
      exact (ih held).concat fun issues =>
        Bool.false_ne_true (other.symm.trans (creates_iff_issues.mpr issues))
    cases sendsOn_next (named_after config script) host operation live with
    | created creates _ =>
      rw [if_pos creates]
      exact ⟨script, host, operation, [], rfl, creates_iff_issues.mp creates,
        fun middle _ _ _ split =>
          (List.append_ne_nil_of_right_ne_nil middle (List.cons_ne_nil _ _) split.symm).elim,
        rfl⟩
    | kept held other _ _ => exact stays held other
    | sent held other _ _ _ => exact stays held other

end Runs

section Acknowledging

variable {server : Server} {host : Host} {id : WindowSurfaceId} {window : WindowSurface}
  {serial : Serial}

/-- What an acknowledgement does to a live window surface. -/
theorem step_ackConfigure (named : server.Named) (host : Host)
    (live : server.windowSurface? id = some window) (serial : Serial) :
    (server.step host (.ackConfigure id serial)).answer = .done ∧
      (server.next host (.ackConfigure id serial)).windowSurface? id =
        some (window.acknowledge serial) ∧
      (server.step host (.ackConfigure id serial)).log =
        (if window.mayHaveSent serial then [] else [.unknownAcknowledgement]) ++
          if window.isLate serial then [.lateAcknowledgement] else [] := by
  obtain ⟨client, found, held⟩ := windowSurface?_eq_some.mp live
  have step : server.step host (.ackConfigure id serial) =
    (server.ackConfigure id serial).map (.ofAttempt .window fun _ => .done) := rfl
  have state : server.next host (.ackConfigure id serial) =
      server.putBack (client.modifyWindow id fun window => window.acknowledge serial) := by
    simp only [next, step, ackConfigure, found, held]
    rfl
  refine ⟨?_, ?_, ?_⟩
  · simp only [step, ackConfigure, found, held]
    rfl
  · have kept : (client.modifyWindow id fun window => window.acknowledge serial).id = client.id :=
      rfl
    rw [state, windowSurface?_putBack named found kept, if_pos rfl]
    simp only [Connection.modifyWindow, Arena.get?_modify, if_true, held, Option.map_some]
  · simp only [step, ackConfigure, found, held]
    rfl

/-- A serial is taken for unknown if it is newer than the last one sent, or none was sent. -/
theorem unknown_mem_log_iff (named : server.Named) (host : Host)
    (live : server.windowSurface? id = some window) {sent : List Serial}
    (hasSent : window.HasSent sent) (serial : Serial) :
    .unknownAcknowledgement ∈ (server.step host (.ackConfigure id serial)).log ↔
      ∀ last, sent.getLast? = some last → serial.IsNewer last := by
  rw [(step_ackConfigure named host live serial).2.2, ← hasSent.mayHaveSent_eq_false_iff]
  cases window.mayHaveSent serial <;> cases window.isLate serial <;> decide

end Acknowledging

/-- Exactly the serials that were never sent for a window surface are taken for unknown. -/
def RecognisesUnsent (config : Config) (script : Script) (id : WindowSurfaceId) : Prop :=
  ∀ host serial,
    .unknownAcknowledgement ∈ ((after config script).step host (.ackConfigure id serial)).log ↔
      serial ∉ sent config script id

/-- A window surface that was only sent serial 1 takes the last word for known. -/
theorem not_recognisesUnsent_windowed :
    (∃ window, (after {} (Script.windowed.take 4)).windowSurface? ⟨⟨0⟩, 1⟩ = some window) ∧
      ¬ RecognisesUnsent {} (Script.windowed.take 4) ⟨⟨0⟩, 1⟩ := by
  refine ⟨⟨_, rfl⟩, fun recognises => ?_⟩
  have unsent : (⟨4294967295⟩ : Serial) ∉ sent {} (Script.windowed.take 4) ⟨⟨0⟩, 1⟩ := by decide
  have quiet : LogMessage.unknownAcknowledgement ∉ ((after {} (Script.windowed.take 4)).step
      .withFile (.ackConfigure ⟨⟨0⟩, 1⟩ ⟨4294967295⟩)).log := by decide
  exact quiet ((recognises .withFile ⟨4294967295⟩).mpr unsent)

/-- **How the acknowledgement of a serial is judged**, after a script. -/
structure JudgesByLast (config : Config) (script : Script) (id : WindowSurfaceId)
    (window : WindowSurface) (host : Host) (serial : Serial) : Prop where
  since : SentSince config script id (sent config script id)
  /-- The serials are those of a fresh counter. -/
  numbered : sent config script id =
    (List.range (sent config script id).length).map Serial.nth
  answered : ((after config script).step host (.ackConfigure id serial)).answer = .done
  recorded : ((after config script).next host (.ackConfigure id serial)).windowSurface? id =
    some { window with lastAcked := some serial }
  warned :
    .unknownAcknowledgement ∈ ((after config script).step host (.ackConfigure id serial)).log ↔
      ∀ last, (sent config script id).getLast? = some last → serial.IsNewer last
  /-- The warning spares what was sent, up to half a circle. -/
  trusted : (sent config script id).length ≤ 2 ^ 31 → serial ∈ sent config script id →
    .unknownAcknowledgement ∉ ((after config script).step host (.ackConfigure id serial)).log
  /-- It spares 0, too, and what lies more than half a circle ahead. -/
  unsent : (sent config script id).length ≤ 2 ^ 31 → serial ∉ sent config script id →
    (.unknownAcknowledgement ∈ ((after config script).step host (.ackConfigure id serial)).log ↔
      sent config script id = [] ∨ serial.value.toNat ≠ 0 ∧
        serial.value.toNat ≤ (sent config script id).length + 2 ^ 31)

/-- **Acknowledgements are judged by the last serial sent.** The acknowledgement of any serial by a
live window surface is recorded. The serial is taken for unknown if nothing was sent since the
window surface was created, or if the serial is newer than the last one sent. Up to half a circle of
serials, none that was sent is taken for unknown, and one that was not sent is, unless it is 0 or
lies more than half a circle ahead. -/
theorem acknowledgement_judged_by_last (config : Config) (script : Script) (id : WindowSurfaceId)
    (window : WindowSurface) (live : (after config script).windowSurface? id = some window)
    (host : Host) (serial : Serial) : JudgesByLast config script id window host serial := by
  have hasSent := hasSent_after live
  have named := named_after config script
  obtain ⟨answered, recorded, _⟩ := step_ackConfigure named host live serial
  have warned := unknown_mem_log_iff named host live hasSent serial
  refine ⟨sentSince_after live, hasSent.serials, answered, recorded, warned, fun few listed => ?_,
    fun few unlisted => ?_⟩
  · rw [warned, hasSent.isNewer_iff few]
    have within := (hasSent.mem_iff few serial).mp listed
    have nonempty : sent config script id ≠ [] := List.ne_nil_of_mem listed
    rintro (empty | ahead)
    · exact nonempty empty
    · omega
  · rw [warned, hasSent.isNewer_iff few]
    rw [hasSent.mem_iff few] at unlisted
    refine or_congr Iff.rfl ?_
    omega

/-- A window surface that was sent serials 1 and 2 takes 2 for known, and 3 for unknown. -/
theorem acknowledgement_judged_by_last_windowed :
    let window : WindowSurfaceId := ⟨⟨0⟩, 1⟩
    let server := after {} Script.windowed
    sent {} Script.windowed window = [⟨1⟩, ⟨2⟩] ∧
      (∃ record, server.windowSurface? window = some record) ∧
      .unknownAcknowledgement ∉ (server.step .withFile (.ackConfigure window ⟨2⟩)).log ∧
      .unknownAcknowledgement ∈ (server.step .withFile (.ackConfigure window ⟨3⟩)).log := by
  intro window server
  have judged := acknowledgement_judged_by_last {} Script.windowed window _ rfl .withFile
  exact ⟨rfl, ⟨_, rfl⟩, (judged ⟨2⟩).trusted (by decide) (by decide),
    ((judged ⟨3⟩).unsent (by decide) (by decide)).mpr (.inr (by decide))⟩

end Server

end DisplayServer
