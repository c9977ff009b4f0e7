import DisplayServer.Proofs.Coupling

/-! # Every event is delivered, once and in order

Whatever happens to a frontend, the events that the server queues then (`Frontend.raised`) are taken
at once, and each of them comes to messages through the objects that it concerns, in the order in
which they were queued (`Turn.Tells`). A callback that fires is told of through the object that was
made for it, and never again: the frontend remembers an object for every callback that may fire, the
callbacks and the objects that were ever granted are all different, and what was told once is dead
(`Frontend.Remembers`).
-/

namespace DisplayServer

open Wire

/-- A client shows the buffer of its pool on a surface and asks for a frame. -/
def Life.framed : Life :=
  pooled ++ [Action.createBuffer, .bindGlobal 0 "wl_compositor" 4,
    .request 0 3 "create_surface" [.newObject],
    .request 0 4 "attach" [.object 2, .integer 0, .integer 0],
    .request 0 4 "frame" [.newObject], .request 0 4 "commit" []].map (.act .withFile)

/-- Of a list that goes along with some parts, a filter takes a list that goes along with what the
parts share with it. -/
theorem exists_forall₂_filter {α β : Type} {related : α → List β → Prop} {items : List α}
    {parts : List (List β)} (paired : List.Forall₂ related items parts) (test : α → Bool) :
    ∃ kept, List.Forall₂ related (items.filter test) kept ∧
      ∀ shows : β → Bool, (∀ item part, related item part → ∀ entry ∈ part,
        shows entry = test item) → parts.flatten.filter shows = kept.flatten := by
  induction paired with
  | nil => exact ⟨[], .nil, fun _ _ => rfl⟩
  | @cons item part _ _ first _ ih =>
    obtain ⟨kept, rest, flat⟩ := ih
    cases tested : test item with
    | true =>
      rw [List.filter_cons_of_pos tested]
      refine ⟨part :: kept, .cons first rest, fun shows same => ?_⟩
      rw [List.flatten_cons, List.filter_append, flat shows same, List.flatten_cons,
        List.filter_eq_self.mpr fun entry listed =>
          (same item part first entry listed).trans tested]
    | false =>
      rw [List.filter_cons_of_neg (Bool.eq_false_iff.mp tested)]
      refine ⟨kept, rest, fun shows same => ?_⟩
      rw [List.flatten_cons, List.filter_append, flat shows same, List.filter_eq_nil_iff.mpr,
        List.nil_append]
      intro entry listed
      rw [same item part first entry listed, tested]
      exact Bool.false_ne_true

/-- Of lists that go along with each other, each item goes along with one of the other list. -/
theorem forall₂_exists_left {α β : Type} {related : α → β → Prop} {items : List α} {parts : List β}
    (paired : List.Forall₂ related items parts) {part : β} (listed : part ∈ parts) :
    ∃ item ∈ items, related item part := by
  induction paired with
  | nil => cases listed
  | @cons item first _ _ goes _ ih =>
    rcases List.mem_cons.mp listed with rfl | later
    · exact ⟨item, List.mem_cons_self, goes⟩
    · obtain ⟨item, listed, goes⟩ := ih later
      exact ⟨item, List.mem_cons_of_mem _ listed, goes⟩

private theorem forall₂_exists_right {α β : Type} {related : α → β → Prop} {items : List α}
    {parts : List β} (paired : List.Forall₂ related items parts) {item : α}
    (listed : item ∈ items) :
    ∃ part ∈ parts, related item part :=
  forall₂_exists_left paired.flip listed

namespace Server

variable {server : Server} {host : Host} {operation : Operation}

/-- What waits for a client after an operation is what the operation queued, if nothing waited
before. -/
theorem IsQuiet.eventsOf_next (quiet : server.IsQuiet) (named : server.Named) (id : ConnectionId) :
    (server.next host operation).eventsOf id = server.queued host operation id := by
  unfold eventsOf queued
  cases lives : (server.next host operation).connection? id with
  | none => cases server.connection? id <;> rfl
  | some new =>
    rcases connection?_next named lives with ⟨rfl, -, rfl⟩ | ⟨old, live, -⟩
    · cases live : server.connection? id with
      | none => rfl
      | some old => simp [Connection.queuedUntil]
    · simp [live, Connection.queuedUntil, quiet id old live]

/-- Of the events that are taken, those of a client are taken in their order. -/
theorem filter_drainEvents (distinct : server.connections.keys.Nodup) (id : ConnectionId) :
    server.drainEvents.1.filter (fun event => decide (event.1 = id)) =
      (server.eventsOf id).map fun event => (id, event) := by
  rw [drainEvents_eq distinct]
  refine filter_flatMap_eq distinct ?_ ?_ ?_
  · simp +contextual
  · simp
  · intro dead
    rw [eventsOf_of_notMem dead, List.map_nil]

/-- A script of operations that queue nothing queues nothing. -/
theorem IsQuiet.trace_queued (quiet : server.IsQuiet) (named : server.Named) {script : Script}
    (silent : ∀ entry ∈ script, entry.2.isSilent = true) (id : ConnectionId) :
    server.trace (fun server host operation => server.queued host operation id) script = [] := by
  induction script generalizing server with
  | nil => rfl
  | cons entry rest ih =>
    obtain ⟨host, operation⟩ := entry
    have next := quiet.next named host operation (silent _ List.mem_cons_self)
    rw [trace, ← quiet.eventsOf_next named, isQuiet_iff.mp next id, List.nil_append]
    exact ih next (named_next named host operation) fun entry listed =>
      silent entry (List.mem_cons_of_mem _ listed)

private theorem keys_drained (server : Server) :
    server.drained.connections.keys = server.connections.keys := by
  simp [drained, drainEvents, Arena.mapValues, Arena.keys]

/-- No callback fires twice at a time. -/
theorem IsAfter.nodup_fired {config : Config} {accepted : Nat} {drawn : ConnectionId → Nat}
    (isAfter : server.IsAfter config accepted drawn) (quiet : server.IsQuiet)
    (distinct : (server.next host operation).connections.keys.Nodup)
    (alone : ∀ id time, operation ≠ .present id time) :
    ((server.next host operation).drainEvents.1.filterMap fun event => event.2.fired?).Nodup := by
  by_cases all : ∃ time, operation = .presentAll time
  · obtain ⟨time, rfl⟩ := all
    have taken : (server.next host (.presentAll time)).drainEvents.1 = _ :=
      quiet.drainEvents_presentAll isAfter.distinct time
    have fired : ((server.next host (.presentAll time)).drainEvents.1.filterMap
        fun event => event.2.fired?) = server.dueCallbacks.map Prod.snd := by
      rw [taken, List.filterMap_map, ← List.filterMap_eq_map]
      rfl
    rw [fired]
    exact isAfter.nodup_dueCallbacks
  · rw [drainEvents_eq distinct, List.filterMap_flatMap, List.flatMap_eq_nil_iff.mpr]
    · exact List.nodup_nil
    · intro id _
      rw [List.filterMap_map, quiet.eventsOf_next isAfter.named]
      unfold queued
      split
      · rename_i old new live lives
        rcases connection?_next isAfter.named lives with ⟨rfl, -, rfl⟩ | ⟨old', live', change⟩
        · simp [Connection.queuedUntil]
        · cases live.symm.trans live'
          exact change.queues.unfired alone fun time presents => all ⟨time, presents⟩
      · rfl

end Server

/-- The object that a client is told of, when its callback is done. -/
def Delivery.done? : Delivery → Option ObjectId
  | ⟨client, .object index, .done _⟩ => some ⟨client, index⟩
  | _ => none

private theorem Delivery.done?_eq_some {delivery : Delivery} {id : ObjectId} :
    delivery.done? = some id ↔ ∃ time, delivery = Turn.doneThrough time id := by
  constructor
  · intro done
    unfold done? at done
    split at done
    · rename_i time
      cases done
      exact ⟨time, rfl⟩
    · cases done
  · rintro ⟨time, rfl⟩
    rfl

/-- That a callback is done is news. -/
theorem Delivery.done?_of_mute {delivery : Delivery} (mute : delivery.message.isNews = false) :
    delivery.done? = none := by
  cases done : delivery.done? with
  | none => rfl
  | some id =>
    obtain ⟨time, rfl⟩ := done?_eq_some.mp done
    cases mute

/-- A callback that is done is told of when its event comes. -/
theorem Frontend.Says.of_done {before after : Frontend} {event : Event} {said : List Delivery}
    (comes : before.Says after event said) {time : UInt32} {id : ObjectId}
    (listed : Turn.doneThrough time id ∈ said) :
    ∃ callback, event = .frameDone callback time ∧ before.callbacks.get? callback = some id ∧
      (before.isConnected id.client = true → before.ties.stands id = some .callback) ∧
      after.ties.stands id = none := by
  cases comes with
  | @fired _ _ other entry stands spent =>
    obtain ⟨client, index⟩ := id
    obtain ⟨client', index'⟩ := other
    cases List.mem_singleton.mp listed
    exact ⟨_, rfl, entry, stands, spent⟩
  | _ => simp [Turn.doneThrough] at listed

namespace Turn

variable {turn turn' : Turn} {events : List (ConnectionId × Event)}

/-- A callback that is done is told of through its object. -/
theorem filterMap_done_eq {before after : Frontend} {said : List (List Delivery)}
    (told : List.Forall₂ (Told before after) events said) :
    (said.flatten.filterMap Delivery.done?).map some =
      (events.filterMap fun event => event.2.fired?).map before.callbacks.get? := by
  induction told with
  | nil => rfl
  | @cons event part _ _ first _ ih =>
    obtain ⟨comes, -⟩ := first
    obtain ⟨connection, event⟩ := event
    rw [List.flatten_cons, List.filterMap_append, List.map_append, ih]
    cases comes with
    | fired entry => simp [Delivery.done?, Event.fired?, entry]
    | _ => simp [Delivery.done?, Event.fired?]

/-- Of what was told, each client heard what comes of its own events, in their order. -/
theorem Tells.comes_to (tells : turn.Tells events turn') (fresh : turn.sent = [])
    (single : ∀ client other connection, turn.frontend.ties.owner client = some connection →
      turn.frontend.ties.owner other = some connection → client = other)
    (connection : ConnectionId) :
    ∃ said, List.Forall₂ (Told turn.frontend turn'.frontend)
        (events.filter fun event => decide (event.1 = connection)) said ∧
      ∀ client, turn.frontend.ties.owner client = some connection →
        turn.frontend.isConnected client = true →
          if events.filter (fun event => decide (event.1 = connection)) = [] then
            ∀ delivery ∈ turn'.sent, delivery.client = client → delivery.message.isNews = false
          else turn'.sent.filter (fun delivery => decide (delivery.client = client)) =
            said.flatten := by
  obtain ⟨more, sent, told⟩ := tells
  rw [fresh, List.nil_append] at sent
  subst sent
  by_cases none : events = []
  · subst none
    rw [if_pos rfl] at told
    exact ⟨[], .nil, fun _ _ _ => by simpa using fun delivery listed _ => told delivery listed⟩
  · rw [if_neg none] at told
    obtain ⟨said, paired, more⟩ := told
    obtain ⟨kept, rest, flat⟩ := exists_forall₂_filter paired fun event =>
      decide (event.1 = connection)
    refine ⟨kept, rest, fun client owned served => ?_⟩
    have heard : turn'.sent.filter (fun delivery => decide (delivery.client = client)) =
        kept.flatten := by
      rw [more, List.filter_filter, ← flat fun delivery => decide (delivery.client = client)]
      · refine List.filter_congr fun delivery _ => ?_
        by_cases here : delivery.client = client <;> simp [here, served]
      · intro event part told delivery listed
        have owner := told.owner delivery listed
        refine decide_eq_decide.mpr ⟨?_, ?_⟩
        · rintro rfl
          exact Option.some.inj (owner.symm.trans owned)
        · intro same
          exact single _ _ _ owner (same ▸ owned)
    split
    · rename_i nothing
      rw [nothing] at rest
      cases rest
      intro delivery listed here
      have among : delivery ∈ turn'.sent.filter fun delivery =>
          decide (delivery.client = client) := List.mem_filter.mpr ⟨listed, decide_eq_true here⟩
      rw [heard] at among
      cases among
    · exact heard

/-- Who is told that a callback is done is its object, which dies of it. -/
theorem Tells.of_done (tells : turn.Tells events turn') (fresh : turn.sent = []) {time : UInt32}
    {id : ObjectId} (listed : doneThrough time id ∈ turn'.sent) :
    ∃ connection callback, (connection, .frameDone callback time) ∈ events ∧
      turn.frontend.callbacks.get? callback = some id ∧
      turn.frontend.ties.owner id.client = some connection ∧
      turn.frontend.ties.stands id = some .callback ∧ turn'.frontend.ties.stands id = none := by
  obtain ⟨more, sent, told⟩ := tells
  rw [fresh, List.nil_append] at sent
  subst sent
  split at told
  · cases told _ listed
  · obtain ⟨said, paired, more⟩ := told
    rw [more, List.mem_filter] at listed
    obtain ⟨among, served⟩ := listed
    obtain ⟨part, member, among⟩ := List.mem_flatten.mp among
    obtain ⟨⟨connection, event⟩, raised, comes, owner⟩ := forall₂_exists_left paired member
    obtain ⟨callback, rfl, entry, stands, spent⟩ := comes.of_done among
    exact ⟨connection, callback, raised, entry, owner _ among, stands served, spent⟩

/-- A callback that fires is told of, if its client is served. -/
theorem Tells.done_of_fired (tells : turn.Tells events turn') (fresh : turn.sent = [])
    {connection : ConnectionId} {callback : CallbackId} {time : UInt32}
    (fired : (connection, .frameDone callback time) ∈ events) :
    ∃ id, turn.frontend.callbacks.get? callback = some id ∧
      (turn.frontend.isConnected id.client = true → doneThrough time id ∈ turn'.sent) := by
  obtain ⟨more, sent, told⟩ := tells
  rw [fresh, List.nil_append] at sent
  subst sent
  rw [if_neg (List.ne_nil_of_mem fired)] at told
  obtain ⟨said, paired, more⟩ := told
  obtain ⟨part, member, comes, -⟩ := forall₂_exists_right paired fired
  cases comes with
  | @fired _ _ id entry _ _ =>
    refine ⟨id, entry, fun served => ?_⟩
    rw [more, List.mem_filter]
    exact ⟨List.mem_flatten.mpr ⟨_, member, List.mem_singleton.mpr rfl⟩, served⟩

/-- No object is told twice at a time that its callback is done. -/
theorem Tells.nodup_done (tells : turn.Tells events turn') (fresh : turn.sent = [])
    (once : (events.filterMap fun event => event.2.fired?).Nodup)
    (single : ∀ callback other id, turn.frontend.callbacks.get? callback = some id →
      turn.frontend.callbacks.get? other = some id → callback = other) :
    (turn'.sent.filterMap Delivery.done?).Nodup := by
  obtain ⟨more, sent, told⟩ := tells
  rw [fresh, List.nil_append] at sent
  subst sent
  split at told
  · rw [List.filterMap_eq_nil_iff.mpr fun delivery listed =>
      Delivery.done?_of_mute (told delivery listed)]
    exact List.nodup_nil
  · obtain ⟨said, paired, more⟩ := told
    have fires := filterMap_done_eq paired
    rw [more]
    refine List.Nodup.sublist (List.filter_sublist.filterMap _) (List.Nodup.of_map some ?_)
    rw [fires]
    refine once.map_on fun callback listed other _ same => ?_
    have found : turn.frontend.callbacks.get? callback ∈
        (events.filterMap fun event => event.2.fired?).map turn.frontend.callbacks.get? :=
      List.mem_map_of_mem listed
    rw [← fires] at found
    obtain ⟨id, -, entry⟩ := List.mem_map.mp found
    exact single callback other id entry.symm (same ▸ entry.symm)

end Turn

namespace Frontend

/-- The events that the server queues when something happens, in the order in which they are taken:
client by client. -/
def raised (frontend : Frontend) (happening : Happening) : List (ConnectionId × Event) :=
  (frontend.asked happening).elim [] fun asked =>
    (frontend.server.next asked.1 asked.2).drainEvents.1

/-- The events that the server queues for a connection when something happens. -/
def queued (frontend : Frontend) (happening : Happening) (id : ConnectionId) : List Event :=
  (frontend.asked happening).elim [] fun asked => frontend.server.queued asked.1 asked.2 id

/-- The objects that are told, when something happens, that their callbacks are done. -/
def finished (frontend : Frontend) (happening : Happening) : List ObjectId :=
  (frontend.happen happening).sent.filterMap Delivery.done?

/-- No action of a client presents a surface. -/
theorem asks_ne_present (frontend : Frontend) (action : Action) (id : SurfaceId) (time : UInt32) :
    frontend.asks action ≠ some (.present id time) := by
  cases action with
  | connect isManaged => cases isManaged <;> simp [asks]
  | bindGlobal client name version =>
    simp only [asks]
    intro presents
    obtain ⟨capability, -, presents⟩ := Option.bind_eq_some_iff.mp presents
    split at presents
    · cases presents
    · obtain ⟨connection, -, presents⟩ := Option.map_eq_some_iff.mp presents
      cases presents
  | request client index name arguments =>
    simp only [asks]
    intro presents
    obtain ⟨⟨object, signature⟩, -, presents⟩ := Option.bind_eq_some_iff.mp presents
    unfold operation? at presents
    split at presents <;> grind [Option.map_eq_some_iff]
  | present time => simp [asks]
  | close client => simp [asks]
  | flush => simp [asks]

section Dispatches

variable {config : Config} {accepted : Nat} {drawn : ConnectionId → Nat} {frontend : Frontend}
  {happening : Happening} {turn : Turn} {framed : List (CallbackId × ObjectId)}

/-- What the server queues is told of. -/
theorem tells_raised
    (answers : Turn.Answers { frontend } turn (frontend.asked happening)) :
    Turn.Tells (frontend.raised happening) { frontend } turn := by
  unfold raised
  cases asked : frontend.asked happening with
  | none =>
    rw [asked] at answers
    exact answers.2
  | some pair =>
    rw [asked] at answers
    exact answers.2

/-- Nobody is connected twice after what is asked. -/
theorem nodup_asked {host : Host} {operation : Operation}
    (proceeds : Turn.Proceeds config accepted drawn { frontend } turn (some (host, operation))
      framed) :
    (frontend.server.next host operation).connections.keys.Nodup := by
  have distinct := proceeds.sound.server.distinct
  rw [proceeds.answers.1, Server.keys_drained] at distinct
  exact distinct

variable (sound : frontend.Sound config accepted drawn)

include sound

/-- Of what the server queues, each connection gets its part, in order. -/
theorem filter_raised
    (proceeds : Turn.Proceeds config accepted drawn { frontend } turn (frontend.asked happening)
      framed) (id : ConnectionId) :
    (frontend.raised happening).filter (fun event => decide (event.1 = id)) =
      (frontend.queued happening id).map fun event => (id, event) := by
  unfold raised queued
  cases asked : frontend.asked happening with
  | none => rfl
  | some pair =>
    rw [asked] at proceeds
    exact (Server.filter_drainEvents (nodup_asked proceeds) id).trans
      (congrArg _ (sound.quiet.eventsOf_next sound.server.named id))

/-- No callback fires twice in one happening. -/
theorem nodup_fired
    (proceeds : Turn.Proceeds config accepted drawn { frontend } turn (frontend.asked happening)
      framed) :
    ((frontend.raised happening).filterMap fun event => event.2.fired?).Nodup := by
  have alone : ∀ host operation, frontend.asked happening = some (host, operation) →
      ∀ id time, operation ≠ .present id time := by
    rintro host operation asked id time rfl
    cases happening with
    | act host action =>
      simp only [Frontend.asked] at asked
      split at asked
      · cases asked
      · obtain ⟨operation, asks, same⟩ := Option.map_eq_some_iff.mp asked
        cases same
        exact frontend.asks_ne_present action id time asks
    | destroy | forget | reap | subscribe => cases asked
  unfold raised
  cases asked : frontend.asked happening with
  | none => exact List.nodup_nil
  | some pair =>
    rw [asked] at proceeds
    exact sound.server.nodup_fired sound.quiet (nodup_asked proceeds)
      (alone _ _ asked)

end Dispatches

/-- An action is granted one callback at most. -/
theorem framed_cases (frontend : Frontend) (action : Action) :
    frontend.framed action = [] ∨ ∃ callback id, frontend.framed action = [(callback, id)] := by
  unfold framed granted
  split
  · split
    · split
      · exact .inr ⟨_, _, rfl⟩
      · exact .inl rfl
    · exact .inl rfl
  · exact .inl rfl

section Remembering

variable {config : Config} {life : Life} {happening : Happening}

/-- A callback is granted to an object that was just created, and has just been drawn. -/
theorem entered_cases (range : (start config).state.InRange (life ++ [happening])) :
    (after config life).entered happening = [] ∨ ∃ callback id,
      (after config life).entered happening = [(callback, id)] ∧
        (after config life).ties.born id = false ∧
        ((after config life).happen happening).frontend.ties.born id = true ∧
        callback.index.toNat = (start config).state.drawn life callback.connection ∧
        (start config).state.drawn (life ++ [happening]) callback.connection =
          (start config).state.drawn life callback.connection + 1 := by
  cases happening with
  | destroy | forget | reap | subscribe => exact .inl rfl
  | act host action =>
    simp only [entered]
    split
    · exact .inl rfl
    rename_i heard
    cases action with
    | connect | close | bindGlobal | present | flush => exact .inl rfl
    | request client index name arguments =>
      rcases (after config life).framed_cases (.request client index name arguments) with
        none | ⟨callback, id, granted⟩
      · exact .inl none
      have served : (after config life).isConnected client = true := by
        simpa [ignores, Action.client?] using heard
      have asked {operation : Operation}
          (asks : (after config life).asks (.request client index name arguments) =
            some operation) :
          (after config life).asked (.act host (.request client index name arguments)) =
            some (host, operation) := by
        simp only [Frontend.asked, heard, Bool.false_eq_true, if_false, asks, Option.map_some]
      have rooms (operation : Operation)
          (asks : (after config life).asks (.request client index name arguments) = some operation)
          (id : ConnectionId) : (start config).state.drawn life id +
            (after config life).server.drawnBy host operation id ≤ UInt32.size := by
        have fits := range.handles id
        rw [drawn_concat, asked asks] at fits
        exact fits
      have sound := sound_after range.of_append
      have listed : (callback, id) ∈
          (after config life).framed (.request client index name arguments) := by
        rw [granted]
        exact List.mem_singleton.mpr rfl
      obtain ⟨unborn, born, surface, asks, answer⟩ :=
        Turn.born_framed { frontend := after config life } host ⟨client, index⟩ sound served rooms
          listed
      have issues : (after config life).server.Issues host (.frame surface) callback :=
        Server.issues_of_answer rfl answer (by decide)
      have accounted := sound.server.accounted
      have fits := rooms _ asks callback.connection
      rw [issues.drawnBy_eq_one accounted.named] at fits
      refine .inr ⟨callback, id, granted, unborn, ?_, ?_, ?_⟩
      · simpa only [happen, heard, Bool.false_eq_true, if_false, Turn.act] using born
      · rw [issues.index_eq accounted.toNumbered, UInt32.toNat_ofNat_of_lt' fits]
      · rw [drawn_concat, asked asks]
        exact congrArg _ (issues.drawnBy_eq_one accounted.named)

/-- What was granted by the end of a life was granted earlier, or to an object that was created
last, and was drawn last. -/
theorem granted_concat (range : (start config).state.InRange (life ++ [happening]))
    {callback : CallbackId} {id : ObjectId}
    (granted : (callback, id) ∈ history config entered (life ++ [happening])) :
    (callback, id) ∈ history config entered life ∨
      ((after config life).happen happening).frontend.ties.born id = true ∧
        callback.index.toNat <
          (start config).state.drawn (life ++ [happening]) callback.connection := by
  rw [history_concat, List.mem_append] at granted
  refine granted.imp_right fun last => ?_
  rcases entered_cases range with none | ⟨callback', id', one, -, born, index, drew⟩
  · rw [none] at last
    cases last
  · rw [one] at last
    cases List.mem_singleton.mp last
    exact ⟨born, by omega⟩

/-- An object that is told that its callback is done was alive until then. -/
theorem stands_of_finished (range : (start config).state.InRange (life ++ [happening]))
    {id : ObjectId} (listed : id ∈ (after config life).finished happening) :
    (after config life).ties.stands id = some .callback ∧
      ((after config life).happen happening).frontend.ties.stands id = none := by
  have tells := tells_raised (proceeds_after range).answers
  obtain ⟨delivery, told, done⟩ := List.mem_filterMap.mp listed
  obtain ⟨time, rfl⟩ := Delivery.done?_eq_some.mp done
  obtain ⟨_, _, -, -, -, stands, spent⟩ := tells.of_done rfl told
  exact ⟨stands, spent⟩

private theorem drawn_le_concat (config : Config) (life : Life) (happening : Happening)
    (id : ConnectionId) :
    (start config).state.drawn life id ≤ (start config).state.drawn (life ++ [happening]) id := by
  rw [drawn_concat]
  exact Nat.le_add_right ..

/-- What is known of the callbacks that were granted, and of those that are done. -/
structure Remembers (config : Config) (life : Life) : Prop where
  /-- Each grant is of another callback to another object. -/
  apart : (history config entered life).Pairwise fun first second =>
    first.1 ≠ second.1 ∧ first.2 ≠ second.2
  drawn : ∀ callback id, (callback, id) ∈ history config entered life →
    callback.index.toNat < (start config).state.drawn life callback.connection
  born : ∀ callback id, (callback, id) ∈ history config entered life →
    (after config life).ties.born id = true
  entries : ∀ callback id, (after config life).callbacks.get? callback = some id →
    (callback, id) ∈ history config entered life
  objects : ∀ id, (after config life).ties.stands id = some .callback →
    ∃ callback, (callback, id) ∈ history config entered life
  spent : ∀ id ∈ history config finished life,
    (after config life).ties.born id = true ∧ (after config life).ties.stands id = none
  once : (history config finished life).Nodup

/-- A callback is granted to one object only. -/
theorem Remembers.object_eq (remembers : Remembers config life) {callback : CallbackId}
    {id other : ObjectId} (granted : (callback, id) ∈ history config entered life)
    (granted' : (callback, other) ∈ history config entered life) : id = other := by
  by_contra differ
  have symmetric : Std.Symm fun first second : CallbackId × ObjectId =>
      first.1 ≠ second.1 ∧ first.2 ≠ second.2 :=
    ⟨fun _ _ apart => ⟨apart.1.symm, apart.2.symm⟩⟩
  have apart := remembers.apart.forall granted granted' fun same => differ (congrArg Prod.snd same)
  exact apart.1 rfl

/-- **What is known stays true,** whatever happens. -/
theorem Remembers.concat (range : (start config).state.InRange (life ++ [happening]))
    (remembers : Remembers config life) : Remembers config (life ++ [happening]) := by
  have sound := sound_after range.of_append
  have proceeds := proceeds_after range
  constructor
  case apart =>
    rw [history_concat]
    rcases entered_cases range with none | ⟨callback, id, one, unborn, -, index, -⟩
    · rw [none, List.append_nil]
      exact remembers.apart
    · rw [one]
      refine List.pairwise_append.mpr ⟨remembers.apart, List.pairwise_singleton .., ?_⟩
      rintro ⟨first, object⟩ earlier _ last
      cases List.mem_singleton.mp last
      constructor
      · rintro rfl
        exact Nat.ne_of_lt (remembers.drawn first object earlier) index
      · rintro rfl
        exact Bool.noConfusion (unborn.symm.trans (remembers.born _ _ earlier))
  case drawn =>
    intro callback id listed
    rcases granted_concat range listed with earlier | ⟨-, below⟩
    · exact Nat.lt_of_lt_of_le (remembers.drawn callback id earlier)
        (drawn_le_concat config life happening _)
    · exact below
  case born =>
    intro callback id listed
    rw [after_concat]
    rcases granted_concat range listed with earlier | ⟨born, -⟩
    · exact proceeds.ages.born id (remembers.born callback id earlier)
    · exact born
  case entries =>
    intro callback id entry
    rw [after_concat] at entry
    rw [history_concat, List.mem_append]
    exact (proceeds.recalls callback id entry).imp_left (remembers.entries callback id)
  case objects =>
    intro id stands
    rw [after_concat] at stands
    rcases proceeds.calls id stands with before | ⟨callback, granted⟩
    · obtain ⟨callback, earlier⟩ := remembers.objects id before
      exact ⟨callback, by rw [history_concat]; exact List.mem_append_left _ earlier⟩
    · exact ⟨callback, by rw [history_concat]; exact List.mem_append_right _ granted⟩
  case spent =>
    intro id listed
    rw [history_concat, List.mem_append] at listed
    rw [after_concat]
    rcases listed with earlier | last
    · obtain ⟨born, dead⟩ := remembers.spent id earlier
      exact ⟨proceeds.ages.born id born, proceeds.ages.dead id born dead⟩
    · obtain ⟨stands, spent⟩ := stands_of_finished range last
      have born := sound.tied.clients.born id (stands ▸ Option.some_ne_none _)
      exact ⟨proceeds.ages.born id born, spent⟩
  case once =>
    rw [history_concat]
    refine remembers.once.append ?_ ?_
    · have tells := tells_raised proceeds.answers
      exact tells.nodup_done rfl (nodup_fired sound proceeds) sound.tied.callbacks.single
    · intro id earlier last
      have stands := (stands_of_finished range last).1
      exact Option.some_ne_none _ (stands.symm.trans (remembers.spent id earlier).2)

/-- After a life in range, the objects of callbacks are remembered. -/
theorem remembers_after (range : (start config).state.InRange life) : Remembers config life := by
  induction life using List.reverseRecOn with
  | nil =>
    refine ⟨List.Pairwise.nil, ?_, ?_, ?_, ?_, ?_, List.nodup_nil⟩
    · intro _ _ listed
      cases listed
    · intro _ _ listed
      cases listed
    · intro _ _ entry
      cases entry
    · intro _ stands
      cases stands
    · intro _ listed
      cases listed
  | append_singleton life happening ih => exact (ih range.of_append).concat range

end Remembering

/-- What the server queues when something happens reaches the clients. -/
structure Dispatches (config : Config) (front : Life) (happening : Happening) : Prop where
  /-- The server did what it was asked, or let go of some things. It queued nothing else, and
  everything was taken. -/
  work : ∃ script : Script,
    (∀ asked, (after config front).asked happening = some asked → script = [asked]) ∧
      (∀ id, (after config front).server.trace
          (fun server host operation => server.queued host operation id) script =
        (after config front).queued happening id) ∧
      ((after config front).happen happening).frontend.server =
        ((after config front).server.run script).drained
  /-- Each event finds its objects. What it comes to is all that its client hears. -/
  delivered : ∀ connection, ∃ said,
    List.Forall₂ ((after config front).Says ((after config front).happen happening).frontend)
      ((after config front).queued happening connection) said ∧
    (∀ delivery ∈ said.flatten,
      (after config front).ties.owner delivery.client = some connection) ∧
    ∀ client, (after config front).ties.owner client = some connection →
      (after config front).isConnected client = true →
        if (after config front).queued happening connection = [] then
          ∀ delivery ∈ ((after config front).happen happening).sent,
            delivery.client = client → delivery.message.isNews = false
        else ((after config front).happen happening).sent.filter
          (fun delivery => decide (delivery.client = client)) = said.flatten
  /-- An object is told that its callback is done exactly when that one fires. -/
  done : ∀ id time, (after config front).isConnected id.client = true →
    (Turn.doneThrough time id ∈ ((after config front).happen happening).sent ↔
      ∃ callback, (callback, id) ∈ history config entered front ∧
        .frameDone callback time ∈ (after config front).queued happening callback.connection)

section Main

variable {config : Config} {front : Life} {happening : Happening}

/-- Raised are the events that the server queues. -/
theorem mem_raised_iff (range : (start config).state.InRange (front ++ [happening]))
    {connection : ConnectionId} {event : Event} :
    (connection, event) ∈ (after config front).raised happening ↔
      event ∈ (after config front).queued happening connection := by
  have part := filter_raised (sound_after range.of_append) (proceeds_after range) connection
  have same := congrArg ((connection, event) ∈ ·) part
  simpa using same

/-- **Whatever happens, the events that come of it reach the clients.** -/
theorem dispatches_after (range : (start config).state.InRange (front ++ [happening])) :
    Dispatches config front happening := by
  have sound := sound_after range.of_append
  have proceeds := proceeds_after range
  have tells := tells_raised proceeds.answers
  have remembers := remembers_after range.of_append
  constructor
  case work =>
    have answers := proceeds.answers
    unfold queued
    cases asked : (after config front).asked happening with
    | some pair =>
      rw [asked] at answers
      refine ⟨[pair], fun _ same => ?_, fun id => List.append_nil _, answers.1⟩
      rw [Option.some.inj same]
    | none =>
      rw [asked] at answers
      obtain ⟨script, silent, same⟩ := answers.1
      refine ⟨script, fun _ same => ?_,
        fun id => sound.quiet.trace_queued sound.server.named silent id, ?_⟩
      · cases same
      · have after := proceeds.sound.server.distinct
        have quiet := proceeds.sound.quiet
        rw [same] at after quiet
        rw [quiet.drained_eq after, same]
  case delivered =>
    intro connection
    obtain ⟨said, told, heard⟩ := tells.comes_to rfl sound.tied.clients.single connection
    have none : ((after config front).raised happening).filter
        (fun event => decide (event.1 = connection)) = [] ↔
          (after config front).queued happening connection = [] := by
      rw [filter_raised sound proceeds connection, List.map_eq_nil_iff]
    rw [filter_raised sound proceeds connection, List.forall₂_map_left_iff] at told
    refine ⟨said, told.imp fun _ _ told => told.comes, fun delivery listed => ?_,
      fun client owned served => ?_⟩
    · obtain ⟨part, member, listed⟩ := List.mem_flatten.mp listed
      obtain ⟨event, -, told⟩ := forall₂_exists_left told member
      exact told.owner delivery listed
    · simpa only [none] using heard client owned served
  case done =>
    intro id time served
    constructor
    · intro told
      obtain ⟨connection, callback, raised, entry, owned, -, -⟩ := tells.of_done rfl told
      have own := sound.tied.callbacks.owned callback id entry
      cases owned.symm.trans own
      exact ⟨callback, remembers.entries callback id entry, (mem_raised_iff range).mp raised⟩
    · rintro ⟨callback, granted, fires⟩
      obtain ⟨other, entry, told⟩ := tells.done_of_fired rfl ((mem_raised_iff range).mpr fires)
      have same := remembers.object_eq granted (remembers.entries callback other entry)
      subst same
      exact told served

/-- **Every event is delivered, once and in order.** Nothing waits on the server when something has
happened. Each event that was queued then has found the objects that it concerns, and its client was
told just that, event by event. An object that was granted a callback is told that it is done when
the callback fires, and never otherwise, so it is told once at most: no callback and no object is
granted twice, and every object of a callback was granted one. -/
theorem events_delivered_once (config : Config) (life : Life)
    (range : (start config).state.InRange life) :
    (after config life).server.IsQuiet ∧
      (∀ front happening back, life = front ++ happening :: back →
        Dispatches config front happening) ∧
      (history config entered life).Pairwise
        (fun first second => first.1 ≠ second.1 ∧ first.2 ≠ second.2) ∧
      (∀ id, (after config life).Stands id .callback →
        ∃ callback, (callback, id) ∈ history config entered life) ∧
      (history config finished life).Nodup := by
  have remembers := remembers_after range
  refine ⟨(sound_after range).quiet, ?_, remembers.apart,
    fun id stands => remembers.objects id (stands_iff.mp stands), remembers.once⟩
  rintro front happening back rfl
  exact dispatches_after range.of_cons

/-- The client that showed its buffer is told that its frame is done. -/
theorem events_delivered_once_framed :
    (start {}).state.InRange (Life.framed ++ [.act .withFile (.present 7)]) ∧
      Turn.doneThrough 7 ⟨0, 5⟩ ∈
        ((after {} Life.framed).happen (.act .withFile (.present 7))).sent ∧
      (history {} finished (Life.framed ++ [.act .withFile (.present 7)])).Nodup := by
  have range : (start {}).state.InRange (Life.framed ++ [.act .withFile (.present 7)]) :=
    inRange_of_length _ (by decide)
  obtain ⟨-, dispatches, -, -, once⟩ := events_delivered_once {} _ range
  have granted : history {} entered Life.framed = [(⟨⟨0⟩, 5⟩, ⟨0, 5⟩)] := rfl
  have fires : (after {} Life.framed).queued (.act .withFile (.present 7)) ⟨0⟩ =
      [.frameDone ⟨⟨0⟩, 5⟩ 7] := rfl
  refine ⟨range, ((dispatches Life.framed _ [] rfl).done ⟨0, 5⟩ 7 rfl).mpr ⟨⟨⟨0⟩, 5⟩, ?_, ?_⟩, once⟩
  · rw [granted]
    exact List.mem_singleton.mpr rfl
  · rw [fires]
    exact List.mem_singleton.mpr rfl

end Main

end Frontend

end DisplayServer
