import DisplayServer.Proofs.Batches
import Mathlib.Data.List.Nodup

/-! # Frame callbacks

A frame callback waits in two lists of its surface, the pending and the committed one, until it
fires, is handed back by the destruction of the surface, or goes down with the connection. Nothing
is lost on the way and nothing happens twice: what was requested of a surface is, in this order,
what fired, what is committed, what is pending, what was handed back and what went down
(`Server.requested_eq`). The law is preserved by every operation, as `Server.Course` lists them.
-/

namespace DisplayServer

section Lists

variable {κ α : Type}

/-- Of a concatenation of parts, a test may single one part out. -/
theorem filter_flatMap_eq {keys : List κ} (distinct : keys.Nodup) {part : κ → List α}
    {test : α → Bool} {key : κ} (others : ∀ other ∈ keys, other ≠ key →
      ∀ item ∈ part other, test item = false)
    (own : ∀ item ∈ part key, test item = true) (absent : key ∉ keys → part key = []) :
    (keys.flatMap part).filter test = part key := by
  rw [List.filter_flatMap]
  have single : keys.flatMap (fun other => (part other).filter test) = (part key).filter test := by
    apply flatMap_eq_of_single distinct
    · intro other listed apart
      rw [List.filter_eq_nil_iff]
      intro item held
      simp [others other listed apart item held]
    · intro unlisted
      rw [absent unlisted]
      rfl
  rw [single, List.filter_eq_self]
  exact own

end Lists

/-- A surface with a frame callback is presented. -/
def Script.presented : Script :=
  let surface : SurfaceId := ⟨⟨0⟩, 0⟩
  [.connect, .createSurface ⟨0⟩ 4, .frame surface, .commit surface, .present surface 7].map
    fun operation => (.withFile, operation)

/-- The frame callback that an event fires. -/
def Event.fired? : Event → Option CallbackId
  | .frameDone callback _ => some callback
  | _ => none

namespace Connection

variable {operation : Operation} {old new : Connection}

/-- No frame callback fired: the events were taken, or others were queued. -/
def Unfired (old new : Connection) : Prop :=
  (old.queuedUntil new).filterMap Event.fired? = []

private theorem Unfired.of_taken (taken : new.events = []) : Unfired old new := by
  rw [Unfired, queuedUntil, taken, List.drop_nil]
  rfl

private theorem Unfired.of_queued {queued : List Event}
    (appended : new.events = old.events ++ queued)
    (others : queued.filterMap Event.fired? = []) : Unfired old new := by
  rw [Unfired, queuedUntil_of_append appended, others]

private theorem Unfired.of_eq (same : new.events = old.events) : Unfired old new :=
  .of_queued (same.trans (List.append_nil _).symm) rfl

/-- Frame callbacks fire when something is presented, and at no other time. -/
theorem Queues.unfired (queues : Queues operation old new)
    (alone : ∀ id time, operation ≠ .present id time) (all : ∀ time, operation ≠ .presentAll time) :
    Unfired old new := by
  cases queues with
  | taken none => exact .of_taken none
  | others queued appended _ unfired _ =>
    refine .of_queued appended (List.filterMap_eq_nil_iff.mpr fun event listed => ?_)
    cases event with
    | frameDone callback time => exact (unfired callback time listed).elim
    | _ => rfl
  | failed _ _ appended => exact .of_queued appended rfl
  | committed id _ committed =>
    obtain ⟨commit, done, how⟩ := committed
    obtain ⟨surface, found⟩ := surface_of_commit? done
    have events := events_commit found done
    rcases how with rfl | ⟨buffer, failure⟩
    · refine .of_queued events ?_
      cases old.handedBack? surface <;> rfl
    · have unread : new.events = old.events ++ ((old.handedBack? surface).toList.map
          Event.bufferReleased ++ [.bufferAccessFailed buffer]) := by
        rw [failure.events_eq, events, List.append_assoc]
      refine .of_queued unread ?_
      cases old.handedBack? surface <;> rfl
  | presented _ presents _ _ =>
    rcases presents with ⟨id, time, presents⟩ | ⟨time, presents⟩
    · exact (alone id time presents).elim
    · exact (all time presents).elim

end Connection

namespace Server

/-- The frame callbacks that were requested of a surface since its last commit. -/
def pendingCallbacks (server : Server) (id : SurfaceId) : List CallbackId :=
  (server.surface? id).elim [] fun surface => surface.pending.callbacks

/-- The frame callbacks of a surface that wait for a presentation. -/
def committedCallbacks (server : Server) (id : SurfaceId) : List CallbackId :=
  (server.surface? id).elim [] Surface.callbacks

/-- The frame callback that an operation requests of a surface. -/
def requests (id : SurfaceId) (server : Server) (host : Host) (operation : Operation) :
    List CallbackId :=
  ((server.wish? host operation id).bind Surface.Wish.callback?).toList

/-- The frame callbacks that an operation fires: it queues events for them on a connection. -/
def fired (told : ConnectionId) (server : Server) (host : Host) (operation : Operation) :
    List CallbackId :=
  (server.queued host operation told).filterMap Event.fired?

/-- The frame callbacks that the destruction of a surface hands back: its answer. -/
def discards (id : SurfaceId) (server : Server) (host : Host) (operation : Operation) :
    List CallbackId :=
  match operation, (server.step host operation).answer with
  | .destroySurface surface, .callbacks discarded => if surface = id then discarded else []
  | _, _ => []

/-- The frame callbacks that still wait on a surface when its connection is dropped. -/
def drops (id : SurfaceId) (server : Server) (_ : Host) : Operation → List CallbackId
  | .disconnect connection =>
    if connection = id.connection then server.committedCallbacks id ++ server.pendingCallbacks id
    else []
  | _ => []

/-- The frame callbacks of a surface that wait for an operation to present it. -/
def presents (id : SurfaceId) (server : Server) (_ : Host) : Operation → List CallbackId
  | .present surface _ => if surface = id then server.committedCallbacks id else []
  | .presentAll _ =>
    (server.surface? id).elim [] fun surface =>
      if surface.current.buffer.isSome then surface.callbacks else []
  | _ => []

section Step

variable {server : Server} {host : Host} {operation : Operation} {id : SurfaceId}

/-- A frame callback is requested by asking for it: it is the answer. -/
theorem mem_requests_iff {callback : CallbackId} :
    callback ∈ server.requests id host operation ↔
      operation = .frame id ∧ (server.step host operation).answer = .handle callback := by
  rw [requests, Option.mem_toList, Option.bind_eq_some_iff]
  constructor
  · rintro ⟨wish, asked, picked⟩
    cases wish with
    | callback callback =>
      cases picked
      exact Prod.mk.inj (Operation.eq_ofWish asked)
    | _ => cases picked
  · rintro ⟨rfl, answered⟩
    refine ⟨.callback callback, ?_, rfl⟩
    rw [wish?, answered]
    exact if_pos rfl

/-- A surface that is destroyed answers with the callbacks that wait on it. -/
theorem answer_destroySurface :
    (server.step host (.destroySurface id)).answer =
      .callbacks ((server.surface? id).elim [] Surface.waitingCallbacks) := by
  simp only [step, Outcome.map, destroySurface]
  cases live : server.connection? id.connection with
  | none => simp only [surface?, live]; rfl
  | some client =>
    rw [surface?_of_connection? live]
    cases found : client.surfaces.get? id with
    | none => simp only [Connection.destroySurface?, found, Option.map_none]; rfl
    | some surface => simp only [Connection.destroySurface?, found, Option.map_some]; rfl

section Idle

-- The frame callbacks of a surface that is dead or left undisturbed stay where they are.
variable (idle : server.surface? id = none ∨ ¬ server.Disturbs host id operation)

include idle

private theorem presents_eq_nil : server.presents id host operation = [] := by
  cases operation with
  | present surface time =>
    by_cases here : surface = id
    · subst here
      rcases idle with dead | calm
      · simp [presents, committedCallbacks, dead]
      · exact (calm (.presents (.alone time))).elim
    · exact if_neg here
  | presentAll time =>
    simp only [presents]
    cases live : server.surface? id with
    | none => rfl
    | some surface =>
      refine if_neg fun shows => ?_
      rcases idle with dead | calm
      · cases dead.symm.trans live
      · exact calm (.presents (.shown time live (Option.isSome_iff_ne_none.mp shows)))
  | _ => rfl

private theorem discards_eq_nil : server.discards id host operation = [] := by
  cases operation with
  | destroySurface surface =>
    by_cases here : surface = id
    · subst here
      rcases idle with dead | calm
      · simp [discards, answer_destroySurface, dead]
      · exact (calm (.destroys .alone)).elim
    · simp [discards, answer_destroySurface, here]
  | _ => rfl

private theorem drops_eq_nil : server.drops id host operation = [] := by
  cases operation with
  | disconnect connection =>
    by_cases here : connection = id.connection
    · subst here
      rcases idle with dead | calm
      · simp [drops, committedCallbacks, pendingCallbacks, dead]
      · exact (calm (.destroys .disconnect)).elim
    · exact if_neg here
  | _ => rfl

end Idle

/-- Frame callbacks are handed back or go down when their surface ceases to be live. -/
theorem ceases_of_left (named : server.Named)
    (left : server.discards id host operation ≠ [] ∨ server.drops id host operation ≠ []) :
    (∃ surface, server.surface? id = some surface) ∧
      (server.next host operation).surface? id = none := by
  have disturbed : ¬ (server.surface? id = none ∨ ¬ server.Disturbs host id operation) := by
    intro idle
    rw [discards_eq_nil idle, drops_eq_nil idle] at left
    exact left.elim (fun some => some rfl) fun some => some rfl
  have course := server.course named host operation id
  generalize server.surface? id = before at course disturbed
  generalize (server.next host operation).surface? id = after at course
  cases course with
  | kept _ _ undisturbed => exact (disturbed undisturbed).elim
  | asked asked =>
    have calm : ¬ server.Disturbs host id operation :=
      not_disturbs_of_isRequest (Operation.isRequest_of_wish? asked)
    exact (disturbed (.inr calm)).elim
  | created creates _ =>
    subst creates
    exact (left.elim (fun some => some rfl) fun some => some rfl).elim
  | committed commits _ =>
    subst commits
    exact (left.elim (fun some => some rfl) fun some => some rfl).elim
  | presented presents =>
    cases presents <;> exact (left.elim (fun some => some rfl) fun some => some rfl).elim
  | destroyed _ => exact ⟨⟨_, rfl⟩, rfl⟩

/-- A frame callback is committed by commits. -/
theorem mem_committed_next (named : server.Named) {callback : CallbackId}
    (committed : callback ∈ (server.next host operation).committedCallbacks id) :
    callback ∈ server.committedCallbacks id ∨
      operation = .commit id ∧ callback ∈ server.pendingCallbacks id := by
  have course := server.course named host operation id
  unfold committedCallbacks pendingCallbacks at *
  generalize server.surface? id = before at course ⊢
  generalize (server.next host operation).surface? id = after at course committed
  cases course with
  | kept kept _ _ =>
    cases kept with
    | none => exact .inl committed
    | some _ _ => exact .inl committed
  | @asked surface wish _ => cases wish <;> exact .inl committed
  | created _ _ => cases committed
  | committed commits _ =>
    rcases List.mem_append.mp committed with earlier | pending
    · exact .inl earlier
    · exact .inr ⟨commits, pending⟩
  | presented _ => cases committed
  | destroyed _ => cases committed

/-- What is presented waits on a surface that is presented. -/
theorem presents_of_mem {callback : CallbackId}
    (presented : callback ∈ server.presents id host operation) :
    server.Presents id operation ∧ callback ∈ server.committedCallbacks id := by
  cases operation with
  | present surface time =>
    simp only [presents] at presented
    split at presented
    · rename_i here
      exact ⟨here ▸ .alone time, presented⟩
    · cases presented
  | presentAll time =>
    simp only [presents] at presented
    cases live : server.surface? id with
    | none =>
      rw [live] at presented
      cases presented
    | some surface =>
      rw [live, Option.elim_some] at presented
      split at presented
      · rename_i shows
        refine ⟨.shown time live (Option.isSome_iff_ne_none.mp shows), ?_⟩
        rw [committedCallbacks, live]
        exact presented
      · cases presented
  | _ => cases presented

/-- **No frame callback is lost or doubled.** -/
theorem Ready.callbacks_next {accepted : Nat} {drawn : ConnectionId → Nat}
    (ready : server.Ready host operation accepted drawn) (id : SurfaceId) :
    server.committedCallbacks id ++ server.pendingCallbacks id ++
        server.requests id host operation =
      server.presents id host operation ++ (server.next host operation).committedCallbacks id ++
        (server.next host operation).pendingCallbacks id ++ server.discards id host operation ++
        server.drops id host operation := by
  have course := server.course ready.named host operation id
  have idle : server.surface? id = none ∨ ¬ server.Disturbs host id operation →
      server.presents id host operation = [] ∧ server.discards id host operation = [] ∧
        server.drops id host operation = [] :=
    fun idle => ⟨presents_eq_nil idle, discards_eq_nil idle, drops_eq_nil idle⟩
  unfold committedCallbacks pendingCallbacks
  generalize live : server.surface? id = before at course idle
  generalize (server.next host operation).surface? id = after at course
  cases course with
  | kept kept unasked undisturbed =>
    obtain ⟨presents, discards, drops⟩ := idle undisturbed
    rw [presents, discards, drops, requests, unasked]
    cases kept <;> simp
  | @asked surface wish asked =>
    obtain ⟨presents, discards, drops⟩ :=
      idle (.inr (not_disturbs_of_isRequest (Operation.isRequest_of_wish? asked)))
    rw [presents, discards, drops, requests, asked]
    cases wish <;> simp [Surface.heed, Surface.attach, Surface.setOffset, Surface.addDamage,
      Surface.setScale, Surface.setTransform, Surface.addCallback, Surface.mapPending,
      Surface.Wish.callback?]
  | created creates answered =>
    subst creates
    cases before with
    | none => rfl
    | some surface => exact (ready.not_replaces live (.surface answered)).elim
  | committed commits _ =>
    subst commits
    simp [presents, discards, drops, requests, wish?, Operation.wish?, Surface.promote]
  | presented presents =>
    cases presents with
    | alone =>
      simp [Server.presents, discards, drops, requests, wish?, Operation.wish?, committedCallbacks,
        live, Surface.presented]
    | shown time found shows =>
      cases live.symm.trans found
      simp [Server.presents, discards, drops, requests, wish?, Operation.wish?, live,
        Option.isSome_iff_ne_none.mpr shows, Surface.presented]
  | destroyed destroys =>
    cases destroys with
    | alone =>
      simp [presents, discards, drops, requests, wish?, Operation.wish?, answer_destroySurface, live,
        Surface.waitingCallbacks]
    | disconnect =>
      simp [presents, discards, drops, requests, wish?, Operation.wish?, committedCallbacks,
        pendingCallbacks, live]
    | replaced replaces => exact (ready.not_replaces live replaces).elim

end Step

section Fired

variable {server : Server} {host : Host} {operation : Operation} {accepted : Nat}
  {drawn : ConnectionId → Nat}

/-- A presentation shows in the connection of its surface. -/
theorem connection?_next_present (named : server.Named) (id : SurfaceId) (time : UInt32)
    (told : ConnectionId) :
    (server.next host (.present id time)).connection? told =
      (server.connection? told).map fun client =>
        if told = id.connection then (client.present? id time).getD client else client := by
  have refused (same : server.next host (.present id time) = server)
      (kept : ∀ client, server.connection? id.connection = some client →
        client.present? id time = none) :
      (server.next host (.present id time)).connection? told =
        (server.connection? told).map fun client =>
          if told = id.connection then (client.present? id time).getD client else client := by
    rw [same]
    cases found : server.connection? told with
    | none => rfl
    | some client =>
      rw [Option.map_some]
      split
      · rename_i here
        subst here
        rw [kept client found]
        rfl
      · rfl
  cases live : server.connection? id.connection with
  | none =>
    apply refused
    · simp only [next, step, Outcome.map, Server.present, onConnection, live]
      rfl
    · intro client found
      cases live.symm.trans found
  | some client =>
    cases shown : client.present? id time with
    | none =>
      apply refused
      · simp only [next, step, Outcome.map, Server.present, onConnection, live, shown]
        rfl
      · intro client' found
        cases live.symm.trans found
        exact shown
    | some presented =>
      have state : server.next host (.present id time) = server.putBack presented := by
        simp only [next, step, Outcome.map, Server.present, onConnection, live, shown]
        rfl
      have kept : presented.id = id.connection := by
        obtain ⟨_, _, rfl⟩ := Connection.present?_eq_some shown
        exact named _ client live
      rw [state, connection?_putBack, kept]
      by_cases here : told = id.connection
      · subst here
        simp only [if_true, live, Option.map_some, shown, Option.getD_some]
      · simp only [if_neg here, Option.map_id']

/-- What fires when a surface is presented. -/
theorem Ready.fired_present (ready : server.Ready host operation accepted drawn)
    {told : ConnectionId} {client : Connection} (live : server.connection? told = some client) (id : SurfaceId)
    (time : UInt32) :
    server.fired told host (.present id time) =
      client.surfaces.keys.flatMap fun other => server.presents other host (.present id time) := by
  have after : (server.next host (.present id time)).connection? told =
      some (if told = id.connection then (client.present? id time).getD client else client) := by
    rw [connection?_next_present ready.named, live]
    rfl
  rw [fired, queued_eq live after]
  have own (other : SurfaceId) (listed : other ∈ client.surfaces.keys) :
      other.connection = told := by
    rw [(ready.clients told client live).own .surface other listed, ready.named told client live]
  have silent (unlisted : id ∉ client.surfaces.keys) :
      client.surfaces.keys.flatMap (fun other => server.presents other host (.present id time)) =
        [] := by
    rw [List.flatMap_eq_nil_iff]
    intro other listed
    refine if_neg ?_
    rintro rfl
    exact unlisted listed
  by_cases here : told = id.connection
  · rw [if_pos here]
    cases found : client.surfaces.get? id with
    | none =>
      rw [silent, Connection.present?, found]
      · exact Connection.Unfired.of_eq rfl
      · intro listed
        obtain ⟨_, held⟩ := Arena.get?_of_mem_keys listed
        cases found.symm.trans held
    | some surface =>
      have distinct := (ready.clients told client live).nodup .surface
      have presented : server.presents id host (.present id time) = surface.callbacks := by
        simp only [presents, if_true, committedCallbacks,
          surface?_of_connection? (here ▸ live), found, Option.elim_some]
      have single : client.surfaces.keys.flatMap
          (fun other => server.presents other host (.present id time)) = surface.callbacks := by
        rw [← presented]
        apply flatMap_eq_of_single distinct
        · intro other _ apart
          exact if_neg fun same => apart same.symm
        · intro unlisted
          exact (unlisted (Arena.mem_keys_of_get? found)).elim
      rw [single, Connection.present?, found, Connection.queuedUntil]
      simp only [Option.map_some, Option.getD_some, Connection.emit, Connection.modifySurface,
        List.drop_left, List.filterMap_map]
      exact List.filterMap_some
  · rw [if_neg here, silent]
    · exact Connection.Unfired.of_eq rfl
    · intro listed
      exact here (own id listed).symm

/-- What fires when all surfaces are presented. -/
theorem Ready.fired_presentAll (ready : server.Ready host operation accepted drawn)
    {told : ConnectionId} {client : Connection} (live : server.connection? told = some client) (time : UInt32) :
    server.fired told host (.presentAll time) =
      client.surfaces.keys.flatMap fun id => server.presents id host (.presentAll time) := by
  have after : (server.next host (.presentAll time)).connection? told =
      some (client.presentAll time) :=
    (Arena.get?_mapValues ..).trans (congrArg (Option.map _) live)
  rw [fired, queued_eq live after, Connection.queuedUntil, Connection.presentAll, List.drop_left,
    List.filterMap_flatMap, Arena.values, Arena.keys, List.flatMap_map, List.flatMap_map]
  apply List.flatMap_congr
  intro entry listed
  have distinct := (ready.clients told client live).nodup .surface
  have found : client.surfaces.get? entry.1 = some entry.2 :=
    (Arena.get?_eq_some_iff distinct).mpr listed
  have own := (ready.clients told client live).own .surface entry.1 (Arena.mem_keys_of_get? found)
  rw [ready.named told client live] at own
  have held : server.surface? entry.1 = some entry.2 := by
    rw [surface?_of_connection? (own ▸ live), found]
  simp only [presents, held, Option.elim_some]
  split
  · rw [List.filterMap_map]
    exact List.filterMap_some
  · rfl

/-- **What fires.** On a connection the frame callbacks of its surfaces fire, surface by surface. -/
theorem Ready.fired_eq (ready : server.Ready host operation accepted drawn) {told : ConnectionId}
    {client : Connection} (live : server.connection? told = some client) :
    server.fired told host operation =
      client.surfaces.keys.flatMap fun id => server.presents id host operation := by
  have quiet (none : server.fired told host operation = [])
      (presented : ∀ id, server.presents id host operation = []) :
      server.fired told host operation =
        client.surfaces.keys.flatMap fun id => server.presents id host operation := by
    rw [none]
    exact (List.flatMap_eq_nil_iff.mpr fun id _ => presented id).symm
  have others (notConnect : operation ≠ .connect) (notDisconnect : ∀ id, operation ≠ .disconnect id)
      (alone : ∀ id time, operation ≠ .present id time)
      (all : ∀ time, operation ≠ .presentAll time) : server.fired told host operation = [] := by
    obtain ⟨new, after, change⟩ :=
      (effect_next ready.named host operation notConnect notDisconnect).change told client live
    rw [fired, queued_eq live after]
    exact change.queues.unfired alone all
  cases operation with
  | present id time => exact ready.fired_present live id time
  | presentAll time => exact ready.fired_presentAll live time
  | connect =>
    refine quiet ?_ fun _ => rfl
    have after : (server.next host .connect).connection? told = some client := by
      rw [connection?_next_connect, if_neg, live]
      rintro rfl
      exact ready.notMem (ready.room : _ < _) (Arena.mem_keys_of_get? live)
    rw [fired, queued_eq live after]
    exact Connection.Unfired.of_eq rfl
  | disconnect gone =>
    refine quiet ?_ fun _ => rfl
    by_cases here : told = gone
    · have after : (server.next host (.disconnect gone)).connection? told = none := by
        rw [connection?_next_disconnect, if_pos here]
      simp only [fired, queued, live, after]
      rfl
    · have after : (server.next host (.disconnect gone)).connection? told = some client := by
        rw [connection?_next_disconnect, if_neg here, live]
      rw [fired, queued_eq live after]
      exact Connection.Unfired.of_eq rfl
  | _ => exact quiet (others (by simp) (by simp) (by simp) (by simp)) fun _ => rfl

private theorem fired_of_dead {told : ConnectionId} (dead : server.connection? told = none) :
    server.fired told host operation = [] := by
  simp [fired, queued, dead]

end Fired

section Runs

variable {config : Config}

/-- A surface with frame callbacks that were handed back or went down is dead for good. -/
theorem gone_of_left {script : Script} (range : (Server.start config).state.InRange script)
    (id : SurfaceId) (left : history config (discards id) script ≠ [] ∨
      history config (drops id) script ≠ []) :
    (after config script).surface? id = none := by
  obtain ⟨front, host, operation, back, rfl, shown⟩ : ∃ front host operation back,
      script = front ++ (host, operation) :: back ∧
        ((after config front).discards id host operation ≠ [] ∨
          (after config front).drops id host operation ≠ []) := by
    rcases left with some | some
    · obtain ⟨_, shows⟩ := List.exists_mem_of_ne_nil _ some
      obtain ⟨front, host, operation, back, same, shows⟩ := mem_history_iff.mp shows
      exact ⟨front, host, operation, back, same, .inl (List.ne_nil_of_mem shows)⟩
    · obtain ⟨_, shows⟩ := List.exists_mem_of_ne_nil _ some
      obtain ⟨front, host, operation, back, same, shows⟩ := mem_history_iff.mp shows
      exact ⟨front, host, operation, back, same, .inr (List.ne_nil_of_mem shows)⟩
  obtain ⟨⟨surface, live⟩, ceased⟩ := ceases_of_left (named_after config front) shown
  rw [List.append_cons] at range ⊢
  rw [← after_concat] at ceased
  exact surface?_of_ceased range live ceased

/-- **The frame callbacks of a surface are conserved.** -/
theorem requested_eq (script : Script) (range : (Server.start config).state.InRange script)
    (id : SurfaceId) :
    history config (requests id) script =
      history config (presents id) script ++ (after config script).committedCallbacks id ++
        (after config script).pendingCallbacks id ++ history config (discards id) script ++
        history config (drops id) script := by
  induction script using List.reverseRecOn with
  | nil => rfl
  | append_singleton script entry ih =>
    obtain ⟨host, operation⟩ := entry
    have step := (ready_after range).callbacks_next id
    have gone := gone_of_left range id
    simp only [history_concat, after_concat] at gone ⊢
    rw [ih range.of_append]
    by_cases left : history config (discards id) script = [] ∧ history config (drops id) script = []
    · simp only [left.1, left.2, List.append_nil, List.nil_append, List.append_assoc] at step ⊢
      rw [step]
    · have some := not_and_or.mp left
      have before := gone_of_left range.of_append id some
      have after := gone (some.imp (fun some none => some (List.append_eq_nil_iff.mp none).1)
        fun some none => some (List.append_eq_nil_iff.mp none).1)
      simp only [committedCallbacks, pendingCallbacks, before, after, presents_eq_nil (.inl before),
        discards_eq_nil (.inl before), drops_eq_nil (.inl before), Option.elim_none,
        List.append_nil, List.nil_append] at step ⊢
      rw [step, List.append_nil]

/-- A frame callback that is requested has not been requested before. -/
theorem notMem_requested {script : Script} {host : Host} {operation : Operation}
    (range : (Server.start config).state.InRange (script ++ [(host, operation)])) {id : SurfaceId}
    {callback : CallbackId}
    (requested : callback ∈ (after config script).requests id host operation) (other : SurfaceId) : callback ∉ history config (requests other) script := by
  intro earlier
  obtain ⟨front, host', operation', back, rfl, shown⟩ := mem_history_iff.mp earlier
  obtain ⟨rfl, answered⟩ := mem_requests_iff.mp requested
  obtain ⟨rfl, answered'⟩ := mem_requests_iff.mp shown
  have never := neverReused_of_inRange range
  exact never.handles front host' _ back host _ [] rfl callback callback ⟨answered', nofun⟩
    ⟨answered, nofun⟩ rfl

/-- No callback is given twice while handles last. -/
theorem nodup_requested {script : Script} (range : (Server.start config).state.InRange script)
    (id : SurfaceId) : (history config (requests id) script).Nodup := by
  induction script using List.reverseRecOn with
  | nil => exact List.nodup_nil
  | append_singleton script entry ih =>
    obtain ⟨host, operation⟩ := entry
    rw [history_concat, List.nodup_append]
    refine ⟨ih range.of_append, ?_, ?_⟩
    · unfold requests
      cases ((after config script).wish? host operation id).bind Surface.Wish.callback? with
      | none => exact List.nodup_nil
      | some callback => exact List.nodup_singleton callback
    rintro callback earlier _ requested rfl
    exact notMem_requested range requested id earlier

/-- A frame callback is requested of one surface only. -/
theorem eq_of_mem_requested {script : Script} (range : (Server.start config).state.InRange script)
    {first second : SurfaceId} {callback : CallbackId}
    (ofFirst : callback ∈ history config (requests first) script)
    (ofSecond : callback ∈ history config (requests second) script) : first = second := by
  induction script using List.reverseRecOn with
  | nil => exact (List.not_mem_nil ofFirst).elim
  | append_singleton script entry ih =>
    obtain ⟨host, operation⟩ := entry
    rw [history_concat, List.mem_append] at ofFirst ofSecond
    rcases ofFirst with ofFirst | ofFirst
    · rcases ofSecond with ofSecond | ofSecond
      · exact ih range.of_append ofFirst ofSecond
      · exact (notMem_requested range ofSecond first ofFirst).elim
    · rcases ofSecond with ofSecond | ofSecond
      · exact (notMem_requested range ofFirst second ofSecond).elim
      · have same := (mem_requests_iff.mp ofFirst).1.symm.trans (mem_requests_iff.mp ofSecond).1
        exact Operation.frame.inj same

private theorem mem_history_append {α : Type} {see : Server → Host → Operation → List α}
    {front back : Script} {item : α} (shown : item ∈ history config see front) :
    item ∈ history config see (front ++ back) := by
  rw [history, trace_append]
  exact List.mem_append_left _ shown

/-- What waits on a surface was asked for. -/
theorem requested_of_waiting {script : Script}
    (range : (Server.start config).state.InRange script) {id : SurfaceId} {callback : CallbackId}
    (waits : callback ∈ (after config script).committedCallbacks id ∨
      callback ∈ (after config script).pendingCallbacks id) :
    callback ∈ history config (requests id) script := by
  rw [requested_eq script range id]
  simp only [List.mem_append]
  rcases waits with committed | pending
  · exact .inl (.inl (.inl (.inr committed)))
  · exact .inl (.inl (.inr pending))

/-- A requested frame callback that fires is presented with its surface. -/
theorem mem_presents_of_fired {front back : Script} {host : Host} {operation : Operation}
    (range : (Server.start config).state.InRange (front ++ (host, operation) :: back))
    {told : ConnectionId} {id : SurfaceId} {callback : CallbackId}
    (requested : callback ∈ history config (requests id) (front ++ (host, operation) :: back))
    (fires : callback ∈ (after config front).fired told host operation) :
    told = id.connection ∧ callback ∈ (after config front).presents id host operation := by
  have ready := ready_after range.of_cons
  cases live : (after config front).connection? told with
  | none =>
    rw [fired_of_dead live] at fires
    cases fires
  | some client =>
    rw [ready.fired_eq live] at fires
    obtain ⟨other, listed, presented⟩ := List.mem_flatMap.mp fires
    have committed := (presents_of_mem presented).2
    have ofOther := requested_of_waiting range.of_append (.inl committed)
    obtain rfl := eq_of_mem_requested range (mem_history_append ofOther) requested
    exact ⟨((owned_after config front) told client live .surface other listed).symm, presented⟩

/-- What an operation presents of a surface is what it fires of what was requested of it. -/
theorem filter_fired_eq {front back : Script} {host : Host} {operation : Operation}
    (range : (Server.start config).state.InRange (front ++ (host, operation) :: back))
    (id : SurfaceId) :
    ((after config front).fired id.connection host operation).filter
        (fun callback => callback ∈ history config (requests id)
          (front ++ (host, operation) :: back)) =
      (after config front).presents id host operation := by
  have ready := ready_after range.of_cons
  have ofOther (other : SurfaceId) (callback : CallbackId)
      (presented : callback ∈ (after config front).presents other host operation) :
      callback ∈ history config (requests other) (front ++ (host, operation) :: back) :=
    mem_history_append
      (requested_of_waiting range.of_append (.inl (presents_of_mem presented).2))
  cases live : (after config front).connection? id.connection with
  | none =>
    have dead : (after config front).surface? id = none := by
      rw [surface?, live]
      rfl
    rw [fired_of_dead live, presents_eq_nil (.inl dead)]
    rfl
  | some client =>
    rw [ready.fired_eq live]
    apply filter_flatMap_eq ((ready.clients _ client live).nodup .surface)
    · intro other _ apart callback presented
      apply decide_eq_false
      exact fun requested => apart
        (eq_of_mem_requested range (ofOther other callback presented) requested)
    · intro callback presented
      exact decide_eq_true (ofOther id callback presented)
    · intro unlisted
      apply presents_eq_nil
      rw [surface?_of_connection? live]
      exact .inl (Arena.get?_eq_none_of_notMem unlisted)

/-- What fired of what was requested of a surface is what was presented of it. -/
theorem filter_history_fired (front back : Script)
    (range : (Server.start config).state.InRange (front ++ back)) (id : SurfaceId) :
    (history config (fired id.connection) front).filter
        (fun callback => callback ∈ history config (requests id) (front ++ back)) =
      history config (presents id) front := by
  induction front using List.reverseRecOn generalizing back with
  | nil => rfl
  | append_singleton front entry ih =>
    obtain ⟨host, operation⟩ := entry
    rw [List.append_assoc, List.singleton_append] at range ⊢
    rw [history_concat, history_concat, List.filter_append, ih _ range, filter_fired_eq range]

end Runs

/-- What becomes of a frame callback. -/
inductive CallbackFate where
  | pending
  | committed
  | fired
  | discarded
  | dropped
deriving DecidableEq, Repr

/-- How often a frame callback of a surface meets a fate in the course of a script: how often it
waits in the pending or in the committed list at the end of it, how often an event was queued for
it, how often the destruction of the surface answered it, and how often its connection was dropped
while it still waited. -/
def tally (config : Config) (script : Script) (id : SurfaceId) (callback : CallbackId) :
    CallbackFate → Nat
  | .pending => ((after config script).pendingCallbacks id).count callback
  | .committed => ((after config script).committedCallbacks id).count callback
  | .fired => (history config (fired id.connection) script).count callback
  | .discarded => (history config (discards id) script).count callback
  | .dropped => (history config (drops id) script).count callback

section Conservation

variable {config : Config}

/-- Every callback that was asked for has met exactly one fate. -/
theorem tally_sum {script : Script} (range : (Server.start config).state.InRange script)
    {id : SurfaceId} {callback : CallbackId}
    (requested : callback ∈ history config (requests id) script) :
    tally config script id callback .pending + tally config script id callback .committed +
      tally config script id callback .fired + tally config script id callback .discarded +
      tally config script id callback .dropped = 1 := by
  have once := List.count_eq_one_of_mem (nodup_requested range id) requested
  have law := requested_eq script range id
  have presented := filter_history_fired script [] (by rwa [List.append_nil]) id
  rw [List.append_nil] at presented
  have fired : (history config (presents id) script).count callback =
      tally config script id callback .fired := by
    rw [← presented]
    exact List.count_filter (decide_eq_true requested)
  -- The callback stands once among the requests, so once among all that became of them.
  rw [law] at once
  simp only [List.count_append, fired] at once
  simp only [tally] at once ⊢
  omega

/-- **Every frame callback meets one fate.** -/
theorem exists_fate {script : Script} (range : (Server.start config).state.InRange script)
    {id : SurfaceId} {callback : CallbackId}
    (requested : callback ∈ history config (requests id) script) :
    ∃ fate, ∀ other, tally config script id callback other = if other = fate then 1 else 0 := by
  have sum := tally_sum range requested
  generalize tally config script id callback = counts at sum
  have one : counts .pending = 1 ∨ counts .committed = 1 ∨ counts .fired = 1 ∨
      counts .discarded = 1 ∨ counts .dropped = 1 := by omega
  rcases one with one | one | one | one | one
  · exact ⟨.pending, fun other => by cases other <;> simp <;> omega⟩
  · exact ⟨.committed, fun other => by cases other <;> simp <;> omega⟩
  · exact ⟨.fired, fun other => by cases other <;> simp <;> omega⟩
  · exact ⟨.discarded, fun other => by cases other <;> simp <;> omega⟩
  · exact ⟨.dropped, fun other => by cases other <;> simp <;> omega⟩

/-- A frame callback is requested in the course of a script that asks for it. -/
theorem mem_requested {front back : Script} {host : Host} {id : SurfaceId} {callback : CallbackId}
    (answered : ((after config front).step host (.frame id)).answer = .handle callback) :
    callback ∈ history config (requests id) (front ++ (host, .frame id) :: back) :=
  mem_history_iff.mpr ⟨front, host, .frame id, back, rfl, mem_requests_iff.mpr ⟨rfl, answered⟩⟩

/-- A frame callback that waits for a commit does not wait for a presentation. -/
theorem notMem_committed_of_pending {script : Script}
    (range : (Server.start config).state.InRange script) {id : SurfaceId} {callback : CallbackId}
    (pending : callback ∈ (after config script).pendingCallbacks id) :
    callback ∉ (after config script).committedCallbacks id := by
  intro committed
  have distinct := nodup_requested range id
  rw [requested_eq script range id] at distinct
  have waiting := distinct.of_append_left.of_append_left
  exact List.disjoint_of_nodup_append waiting (List.mem_append_right _ committed) pending

/-- Before a frame callback fires, a commit follows the request. -/
theorem commit_before_fired {front middle back : Script} {host host' : Host}
    {operation : Operation} {id : SurfaceId} {callback : CallbackId} {told : ConnectionId}
    (range : (Server.start config).state.InRange
      (front ++ (host, .frame id) :: middle ++ (host', operation) :: back))
    (answered : ((after config front).step host (.frame id)).answer = .handle callback)
    (fires : callback ∈ (after config (front ++ (host, .frame id) :: middle)).fired told host'
      operation) :
    ∃ entry ∈ middle, entry.2 = .commit id := by
  have requested : callback ∈ history config (requests id)
      (front ++ (host, .frame id) :: middle ++ (host', operation) :: back) :=
    mem_history_append (mem_requested answered)
  have committed := (presents_of_mem (mem_presents_of_fired range requested fires).2).2
  rw [List.append_cons front] at range committed
  have fresh : callback ∉ (after config (front ++ [(host, .frame id)])).committedCallbacks id := by
    intro waits
    rw [after_concat] at waits
    have rangeFrame := range.of_append.of_append
    rcases mem_committed_next (named_after config front) waits with earlier | ⟨commits, _⟩
    · exact notMem_requested rangeFrame (mem_requests_iff.mpr ⟨rfl, answered⟩) id
        (requested_of_waiting rangeFrame.of_append (.inl earlier))
    · cases commits
  obtain ⟨left, entry, right, split, before, commits⟩ := exists_step_of_not
    (fun side => callback ∈ (after config side).committedCallbacks id)
    (front ++ [(host, Operation.frame id)]) middle fresh committed
  have reached : callback ∈ ((after config (front ++ [(host, .frame id)] ++ left)).next entry.1
      entry.2).committedCallbacks id := by
    rw [← after_concat]
    exact commits
  rcases mem_committed_next (named_after config _) reached with earlier | ⟨commits, _⟩
  · exact (before earlier).elim
  · rw [split]
    exact ⟨entry, List.mem_append_right _ List.mem_cons_self, commits⟩

/-- **The frame callbacks of a surface** in the course of a script. -/
structure ConservesCallbacks (config : Config) (script : Script) (id : SurfaceId) : Prop where
  /-- Of all that can become of a frame callback, exactly one thing happened, and once. -/
  fate : ∀ front host back callback, script = front ++ (host, .frame id) :: back →
    ((after config front).step host (.frame id)).answer = .handle callback →
      ∃ fate, ∀ other, tally config script id callback other = if other = fate then 1 else 0
  promoted : ∀ front host operation back callback, script = front ++ (host, operation) :: back →
    callback ∈ (after config front).pendingCallbacks id →
    callback ∈ ((after config front).next host operation).committedCallbacks id →
      operation = .commit id
  /-- Only a presentation of the surface fires it, and only its own client is told. -/
  presented : ∀ front host operation back callback told,
    script = front ++ (host, operation) :: back →
    callback ∈ history config (requests id) script →
    callback ∈ (after config front).fired told host operation →
      told = id.connection ∧ (after config front).Presents id operation
  /-- Those that fired, and then those that were handed back, are the first that were requested. -/
  ordered : (history config (fired id.connection) script).filter
      (fun callback => callback ∈ history config (requests id) script) ++
        history config (discards id) script <+: history config (requests id) script
  committed : ∀ front host middle host' operation back callback told,
    script = front ++ (host, .frame id) :: middle ++ (host', operation) :: back →
    ((after config front).step host (.frame id)).answer = .handle callback →
    callback ∈ (after config (front ++ (host, .frame id) :: middle)).fired told host' operation →
      ∃ entry ∈ middle, entry.2 = .commit id

/-- **Frame callbacks are conserved and fire once.** -/
theorem frame_callbacks_conserved (config : Config) (script : Script)
    (range : (Server.start config).state.InRange script) (id : SurfaceId) :
    ConservesCallbacks config script id where
  fate front host back callback split answered := by
    subst split
    exact exists_fate range (mem_requested answered)
  promoted front host operation back callback split pending committed := by
    subst split
    rcases mem_committed_next (named_after config front) committed with earlier | ⟨commits, _⟩
    · exact (notMem_committed_of_pending range.of_append pending earlier).elim
    · exact commits
  presented front host operation back callback told split requested fires := by
    subst split
    obtain ⟨here, presented⟩ := mem_presents_of_fired range requested fires
    exact ⟨here, (presents_of_mem presented).1⟩
  ordered := by
    have presented := filter_history_fired script [] (by rwa [List.append_nil]) id
    rw [List.append_nil] at presented
    rw [presented, requested_eq script range id]
    by_cases left : history config (discards id) script = []
    · simp only [left, List.append_nil, List.append_assoc]
      exact List.prefix_append ..
    · have dead := gone_of_left range id (.inl left)
      have committed : (after config script).committedCallbacks id = [] := by
        rw [committedCallbacks, dead]
        rfl
      have pending : (after config script).pendingCallbacks id = [] := by
        rw [pendingCallbacks, dead]
        rfl
      rw [committed, pending, List.append_nil, List.append_nil]
      exact List.prefix_append ..
  committed front host middle host' operation back callback told split answered fires := by
    subst split
    exact commit_before_fired range answered fires

/-- A frame callback of a surface that was presented fired, and nothing else became of it. -/
theorem frame_callbacks_conserved_presented :
    (Server.start {}).state.InRange Script.presented ∧
      ∀ fate, tally {} Script.presented ⟨⟨0⟩, 0⟩ ⟨⟨0⟩, 1⟩ fate = if fate = .fired then 1 else 0 := by
  have range : (Server.start {}).state.InRange Script.presented := inRange_of_length _ (by decide)
  have fired : tally {} Script.presented ⟨⟨0⟩, 0⟩ ⟨⟨0⟩, 1⟩ .fired = 1 := rfl
  obtain ⟨fate, only⟩ := (frame_callbacks_conserved {} Script.presented range ⟨⟨0⟩, 0⟩).fate
    (Script.presented.take 2) .withFile (Script.presented.drop 3) ⟨⟨0⟩, 1⟩ rfl rfl
  obtain rfl : fate = .fired := by
    have once := (only .fired).symm.trans fired
    by_contra other
    rw [if_neg fun same => other same.symm] at once
    cases once
  exact ⟨range, only⟩

end Conservation

end Server

end DisplayServer
