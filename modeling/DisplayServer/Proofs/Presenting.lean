import DisplayServer.Proofs.BufferStates
import DisplayServer.Proofs.CreationOrder
import DisplayServer.Proofs.Exhaustion
import DisplayServer.Proofs.Publishing

/-! # Presenting everything is presenting piece by piece

To present all surfaces is to present every surface that shows a buffer, one after another, in the
order in which connections and surfaces are kept (`Server.shown`). This holds in every state, also
once handles have run out: a handle that comes back replaces the object that has it, so handles stay
distinct (`Server.Keyed`). Until then the order is that of creation, client by client and surface by
surface (`Server.shownAsCreated`). A surface that is created under a live handle breaks it, as it is
kept where the replaced one was (`Server.presentAll_not_asCreated_recreated`).
-/

namespace DisplayServer

/-- A client has a buffer and two surfaces, and gives up a third one. -/
def Script.twofold : Script :=
  Script.takenBack.take 4 ++ [.createSurface ⟨0⟩ 4, .createSurface ⟨0⟩ 4,
    .destroySurface ⟨⟨0⟩, 4⟩].map fun operation => (.withFile, operation)

/-- It shows the buffer on both of its surfaces, and wants to know when they were presented. -/
def Script.shownTwice : Script :=
  let first : SurfaceId := ⟨⟨0⟩, 2⟩
  let second : SurfaceId := ⟨⟨0⟩, 3⟩
  let buffer : BufferId := ⟨⟨0⟩, 1⟩
  [.attach first (.buffer buffer) .zero, .frame first, .commit first,
    .attach second (.buffer buffer) .zero, .frame second, .commit second].map fun operation =>
      (.withFile, operation)

/-- The client turns its counter to the handle of its first surface, and creates a surface in the
place of that one before it shows the two. -/
def Script.recreated : Script :=
  twofold.turning ⟨⟨0⟩, 4⟩ (UInt32.size - 3) ((.withFile, .createSurface ⟨0⟩ 4) :: shownTwice)

/-- Mapping what passes a test, and nothing else. -/
theorem flatMap_filter {α β : Type} (test : α → Bool) (change : α → List β) (list : List α) :
    (list.filter test).flatMap change =
      list.flatMap fun value => if test value then change value else [] := by
  induction list with
  | nil => rfl
  | cons value rest ih =>
    rw [List.filter_cons, List.flatMap_cons, ← ih]
    split
    · exact List.flatMap_cons ..
    · exact (List.nil_append _).symm

namespace Surface

/-- A surface once all that show a buffer were presented. -/
def presentedIfShown (surface : Surface) : Surface :=
  if surface.current.buffer.isSome then surface.presented else surface

/-- What a surface fires when all that show a buffer are presented. -/
def firedIfShown (time : UInt32) (surface : Surface) : List Event :=
  if surface.current.buffer.isSome then
    surface.callbacks.map fun callback => .frameDone callback time
  else []

/-- To present twice is to present once. -/
theorem presentedIfShown_presentedIfShown (surface : Surface) :
    surface.presentedIfShown.presentedIfShown = surface.presentedIfShown := by
  by_cases shows : surface.current.buffer.isSome = true
  · rw [presentedIfShown, presentedIfShown, if_pos shows]
    exact if_pos shows
  · rw [presentedIfShown, presentedIfShown, if_neg shows]
    exact if_neg shows

/-- What was presented has no callbacks left. -/
theorem firedIfShown_presentedIfShown (surface : Surface) (time : UInt32) :
    surface.presentedIfShown.firedIfShown time = [] := by
  by_cases shows : surface.current.buffer.isSome = true
  · rw [presentedIfShown, if_pos shows]
    exact if_pos shows
  · rw [presentedIfShown, if_neg shows]
    exact if_neg shows

end Surface

namespace Connection

variable {client : Connection}

/-! ### The surfaces of one client -/

/-- The surfaces that show a buffer, as they are kept. Whether the buffer is still live does not
matter. -/
def shown (client : Connection) : List SurfaceId :=
  client.surfaces.keys.filter fun id =>
    (client.surfaces.get? id).any fun surface => surface.current.buffer.isSome

/-- The events that a presentation of a surface queues. -/
def firing (client : Connection) (time : UInt32) (id : SurfaceId) : List Event :=
  (client.surfaces.get? id).elim [] fun surface =>
    surface.callbacks.map fun callback => .frameDone callback time

/-- Some surfaces were presented, one after another. What is not there is passed over. -/
def presentEach (client : Connection) (ids : List SurfaceId) (time : UInt32) : Connection :=
  ids.foldl (fun client id => (client.present? id time).getD client) client

/-- A client shows a buffer on those of its surfaces that have one. -/
theorem mem_shown_iff {id : SurfaceId} : id ∈ client.shown ↔
    ∃ surface, client.surfaces.get? id = some surface ∧ surface.current.buffer ≠ none := by
  rw [shown, List.mem_filter]
  constructor
  · rintro ⟨_, shows⟩
    obtain ⟨surface, found, some⟩ := (Option.any_eq_true ..).mp shows
    exact ⟨surface, found, Option.isSome_iff_ne_none.mp some⟩
  · rintro ⟨surface, found, some⟩
    refine ⟨Arena.mem_keys_of_get? found, ?_⟩
    rw [found]
    exact Option.isSome_iff_ne_none.mpr some

private theorem nodup_shown (distinct : client.surfaces.keys.Nodup) : client.shown.Nodup :=
  distinct.filter _

/-- One presentation, whether or not the surface is there. -/
theorem present?_getD (client : Connection) (id : SurfaceId) (time : UInt32) :
    (client.present? id time).getD client = { client with
      surfaces := client.surfaces.modify id Surface.presented
      events := client.events ++ client.firing time id } := by
  cases found : client.surfaces.get? id with
  | none =>
    rw [present?, found, firing, found, Arena.modify_of_get?_eq_none found]
    exact congrArg (fun events => { client with events }) (List.append_nil _).symm
  | some surface =>
    rw [present?, found, firing, found]
    rfl

/-- **What becomes of surfaces that are presented one after another.** -/
theorem presentEach_eq {ids : List SurfaceId} (distinct : ids.Nodup) (client : Connection)
    (time : UInt32) :
    client.presentEach ids time = { client with
      surfaces := client.surfaces.mapValues fun id surface =>
        if id ∈ ids then surface.presented else surface
      events := client.events ++ ids.flatMap (client.firing time) } := by
  induction ids generalizing client with
  | nil =>
    have surfaces : (client.surfaces.mapValues fun id surface =>
        if id ∈ ([] : List SurfaceId) then surface.presented else surface) = client.surfaces :=
      Arena.mapValues_eq_self fun _ _ => if_neg List.not_mem_nil
    rw [surfaces, List.flatMap_nil, List.append_nil]
    rfl
  | cons id ids ih =>
    obtain ⟨fresh, distinct⟩ := List.nodup_cons.mp distinct
    let presented : Connection := { client with
      surfaces := client.surfaces.modify id Surface.presented
      events := client.events ++ client.firing time id }
    have step : client.presentEach (id :: ids) time = presented.presentEach ids time :=
      congrArg (presentEach · ids time) (present?_getD client id time)
    have surfaces : (presented.surfaces.mapValues fun other surface =>
        if other ∈ ids then surface.presented else surface) =
        client.surfaces.mapValues fun other surface =>
          if other ∈ id :: ids then surface.presented else surface := by
      refine Arena.mapValues_modify_of_eq (fun surface => ?_) fun other surface apart => ?_
      · rw [if_neg fresh, if_pos List.mem_cons_self]
      · simp only [List.mem_cons, apart, false_or]
    -- The surfaces still to come keep their callbacks until it is their turn.
    have events : ids.flatMap (presented.firing time) = ids.flatMap (client.firing time) := by
      refine List.flatMap_congr fun other listed => ?_
      have apart : other ≠ id := fun same => fresh (same ▸ listed)
      rw [firing, firing, Arena.get?_modify, if_neg apart]
    rw [step, ih distinct, surfaces, events, List.flatMap_cons, ← List.append_assoc]

/-- **Presenting everything of a client.** -/
theorem presentAll_eq (distinct : client.surfaces.keys.Nodup) (time : UInt32) :
    client.presentAll time = client.presentEach client.shown time := by
  have held (entry : SurfaceId × Surface) (listed : entry ∈ client.surfaces.entries) :
      client.surfaces.get? entry.1 = some entry.2 := (Arena.get?_eq_some_iff distinct).mpr listed
  have surfaces : (client.surfaces.mapValues fun _ => Surface.presentedIfShown) =
      client.surfaces.mapValues fun id surface =>
        if id ∈ client.shown then surface.presented else surface := by
    refine Arena.mapValues_congr fun entry listed => ?_
    have shows : entry.1 ∈ client.shown ↔ entry.2.current.buffer.isSome = true := by
      rw [mem_shown_iff, held entry listed, Option.isSome_iff_ne_none]
      exact ⟨fun ⟨_, same, shows⟩ => Option.some.inj same ▸ shows, fun shows => ⟨_, rfl, shows⟩⟩
    simp only [shows, Surface.presentedIfShown]
  have events : client.surfaces.values.flatMap (Surface.firedIfShown time) =
      client.shown.flatMap (client.firing time) := by
    rw [shown, flatMap_filter, Arena.values, Arena.keys, List.flatMap_map, List.flatMap_map]
    refine List.flatMap_congr fun entry listed => ?_
    rw [firing, held entry listed]
    rfl
  rw [presentEach_eq (nodup_shown distinct), ← surfaces, ← events]
  rfl

/-- Once everything was presented, presenting it again changes nothing. -/
theorem presentAll_presentAll (client : Connection) (time later : UInt32) :
    (client.presentAll time).presentAll later = client.presentAll time := by
  have surfaces : ((client.presentAll time).surfaces.mapValues fun _ =>
      Surface.presentedIfShown) = (client.presentAll time).surfaces := by
    refine Arena.mapValues_eq_self fun entry listed => ?_
    obtain ⟨old, _, rfl⟩ := List.mem_map.mp listed
    exact Surface.presentedIfShown_presentedIfShown old.2
  have events : (client.presentAll time).surfaces.values.flatMap (Surface.firedIfShown later) =
      [] := by
    refine List.flatMap_eq_nil_iff.mpr fun surface listed => ?_
    obtain ⟨entry, present, rfl⟩ := List.mem_map.mp listed
    obtain ⟨old, _, rfl⟩ := List.mem_map.mp present
    exact Surface.firedIfShown_presentedIfShown old.2 later
  change { client.presentAll time with
    surfaces := (client.presentAll time).surfaces.mapValues fun _ => Surface.presentedIfShown
    events := (client.presentAll time).events ++
      (client.presentAll time).surfaces.values.flatMap (Surface.firedIfShown later) } = _
  rw [surfaces, events, List.append_nil]

end Connection

namespace Server

variable {config : Config} {server : Server} {host : Host} {operation : Operation}

/-- Connections and surfaces have distinct handles. -/
structure Keyed (server : Server) : Prop where
  connections : server.connections.keys.Nodup
  surfaces : ∀ id client, server.connection? id = some client → client.surfaces.keys.Nodup

/-- Every connection is found under its number. -/
theorem Keyed.live (keyed : server.Keyed) {entry : ConnectionId × Connection}
    (listed : entry ∈ server.connections.entries) : server.connection? entry.1 = some entry.2 :=
  (Arena.get?_eq_some_iff keyed.connections).mpr listed

/-- Handles stay distinct, also when one comes back. -/
theorem keyed_next (named : server.Named) (keyed : server.Keyed) (host : Host)
    (operation : Operation) : (server.next host operation).Keyed where
  connections := by
    cases operation with
    | connect => exact Arena.nodup_keys_insert keyed.connections ..
    | disconnect gone =>
      change (server.disconnect gone).state.connections.keys.Nodup
      unfold disconnect
      cases server.connection? gone with
      | none => exact keyed.connections
      | some client => exact Arena.nodup_keys_erase keyed.connections gone
    | _ =>
      rw [(effect_next named host _ (by simp) (by simp)).keys]
      exact keyed.connections
  surfaces id new live := by
    rcases connection?_next named live with ⟨_, _, rfl⟩ | ⟨old, found, change⟩
    · exact List.nodup_nil
    · exact change.nodup_surfaces (keyed.surfaces id old found)

/-- After every script, handles are distinct. -/
theorem keyed_after (config : Config) (script : Script) : (after config script).Keyed := by
  induction script using List.reverseRecOn with
  | nil => exact ⟨List.nodup_nil, fun _ _ live => by cases live⟩
  | append_singleton script entry ih =>
    rw [after_concat]
    exact keyed_next (named_after config script) ih entry.1 entry.2

/-- The surfaces that show a buffer, as connections and surfaces are kept. -/
def shown (server : Server) : List SurfaceId :=
  server.connections.values.flatMap Connection.shown

/-- A surface shows a buffer. -/
def shows (server : Server) (id : SurfaceId) : Bool :=
  (server.surface? id).any fun surface => surface.current.buffer.isSome

/-- The surfaces that show a buffer after a script, client by client as they were accepted, and
surface by surface as they were created. Under a handle that was given out more than once is what
was created last. -/
def shownAsCreated (config : Config) (script : Script) : List SurfaceId :=
  (history config arrivals script).dedup.flatMap fun id =>
    (history config creations script).dedup.filter fun surface =>
      surface.connection = id ∧ (after config script).shows surface

/-- The presentations of some surfaces, one after another. -/
def presentations (host : Host) (time : UInt32) (ids : List SurfaceId) : Script :=
  ids.map fun id => (host, .present id time)

/-- **To present everything is to present piece by piece.** -/
structure PresentsPiecewise (server : Server) (host : Host) (time : UInt32) : Prop where
  pieces : server.next host (.presentAll time) =
    server.run (presentations host time server.shown)
  /-- Every one of the presentations succeeds. -/
  answered : ∀ front id back, server.shown = front ++ id :: back →
    ((server.run (presentations host time front)).present id time).answer = .ok ()
  /-- Presented is what shows a buffer, be it live or dead. -/
  exhaustive : ∀ id, id ∈ server.shown ↔
    ∃ surface, server.surface? id = some surface ∧ surface.current.buffer ≠ none
  once : server.shown.Nodup
  /-- A surface without a buffer keeps its damage and its callbacks, and all else. -/
  plain : ∀ id surface, server.surface? id = some surface → surface.current.buffer = none →
    (server.next host (.presentAll time)).surface? id = some surface
  /-- Presenting everything once more changes nothing. -/
  again : ∀ host' later, (server.next host (.presentAll time)).next host' (.presentAll later) =
    server.next host (.presentAll time)

section Presentations

/-- One presentation changes one connection in its place, if anything. -/
theorem next_present (named : server.Named) (keyed : server.Keyed) (host : Host) (id : SurfaceId)
    (time : UInt32) :
    server.next host (.present id time) = { server with
      connections := server.connections.modify id.connection fun client =>
        (client.present? id time).getD client } := by
  change (server.present id time).state = _
  unfold present onConnection
  cases found : server.connection? id.connection with
  | none =>
    rw [Arena.modify_of_get?_eq_none found]
    rfl
  | some client =>
    have distinct := keyed.connections
    cases done : client.present? id time with
    | none =>
      have same : (server.connections.modify id.connection fun client =>
          (client.present? id time).getD client) = server.connections := by
        refine Arena.modify_eq_self distinct fun other held => ?_
        cases Option.some.inj (found.symm.trans held)
        rw [done]
        rfl
      rw [same]
      simp only [done]
      rfl
    | some presented =>
      have own : presented.id = id.connection := by
        have change : Connection.Change server host (.present id time) client presented :=
          .present done
        rw [change.id_eq, named _ client found]
      have same : (server.connections.modify id.connection fun client =>
          (client.present? id time).getD client) =
          server.connections.modify presented.id fun _ => presented := by
        rw [own]
        exact Arena.modify_congr distinct found (by rw [done]; rfl)
      rw [same]
      simp only [done]
      rfl

/-- **What a run of presentations does to each client:** the ones of its own surfaces. -/
theorem run_presentations (named : server.Named) (keyed : server.Keyed) (host : Host)
    (time : UInt32) (ids : List SurfaceId) :
    server.run (presentations host time ids) = { server with
      connections := server.connections.mapValues fun key client =>
        client.presentEach (ids.filter fun id => id.connection = key) time } := by
  induction ids generalizing server with
  | nil =>
    have same : (server.connections.mapValues fun _ client => client.presentEach [] time) =
        server.connections := Arena.mapValues_eq_self fun _ _ => rfl
    simp only [List.filter_nil, same]
    rfl
  | cons id ids ih =>
    have step : server.run (presentations host time (id :: ids)) =
        (server.next host (.present id time)).run (presentations host time ids) := rfl
    have connections : ((server.connections.modify id.connection fun client =>
          (client.present? id time).getD client).mapValues fun key client =>
          client.presentEach (ids.filter fun other => other.connection = key) time) =
        server.connections.mapValues fun key client =>
          client.presentEach ((id :: ids).filter fun other => other.connection = key) time := by
      refine Arena.mapValues_modify_of_eq (fun client => ?_) fun key client apart => ?_
      · rw [List.filter_cons, if_pos (decide_eq_true rfl)]
        rfl
      · rw [List.filter_cons, if_neg (by simpa using apart.symm)]
    rw [step, ih (named_next named host _) (keyed_next named keyed host _),
      next_present named keyed, ← connections]

/-- What presentations make of a surface. -/
theorem surface?_run_presentations (named : server.Named) (keyed : server.Keyed) (host : Host)
    (time : UInt32) {ids : List SurfaceId} (distinct : ids.Nodup) (id : SurfaceId) :
    (server.run (presentations host time ids)).surface? id =
      (server.surface? id).map fun surface =>
        if id ∈ ids then surface.presented else surface := by
  have reached : (server.run (presentations host time ids)).connection? id.connection =
      (server.connection? id.connection).map fun client =>
        client.presentEach (ids.filter fun other => other.connection = id.connection) time := by
    rw [run_presentations named keyed]
    exact Arena.get?_mapValues ..
  rw [surface?, surface?, reached]
  cases server.connection? id.connection with
  | none => rfl
  | some client =>
    have listed : id ∈ ids.filter (fun other => other.connection = id.connection) ↔ id ∈ ids := by
      simp only [List.mem_filter, decide_true, and_true]
    change (client.presentEach _ time).surfaces.get? id = (client.surfaces.get? id).map _
    rw [Connection.presentEach_eq (distinct.filter _)]
    exact (Arena.get?_mapValues ..).trans (by simp only [listed])

/-- A live surface can be presented. -/
theorem answer_present {id : SurfaceId} {surface : Surface}
    (live : server.surface? id = some surface) (time : UInt32) :
    (server.present id time).answer = .ok () := by
  obtain ⟨client, found, held⟩ := surface?_eq_some.mp live
  simp only [present, onConnection, found, Connection.present?, held]
  rfl

end Presentations

section Shown

variable (owned : server.Owned) (keyed : server.Keyed)

include owned

/-- A client shows surfaces of its own only. -/
theorem own_of_mem_shown {id : ConnectionId} {client : Connection} {surface : SurfaceId}
    (live : server.connection? id = some client) (shows : surface ∈ client.shown) :
    surface.connection = id :=
  owned id client live .surface surface (List.mem_filter.mp shows).1

include keyed

/-- Shown are the live surfaces that have a buffer. -/
theorem mem_shown_iff {id : SurfaceId} : id ∈ server.shown ↔
    ∃ surface, server.surface? id = some surface ∧ surface.current.buffer ≠ none := by
  rw [shown, List.mem_flatMap]
  constructor
  · rintro ⟨client, listed, shows⟩
    obtain ⟨key, live⟩ := Arena.exists_get?_of_mem_values keyed.connections listed
    obtain ⟨surface, held, some⟩ := Connection.mem_shown_iff.mp shows
    have own := own_of_mem_shown owned live shows
    exact ⟨surface, surface?_eq_some.mpr ⟨client, own ▸ live, held⟩, some⟩
  · rintro ⟨surface, live, some⟩
    obtain ⟨client, found, held⟩ := surface?_eq_some.mp live
    exact ⟨client, Arena.mem_values_of_get? found,
      Connection.mem_shown_iff.mpr ⟨surface, held, some⟩⟩

/-- What a client shows of all that is shown. -/
theorem filter_shown {id : ConnectionId} {client : Connection}
    (live : server.connection? id = some client) :
    (server.shown.filter fun surface => surface.connection = id) = client.shown := by
  have others : ∀ entry ∈ server.connections.entries, entry ≠ (id, client) →
      (entry.2.shown.filter fun surface => surface.connection = id) = [] := by
    intro entry listed apart
    refine List.filter_eq_nil_iff.mpr fun surface shows named => apart ?_
    have same : entry.1 = id :=
      (own_of_mem_shown owned (keyed.live listed) shows).symm.trans (of_decide_eq_true named)
    have found := keyed.live listed
    rw [same, live] at found
    exact Prod.ext same (Option.some.inj found).symm
  have single : (server.connections.entries.flatMap fun entry =>
      entry.2.shown.filter fun surface => surface.connection = id) =
      client.shown.filter fun surface => surface.connection = id :=
    flatMap_eq_of_single keyed.connections.of_map others fun unlisted =>
      (unlisted (Arena.mem_entries_of_get? live)).elim
  rw [shown, Arena.values, List.flatMap_map, List.filter_flatMap, single]
  exact List.filter_eq_self.mpr fun surface shows =>
    decide_eq_true (own_of_mem_shown owned live shows)

private theorem nodup_shown : server.shown.Nodup := by
  have keys : server.connections.entries.Pairwise fun one other => one.1 ≠ other.1 :=
    List.pairwise_map.mp keyed.connections
  rw [shown, Arena.values, List.flatMap_map, List.nodup_flatMap]
  refine ⟨fun entry listed => Connection.nodup_shown (keyed.surfaces _ _ (keyed.live listed)), ?_⟩
  refine keys.imp_of_mem fun {one other} listed listed' apart surface shows shows' => apart ?_
  exact (own_of_mem_shown owned (keyed.live listed) shows).symm.trans
    (own_of_mem_shown owned (keyed.live listed') shows')

end Shown

/-- To present everything is to run one presentation after another. -/
theorem next_presentAll (named : server.Named) (owned : server.Owned) (keyed : server.Keyed)
    (host : Host) (time : UInt32) :
    server.next host (.presentAll time) =
      server.run (presentations host time server.shown) := by
  rw [run_presentations named keyed]
  change { server with connections := server.connections.mapValues _ } = _
  refine congrArg (fun connections : Arena ConnectionId Connection =>
    { server with connections }) (Arena.mapValues_congr fun entry listed => ?_)
  have live := keyed.live listed
  rw [filter_shown owned keyed live]
  exact Connection.presentAll_eq (keyed.surfaces _ _ live) time

/-- After every script, presenting everything agrees with presenting piece by piece. -/
theorem presentsPiecewise_after (config : Config) (script : Script) (host : Host) (time : UInt32) :
    (after config script).PresentsPiecewise host time := by
  have named := named_after config script
  have owned := owned_after config script
  have keyed := keyed_after config script
  have pieces := next_presentAll named owned keyed host time
  have once := nodup_shown owned keyed
  refine ⟨pieces, fun front id back split => ?_, fun id => mem_shown_iff owned keyed, once,
    fun id surface live plain => ?_, fun host' later => ?_⟩
  · have distinct : front.Nodup := (split ▸ once).of_append_left
    obtain ⟨surface, live, _⟩ := (mem_shown_iff owned keyed).mp
      (split ▸ List.mem_append_right front List.mem_cons_self)
    have reached := surface?_run_presentations named keyed host time distinct id
    rw [live, Option.map_some] at reached
    exact answer_present reached time
  · have plainly : id ∉ (after config script).shown := by
      intro shows
      obtain ⟨shown, held, some⟩ := (mem_shown_iff owned keyed).mp shows
      cases live.symm.trans held
      exact some plain
    rw [pieces, surface?_run_presentations named keyed host time once, live, Option.map_some,
      if_neg plainly]
  · refine congrArg (fun connections : Arena ConnectionId Connection =>
      { after config script with connections }) (Arena.mapValues_eq_self fun entry listed => ?_)
    obtain ⟨old, _, rfl⟩ := List.mem_map.mp listed
    exact Connection.presentAll_presentAll ..

/-- A surface that was committed with a buffer is presented, and one without a buffer is not. -/
example : (after {} (Script.takenBack.take 6)).shown = [⟨⟨0⟩, 2⟩] ∧
    (after {} Script.takenBack).shown = [] := by decide

/-- Short of the wrap, a client shows what it created, as far as that shows a buffer. -/
private theorem shown_eq_creations {script : Script}
    (range : (Server.start config).state.InRange script) {id : ConnectionId} {client : Connection}
    (live : (after config script).connection? id = some client) :
    client.shown = (history config creations script).filter fun surface =>
      surface.connection = id ∧ (after config script).shows surface := by
  rw [Connection.shown, surfaces_eq_creations range live, List.filter_filter]
  refine List.filter_congr fun surface _ => ?_
  by_cases own : surface.connection = id
  · have found : (after config script).surface? surface = client.surfaces.get? surface := by
      rw [surface?, own, live]
      rfl
    cases held : client.surfaces.get? surface with
    | none => simp [shows, found, held]
    | some value => simp [shows, found, held, own, Arena.mem_keys_of_get? held]
  · simp [own]

/-- Who is gone shows nothing. -/
private theorem filter_shows_eq_nil {id : ConnectionId} (dead : server.connection? id = none)
    (ids : List SurfaceId) :
    (ids.filter fun surface => surface.connection = id ∧ server.shows surface) = [] := by
  refine List.filter_eq_nil_iff.mpr fun surface _ listed => ?_
  have both : surface.connection = id ∧ server.shows surface = true := of_decide_eq_true listed
  obtain ⟨rfl, shows⟩ := both
  rw [Server.shows, surface?, dead] at shows
  cases shows

/-- **Short of the wrap, surfaces are presented in the order of their creation.** -/
theorem shown_eq_shownAsCreated {script : Script}
    (range : (Server.start config).state.InRange script) :
    (after config script).shown = shownAsCreated config script := by
  have keyed := keyed_after config script
  calc (after config script).shown
    _ = (after config script).connections.keys.flatMap fun id =>
          (history config creations script).filter fun surface =>
            surface.connection = id ∧ (after config script).shows surface := by
        rw [shown, Arena.values, Arena.keys, List.flatMap_map, List.flatMap_map]
        exact List.flatMap_congr fun entry listed => shown_eq_creations range (keyed.live listed)
    _ = (history config arrivals script).flatMap fun id =>
          (history config creations script).filter fun surface =>
            surface.connection = id ∧ (after config script).shows surface := by
        -- Who was accepted and is gone adds nothing.
        rw [connections_eq_arrivals range, flatMap_filter]
        refine List.flatMap_congr fun id _ => ?_
        by_cases stays : id ∈ (after config script).connections.keys
        · rw [if_pos (decide_eq_true stays)]
        · rw [if_neg (by simpa using stays),
            filter_shows_eq_nil (Arena.get?_eq_none_of_notMem stays)]
    _ = shownAsCreated config script := by
        rw [shownAsCreated, (nodup_arrivals range).dedup, (nodup_creations range).dedup]

/-- **Presenting everything agrees with presenting piece by piece,** after every script, and as long
as no handle comes back, in the order in which clients were accepted and surfaces created. -/
theorem presentAll_piecewise (config : Config) (script : Script) (host : Host) (time : UInt32) :
    (after config script).PresentsPiecewise host time ∧
      ((Server.start config).state.InRange script →
        (after config script).shown = shownAsCreated config script) :=
  ⟨presentsPiecewise_after config script host time, shown_eq_shownAsCreated⟩

/-- A client that shows a buffer on two surfaces: they are presented one after the other. -/
theorem presentAll_piecewise_shownTwice :
    (Server.start {}).state.InRange (Script.twofold ++ Script.shownTwice) ∧
      shownAsCreated {} (Script.twofold ++ Script.shownTwice) = [⟨⟨0⟩, 2⟩, ⟨⟨0⟩, 3⟩] ∧
      (after {} (Script.twofold ++ Script.shownTwice)).next .withFile (.presentAll 7) =
        (after {} (Script.twofold ++ Script.shownTwice)).run
          (presentations .withFile 7 [⟨⟨0⟩, 2⟩, ⟨⟨0⟩, 3⟩]) := by
  have range : (Server.start {}).state.InRange (Script.twofold ++ Script.shownTwice) :=
    inRange_of_length _ (by decide)
  have order : shownAsCreated {} (Script.twofold ++ Script.shownTwice) =
      [⟨⟨0⟩, 2⟩, ⟨⟨0⟩, 3⟩] := by decide
  obtain ⟨piecewise, asCreated⟩ :=
    presentAll_piecewise {} (Script.twofold ++ Script.shownTwice) .withFile 7
  refine ⟨range, order, ?_⟩
  rw [piecewise.pieces, asCreated range, order]

/-- **A surface out of order.** Once the counter has gone around, a surface is created under the
handle of another one and takes its place. It is then presented before a surface that was created
before it, and the client is told so. -/
theorem presentAll_not_asCreated_recreated :
    (after {} Script.recreated).shown = [⟨⟨0⟩, 2⟩, ⟨⟨0⟩, 3⟩] ∧
      shownAsCreated {} Script.recreated = [⟨⟨0⟩, 3⟩, ⟨⟨0⟩, 2⟩] ∧
      (after {} Script.recreated).next .withFile (.presentAll 7) ≠
        (after {} Script.recreated).run
          (presentations .withFile 7 (shownAsCreated {} Script.recreated)) := by
  let last : Script := (.withFile, .createSurface ⟨0⟩ 4) :: Script.shownTwice
  have around : after {} Script.recreated =
      ((after {} Script.twofold).turnedTo ⟨0⟩ 2).run last :=
    after_turning {} (by decide) rfl rfl (by decide) last
  have seen {α : Type} (see : Server → Host → Operation → List α)
      (silent : ∀ server, see server .withFile (.frame ⟨⟨0⟩, 4⟩) = []) :
      history {} see Script.recreated = history {} see Script.twofold ++
        ((after {} Script.twofold).turnedTo ⟨0⟩ 2).trace see last :=
    history_turning silent {} (by decide) rfl rfl (by decide) last
  have arrived : history {} arrivals Script.recreated = [⟨0⟩] := seen arrivals fun _ => rfl
  have created : history {} creations Script.recreated =
      [⟨⟨0⟩, 2⟩, ⟨⟨0⟩, 3⟩, ⟨⟨0⟩, 4⟩, ⟨⟨0⟩, 2⟩] := seen creations fun _ => rfl
  have order : shownAsCreated {} Script.recreated = [⟨⟨0⟩, 3⟩, ⟨⟨0⟩, 2⟩] := by
    rw [shownAsCreated, arrived, created, around]
    decide
  rw [order, around]
  refine ⟨by decide, rfl, fun same => ?_⟩
  have events := congrArg (fun server : Server =>
    (server.connection? ⟨0⟩).map Connection.events) same
  revert events
  decide

end Server

end DisplayServer
