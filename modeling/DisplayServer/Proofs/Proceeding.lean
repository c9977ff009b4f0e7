import DisplayServer.Proofs.Asking
import DisplayServer.Proofs.Withdrawing

/-! # What happens, one thing after the other

A frontend is sound (`Frontend.Sound`) if it is in good order and every object of a client that is
accepted and served has a meaning. When something happens it proceeds (`Turn.Proceeds`): it is sound
afterwards, the server did what it was asked and everything that came of it was told
(`Turn.Answers`), objects came and went for good (`Ties.Ages`), and callbacks are entered for the
objects that were granted them, and no others. So it goes on with everything that the frontend heeds
and that leaves no object without a meaning, also if an object is added first (`Turn.Adds`), as the
requests do that create one.
-/

namespace DisplayServer

open Function (update update_self update_of_ne update_apply)
open Relation (ReflTransGen)
open Wire

/-- What an object of the interface of surfaces stands for. -/
theorem Resource.surface_of_interface {resource : Resource}
    (kind : resource.interface = .surface) :
    (∃ surface, resource = .surface surface) ∨ resource = .inert .surface := by
  cases resource <;> simp_all [Resource.interface]

namespace Ties

variable {accepted : Nat} {ties moved : Ties}

private theorem Move.owner_eq (move : Move ties moved) {client : ClientId}
    {connection : ConnectionId}
    (owned : moved.owner client = some connection) : ties.owner client = some connection := by
  cases move <;> grind [update_apply]

/-- Ties hold after any number of moves. -/
theorem Tied.of_moves (tied : ties.Tied accepted) (moves : ReflTransGen Move ties moved) :
    moved.Tied accepted := by
  induction moves with
  | refl => exact tied
  | tail _ move ih => exact move.tied ih

/-- An object of a client that is accepted and served, and which has no meaning. -/
structure Idle (ties : Ties) (id : ObjectId) : Prop where
  served : ties.served id.client = true
  managed : ∃ connection, ties.owner id.client = some connection
  inert : ∃ interface, ties.stands id = some (.inert interface)

/-- An object that is inert after some moves was so before. -/
theorem inert_of_moves {id : ObjectId} {interface : Interface}
    (moves : ReflTransGen Move ties moved) (inert : moved.stands id = some (.inert interface)) :
    ties.stands id = some (.inert interface) := by
  induction moves with
  | refl => exact inert
  | tail _ move ih => exact ih (move.inert inert)

/-- An object that is idle after some moves was so before. -/
theorem Idle.of_moves {id : ObjectId} (moves : ReflTransGen Move ties moved)
    (idle : moved.Idle id) :
    ties.Idle id := by
  induction moves with
  | refl => exact idle
  | tail _ move ih =>
    obtain ⟨connection, managed⟩ := idle.managed
    obtain ⟨interface, inert⟩ := idle.inert
    exact ih ⟨move.served idle.served, ⟨connection, move.owner_eq managed⟩,
      ⟨interface, move.inert inert⟩⟩

/-- Objects that came and went stay away. -/
structure Ages (ties later : Ties) : Prop where
  born : ∀ id, ties.born id = true → later.born id = true
  dead : ∀ id, ties.born id = true → ties.stands id = none → later.stands id = none

/-- What stays away for two spans stays away for both. -/
theorem Ages.trans {last : Ties} (first : ties.Ages moved) (second : moved.Ages last) :
    ties.Ages last where
  born id born := second.born id (first.born id born)
  dead id born dead := second.dead id (first.born id born) (first.dead id born dead)

/-- Objects that came and went stay away through every move. -/
theorem Ages.of_moves (moves : ReflTransGen Move ties moved) : ties.Ages moved := by
  induction moves with
  | refl => exact ⟨fun _ born => born, fun _ _ dead => dead⟩
  | tail _ move ih => exact ih.trans ⟨fun _ => move.born, fun _ _ => move.stands_eq_none⟩

/-- A callback is entered for an object without a meaning. -/
theorem recalls_of_moves {callback : CallbackId} {id : ObjectId}
    (moves : ReflTransGen Move ties moved) (entry : moved.callbacks callback = some id) :
    ties.callbacks callback = some id ∨
      ties.Idle id ∧ ties.stands id = some (.inert .callback) := by
  induction moves with
  | refl => exact .inl entry
  | tail moves move ih =>
    refine (move.recalls entry).elim ih fun ⟨inert, served, managed⟩ => .inr ?_
    have idle : ties.Idle id := .of_moves moves ⟨served, managed, _, inert⟩
    exact ⟨idle, inert_of_moves moves inert⟩

/-- The object of a callback was without a meaning before. -/
theorem calls_of_moves {id : ObjectId} (moves : ReflTransGen Move ties moved)
    (stands : moved.stands id = some .callback) :
    ties.stands id = some .callback ∨ ties.Idle id ∧ ties.stands id = some (.inert .callback) := by
  induction moves with
  | refl => exact .inl stands
  | tail moves move ih =>
    refine (move.calls stands).elim ih fun ⟨inert, served, managed⟩ => .inr ?_
    have idle : ties.Idle id := .of_moves moves ⟨served, managed, _, inert⟩
    exact ⟨idle, inert_of_moves moves inert⟩

end Ties

namespace Frontend

/-- A frontend in good order, in which the objects of all clients that are accepted and served have
a meaning. -/
structure Sound (config : Config) (accepted : Nat) (drawn : ConnectionId → Nat)
    (frontend : Frontend) : Prop extends frontend.Standing config accepted drawn where
  meant : ∀ id, ¬ frontend.ties.Idle id

end Frontend

namespace Turn

variable {turn turn' : Turn} {host : Host} {operation : Operation} {config : Config}
  {accepted : Nat} {drawn : ConnectionId → Nat}

/-- A frontend stands after a turn that goes on without the server. -/
theorem Minds.standing_after (minds : turn.Minds turn')
    (standing : turn.frontend.Standing config accepted drawn) :
    turn'.frontend.Standing config accepted drawn where
  server := minds.server ▸ standing.server
  quiet := minds.server ▸ standing.quiet
  tied := standing.tied.of_moves minds.moves
  distinct := minds.distinct standing.distinct

/-- A frontend stands after a turn that serves an operation for which there is room. -/
theorem Serves.standing_after (serves : turn.Serves host operation turn')
    (standing : turn.frontend.Standing config accepted drawn) (accepts : operation.accepted = 0)
    (rooms : ∀ id, drawn id + turn.frontend.server.drawnBy host operation id ≤ UInt32.size) :
    turn'.frontend.Standing config accepted
      fun id => drawn id + turn.frontend.server.drawnBy host operation id where
  server := by
    have next := standing.server.next host operation
      (by rw [accepts]; exact standing.server.room) rooms
    rw [accepts] at next
    exact serves.server ▸ next.drained
  quiet := serves.server ▸ Server.isQuiet_drained _
  tied := standing.tied.of_moves serves.moves
  distinct := serves.distinct standing.distinct

end Turn

namespace Frontend.Sheds

variable {config : Config} {accepted : Nat} {drawn : ConnectionId → Nat}
  {served : ClientId → Bool} {departed : ConnectionId → Bool} {connection : ConnectionId}
  {id : ObjectId} {before after : Frontend}
  (sheds : Frontend.Sheds served departed connection id before after)

include sheds

private theorem served_eq : after.ties.served = before.ties.served := by
  funext client
  refine Eq.trans ?_ (congrFun (congrArg Ties.served (before.ties_expire id)) client)
  simp only [ties, isConnected, sheds.clients]

private theorem departed_eq : after.departed = before.departed := by
  have same := congrArg Frontend.departed sheds.maps
  exact same

private theorem move_ties (here : served = before.ties.served)
    (here' : departed = before.ties.departed) : before.ties.Move after.ties := by
  subst here here'
  have whole : after.tiesWith before.ties.served before.ties.departed = after.ties := by
    rw [← sheds.served_eq, show before.ties.departed = after.ties.departed by
      simp only [ties, sheds.departed_eq]]
    rfl
  exact whole ▸ sheds.move

/-- A frontend stands if nothing changed that ties rest on. -/
theorem standing_after (here : served = before.ties.served)
    (here' : departed = before.ties.departed)
    (standing : before.Standing config accepted drawn) : after.Standing config accepted drawn where
  server := sheds.server.isAfter standing.server
  quiet := sheds.server.isQuiet standing.server standing.quiet
  tied := (sheds.move_ties here here').tied standing.tied
  distinct := sheds.distinct standing.distinct

end Frontend.Sheds

namespace Turn

variable {turn turn' : Turn} {host : Host} {operation : Operation} {config : Config}
  {accepted : Nat} {drawn : ConnectionId → Nat} {id : ObjectId}

/-- An object that is destroyed is dead already, or dies and lets go of what it stood for. -/
theorem destroy_sheds {served : ClientId → Bool} {departed : ConnectionId → Bool}
    {connection : ConnectionId} (isAfter : turn.frontend.server.IsAfter config accepted drawn)
    (tied : (turn.frontend.tiesWith served departed).Tied accepted)
    (distinct : turn.frontend.bindings.keys.Nodup)
    (untold : turn.frontend.ties.stands id = some .callback → served id.client = false)
    (own : ∀ owner, turn.frontend.ties.owner id.client = some owner → owner = connection) :
    turn.frontend.ties.stands id = none ∧ turn.destroy id = turn ∨
      Frontend.Sheds served departed connection id turn.frontend (turn.destroy id).frontend := by
  cases stands : turn.frontend.ties.stands id with
  | none => exact .inl ⟨rfl, destroy_of_dead stands⟩
  | some resource =>
    refine .inr ?_
    rw [destroy_of_alive stands]
    exact sheds_release isAfter tied distinct stands
      (fun callback => untold (stands.trans (congrArg some callback))) own

/-- What a turn answers to what was asked of the server: the server did it, and everything that
waited was told. A turn that asks nothing of the server has it let go of things at most. -/
def Answers (turn turn' : Turn) : Option (Host × Operation) → Prop
  | some (host, operation) =>
    turn'.frontend.server = (turn.frontend.server.next host operation).drained ∧
      turn.Tells (turn.frontend.server.next host operation).drainEvents.1 turn'
  | none =>
    (∃ script : Script, (∀ entry ∈ script, entry.2.isSilent = true) ∧
        turn'.frontend.server = turn.frontend.server.run script) ∧
      turn.Tells [] turn'

/-! ### New objects -/

/-- A client gets one more object, which stands for nothing that the server holds yet. -/
structure Adds (turn added : Turn) (created : ObjectId) (resource : Resource) : Prop where
  ties : added.frontend.ties = { turn.frontend.ties with
    stands := update turn.frontend.ties.stands created (some resource)
    born := update turn.frontend.ties.born created true }
  server : added.frontend.server = turn.frontend.server
  bindings : added.frontend.bindings = turn.frontend.bindings
  sent : added.sent = turn.sent
  log : added.log = turn.log
  known : turn.frontend.ties.known created.client = true
  unborn : turn.frontend.ties.born created = false
  objects : ∀ other record, turn.frontend.object? other = some record →
    added.frontend.object? other = some record

/-- A new object is the youngest of its client. -/
theorem adds_addObject {client : ClientId} {state : Client} (object : ProtocolObject)
    (found : turn.frontend.clients.get? client = some state) (alive : object.isAlive = true) :
    turn.Adds (turn.addObject client object) ⟨client, state.objects.length⟩ object.resource where
  ties := ties_addObject found object alive
  server := rfl
  bindings := rfl
  sent := rfl
  log := rfl
  known := by simp [Frontend.ties, Arena.contains, found]
  unborn := by simp [Frontend.ties, found]
  objects := by
    intro other record held
    obtain ⟨old, found', listed⟩ := Option.bind_eq_some_iff.mp held
    have modified := Arena.get?_modify turn.frontend.clients client other.client fun client =>
      { client with objects := client.objects ++ [object] }
    refine Option.bind_eq_some_iff.mpr ?_
    rw [show (turn.addObject client object).frontend.clients.get? other.client = _ from modified,
      found']
    split
    · exact ⟨_, rfl, List.getElem?_append_left (List.getElem?_eq_some_iff.mp listed).1 ▸ listed⟩
    · exact ⟨old, rfl, listed⟩

section Adding

variable {added : Turn} {created other : ObjectId} {resource : Resource} {asked : Option Operation}
  (adds : turn.Adds added created resource)

include adds

/-- The resource of a new object stands behind it. -/
theorem Adds.stands_created : added.frontend.ties.stands created = some resource := by
  rw [adds.ties]
  exact update_self ..

private theorem Adds.stands_other (apart : other ≠ created) :
    added.frontend.ties.stands other = turn.frontend.ties.stands other := by
  rw [adds.ties]
  exact update_of_ne apart ..

/-- A new object does not change who is served. -/
theorem Adds.served : added.frontend.ties.served = turn.frontend.ties.served := by
  rw [adds.ties]

/-- A new object does not change who owns which connection. -/
theorem Adds.owner : added.frontend.ties.owner = turn.frontend.ties.owner := by
  rw [adds.ties]

/-- A new object does not change which callbacks are entered. -/
theorem Adds.callbacks : added.frontend.ties.callbacks = turn.frontend.ties.callbacks := by
  rw [adds.ties]

/-- What is alive was there before. -/
theorem Adds.stands_old (standing : turn.frontend.Standing config accepted drawn)
    {old : Resource} (alive : turn.frontend.ties.stands other = some old) :
    added.frontend.ties.stands other = some old := by
  refine (adds.stands_other ?_).trans alive
  rintro rfl
  have born := standing.tied.clients.born other (alive ▸ Option.some_ne_none old)
  exact Bool.noConfusion (adds.unborn.symm.trans born)

/-- A frontend stands with a new object that nothing is tied to yet. -/
theorem Adds.standing (plain : resource.IsPlain)
    (standing : turn.frontend.Standing config accepted drawn) :
    added.frontend.Standing config accepted drawn where
  server := adds.server ▸ standing.server
  quiet := adds.server ▸ standing.quiet
  tied := by
    rw [adds.ties]
    exact standing.tied.create adds.known adds.unborn plain
  distinct := adds.bindings ▸ standing.distinct

private theorem Adds.ages : turn.frontend.ties.Ages added.frontend.ties where
  born id born := by
    rw [adds.ties]
    rcases eq_or_ne id created with rfl | apart
    · exact update_self ..
    · exact (update_of_ne apart ..).trans born
  dead id born dead := by
    refine (adds.stands_other ?_).trans dead
    rintro rfl
    exact Bool.noConfusion (adds.unborn.symm.trans born)

/-- What is told is the same from before the object on. -/
theorem Adds.tells {events : List (ConnectionId × Event)} (other : resource ≠ .callback)
    (tells : added.Tells events turn') : turn.Tells events turn' := by
  have served : added.frontend.isConnected = turn.frontend.isConnected := adds.served
  have entries : added.frontend.callbacks.get? = turn.frontend.callbacks.get? := adds.callbacks
  obtain ⟨more, sent, told⟩ := tells
  refine ⟨more, adds.sent ▸ sent, ?_⟩
  split
  · rename_i none
    rwa [if_pos none] at told
  · rename_i some
    rw [if_neg some] at told
    obtain ⟨said, told, rfl⟩ := told
    refine ⟨said, told.imp fun event deliveries told => ⟨?_, fun delivery listed => ?_⟩,
      by rw [served]⟩
    · have comes := told.comes
      generalize event.2 = what at comes
      cases comes with
      | format listens bound known => exact .format listens bound known
      | unspoken unknown => exact .unspoken unknown
      | released entry stands => exact .released entry stands
      | configured entry stands stands' => exact .configured entry stands stands'
      | failed entry stands => exact .failed entry stands
      | fired entry stands spent =>
        refine .fired (entries ▸ entry) (fun here => ?_) spent
        have stands := stands (served ▸ here)
        refine (adds.stands_other ?_).symm.trans stands
        rintro rfl
        exact other (Option.some.inj (adds.stands_created.symm.trans stands))
    · exact adds.owner ▸ told.owner delivery listed

/-- What is heeded once an object was added is answered. -/
theorem Adds.answers (other : resource ≠ .callback) (heeds : added.Heeds host turn' asked) :
    turn.Answers turn' (asked.map fun operation => (host, operation)) := by
  cases asked with
  | some operation =>
    have server := heeds.server
    have said := heeds.said
    rw [adds.server] at server said
    exact ⟨server, adds.tells other said⟩
  | none =>
    obtain ⟨more, sent, mute⟩ := heeds.said
    exact ⟨⟨[], nofun, heeds.server.trans adds.server⟩, more, adds.sent ▸ sent, mute⟩

end Adding

/-! ### Turns that go on -/

/-- A turn proceeds: the frontend stays in good order, and answers what was asked of the server.
What is dead stays dead, and no callback is entered, and no object becomes that of a callback, but
those that were asked for. -/
structure Proceeds (config : Config) (accepted : Nat) (drawn : ConnectionId → Nat)
    (turn turn' : Turn) (asked : Option (Host × Operation))
    (framed : List (CallbackId × ObjectId)) : Prop where
  sound : turn'.frontend.Sound config (accepted + asked.elim 0 fun asked => asked.2.accepted)
    fun id => drawn id + asked.elim 0 fun asked =>
      turn.frontend.server.drawnBy asked.1 asked.2 id
  answers : turn.Answers turn' asked
  ages : turn.frontend.ties.Ages turn'.frontend.ties
  recalls : ∀ callback id, turn'.frontend.callbacks.get? callback = some id →
    turn.frontend.callbacks.get? callback = some id ∨ (callback, id) ∈ framed
  calls : ∀ id, turn'.frontend.ties.stands id = some .callback →
    turn.frontend.ties.stands id = some .callback ∨ ∃ callback, (callback, id) ∈ framed

variable {asked : Option Operation} {framed : List (CallbackId × ObjectId)}

/-- A turn that heeds a request is a number of moves. -/
theorem Heeds.moves (heeds : turn.Heeds host turn' asked) :
    ReflTransGen Ties.Move turn.frontend.ties turn'.frontend.ties := by
  cases asked with
  | none => exact (show turn.Minds turn' from heeds).moves
  | some => exact Serves.moves heeds

/-- A frontend stands after a turn that heeds a request for which there is room. -/
theorem Heeds.standing_after (heeds : turn.Heeds host turn' asked)
    (standing : turn.frontend.Standing config accepted drawn)
    (accepts : ∀ operation, asked = some operation → operation.accepted = 0)
    (rooms : ∀ operation, asked = some operation →
      ∀ id, drawn id + turn.frontend.server.drawnBy host operation id ≤ UInt32.size) :
    turn'.frontend.Standing config
      (accepted +
        (asked.map fun operation => (host, operation)).elim 0 fun asked => asked.2.accepted)
      fun id => drawn id + (asked.map fun operation => (host, operation)).elim 0 fun asked =>
        turn.frontend.server.drawnBy asked.1 asked.2 id := by
  cases asked with
  | none => exact Minds.standing_after heeds standing
  | some operation =>
    have after := Serves.standing_after heeds standing (accepts _ rfl) (rooms _ rfl)
    simpa only [Option.map_some, Option.elim_some, accepts _ rfl, Nat.add_zero] using after

private theorem Heeds.answers (heeds : turn.Heeds host turn' asked) :
    turn.Answers turn' (asked.map fun operation => (host, operation)) := by
  cases asked with
  | some operation => exact ⟨heeds.server, heeds.said⟩
  | none =>
    obtain ⟨more, sent, mute⟩ := heeds.said
    exact ⟨⟨[], nofun, heeds.server⟩, more, sent, mute⟩

section Proceeding

variable (sound : turn.frontend.Sound config accepted drawn)

include sound

/-- A turn in which nothing is added. -/
theorem Proceeds.of_moves {asked : Option (Host × Operation)}
    (standing : turn'.frontend.Standing config
      (accepted + asked.elim 0 fun asked => asked.2.accepted)
      fun id => drawn id + asked.elim 0 fun asked =>
        turn.frontend.server.drawnBy asked.1 asked.2 id)
    (moves : ReflTransGen Ties.Move turn.frontend.ties turn'.frontend.ties)
    (answers : turn.Answers turn' asked) :
    turn.Proceeds config accepted drawn turn' asked framed where
  sound := ⟨standing, fun id idle => sound.meant id (idle.of_moves moves)⟩
  answers := answers
  ages := .of_moves moves
  recalls _ id entry :=
    (Ties.recalls_of_moves moves entry).imp_right fun new => (sound.meant id new.1).elim
  calls id stands :=
    (Ties.calls_of_moves moves stands).imp_right fun new => (sound.meant id new.1).elim

/-- A turn that heeds a request proceeds. -/
theorem Proceeds.of_heeds (heeds : turn.Heeds host turn' asked)
    (accepts : ∀ operation, asked = some operation → operation.accepted = 0)
    (rooms : ∀ operation, asked = some operation →
      ∀ id, drawn id + turn.frontend.server.drawnBy host operation id ≤ UInt32.size) :
    turn.Proceeds config accepted drawn turn' (asked.map fun operation => (host, operation))
      framed :=
  .of_moves sound (heeds.standing_after sound.toStanding accepts rooms) heeds.moves heeds.answers

/-- A turn that asks nothing of the server. -/
theorem Proceeds.of_minds (minds : turn.Minds turn') :
    turn.Proceeds config accepted drawn turn' none framed :=
  have heeds : turn.Heeds .withFile turn' none := minds
  .of_heeds sound heeds nofun nofun

/-- A turn in which an object is added, with or without a meaning. -/
theorem Adds.proceeds {added : Turn} {created : ObjectId} {resource : Resource}
    (adds : turn.Adds added created resource) (plain : resource.IsPlain)
    (other : resource ≠ .callback) (heeds : added.Heeds host turn' asked)
    (accepts : ∀ operation, asked = some operation → operation.accepted = 0)
    (rooms : ∀ operation, asked = some operation →
      ∀ id, drawn id + turn.frontend.server.drawnBy host operation id ≤ UInt32.size)
    (meant : (∃ connection, turn.frontend.ties.owner created.client = some connection) →
      turn'.frontend.isConnected created.client = true →
        ∀ interface, turn'.frontend.ties.stands created ≠ some (.inert interface))
    (frames : (∃ connection, turn.frontend.ties.owner created.client = some connection) →
      resource = .inert .callback → (∃ callback, (callback, created) ∈ framed) ∧ ∀ callback,
        turn'.frontend.callbacks.get? callback = some created →
          turn.frontend.callbacks.get? callback = some created ∨ (callback, created) ∈ framed) :
    turn.Proceeds config accepted drawn turn' (asked.map fun operation => (host, operation))
      framed := by
  have standing := adds.standing plain sound.toStanding
  -- Only the new object may be without a meaning.
  have idle_old {id : ObjectId} (idle : added.frontend.ties.Idle id) : id = created := by
    by_contra apart
    refine sound.meant id ⟨?_, ?_, ?_⟩
    · rw [← adds.served]
      exact idle.served
    · rw [← adds.owner]
      exact idle.managed
    · rw [← adds.stands_other apart]
      exact idle.inert
  refine ⟨⟨?_, fun id idle => ?_⟩, adds.answers other heeds,
    adds.ages.trans (.of_moves heeds.moves), fun callback id entry => ?_, fun id stands => ?_⟩
  · have after := heeds.standing_after standing accepts (by rw [adds.server]; exact rooms)
    rwa [adds.server] at after
  · have before := idle.of_moves heeds.moves
    obtain rfl := idle_old before
    obtain ⟨interface, inert⟩ := idle.inert
    exact meant (adds.owner ▸ before.managed) idle.served interface inert
  · rcases Ties.recalls_of_moves heeds.moves entry with old | ⟨idle, inert⟩
    · rw [adds.callbacks] at old
      exact .inl old
    · obtain rfl := idle_old idle
      exact (frames (adds.owner ▸ idle.managed)
        (Option.some.inj (adds.stands_created.symm.trans inert))).2 callback entry
  · rcases Ties.calls_of_moves heeds.moves stands with old | ⟨idle, inert⟩
    · refine .inl ((adds.stands_other ?_).symm.trans old)
      rintro rfl
      exact other (Option.some.inj (adds.stands_created.symm.trans old))
    · obtain rfl := idle_old idle
      exact .inr (frames (adds.owner ▸ idle.managed)
        (Option.some.inj (adds.stands_created.symm.trans inert))).1

/-- A turn goes on with the destruction of an object. -/
theorem proceeds_destroy (untold : turn.frontend.ties.stands id = some .callback →
      turn.frontend.isConnected id.client = false) :
    turn.Proceeds config accepted drawn (turn.destroy id) none framed := by
  have own (owner : ConnectionId) (owned : turn.frontend.ties.owner id.client = some owner) :
      owner = (turn.frontend.ties.owner id.client).getD ⟨0⟩ := by
    rw [owned]
    rfl
  rcases destroy_sheds sound.server sound.tied sound.distinct untold own with ⟨-, same⟩ | sheds
  · rw [same]
    exact .of_minds sound (.refl turn)
  · refine .of_moves sound (sheds.standing_after rfl rfl sound.toStanding)
      (.single (sheds.move_ties rfl rfl))
      ⟨Server.Withdrawn.exists_script sheds.server, [], ?_, nofun⟩
    rw [sent_destroy, List.append_nil]

end Proceeding

end Turn

end DisplayServer
