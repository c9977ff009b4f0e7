import DisplayServer.Proofs.Acting
import DisplayServer.Proofs.Delivery

/-! # What happens to a frontend

The life of a frontend (`Life`) is what happens to it, one thing after the other. A step of the
frontend is an action and all the clearing away that it brings about; here objects are destroyed,
clients forgotten and connections reaped one by one, whenever their time has come. In between,
others are served.

A life is in range (`Frontend.InRange`) if no counter of the server is drawn from more often than
it has values. As long as that is so, everything is sound (`Frontend.sound_after`) and goes on
(`Frontend.proceeds_after`).
-/

namespace DisplayServer

open Relation (ReflTransGen)
open Wire

/-- Something that happens to a frontend. -/
inductive Happening where
  /-- An action is carried out, unless it comes from a client that is not served. -/
  | act (host : Host) (action : Action)
  /-- An object of a client that is not served any more is destroyed. -/
  | destroy (id : ObjectId)
  /-- A client that is not served any more is forgotten, if all its objects are dead. -/
  | forget (client : ClientId)
  | reap
  /-- Somebody subscribes to what the server publishes, or takes something of it. -/
  | subscribe (host : Host) (operation : Operation)

/-- Whether something that happens is an action. Nothing else asks anything of the server. -/
def Happening.isAction : Happening → Bool
  | .act _ _ => true
  | _ => false

/-- What happens to a frontend, the first thing first. -/
abbrev Life := List Happening

/-- A client creates a pool. -/
def Life.pooled : Life :=
  [.connect true, .bindGlobal 0 "wl_shm" 1,
    .request 0 0 "create_pool"
      [.newObject, .descriptor (.regular 0 .readWrite), .integer 16]].map (.act .withFile)

/-- The client creates a buffer that takes all of its pool. -/
def Action.createBuffer : Action :=
  .request 0 1 "create_buffer"
    [.newObject, .integer 0, .integer 2, .integer 2, .integer 8, .word 0]

/-- Then it destroys the object of the pool. -/
def Life.shared : Life :=
  pooled ++ [Action.createBuffer, .request 0 1 "destroy" []].map (.act .withFile)

namespace Frontend

/-- Whether a client is to be forgotten. -/
def isSpent (frontend : Frontend) (client : ClientId) : Bool :=
  (frontend.clients.get? client).any fun state =>
    !state.isConnected && state.objects.all fun object => !object.isAlive

def happen (frontend : Frontend) : Happening → Turn
  | .act host action =>
    if frontend.ignores action then { frontend } else Turn.act { frontend } host action
  | .destroy id =>
    if frontend.isConnected id.client then { frontend } else Turn.destroy { frontend } id
  | .forget client =>
    if frontend.isSpent client then
      { frontend := { frontend with clients := frontend.clients.erase client } }
    else { frontend }
  | .reap => Turn.reap { frontend }
  | .subscribe host operation =>
    if operation.subscribes then
      { frontend := { frontend with server := frontend.server.next host operation } }
    else { frontend }

/-- What is asked of the server. -/
def asked (frontend : Frontend) : Happening → Option (Host × Operation)
  | .act host action =>
    if frontend.ignores action then none
    else (frontend.asks action).map fun operation => (host, operation)
  | _ => none

/-- The callback that the server grants, with its object. -/
def entered (frontend : Frontend) : Happening → List (CallbackId × ObjectId)
  | .act _ action => if frontend.ignores action then [] else frontend.framed action
  | _ => []

/-- A life is lived. -/
def live (frontend : Frontend) (life : Life) : Frontend :=
  life.foldl (fun frontend happening => (frontend.happen happening).frontend) frontend

/-- A frontend that was started with some configuration, after some life. -/
def after (config : Config) (life : Life) : Frontend :=
  (start config).state.live life

/-- What shows in the course of a life, where `see` says what shows when something happens. -/
def trace {α : Type} (frontend : Frontend) (see : Frontend → Happening → List α) : Life → List α
  | [] => []
  | happening :: rest =>
    see frontend happening ++ (frontend.happen happening).frontend.trace see rest

/-- What shows in the course of the life of a fresh frontend. -/
def history {α : Type} (config : Config) (see : Frontend → Happening → List α) (life : Life) :
    List α :=
  (start config).state.trace see life

/-- The number of connections that the server accepts. -/
def accepted (frontend : Frontend) : Life → Nat
  | [] => 0
  | happening :: rest =>
    ((frontend.asked happening).elim 0 fun asked => asked.2.accepted) +
      (frontend.happen happening).frontend.accepted rest

/-- The number of handles that are drawn on a connection. -/
def drawn (frontend : Frontend) : Life → ConnectionId → Nat
  | [], _ => 0
  | happening :: rest, id =>
    ((frontend.asked happening).elim 0 fun asked => frontend.server.drawnBy asked.1 asked.2 id) +
      (frontend.happen happening).frontend.drawn rest id

/-- No counter of the server is drawn from more often than it has values. -/
structure InRange (frontend : Frontend) (life : Life) : Prop where
  connections : frontend.accepted life ≤ UInt32.size
  handles : ∀ id, frontend.drawn life id ≤ UInt32.size

section Append

variable {frontend : Frontend} (front back : Life)

/-- To live two lives is to live one after the other. -/
theorem live_append : frontend.live (front ++ back) = (frontend.live front).live back :=
  List.foldl_append

private theorem trace_append {α : Type} (see : Frontend → Happening → List α) :
    frontend.trace see (front ++ back) =
      frontend.trace see front ++ (frontend.live front).trace see back := by
  induction front generalizing frontend with
  | nil => rfl
  | cons first rest ih =>
    simp only [List.cons_append, trace, ih, List.append_assoc]
    rfl

private theorem accepted_append :
    frontend.accepted (front ++ back) =
      frontend.accepted front + (frontend.live front).accepted back := by
  induction front generalizing frontend with
  | nil => exact (Nat.zero_add _).symm
  | cons first rest ih =>
    simp only [List.cons_append, accepted, ih, Nat.add_assoc]
    rfl

private theorem drawn_append (id : ConnectionId) :
    frontend.drawn (front ++ back) id =
      frontend.drawn front id + (frontend.live front).drawn back id := by
  induction front generalizing frontend with
  | nil => exact (Nat.zero_add _).symm
  | cons first rest ih =>
    simp only [List.cons_append, drawn, ih, Nat.add_assoc]
    rfl

variable {front back}

/-- A life is in range until its end. -/
theorem InRange.of_append (range : frontend.InRange (front ++ back)) : frontend.InRange front where
  connections := by
    have whole := range.connections
    rw [accepted_append] at whole
    omega
  handles id := by
    have whole := range.handles id
    rw [drawn_append] at whole
    omega

/-- A life in range is so until after each of its happenings. -/
theorem InRange.of_cons {happening : Happening}
    (range : frontend.InRange (front ++ happening :: back)) :
    frontend.InRange (front ++ [happening]) := by
  rw [List.append_cons] at range
  exact range.of_append

end Append

section Concat

variable (config : Config) (life : Life) (happening : Happening)

/-- A life that is longer by one happening takes one step more. -/
theorem after_concat : after config (life ++ [happening]) =
    ((after config life).happen happening).frontend :=
  live_append life [happening]

/-- Of a life that is longer by one happening shows besides what shows of this one. -/
theorem history_concat {α : Type} (see : Frontend → Happening → List α) :
    history config see (life ++ [happening]) =
      history config see life ++ see (after config life) happening := by
  rw [history, trace_append]
  simp only [trace, List.append_nil]
  rfl

private theorem accepted_concat : (start config).state.accepted (life ++ [happening]) =
    (start config).state.accepted life +
      ((after config life).asked happening).elim 0 fun asked => asked.2.accepted := by
  rw [accepted_append]
  rfl

/-- A life that is longer by one happening draws what this one draws besides. -/
theorem drawn_concat : (start config).state.drawn (life ++ [happening]) = fun id =>
    (start config).state.drawn life id + ((after config life).asked happening).elim 0 fun asked =>
      (after config life).server.drawnBy asked.1 asked.2 id := by
  funext id
  rw [drawn_append]
  rfl

end Concat

section Happen

variable {frontend : Frontend} {config : Config} {accepted : Nat} {drawn : ConnectionId → Nat}
  (sound : frontend.Sound config accepted drawn)

include sound

open Turn in
/-- A client that went away is forgotten. -/
theorem proceeds_forget {client : ClientId} (spent : frontend.isSpent client = true)
    {framed : List (CallbackId × ObjectId)} :
    Proceeds config accepted drawn { frontend }
      { frontend := { frontend with clients := frontend.clients.erase client } } none framed := by
  obtain ⟨state, found, left⟩ := (Option.any_eq_true _ _).mp spent
  obtain ⟨-, dead⟩ := Bool.and_eq_true_iff.mp left
  have there : frontend.ties.known client = true := by
    simp [ties, Arena.contains, found]
  have bare (id : ObjectId) (own : id.client = client) : frontend.ties.stands id = none := by
    by_contra alive
    obtain ⟨resource, stands⟩ := Option.ne_none_iff_exists'.mp alive
    obtain ⟨object, listed, alive, -⟩ := stands_eq_some.mp stands
    obtain ⟨state', found', held⟩ := Option.bind_eq_some_iff.mp listed
    cases (own ▸ found').symm.trans found
    have gone := List.all_eq_true.mp dead object (List.mem_of_getElem? held)
    rw [alive] at gone
    cases gone
  have move := Ties.Move.forget there bare
  rw [← ties_forget (sound.tied.clients.arrived client there) bare] at move
  exact .of_minds sound ⟨.of_move move rfl rfl, rfl⟩

omit sound in
/-- Entries that are purged do not concern the server. -/
theorem server_purges (gone : List ConnectionId) :
    (gone.foldl purge frontend).server = frontend.server := by
  induction gone generalizing frontend with
  | nil => rfl
  | cons first rest ih => exact ih

omit sound in
variable (frontend) in
private theorem nodup_bindings_purges (distinct : frontend.bindings.keys.Nodup)
    (gone : List ConnectionId) : (gone.foldl purge frontend).bindings.keys.Nodup := by
  induction gone generalizing frontend with
  | nil => exact distinct
  | cons first rest ih => exact ih _ (nodup_bindings_purge distinct first)

omit sound in
private theorem sent_reap (turn : Turn) : turn.reap.sent = turn.sent := by
  change (List.foldl _ turn _).sent = _
  generalize turn.frontend.departed = gone
  induction gone generalizing turn with
  | nil => rfl
  | cons first rest ih => exact ih _

omit sound in
/-- To drop clients is a run of the server. -/
theorem disconnectAll_eq_run (server : Server) (gone : List ConnectionId) :
    server.disconnectAll gone =
      server.run (gone.map fun connection => (.withFile, .disconnect connection)) := by
  rw [Server.run, List.foldl_map]
  rfl

open Turn in
/-- Connections are reaped. -/
theorem proceeds_reap {framed : List (CallbackId × ObjectId)} :
    Proceeds config accepted drawn { frontend } (Turn.reap { frontend }) none framed := by
  have move := move_reap { frontend } sound.distinct
  have reaped := frontend_reap { frontend }
  have server : (Turn.reap { frontend }).frontend.server =
      frontend.server.disconnectAll frontend.departed := by
    rw [reaped]
    exact server_purges _
  refine .of_moves sound ⟨?_, ?_, move.tied sound.tied, ?_⟩ (.single move)
    ⟨⟨_, ?_, server.trans (disconnectAll_eq_run ..)⟩, [], ?_, nofun⟩
  · rw [server]
    exact sound.server.disconnectAll _
  · rw [server]
    exact sound.quiet.disconnectAll sound.server.named _
  · rw [reaped]
    exact nodup_bindings_purges { frontend with
      server := frontend.server.disconnectAll frontend.departed } sound.distinct _
  · intro entry listed
    obtain ⟨connection, -, rfl⟩ := List.mem_map.mp listed
    rfl
  · rw [sent_reap, List.append_nil]

open Turn in
/-- The owner subscribes, or takes something that was published. -/
theorem proceeds_subscribe {framed : List (CallbackId × ObjectId)} {host : Host}
    {operation : Operation} (subscribes : operation.subscribes = true) :
    Proceeds config accepted drawn { frontend }
      { frontend := { frontend with server := frontend.server.next host operation } } none
      framed := by
  have calm : operation.isCalm = true := by
    cases operation <;> first | rfl | cases subscribes
  have silent : operation.isSilent = true := by
    cases operation <;> first | rfl | cases subscribes
  have drawless : operation.draws = false := by
    cases operation <;> first | rfl | cases subscribes
  have named := sound.server.named
  have same : Frontend.ties { frontend with server := frontend.server.next host operation } =
      frontend.ties := by
    rw [ties_server, Server.census_next_of_calm named host calm,
      funext (Server.isConnected_next named host operation
        (Operation.isWithin_of_isCalm calm))]
    rfl
  refine .of_moves sound ⟨sound.server.next_of_drawless host operation drawless,
    sound.quiet.next named host operation silent, same ▸ sound.tied, sound.distinct⟩ (same ▸ .refl)
    ⟨⟨[(host, operation)], by simpa using silent, rfl⟩, [], rfl, nofun⟩

/-- **Whatever happens, the frontend proceeds.** -/
theorem proceeds_happen (happening : Happening)
    (room : accepted + (frontend.asked happening).elim 0 (fun asked => asked.2.accepted) ≤
      UInt32.size)
    (rooms : ∀ id, drawn id + ((frontend.asked happening).elim 0 fun asked =>
      frontend.server.drawnBy asked.1 asked.2 id) ≤ UInt32.size) :
    Turn.Proceeds config accepted drawn { frontend } (frontend.happen happening)
      (frontend.asked happening) (frontend.entered happening) := by
  have still {framed : List (CallbackId × ObjectId)} :
      Turn.Proceeds config accepted drawn { frontend } { frontend } none framed :=
    .of_minds sound (.refl _)
  cases happening with
  | act host action =>
    simp only [happen, asked, entered] at room rooms ⊢
    cases heard : frontend.ignores action with
    | true => exact still
    | false =>
      simp only [heard, Bool.false_eq_true, if_false] at room rooms ⊢
      refine Turn.proceeds_act sound heard ?_ fun operation comes id => ?_
      · cases asks : frontend.asks action <;> simp_all
      · have fits := rooms id
        dsimp only at comes
        rw [comes] at fits
        exact fits
  | destroy id =>
    simp only [happen, asked, entered]
    cases served : frontend.isConnected id.client with
    | true => exact still
    | false => exact Turn.proceeds_destroy sound fun _ => served
  | forget client =>
    simp only [happen, asked, entered]
    cases spent : frontend.isSpent client with
    | true => exact proceeds_forget sound spent
    | false => exact still
  | reap => exact proceeds_reap sound
  | subscribe host operation =>
    simp only [happen, asked, entered]
    cases subscribes : operation.subscribes with
    | true => exact proceeds_subscribe sound subscribes
    | false => exact still

end Happen

section After

variable {config : Config} {life : Life} {happening : Happening}

/-- Nothing is tied to a fresh frontend. -/
theorem sound_start (config : Config) :
    (start config).state.Sound config 0 fun _ => 0 where
  server := Server.isAfter_start config
  quiet := fun _ _ live => nomatch live
  distinct := List.nodup_nil
  meant := fun id idle => nomatch idle.served
  tied := by
    have unborn (id : ObjectId) : (start config).state.ties.born id ≠ true := nofun
    constructor
    case clients =>
      refine ⟨nofun, nofun, nofun, nofun, nofun, ?_, nofun, nofun, fun id born => ?_⟩
      · exact fun client there => (there.elim nofun fun owned => (owned rfl).elim)
      · exact (unborn id born).elim
    case pools => exact ⟨nofun, nofun, nofun, nofun, fun _ => rfl, nofun, nofun⟩
    case within =>
      exact ⟨nofun, nofun, fun _ held => (held rfl).elim, fun _ held => (held rfl).elim,
        fun _ held => (held rfl).elim, fun _ held => (held rfl).elim⟩
    case surfaces => exact ⟨nofun, nofun, fun _ held => (held rfl).elim, nofun⟩
    case callbacks =>
      exact ⟨nofun, nofun, fun _ held => (held rfl).elim, nofun, nofun, nofun, nofun, nofun⟩
    case buffers => exact ⟨nofun, nofun, nofun, nofun⟩
    case windows =>
      exact ⟨nofun, fun _ held => (held rfl).elim, nofun, fun _ held => (held rfl).elim, nofun⟩
    case bindings => exact ⟨nofun, nofun, nofun, nofun⟩

/-- Whatever happens in range proceeds from a sound frontend. -/
theorem Sound.proceeds (range : (start config).state.InRange (life ++ [happening]))
    (sound : (after config life).Sound config ((start config).state.accepted life)
      ((start config).state.drawn life)) :
    Turn.Proceeds config ((start config).state.accepted life) ((start config).state.drawn life)
      { frontend := after config life } ((after config life).happen happening)
      ((after config life).asked happening) ((after config life).entered happening) := by
  obtain ⟨connections, handles⟩ := range
  rw [accepted_concat] at connections
  rw [drawn_concat] at handles
  exact proceeds_happen sound happening connections handles

/-- **After a life in range everything is sound.** -/
theorem sound_after (range : (start config).state.InRange life) :
    (after config life).Sound config ((start config).state.accepted life)
      ((start config).state.drawn life) := by
  induction life using List.reverseRecOn with
  | nil => exact sound_start config
  | append_singleton life happening ih =>
    have proceeds := (ih range.of_append).proceeds range
    rw [after_concat, accepted_concat, drawn_concat]
    exact proceeds.sound

/-- **Whatever happens in a life in range, the frontend proceeds.** -/
theorem proceeds_after (range : (start config).state.InRange (life ++ [happening])) :
    Turn.Proceeds config ((start config).state.accepted life) ((start config).state.drawn life)
      { frontend := after config life } ((after config life).happen happening)
      ((after config life).asked happening) ((after config life).entered happening) :=
  (sound_after range.of_append).proceeds range

/-- A life of no more actions than a counter has values is in range. -/
theorem inRange_of_actions (life : Life) (few : life.countP Happening.isAction ≤ UInt32.size) :
    (start config).state.InRange life := by
  suffices counted : (start config).state.InRange life ∧
      (start config).state.accepted life ≤ life.countP Happening.isAction ∧
        ∀ id, (start config).state.drawn life id ≤ life.countP Happening.isAction from counted.1
  induction life using List.reverseRecOn with
  | nil => exact ⟨⟨Nat.zero_le _, fun _ => Nat.zero_le _⟩, Nat.zero_le _, fun _ => Nat.zero_le _⟩
  | append_singleton life happening ih =>
    rw [List.countP_append, List.countP_singleton] at few ⊢
    obtain ⟨range, accepted, drawn⟩ := ih (Nat.le_trans (Nat.le_add_right ..) few)
    have numbered := (sound_after range).server.accounted.toNumbered
    have bounds : (start config).state.accepted (life ++ [happening]) ≤
          life.countP Happening.isAction + (if happening.isAction then 1 else 0) ∧
        ∀ id, (start config).state.drawn (life ++ [happening]) id ≤
          life.countP Happening.isAction + (if happening.isAction then 1 else 0) := by
      rw [accepted_concat, drawn_concat]
      cases asks : (after config life).asked happening with
      | none =>
        exact ⟨Nat.le_add_right_of_le accepted, fun id => Nat.le_add_right_of_le (drawn id)⟩
      | some asked =>
        have acts : happening.isAction = true := by
          cases happening with
          | act => rfl
          | destroy | forget | reap | subscribe => cases asks
        rw [acts, if_pos rfl] at few ⊢
        have accepts := Nat.add_le_add accepted asked.2.accepted_le_one
        exact ⟨accepts, fun id => Nat.add_le_add (drawn id)
          (numbered.drawnBy_le_one (Nat.le_trans accepts few) id)⟩
    exact ⟨⟨Nat.le_trans bounds.1 few, fun id => Nat.le_trans (bounds.2 id) few⟩, bounds⟩

/-- A life of no more happenings than a counter has values is in range. -/
theorem inRange_of_length (life : Life) (short : life.length ≤ UInt32.size) :
    (start config).state.InRange life :=
  inRange_of_actions life (Nat.le_trans List.countP_le_length short)

end After

end Frontend

end DisplayServer
