import DisplayServer.Proofs.Handles
import Mathlib.Data.List.Induction

/-! # Scripts and the handles that they draw

A script is a sequence of operations, each in the surroundings that it finds. A connection draws its
handles from a counter of 32 bits, and the server the numbers of connections from another one. The
counters stand at the numbers of handles drawn and clients accepted, as far as these fit into them
(`Server.Numbered`). A script is in range (`Server.InRange`) if no counter is drawn from more often
than it has values. As long as that is so, everything live lies behind the counters
(`Server.Accounted`), and what an operation preserves holds after a script
(`Server.after_induction`).
-/

namespace DisplayServer

/-- Operations, each in the surroundings that it finds, the first one first. -/
abbrev Script := List (Host × Operation)

/-- The number of clients that an operation accepts. -/
def Operation.accepted : Operation → Nat
  | .connect => 1
  | _ => 0

/-- An operation accepts at most one client. -/
theorem Operation.accepted_le_one (operation : Operation) : operation.accepted ≤ 1 := by
  cases operation with
  | connect => exact Nat.le_refl 1
  | _ => exact Nat.zero_le 1

/-- The number of clients that a script accepts. -/
def Script.accepted : Script → Nat
  | [] => 0
  | (_, operation) :: rest => operation.accepted + accepted rest

/-- A host with one file of sixteen bytes. -/
def Host.withFile : Host := { files := ⟨[(0, { length := 16 })]⟩ }

/-- A client shows a buffer on a surface and takes it back. -/
def Script.takenBack : Script :=
  let client : ConnectionId := ⟨0⟩
  let buffer : BufferId := ⟨client, 1⟩
  let surface : SurfaceId := ⟨client, 2⟩
  [.connect, .createPool client (.regular 0 .readWrite) 16,
    .createBuffer ⟨client, 0⟩ ⟨0, 2, 2, 8, .argb8888⟩, .createSurface client 4,
    .attach surface (.buffer buffer) .zero, .commit surface,
    .attach surface .removed .zero, .commit surface].map fun operation => (.withFile, operation)

namespace Server

/-- The number of handles that an operation draws on a connection. -/
def drawnBy (server : Server) (host : Host) (operation : Operation) (id : ConnectionId) : Nat :=
  match server.connection? id, (server.next host operation).connection? id with
  | some old, some new => old.drawnUntil new
  | _, _ => 0

/-- The number of handles that a script draws on a connection. -/
def drawn (server : Server) : Script → ConnectionId → Nat
  | [], _ => 0
  | (host, operation) :: rest, id =>
    server.drawnBy host operation id + (server.next host operation).drawn rest id

/-- No counter of handles is drawn from more often than it has values. -/
structure InRange (server : Server) (script : Script) : Prop where
  connections : script.accepted ≤ UInt32.size
  handles : ∀ id, server.drawn script id ≤ UInt32.size

/-- A server that was started with some configuration, after a script. -/
def after (config : Config) (script : Script) : Server :=
  (Server.start config).state.run script

/-- The number of handles that a script draws on a connection of a fresh server. -/
def drawnAfter (config : Config) (script : Script) (id : ConnectionId) : Nat :=
  (Server.start config).state.drawn script id

/-- What shows in the course of a script, where `see` says what shows in one operation. -/
def trace {α : Type} (server : Server) (see : Server → Host → Operation → List α) :
    Script → List α
  | [] => []
  | (host, operation) :: rest =>
    see server host operation ++ (server.next host operation).trace see rest

/-- What shows in the course of a script on a fresh server. -/
def history {α : Type} (config : Config) (see : Server → Host → Operation → List α)
    (script : Script) : List α :=
  (Server.start config).state.trace see script

section Append

variable (server : Server) (front back : Script)

/-- To run two scripts is to run one after the other. -/
theorem run_append : server.run (front ++ back) = (server.run front).run back :=
  List.foldl_append

/-- Two scripts draw what each of them draws. -/
theorem drawn_append (id : ConnectionId) :
    server.drawn (front ++ back) id = server.drawn front id + (server.run front).drawn back id := by
  induction front generalizing server with
  | nil => exact (Nat.zero_add _).symm
  | cons first rest ih =>
    simp only [List.cons_append, drawn, ih, Nat.add_assoc]
    rfl

/-- Of two scripts shows what shows of each. -/
theorem trace_append {α : Type} (see : Server → Host → Operation → List α) :
    server.trace see (front ++ back) =
      server.trace see front ++ (server.run front).trace see back := by
  induction front generalizing server with
  | nil => rfl
  | cons first rest ih =>
    simp only [List.cons_append, trace, ih, List.append_assoc]
    rfl

/-- Two scripts accept as many clients as each of them. -/
theorem accepted_append : Script.accepted (front ++ back) = front.accepted + back.accepted := by
  induction front with
  | nil => exact (Nat.zero_add _).symm
  | cons first rest ih => simp only [List.cons_append, Script.accepted, ih, Nat.add_assoc]

/-- A script is in range until its end. -/
theorem InRange.of_append {server : Server} {front back : Script}
    (range : server.InRange (front ++ back)) : server.InRange front where
  connections := by
    have whole := range.connections
    rw [accepted_append] at whole
    omega
  handles id := by
    have whole := range.handles id
    rw [drawn_append] at whole
    omega

/-- A script in range is so until after each of its operations. -/
theorem InRange.of_cons {server : Server} {front back : Script} {entry : Host × Operation}
    (range : server.InRange (front ++ entry :: back)) : server.InRange (front ++ [entry]) := by
  rw [List.append_cons] at range
  exact range.of_append

end Append

/-- **The counters count.** The server has accepted some clients and drawn some handles on each
connection, and its counters stand there, whether or not the handles have run out. -/
structure Numbered (server : Server) (accepted : Nat) (drawn : ConnectionId → Nat) : Prop where
  named : server.Named
  counter : server.nextConnection = UInt32.ofNat accepted
  ordered : server.connections.keys.Pairwise fun first second => first.number < second.number
  below : ∀ id ∈ server.connections.keys, id.number.toNat < accepted
  untouched : ∀ id, accepted ≤ id.number.toNat → drawn id = 0
  counters : ∀ id client, server.connection? id = some client →
    client.nextIndex = UInt32.ofNat (drawn id)

/-- **The counters account for the handles.** Everything live lies behind them. -/
structure Accounted (server : Server) (accepted : Nat) (drawn : ConnectionId → Nat) : Prop
    extends server.Numbered accepted drawn where
  clients : ∀ id client, server.connection? id = some client → client.Drawn (drawn id)

/-- An operation is about to be carried out, and no counter runs out. -/
structure Ready (server : Server) (host : Host) (operation : Operation) (accepted : Nat)
    (drawn : ConnectionId → Nat) : Prop extends server.Accounted accepted drawn where
  room : accepted + operation.accepted ≤ UInt32.size
  rooms : ∀ id, drawn id + server.drawnBy host operation id ≤ UInt32.size

section Step

variable {server : Server} {host : Host} {operation : Operation} {accepted : Nat}
  {drawn : ConnectionId → Nat}

/-- While the numbers of connections last, they are distinct. -/
theorem Numbered.nodup (numbered : server.Numbered accepted drawn) :
    server.connections.keys.Nodup :=
  numbered.ordered.imp fun {first second} before same => by
    rw [same] at before
    exact UInt32.lt_irrefl _ before

/-- The number of the next client is the number of clients accepted. -/
theorem Numbered.number_eq (numbered : server.Numbered accepted drawn)
    (room : accepted < UInt32.size) : server.nextConnection.toNat = accepted := by
  rw [numbered.counter, UInt32.toNat_ofNat_of_lt' room]

/-- A client is accepted under a number that nobody has. -/
theorem Numbered.notMem (numbered : server.Numbered accepted drawn)
    (room : accepted < UInt32.size) :
    (⟨server.nextConnection⟩ : ConnectionId) ∉ server.connections.keys := by
  intro listed
  have below := numbered.below _ listed
  rw [numbered.number_eq room] at below
  exact Nat.lt_irrefl _ below

/-- What is drawn on a connection that stays is by how much its counter moved. -/
theorem drawnBy_eq {id : ConnectionId} {old new : Connection}
    (before : server.connection? id = some old)
    (after : (server.next host operation).connection? id = some new) :
    server.drawnBy host operation id = old.drawnUntil new := by
  simp only [drawnBy, before, after]

/-- Nothing is drawn on a connection that is not live. -/
theorem drawnBy_of_notMem {id : ConnectionId} (dead : id ∉ server.connections.keys) :
    server.drawnBy host operation id = 0 := by
  simp only [drawnBy, connection?, Arena.get?_eq_none_of_notMem dead]

/-- Connections come in the order of their numbers, also when one more is accepted. -/
theorem keys_next (named : server.Named) (host : Host) (operation : Operation) :
    (server.next host operation).connections.keys.Sublist
      (server.connections.keys ++ List.replicate operation.accepted ⟨server.nextConnection⟩) := by
  cases operation with
  | connect => exact Arena.keys_insert_sublist ..
  | disconnect gone =>
    refine List.Sublist.trans ?_ (List.sublist_append_left ..)
    change (server.disconnect gone).state.connections.keys.Sublist _
    unfold disconnect
    cases server.connection? gone with
    | none => exact .refl _
    | some client => exact Arena.keys_erase_sublist ..
  | _ =>
    rw [(effect_next named host _ (by simp) (by simp)).keys]
    exact List.sublist_append_left ..

/-- The server counts the clients that it accepts, and nothing else. -/
theorem nextConnection_next (named : server.Named) (host : Host) (operation : Operation) :
    (server.next host operation).nextConnection =
      server.nextConnection + UInt32.ofNat operation.accepted := by
  cases operation with
  | connect => rfl
  | disconnect gone =>
    change (server.disconnect gone).state.nextConnection = _
    unfold disconnect
    cases server.connection? gone <;> exact (UInt32.add_zero _).symm
  | _ =>
    rw [(effect_next named host _ (by simp) (by simp)).nextConnection]
    exact (UInt32.add_zero _).symm

/-- Where a live connection comes from, when no counter runs out: a client that was just accepted
had no connection before. -/
theorem Numbered.connection? (numbered : server.Numbered accepted drawn)
    (room : accepted + operation.accepted ≤ UInt32.size) {id : ConnectionId} {new : Connection}
    (live : (server.next host operation).connection? id = some new) :
    (operation = .connect ∧ new = { id } ∧ id ∉ server.connections.keys ∧
        id.number.toNat = accepted) ∨
      ∃ old, server.connection? id = some old ∧
        Connection.Change server host operation old new := by
  rcases connection?_next numbered.named live with ⟨rfl, rfl, rfl⟩ | ⟨old, found, change⟩
  · exact .inl ⟨rfl, rfl, numbered.notMem room, numbered.number_eq room⟩
  · exact .inr ⟨old, found, change⟩

/-- An operation draws at most one handle. -/
theorem Numbered.drawnBy_le_one (numbered : server.Numbered accepted drawn)
    (room : accepted + operation.accepted ≤ UInt32.size) (id : ConnectionId) :
    server.drawnBy host operation id ≤ 1 := by
  cases before : server.connection? id with
  | none => simp only [drawnBy, before, Nat.zero_le]
  | some old =>
    cases after : (server.next host operation).connection? id with
    | none => simp only [drawnBy, before, after, Nat.zero_le]
    | some new =>
      rw [drawnBy_eq before after]
      rcases numbered.connection? room after with ⟨_, _, dead, _⟩ | ⟨_, found, change⟩
      · exact (dead (Arena.mem_keys_of_get? before)).elim
      · cases before.symm.trans found
        exact change.drawnUntil_le_one

/-- On a connection that stays there is room for what the next operation draws. -/
theorem Ready.client (ready : server.Ready host operation accepted drawn) {id : ConnectionId}
    {old new : Connection} (before : server.connection? id = some old)
    (after : (server.next host operation).connection? id = some new) :
    old.Drawn (drawn id) ∧ drawn id + old.drawnUntil new ≤ UInt32.size :=
  ⟨ready.clients id old before, drawnBy_eq before after ▸ ready.rooms id⟩

/-- One operation moves the counters on. -/
theorem Numbered.next (numbered : server.Numbered accepted drawn)
    (room : accepted + operation.accepted ≤ UInt32.size) :
    (server.next host operation).Numbered (accepted + operation.accepted)
      fun id => drawn id + server.drawnBy host operation id where
  named := named_next numbered.named host operation
  counter := by rw [nextConnection_next numbered.named, numbered.counter, UInt32.ofNat_add]
  ordered := by
    refine List.Pairwise.sublist (keys_next numbered.named host operation) ?_
    cases operation with
    | connect =>
      refine List.pairwise_append.mpr
        ⟨numbered.ordered, List.pairwise_singleton .., fun id listed other last => ?_⟩
      rw [List.mem_singleton.mp last, UInt32.lt_iff_toNat_lt, numbered.number_eq room]
      exact numbered.below id listed
    | _ => exact (List.append_nil _).symm ▸ numbered.ordered
  below id listed := by
    obtain ⟨new, live⟩ := Arena.get?_of_mem_keys listed
    rcases numbered.connection? room live with ⟨rfl, _, _, number⟩ | ⟨old, found, _⟩
    · exact number ▸ Nat.lt_succ_self _
    · exact Nat.lt_add_right _ (numbered.below id (Arena.mem_keys_of_get? found))
  untouched id ahead := by
    have dead : id ∉ server.connections.keys := fun listed => by
      have behind := numbered.below id listed
      omega
    rw [numbered.untouched id (by omega), drawnBy_of_notMem dead]
  counters id new live := by
    rcases numbered.connection? room live with ⟨rfl, rfl, dead, number⟩ | ⟨old, found, _⟩
    · rw [numbered.untouched id (Nat.le_of_eq number.symm), drawnBy_of_notMem dead]
      rfl
    · rw [drawnBy_eq found live, UInt32.ofNat_add, ← numbered.counters id old found,
        Connection.nextIndex_eq_add_drawnUntil]

/-- **One operation keeps the accounts.** -/
theorem Ready.next (ready : server.Ready host operation accepted drawn) :
    (server.next host operation).Accounted (accepted + operation.accepted)
      fun id => drawn id + server.drawnBy host operation id where
  toNumbered := ready.toNumbered.next ready.room
  clients id new live := by
    rcases ready.connection? ready.room live with ⟨rfl, rfl, dead, number⟩ | ⟨old, found, change⟩
    · rw [ready.untouched id (Nat.le_of_eq number.symm), drawnBy_of_notMem dead]
      exact .empty id
    · obtain ⟨behind, room⟩ := ready.client found live
      rw [drawnBy_eq found live]
      exact change.drawn behind room

end Step

section Runs

variable (config : Config)

/-- A fresh server has accepted nobody. -/
theorem numbered_start : (Server.start config).state.Numbered 0 fun _ => 0 where
  named _ _ live := by cases live
  counter := rfl
  ordered := List.Pairwise.nil
  below _ listed := by cases listed
  untouched _ _ := rfl
  counters _ _ live := by cases live

private theorem accounted_start : (Server.start config).state.Accounted 0 fun _ => 0 where
  toNumbered := numbered_start config
  clients _ _ live := by cases live

/-- A script that is longer by one operation takes one step more. -/
theorem after_concat (script : Script) (host : Host) (operation : Operation) :
    after config (script ++ [(host, operation)]) = (after config script).next host operation :=
  run_append ..

/-- A script that is longer by one operation draws what this one draws besides. -/
theorem drawnAfter_concat (script : Script) (host : Host) (operation : Operation)
    (id : ConnectionId) :
    drawnAfter config (script ++ [(host, operation)]) id =
      drawnAfter config script id + (after config script).drawnBy host operation id :=
  drawn_append _ script [(host, operation)] id

theorem accepted_concat (script : Script) (host : Host) (operation : Operation) :
    Script.accepted (script ++ [(host, operation)]) = script.accepted + operation.accepted :=
  accepted_append ..

/-- Of a script that is longer by one operation shows besides what shows of this one. -/
theorem history_concat {α : Type} (see : Server → Host → Operation → List α) (script : Script)
    (host : Host) (operation : Operation) :
    history config see (script ++ [(host, operation)]) =
      history config see script ++ see (after config script) host operation :=
  (trace_append ..).trans (congrArg (history config see script ++ ·) (List.append_nil _))

/-- After every script, connections are live under their own names. -/
theorem named_after (script : Script) : (after config script).Named := by
  induction script using List.reverseRecOn with
  | nil => exact (numbered_start config).named
  | append_singleton script entry ih =>
    rw [after_concat]
    exact named_next ih entry.1 entry.2

/-- The server counts the clients that it accepts. -/
theorem nextConnection_after (script : Script) :
    (after config script).nextConnection = UInt32.ofNat script.accepted := by
  induction script using List.reverseRecOn with
  | nil => rfl
  | append_singleton script entry ih =>
    rw [after_concat, accepted_concat, nextConnection_next (named_after config script), ih,
      UInt32.ofNat_add]

variable {config}

/-- What shows in the course of a script shows in one of its operations. -/
theorem mem_history_iff {α : Type} {see : Server → Host → Operation → List α} {script : Script}
    {item : α} :
    item ∈ history config see script ↔ ∃ front host operation back,
      script = front ++ (host, operation) :: back ∧
        item ∈ see (after config front) host operation := by
  constructor
  · induction script using List.reverseRecOn with
    | nil => exact fun shows => (List.not_mem_nil shows).elim
    | append_singleton script entry ih =>
      obtain ⟨host, operation⟩ := entry
      rw [history_concat, List.mem_append]
      rintro (earlier | last)
      · obtain ⟨front, host', operation', back, rfl, shows⟩ := ih earlier
        exact ⟨front, host', operation', back ++ [(host, operation)], by simp, shows⟩
      · exact ⟨script, host, operation, [], rfl, last⟩
  · rintro ⟨front, host, operation, back, rfl, shows⟩
    rw [history, trace_append]
    exact List.mem_append_right _ (List.mem_append_left _ shows)

/-- After a script that accepts no more clients than there are numbers, the counters count. -/
theorem numbered_after (script : Script) (few : script.accepted ≤ UInt32.size) :
    (after config script).Numbered script.accepted (drawnAfter config script) := by
  induction script using List.reverseRecOn with
  | nil => exact numbered_start config
  | append_singleton script entry ih =>
    rw [accepted_concat] at few
    rw [after_concat, funext (drawnAfter_concat config script entry.1 entry.2), accepted_concat]
    exact (ih (by omega)).next few

/-- The counters are ready for the last operation of a script in range. -/
theorem ready_of_accounted {script : Script} {host : Host} {operation : Operation}
    (range : (Server.start config).state.InRange (script ++ [(host, operation)]))
    (accounted : (after config script).Accounted script.accepted (drawnAfter config script)) :
    (after config script).Ready host operation script.accepted (drawnAfter config script) where
  toAccounted := accounted
  room := accepted_concat script host operation ▸ range.connections
  rooms id := drawnAfter_concat config script host operation id ▸ range.handles id

/-- **After a script in range the accounts are right.** -/
theorem accounted_after (script : Script) (range : (Server.start config).state.InRange script) :
    (after config script).Accounted script.accepted (drawnAfter config script) := by
  induction script using List.reverseRecOn with
  | nil => exact accounted_start config
  | append_singleton script entry ih =>
    have next := (ready_of_accounted range (ih range.of_append)).next
    rw [after_concat, funext (drawnAfter_concat config script entry.1 entry.2), accepted_concat]
    exact next

/-- In the course of a script in range, the counters are ready for each operation. -/
theorem ready_after {script : Script} {host : Host} {operation : Operation}
    (range : (Server.start config).state.InRange (script ++ [(host, operation)])) :
    (after config script).Ready host operation script.accepted (drawnAfter config script) :=
  ready_of_accounted range (accounted_after script range.of_append)

/-- A script of no more operations than a counter has values is in range. -/
theorem inRange_of_length (script : Script) (short : script.length ≤ UInt32.size) :
    (Server.start config).state.InRange script := by
  suffices counted : (Server.start config).state.InRange script ∧
      script.accepted ≤ script.length ∧ ∀ id, drawnAfter config script id ≤ script.length from
    counted.1
  induction script using List.reverseRecOn with
  | nil => exact ⟨⟨Nat.zero_le _, fun _ => Nat.zero_le _⟩, Nat.zero_le _, fun _ => Nat.zero_le _⟩
  | append_singleton script entry ih =>
    obtain ⟨host, operation⟩ := entry
    rw [List.length_append, List.length_singleton] at short ⊢
    obtain ⟨range, accepted, drawn⟩ := ih (by omega)
    have one := operation.accepted_le_one
    have accepts : Script.accepted (script ++ [(host, operation)]) ≤ script.length + 1 := by
      rw [accepted_concat]
      omega
    have draws (id : ConnectionId) :
        drawnAfter config (script ++ [(host, operation)]) id ≤ script.length + 1 := by
      rw [drawnAfter_concat]
      exact Nat.add_le_add (drawn id)
        ((accounted_after script range).drawnBy_le_one (by omega) id)
    exact ⟨⟨Nat.le_trans accepts short, fun id => Nat.le_trans (draws id) short⟩, accepts, draws⟩

/-- **What holds after every script in range.** It is enough that it holds of a fresh server and
that every operation preserves it that leaves the counters in range. -/
theorem after_induction {motive : Script → Server → Prop}
    (start : motive [] (Server.start config).state)
    (step : ∀ script host operation,
      (Server.start config).state.InRange (script ++ [(host, operation)]) →
      motive script (after config script) →
      motive (script ++ [(host, operation)]) ((after config script).next host operation))
    (script : Script) (range : (Server.start config).state.InRange script) :
    motive script (after config script) := by
  induction script using List.reverseRecOn with
  | nil => exact start
  | append_singleton script entry ih =>
    rw [after_concat]
    exact step script entry.1 entry.2 range (ih range.of_append)

end Runs

end Server

end DisplayServer
