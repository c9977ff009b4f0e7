import DisplayServer.Frontend.Action
import DisplayServer.Proofs.Ties
import DisplayServer.Proofs.Draining

/-! # The ties of a frontend

The ties of a frontend (`Frontend.ties`) are its objects, the census of its server and its maps.
Whatever the frontend does to one of them moves the ties in one place: each change of a map, of an
object or of the server has its equation, and what a turn does to objects and clients is one of the
moves of `Ties`, or makes room for one.
-/

namespace DisplayServer

open Function (update update_self update_of_ne update_apply)
open Wire

/-- What the keys of an arena find after an insertion. -/
theorem Arena.get?_insert_eq {κ α : Type} [DecidableEq κ] (arena : Arena κ α) (key : κ)
    (value : α) : (arena.insert key value).get? = update arena.get? key (some value) := by
  funext other
  rw [get?_insert, update_apply]

/-- What the keys of an arena find after a removal. -/
theorem Arena.get?_erase_eq {κ α : Type} [DecidableEq κ] (arena : Arena κ α) (key : κ) :
    (arena.erase key).get? = update arena.get? key none := by
  funext other
  rw [get?_erase, update_apply]

private theorem Arena.get?_filter {κ α : Type} [DecidableEq κ] {arena : Arena κ α}
    (distinct : arena.keys.Nodup) (test : κ → α → Bool) (key : κ) :
    (arena.filter test).get? key = (arena.get? key).filter (test key) := by
  have distinct' : (arena.filter test).keys.Nodup :=
    distinct.sublist (List.Sublist.map Prod.fst List.filter_sublist)
  ext value
  rw [get?_eq_some_iff distinct', Option.filter_eq_some_iff, get?_eq_some_iff distinct]
  exact List.mem_filter

private theorem Arena.get?_filter_key {κ α : Type} [DecidableEq κ] (arena : Arena κ α)
    (test : κ → Bool) (key : κ) :
    (arena.filter fun key _ => test key).get? key =
      if test key then arena.get? key else none := by
  obtain ⟨entries⟩ := arena
  simp only [get?, filter]
  induction entries with
  | nil => simp
  | cons entry rest ih =>
    simp only [List.filter_cons, List.find?_cons]
    by_cases here : entry.1 = key <;> by_cases kept : test entry.1 = true <;> grind

namespace Server

variable {server : Server}

/-- Some connections go, one after the other. -/
def disconnectAll (server : Server) (gone : List ConnectionId) : Server :=
  gone.foldl (fun server connection => (server.disconnect connection).state) server

/-- Those who are dropped are not connected any more, and all others are. -/
theorem isConnected_disconnectAll (gone : List ConnectionId) (id : ConnectionId) :
    (server.disconnectAll gone).isConnected id =
      if decide (id ∈ gone) then false else server.isConnected id := by
  induction gone generalizing server with
  | nil => simp [disconnectAll]
  | cons first rest ih =>
    refine ih.trans ?_
    rw [isConnected_disconnect]
    grind

/-- The objects of those who are dropped leave the census. -/
theorem census_disconnectAll (gone : List ConnectionId) :
    (server.disconnectAll gone).census = server.census.without fun id => decide (id ∈ gone) := by
  induction gone generalizing server with
  | nil => simp [disconnectAll, Census.without]
  | cons first rest ih =>
    refine ih.trans ?_
    rw [census_disconnect]
    simp only [Census.without, Census.mk.injEq]
    refine ⟨?_, ?_, ?_, ?_, ?_, ?_⟩ <;> funext id <;> grind

variable {config : Config} {accepted : Nat} {drawn : ConnectionId → Nat}

/-- Some script leads to the server once clients are dropped. -/
theorem IsAfter.disconnectAll (isAfter : IsAfter config server accepted drawn)
    (gone : List ConnectionId) : IsAfter config (server.disconnectAll gone) accepted drawn := by
  induction gone generalizing server with
  | nil => exact isAfter
  | cons first rest ih =>
    exact ih (isAfter.next_of_drawless .withFile (.disconnect first) rfl)

/-- A server stays quiet when clients are dropped. -/
theorem IsQuiet.disconnectAll (quiet : server.IsQuiet) (named : server.Named)
    (gone : List ConnectionId) : (server.disconnectAll gone).IsQuiet := by
  induction gone generalizing server with
  | nil => exact quiet
  | cons first rest ih =>
    exact ih (quiet.next named .withFile (.disconnect first) rfl)
      (named_next named .withFile (.disconnect first))

end Server

namespace Frontend

/-- The frontend as far as its ties go. -/
def ties (frontend : Frontend) : Ties where
  toCensus := frontend.server.census
  core := frontend.server.isConnected
  nextClient := frontend.nextClient
  known := frontend.clients.contains
  owner client := (frontend.clients.get? client).bind Client.connection
  served := frontend.isConnected
  departed connection := decide (connection ∈ frontend.departed)
  born id :=
    (frontend.clients.get? id.client).elim (decide (id.client < frontend.nextClient)) fun client =>
      decide (id.index < client.objects.length)
  stands id := ((frontend.object? id).filter ProtocolObject.isAlive).map ProtocolObject.resource
  bindings := frontend.bindings.get?
  listeners := frontend.formatListeners.get?
  pools := frontend.pools.get?
  buffers := frontend.buffers.get?
  callbacks := frontend.callbacks.get?
  toplevels := frontend.toplevels.get?

variable {frontend : Frontend}

/-- What another server does to the ties of a frontend. -/
theorem ties_server (server : Server) :
    Frontend.ties { frontend with server } =
      { frontend.ties with toCensus := server.census, core := server.isConnected } := rfl

variable (frontend) in
private theorem ties_departed (departed : List ConnectionId) :
    Frontend.ties { frontend with departed } =
      { frontend.ties with departed := fun connection => decide (connection ∈ departed) } := rfl

private theorem ties_bindings (bindings : Arena ObjectId BindingId) :
    Frontend.ties { frontend with bindings } =
      { frontend.ties with bindings := bindings.get? } := rfl

private theorem ties_formatListeners (formatListeners : Arena BindingId ObjectId) :
    Frontend.ties { frontend with formatListeners } =
      { frontend.ties with listeners := formatListeners.get? } := rfl

private theorem ties_pools (pools : Arena PoolId PoolRefs) :
    Frontend.ties { frontend with pools } = { frontend.ties with pools := pools.get? } := rfl

private theorem ties_buffers (buffers : Arena BufferId ObjectId) :
    Frontend.ties { frontend with buffers } = { frontend.ties with buffers := buffers.get? } := rfl

private theorem ties_callbacks (callbacks : Arena CallbackId ObjectId) :
    Frontend.ties { frontend with callbacks } =
      { frontend.ties with callbacks := callbacks.get? } := rfl

private theorem ties_toplevels (toplevels : Arena ToplevelId ToplevelObjects) :
    Frontend.ties { frontend with toplevels } =
      { frontend.ties with toplevels := toplevels.get? } := rfl

section Maps

variable {ties : Ties} (tied : frontend.ties = ties)

include tied

/-- A pool that is entered is tied. -/
theorem ties_insertPool (key : PoolId) (value : PoolRefs) :
    Frontend.ties { frontend with pools := frontend.pools.insert key value } =
      { ties with pools := update ties.pools key (some value) } := by
  subst tied
  exact (ties_pools _).trans (by rw [Arena.get?_insert_eq]; rfl)

/-- A buffer that is entered is tied to its object. -/
theorem ties_insertBuffer (key : BufferId) (value : ObjectId) :
    Frontend.ties { frontend with buffers := frontend.buffers.insert key value } =
      { ties with buffers := update ties.buffers key (some value) } := by
  subst tied
  exact (ties_buffers _).trans (by rw [Arena.get?_insert_eq]; rfl)

/-- A callback that is entered is tied to its object. -/
theorem ties_insertCallback (key : CallbackId) (value : ObjectId) :
    Frontend.ties { frontend with callbacks := frontend.callbacks.insert key value } =
      { ties with callbacks := update ties.callbacks key (some value) } := by
  subst tied
  exact (ties_callbacks _).trans (by rw [Arena.get?_insert_eq]; rfl)

/-- A callback whose entry is removed is not tied any more. -/
theorem ties_eraseCallback (key : CallbackId) :
    Frontend.ties { frontend with callbacks := frontend.callbacks.erase key } =
      { ties with callbacks := update ties.callbacks key none } := by
  subst tied
  exact (ties_callbacks _).trans (by rw [Arena.get?_erase_eq]; rfl)

/-- A toplevel that is entered is tied to its objects. -/
theorem ties_insertToplevel (key : ToplevelId) (value : ToplevelObjects) :
    Frontend.ties { frontend with toplevels := frontend.toplevels.insert key value } =
      { ties with toplevels := update ties.toplevels key (some value) } := by
  subst tied
  exact (ties_toplevels _).trans (by rw [Arena.get?_insert_eq]; rfl)

/-- A binding that is entered is tied to its object. -/
theorem ties_insertBinding (key : ObjectId) (value : BindingId) :
    Frontend.ties { frontend with bindings := frontend.bindings.insert key value } =
      { ties with bindings := update ties.bindings key (some value) } := by
  subst tied
  exact (ties_bindings _).trans (by rw [Arena.get?_insert_eq]; rfl)

/-- An object that listens for formats is tied to its binding. -/
theorem ties_insertListener (key : BindingId) (value : ObjectId) :
    Frontend.ties { frontend with formatListeners := frontend.formatListeners.insert key value } =
      { ties with listeners := update ties.listeners key (some value) } := by
  subst tied
  exact (ties_formatListeners _).trans (by rw [Arena.get?_insert_eq]; rfl)

end Maps

/-- A resource stands behind an object as long as the object is alive. -/
theorem stands_eq_some {id : ObjectId} {resource : Resource} :
    frontend.ties.stands id = some resource ↔ ∃ object, frontend.object? id = some object ∧
      object.isAlive = true ∧ object.resource = resource := by
  simp [ties, Option.filter_eq_some_iff, and_assoc]

variable (frontend) in
private theorem object?_modifyObject (id other : ObjectId)
    (change : ProtocolObject → ProtocolObject) : (frontend.modifyObject id change).object? other =
      if other = id then (frontend.object? id).map change else frontend.object? other := by
  simp only [modifyObject, modifyClient, object?, Arena.get?_modify]
  obtain ⟨client, index⟩ := id
  obtain ⟨client', index'⟩ := other
  by_cases here : client' = client
  · subst here
    cases frontend.clients.get? client' with
    | none => simp
    | some state => simp [List.getElem?_modify]; grind
  · simp [here]

/-- A change of a client that keeps its connection shows in whether it is served and in its
objects. -/
theorem ties_modifyClient (id : ClientId) (change : Client → Client)
    (connection : ∀ client, (change client).connection = client.connection)
    {served : ClientId → Bool} {born : ObjectId → Bool} {stands : ObjectId → Option Resource}
    (serves : ∀ client, (frontend.modifyClient id change).isConnected client = served client)
    (bears : ∀ id', (frontend.modifyClient id change).ties.born id' = born id')
    (makes : ∀ id', (frontend.modifyClient id change).ties.stands id' = stands id') :
    (frontend.modifyClient id change).ties = { frontend.ties with served, born, stands } := by
  obtain rfl := funext serves
  obtain rfl := funext bears
  obtain rfl := funext makes
  have found := fun client => Arena.get?_modify frontend.clients id client change
  simp only [ties, modifyClient, Ties.mk.injEq, true_and, and_true]
  refine ⟨?_, ?_, rfl⟩ <;> funext other
  · simp only [Arena.contains, found]
    split <;> simp
  · rw [found]
    split
    · cases frontend.clients.get? other <;> simp [connection]
    · rfl

private theorem born_modifyClient (id : ClientId) (change : Client → Client)
    (length : ∀ client, (change client).objects.length = client.objects.length) (id' : ObjectId) :
    (frontend.modifyClient id change).ties.born id' = frontend.ties.born id' := by
  simp only [ties, modifyClient, Arena.get?_modify]
  split
  · cases frontend.clients.get? id'.client with
    | none => rfl
    | some => simp [length]
  · rfl

/-- What a change of an object does to the ties. -/
theorem ties_modifyObject (id : ObjectId) (change : ProtocolObject → ProtocolObject) :
    (frontend.modifyObject id change).ties = { frontend.ties with
      stands := update frontend.ties.stands id
        ((((frontend.object? id).map change).filter ProtocolObject.isAlive).map
          ProtocolObject.resource) } := by
  refine ties_modifyClient id.client (fun client =>
    { client with objects := client.objects.modify id.index change }) (fun _ => rfl)
    (fun client => ?_) (born_modifyClient _ _ fun _ => List.length_modify ..) fun other => ?_
  · simp only [ties, isConnected, modifyClient, Arena.get?_modify]
    split
    · cases frontend.clients.get? client <;> rfl
    · rfl
  · have found := frontend.object?_modifyObject id other change
    rw [modifyObject] at found
    simp only [ties, found, update_apply]
    split <;> simp_all

/-- An object gets another meaning. -/
theorem ties_establish {id : ObjectId} {old : Resource} (resource : Resource)
    (alive : frontend.ties.stands id = some old) :
    (frontend.modifyObject id fun object => { object with resource }).ties =
      { frontend.ties with stands := update frontend.ties.stands id (some resource) } := by
  obtain ⟨object, found, alive, -⟩ := stands_eq_some.mp alive
  rw [ties_modifyObject]
  simp [found, Option.filter, alive]

variable (frontend) in
/-- Nothing stands behind an object that has expired. -/
theorem ties_expire (id : ObjectId) :
    (frontend.modifyObject id fun object => { object with isAlive := false }).ties =
      { frontend.ties with stands := update frontend.ties.stands id none } := by
  rw [ties_modifyObject]
  cases frontend.object? id <;> simp [Option.filter]


variable (frontend) in
private theorem ties_dropped (client : ClientId) :
    (frontend.modifyClient client fun client => { client with isConnected := false }).ties =
      { frontend.ties with served := update frontend.ties.served client false } := by
  refine ties_modifyClient client (fun client => { client with isConnected := false })
    (fun _ => rfl) (fun other => ?_) (born_modifyClient _ _ fun _ => rfl) fun id => ?_
  · simp only [ties, isConnected, modifyClient, Arena.get?_modify, update_apply]
    split
    · cases frontend.clients.get? other <;> rfl
    · rfl
  · simp only [ties, object?, modifyClient, Arena.get?_modify]
    split
    · rename_i here
      rw [here]
      cases frontend.clients.get? client <;> rfl
    · rfl

/-- A client is forgotten whose objects are dead. -/
theorem ties_forget {client : ClientId} (arrived : client < frontend.nextClient)
    (bare : ∀ id, id.client = client → frontend.ties.stands id = none) :
    Frontend.ties { frontend with clients := frontend.clients.erase client } =
      { frontend.ties with
        known := update frontend.ties.known client false
        owner := update frontend.ties.owner client none
        served := update frontend.ties.served client false
        born := fun id => decide (id.client = client) || frontend.ties.born id } := by
  simp only [ties, Ties.mk.injEq, true_and, and_true] at bare ⊢
  refine ⟨?_, ?_, ?_, ?_, ?_⟩ <;> funext id <;>
    simp only [update_apply, Arena.contains, isConnected, object?, Arena.get?_erase]
  case refine_5 =>
    have gone := bare id
    simp only [object?] at gone
    split <;> simp_all
  all_goals split <;> simp_all

variable (frontend) in
/-- A client arrives. -/
theorem ties_enter (connection : Option ConnectionId) (seat : Nat)
    (fresh : frontend.clients.get? frontend.nextClient = none) :
    Frontend.ties { frontend with
        clients := frontend.clients.insert frontend.nextClient { connection, seat }
        nextClient := frontend.nextClient + 1 } =
      { frontend.ties with
        nextClient := frontend.nextClient + 1
        known := update frontend.ties.known frontend.nextClient true
        owner := update frontend.ties.owner frontend.nextClient connection
        served := update frontend.ties.served frontend.nextClient true } := by
  simp only [ties, Ties.mk.injEq, true_and, and_true]
  refine ⟨?_, ?_, ?_, ?_, ?_⟩ <;> funext id <;>
    simp only [update_apply, Arena.contains, isConnected, object?, Arena.get?_insert]
  case refine_4 =>
    split
    · simp_all
    · rename_i other
      have same : id.client < frontend.nextClient + 1 ↔ id.client < frontend.nextClient :=
        ⟨fun less => Nat.lt_of_le_of_ne (Nat.le_of_lt_succ less) other, Nat.lt_succ_of_lt⟩
      simp only [same]
  all_goals split <;> simp_all

/-- Bindings stay distinct when those of a client are purged. -/
theorem nodup_bindings_purge (distinct : frontend.bindings.keys.Nodup) (gone : ConnectionId) :
    (frontend.purge gone).bindings.keys.Nodup :=
  distinct.sublist (List.Sublist.map Prod.fst List.filter_sublist)

/-- What is left of the maps when the entries of some connections are dropped. -/
theorem ties_purges (distinct : frontend.bindings.keys.Nodup) (gone : List ConnectionId) :
    (gone.foldl purge frontend).ties = { frontend.ties with
      bindings := fun id => (frontend.ties.bindings id).filter fun binding =>
        !decide (binding.connection ∈ gone)
      listeners := fun id =>
        if decide (id.connection ∈ gone) then none else frontend.ties.listeners id
      pools := fun id => if decide (id.connection ∈ gone) then none else frontend.ties.pools id
      buffers := fun id => if decide (id.connection ∈ gone) then none else frontend.ties.buffers id
      callbacks := fun id =>
        if decide (id.connection ∈ gone) then none else frontend.ties.callbacks id
      toplevels := fun id =>
        if decide (id.connection ∈ gone) then none else frontend.ties.toplevels id } := by
  induction gone generalizing frontend with
  | nil =>
    have all (bound : Option BindingId) : bound.filter (fun _ => true) = bound := by
      cases bound <;> rfl
    simp [all]
  | cons first rest ih =>
    rw [List.foldl_cons, ih (nodup_bindings_purge distinct first)]
    simp only [ties, purge, Ties.mk.injEq, true_and, Arena.get?_filter distinct,
      Arena.get?_filter_key, Option.filter_filter]
    refine ⟨rfl, rfl, rfl, rfl, ?_, ?_, ?_, ?_, ?_, ?_⟩ <;> funext id
    · congr 1
      grind
    all_goals grind

end Frontend

namespace Turn

variable {turn : Turn}

variable (turn) in
/-- A client that is dropped is not served any more. -/
theorem ties_drop (client : ClientId) : (turn.drop client).frontend.ties =
    { turn.frontend.ties with
      served := update turn.frontend.ties.served client false
      departed := fun id => decide (turn.frontend.ties.owner client = some id) ||
        turn.frontend.ties.departed id } := by
  unfold drop
  split
  · rename_i gone
    have unserved : turn.frontend.ties.served client = false := by
      simp [Frontend.ties, Frontend.isConnected, gone]
    have unowned : turn.frontend.ties.owner client = none := by
      simp [Frontend.ties, gone]
    rw [← unserved, Function.update_eq_self, unowned]
    simp
  · rename_i state found
    have owner : turn.frontend.ties.owner client = state.connection := by
      simp [Frontend.ties, found]
    rw [owner]
    cases state.connection with
    | none => simpa [modify] using turn.frontend.ties_dropped client
    | some connection =>
      have dropped := turn.frontend.ties_dropped client
      simp only [note, modify, Frontend.ties_departed, dropped, List.mem_append,
        List.mem_singleton, Bool.decide_or]
      congr 1
      funext id
      rw [Bool.or_comm]
      grind [Frontend.ties, Frontend.modifyClient]

/-- What a new object does to the ties: its resource stands behind it. -/
theorem ties_addObject {client : ClientId} {state : Client}
    (found : turn.frontend.clients.get? client = some state) (object : ProtocolObject)
    (alive : object.isAlive = true) :
    (turn.addObject client object).frontend.ties = { turn.frontend.ties with
      stands :=
        update turn.frontend.ties.stands ⟨client, state.objects.length⟩ (some object.resource)
      born := update turn.frontend.ties.born ⟨client, state.objects.length⟩ true } := by
  have grown (other : ClientId) : (turn.addObject client object).frontend.clients.get? other =
      if other = client then some { state with objects := state.objects ++ [object] }
      else turn.frontend.clients.get? other := by
    refine (Arena.get?_modify ..).trans ?_
    split
    · simp_all
    · rfl
  refine Frontend.ties_modifyClient client (fun client =>
    { client with objects := client.objects ++ [object] }) (fun _ => rfl) (fun other => ?_)
    (fun id => ?_) fun id => ?_
  · refine (congrArg (Option.any Client.isConnected) (grown other)).trans ?_
    simp only [Frontend.ties, Frontend.isConnected]
    split
    · simp_all
    · rfl
  · have here := grown id.client
    simp only [Frontend.ties, update_apply]
    change ((turn.addObject client object).frontend.clients.get? id.client).elim _ _ = _
    rw [here]
    obtain ⟨owner, index⟩ := id
    by_cases same : owner = client
    · subst same
      simp only [if_pos, found, Option.elim_some, ObjectId.mk.injEq, List.length_append,
        List.length_singleton, true_and]
      grind
    · simp only [ObjectId.mk.injEq, same, false_and, if_false]
      rfl
  · have here := grown id.client
    obtain ⟨owner, index⟩ := id
    simp only [Frontend.ties, Frontend.object?, update_apply]
    change Option.map _ (Option.filter _
      (((turn.addObject client object).frontend.clients.get? owner).bind _)) = _
    rw [here]
    by_cases same : owner = client
    · subst same
      simp only [if_pos, ObjectId.mk.injEq, true_and, Option.bind_some, List.getElem?_append]
      grind
    · simp only [ObjectId.mk.injEq, same, false_and, if_false]
      rfl

/-- To drop the connections of clients one by one is to drop them all. -/
theorem absorbAll_eq (gone : List ConnectionId) :
    (gone.foldl (fun turn connection => turn.absorb (turn.frontend.server.disconnect connection))
      turn).frontend =
      { turn.frontend with server := turn.frontend.server.disconnectAll gone } := by
  induction gone generalizing turn with
  | nil => rfl
  | cons first rest ih => exact ih

/-- To reap is to drop the connections of those who left, and all entries about them. -/
theorem frontend_reap (turn : Turn) : turn.reap.frontend =
    { turn.frontend.departed.foldl Frontend.purge
        { turn.frontend with
          server := turn.frontend.server.disconnectAll turn.frontend.departed } with
      departed := [] } := by
  rw [← absorbAll_eq]
  rfl

variable (turn) in
/-- To reap is a move. -/
theorem move_reap (distinct : turn.frontend.bindings.keys.Nodup) :
    turn.frontend.ties.Move turn.reap.frontend.ties := by
  obtain ⟨middle, made⟩ : ∃ middle : Frontend, middle = { turn.frontend with
    server := turn.frontend.server.disconnectAll turn.frontend.departed } := ⟨_, rfl⟩
  have left : middle.ties = { turn.frontend.ties with
      toCensus := turn.frontend.server.census.without turn.frontend.ties.departed
      core := fun id => if turn.frontend.ties.departed id then false
        else turn.frontend.ties.core id } := by
    rw [made, Frontend.ties_server, Server.census_disconnectAll,
      funext (Server.isConnected_disconnectAll _)]
    rfl
  have purged := middle.ties_purges (made ▸ distinct) turn.frontend.departed
  rw [left] at purged
  have none : (fun connection => decide (connection ∈ ([] : List ConnectionId))) =
      fun _ => false := by simp
  have emptied :=
    (turn.frontend.departed.foldl Frontend.purge middle).ties_departed []
  rw [purged, none] at emptied
  rw [frontend_reap, ← made]
  exact emptied.symm ▸ .reap

end Turn
end DisplayServer
