import DisplayServer.Proofs.Coupling

/-! # The running frontend

A step of the running frontend (`Frontend.step`) carries out an action, clears the clients away that
are not served any more, and reaps their connections. Seen from a life that is one action with some
destructions, forgettings and a reaping after it (`Frontend.exists_live_step`), as nobody is there
twice (`Turn.nodup_act`). So a frontend that runs gets where some life with the same actions leads
(`Frontend.exists_life_of_steps`), and what holds after every life in range holds of it.

Clearing a client away destroys its objects one by one; all that the clients notice of it is that
the objects are dead (`Turn.clients_destroyAll`).
-/

namespace DisplayServer

open Wire

namespace Turn

variable {turn : Turn}

/-! ### Who is there -/

/-- The clients that are there, served or not, oldest first. -/
def roster (turn : Turn) : List ClientId :=
  turn.frontend.clients.keys

@[simp] theorem roster_note (message : LogMessage) : (turn.note message).roster = turn.roster := rfl

@[simp] theorem roster_notify (notice : Notice) : (turn.notify notice).roster = turn.roster := rfl

@[simp] theorem roster_absorb {α : Type} (outcome : Outcome Server α) :
    (turn.absorb outcome).roster = turn.roster := rfl

@[simp] theorem roster_send (id : ObjectId) (message : Message) :
    (turn.send id message).roster = turn.roster := by
  rw [roster, frontend_send]
  rfl

@[simp] theorem roster_say (client : ClientId) (source : Source) (message : Message) :
    (turn.say client source message).roster = turn.roster := by
  unfold say
  split <;> rfl

@[simp] theorem roster_modifyClient (client : ClientId) (change : Client → Client) :
    (turn.modify fun frontend => frontend.modifyClient client change).roster = turn.roster :=
  Arena.keys_modify ..

/-- A change of anything but the clients. -/
theorem roster_modify {change : Frontend → Frontend}
    (same : (change turn.frontend).clients = turn.frontend.clients) :
    (turn.modify change).roster = turn.roster :=
  congrArg Arena.keys same

@[simp] theorem roster_establish (id : ObjectId) (resource : Resource) :
    (turn.establish id resource).roster = turn.roster :=
  Arena.keys_modify ..

@[simp] theorem roster_expire (id : ObjectId) : (turn.expire id).roster = turn.roster :=
  Arena.keys_modify ..

@[simp] theorem roster_addObject (client : ClientId) (object : ProtocolObject) :
    (turn.addObject client object).roster = turn.roster :=
  Arena.keys_modify ..

@[simp] theorem roster_drop (client : ClientId) : (turn.drop client).roster = turn.roster := by
  unfold drop
  split
  · rfl
  · split
    · exact roster_modifyClient ..
    · exact roster_modifyClient ..

@[simp] theorem roster_postError (id : ObjectId) (code : ErrorCode) (text : String) :
    (turn.postError id code text).roster = turn.roster :=
  (roster_drop _).trans (roster_send ..)

@[simp] theorem roster_violate (client : ClientId) (violation : Violation) :
    (turn.violate client violation).roster = turn.roster :=
  (roster_drop _).trans (roster_say ..)

@[simp] theorem roster_deliver (event : Event) : (turn.deliver event).roster = turn.roster := by
  unfold deliver
  split
  · split
    · rfl
    · split <;> simp
  · split <;> simp
  · split <;> simp
  · split
    · rfl
    · simp only [roster_expire, roster_send]
      exact roster_modify rfl
  · split <;> simp

@[simp] theorem roster_flush : turn.flush.roster = turn.roster := by
  rw [flush_eq]
  have taken : turn.taken.roster = turn.roster := rfl
  rw [← taken]
  generalize turn.taken = next
  induction turn.frontend.server.drainEvents.1 generalizing next with
  | nil => rfl
  | cons event rest ih => exact (ih _).trans (roster_deliver event.2)

@[simp] theorem roster_updatePool (pool : PoolId) (change : PoolRefs → PoolRefs) :
    (turn.updatePool pool change).roster = turn.roster := by
  unfold updatePool
  split
  · rfl
  · dsimp only
    split <;> rfl

/-! ### Requests -/

private theorem roster_createPool (host : Host) (id created : ObjectId) (descriptor : Descriptor)
    (size : Int32) : (turn.createPool host id created descriptor size).roster = turn.roster := by
  unfold createPool
  split
  · rfl
  · dsimp only
    split
    · exact (roster_establish ..).trans (roster_modify rfl)
    · simp
    · simp

private theorem roster_onPool (host : Host) (id created : ObjectId) (pool : PoolId)
    (request : Request) : (turn.onPool host id created pool request).roster = turn.roster := by
  unfold onPool
  split
  · split
    · unfold createBuffer
      dsimp only
      split
      · refine (roster_updatePool ..).trans ((roster_modify rfl).trans ?_)
        simp
      · simp
      · simp
      · simp
    · simp
    · simp
  · unfold resizePool
    dsimp only
    split <;> simp
  · rfl

private theorem roster_createSurface (id created : ObjectId) (version : UInt32) :
    (turn.createSurface id created version).roster = turn.roster := by
  unfold createSurface
  split
  · rfl
  · dsimp only
    split <;> simp

@[simp] theorem roster_refuseOnSurface (id : ObjectId) (cause : SurfaceError) :
    (turn.refuseOnSurface id cause).roster = turn.roster := by
  cases cause <;> simp [refuseOnSurface]

@[simp] theorem roster_settleOnSurface (id : ObjectId)
    (outcome : Outcome Server (Except SurfaceError Unit)) :
    (turn.settleOnSurface id outcome).roster = turn.roster := by
  unfold settleOnSurface
  dsimp only
  split <;> simp

@[simp] theorem roster_settleOnWindow (failure : LogMessage)
    (outcome : Outcome Server (Except WindowError Unit)) :
    (turn.settleOnWindow failure outcome).roster = turn.roster := by
  unfold settleOnWindow
  dsimp only
  split <;> simp

private theorem roster_onSurface (host : Host) (id created : ObjectId) (surface : SurfaceId)
    (request : Request) :
    (turn.onSurface host id created surface request).roster = turn.roster := by
  unfold onSurface
  split
  · unfold attach
    split
    · simp
    · split <;> simp
  · simp
  · simp
  · simp
  · unfold frame
    dsimp only
    split
    · exact (roster_modify rfl).trans (roster_establish ..)
    · simp
  · unfold commit
    dsimp only
    split <;> simp
  · unfold setTransform
    split <;> simp
  · simp
  · rfl

private theorem roster_createWindowSurface (id created : ObjectId) (surface : ObjectIndex) :
    (turn.createWindowSurface id created surface).roster = turn.roster := by
  unfold createWindowSurface
  split
  · split
    · simp
    · dsimp only
      split <;> simp
  · rfl

private theorem roster_onWindowSurface (id created : ObjectId) (window : WindowSurfaceId)
    (shell : ObjectIndex) (request : Request) :
    (turn.onWindowSurface id created window shell request).roster = turn.roster := by
  unfold onWindowSurface
  split
  · unfold createToplevel
    dsimp only
    split
    · simp only [roster_flush, roster_notify]
      exact (roster_modify rfl).trans (roster_establish ..)
    all_goals simp
  all_goals simp

private theorem roster_onToplevel (toplevel : ToplevelId) (request : Request) :
    (turn.onToplevel toplevel request).roster = turn.roster := by
  unfold onToplevel
  split <;> simp

private theorem roster_carryOut (host : Host) (id created : ObjectId) (object : ProtocolObject)
    (request : Request) : (turn.carryOut host id created object request).roster = turn.roster := by
  unfold carryOut
  split
  · exact roster_createSurface ..
  · simp
  · exact roster_createPool ..
  · simp
  · exact roster_createWindowSurface ..
  · exact roster_onSurface ..
  · exact roster_onPool ..
  · exact roster_onWindowSurface ..
  · exact roster_onToplevel ..
  · rfl

/-! ### Objects that die -/

@[simp] theorem clients_updatePool (pool : PoolId) (change : PoolRefs → PoolRefs) :
    (turn.updatePool pool change).frontend.clients = turn.frontend.clients := by
  unfold updatePool
  split
  · rfl
  · dsimp only
    split <;> rfl

/-- What an object lets go of has nothing to do with the clients. -/
theorem clients_release (id : ObjectId) (resource : Resource) :
    (turn.release id resource).frontend.clients = turn.frontend.clients := by
  have unbound : (turn.unbind id).frontend.clients = turn.frontend.clients := by
    unfold unbind
    split <;> rfl
  unfold release
  split <;> first
    | rfl
    | exact unbound
    | exact clients_updatePool ..

variable (turn) in
private theorem frontend_updatePool (pool : PoolId) (change : PoolRefs → PoolRefs) :
    (turn.updatePool pool change).frontend =
      (Turn.updatePool { frontend := turn.frontend } pool change).frontend := by
  simp only [updatePool]
  cases turn.frontend.pools.get? pool with
  | none => rfl
  | some refs =>
    dsimp only
    split <;> rfl

variable (turn) in
/-- What an object lets go of is a matter of the frontend alone. -/
theorem frontend_release (id : ObjectId) (resource : Resource) :
    (turn.release id resource).frontend =
      (Turn.release { frontend := turn.frontend } id resource).frontend := by
  have unbound :
      (turn.unbind id).frontend = (Turn.unbind { frontend := turn.frontend } id).frontend := by
    simp only [unbind]
    cases turn.frontend.bindings.get? id <;> rfl
  cases resource with
  | compositor | sharedMemory | windowShell => exact unbound
  | pool => exact frontend_updatePool ..
  | buffer buffer pool => exact frontend_updatePool ..
  | _ => rfl

private theorem frontend_destroy (turn : Turn) (id : ObjectId) :
    (turn.destroy id).frontend = (Turn.destroy { frontend := turn.frontend } id).frontend := by
  simp only [destroy]
  cases turn.frontend.object? id with
  | none => rfl
  | some object =>
    dsimp only
    split
    · exact frontend_release ..
    · rfl

/-- To destroy an object brings nobody in and nobody out. -/
theorem roster_destroy (id : ObjectId) : (turn.destroy id).roster = turn.roster := by
  unfold destroy
  split
  · rfl
  · split
    · exact (congrArg Arena.keys (clients_release ..)).trans (roster_expire id)
    · rfl

/-- A request brings nobody in and nobody out. -/
theorem roster_request (host : Host) (id : ObjectId) (name : String) (arguments : List Argument) :
    (turn.request host id name arguments).roster = turn.roster := by
  unfold request
  split
  · rfl
  · split
    · rfl
    · split
      · unfold requestLive
        split
        · simp
        · dsimp only
          split
          · refine (roster_destroy _).trans ((roster_carryOut ..).trans ?_)
            split <;> simp
          · refine (roster_carryOut ..).trans ?_
            split <;> simp
      · simp

/-- To bind a global brings nobody in and nobody out. -/
theorem roster_bindGlobal (client : ClientId) (name : String) (version : UInt32) :
    (turn.bindGlobal client name version).roster = turn.roster := by
  unfold bindGlobal
  split
  · rfl
  · split
    · simp
    · split
      · simp
      · unfold bindCapability
        split
        · simp
        · dsimp only
          split
          · unfold bound
            split
            · rw [roster_flush]
              refine (roster_modify rfl).trans ((roster_modify rfl).trans ?_)
              simp
            all_goals
              refine (roster_modify rfl).trans ?_
              simp
          · simp

private theorem roster_advertise (client : ClientId) (capabilities : List Capability) :
    (capabilities.foldl (fun turn capability =>
      turn.say client .registry (.global capability.name capability.version)) turn).roster =
        turn.roster := by
  induction capabilities generalizing turn with
  | nil => rfl
  | cons first rest ih => exact ih.trans (roster_say ..)

/-- Nobody is there twice. -/
theorem nodup_act (distinct : turn.roster.Nodup) (host : Host) (action : Action) :
    (turn.act host action).roster.Nodup := by
  cases action with
  | connect isManaged =>
    have entered := Arena.nodup_keys_insert distinct turn.frontend.nextClient
    cases isManaged with
    | false => exact (roster_advertise ..).symm ▸ entered _
    | true => exact (roster_advertise ..).symm ▸ entered _
  | close client => exact (roster_drop client).symm ▸ distinct
  | bindGlobal client name version => exact (roster_bindGlobal client name version).symm ▸ distinct
  | request client object name arguments =>
    exact (roster_request host ⟨client, object⟩ name arguments).symm ▸ distinct
  | present time =>
    have same : (turn.act host (.present time)).roster = turn.roster :=
      roster_flush.trans (roster_modify rfl)
    exact same.symm ▸ distinct
  | flush => exact roster_flush.symm ▸ distinct

end Turn

/-- An object that is not alive any more. -/
def ProtocolObject.expired (object : ProtocolObject) : ProtocolObject :=
  { object with isAlive := false }

private theorem ProtocolObject.expired_of_dead {object : ProtocolObject}
    (dead : object.isAlive = false) : object.expired = object := by
  obtain ⟨resource, version, isAlive⟩ := object
  subst dead
  rfl

namespace Client

/-- A client some of whose objects are not alive any more. -/
def bereft (gone : List ObjectIndex) (state : Client) : Client :=
  { state with
    objects := state.objects.mapIdx fun index object =>
      if index ∈ gone then object.expired else object }

private theorem bereft_nil (state : Client) : state.bereft [] = state := by
  have same : (state.objects.mapIdx fun _ object => object) = state.objects :=
    List.ext_getElem? fun index => by
      rw [List.getElem?_mapIdx]
      exact Option.map_id'
  simp only [bereft, List.not_mem_nil, if_false, same]

/-- One more object dies. -/
theorem bereft_concat (gone : List ObjectIndex) (index : ObjectIndex) (state : Client) :
    state.bereft (gone ++ [index]) =
      { state.bereft gone with
        objects := (state.bereft gone).objects.modify index ProtocolObject.expired } := by
  simp only [bereft, mk.injEq, true_and, and_true]
  refine List.ext_getElem? fun other => ?_
  simp only [List.getElem?_mapIdx, List.getElem?_modify, List.mem_append, List.mem_singleton]
  cases state.objects[other]? with
  | none => rfl
  | some object =>
    by_cases here : index = other <;> by_cases before : other ∈ gone <;>
      simp [here, before, Ne.symm, ProtocolObject.expired]

/-- All objects die. -/
theorem bereft_all {state : Client} {order : List ObjectIndex}
    (all : ∀ (index : ObjectIndex) object, state.objects[index]? = some object →
      object.isAlive = true → index ∈ order) :
    state.bereft order = { state with objects := state.objects.map ProtocolObject.expired } := by
  have same : (state.objects.mapIdx fun index object =>
      if index ∈ order then object.expired else object) =
        state.objects.map ProtocolObject.expired := by
    refine List.ext_getElem? fun index => ?_
    rw [List.getElem?_mapIdx, List.getElem?_map]
    cases held : state.objects[index]? with
    | none => rfl
    | some object =>
      by_cases listed : index ∈ order
      · simp [listed]
      · have dead := Bool.eq_false_iff.mpr fun alive => listed (all index object held alive)
        simp [listed, ProtocolObject.expired_of_dead dead]
  simp only [bereft, same]

end Client

namespace Turn

/-- Objects of a client are destroyed, one after the other. -/
def destroyAll (turn : Turn) (client : ClientId) (order : List ObjectIndex) : Turn :=
  order.foldl (fun turn index => turn.destroy ⟨client, index⟩) turn

variable (turn : Turn)

/-- To destroy one object more comes last. -/
theorem destroyAll_concat (client : ClientId) (order : List ObjectIndex) (index : ObjectIndex) :
    turn.destroyAll client (order ++ [index]) =
      (turn.destroyAll client order).destroy ⟨client, index⟩ :=
  List.foldl_append

/-- An object that is destroyed is dead, and that is all that the clients notice. -/
theorem clients_destroy (id : ObjectId) (other : ClientId) :
    (turn.destroy id).frontend.clients.get? other =
      (turn.frontend.modifyObject id ProtocolObject.expired).clients.get? other := by
  cases stands : turn.frontend.ties.stands id with
  | some resource =>
    rw [destroy_of_alive stands, clients_release]
    rfl
  | none =>
    rw [destroy_of_dead stands]
    refine ((Arena.get?_modify ..).trans ?_).symm
    by_cases here : other = id.client
    · subst here
      rw [if_pos rfl]
      cases found : turn.frontend.clients.get? id.client with
      | none => rfl
      | some state =>
        have same : state.objects.modify id.index ProtocolObject.expired = state.objects := by
          refine List.ext_getElem? fun index => ?_
          rw [List.getElem?_modify]
          split
          · rename_i here
            subst here
            cases held : state.objects[id.index]? with
            | none => rfl
            | some object =>
              refine congrArg some (ProtocolObject.expired_of_dead (Bool.eq_false_iff.mpr ?_))
              intro alive
              have lives := Frontend.stands_eq_some.mpr ⟨object,
                Option.bind_eq_some_iff.mpr ⟨state, found, held⟩, alive, rfl⟩
              cases lives.symm.trans stands
          · exact Option.map_id'
        simp [same]
    · rw [if_neg here]

/-- What destroying objects of a client does to the tables of clients. -/
theorem clients_destroyAll (client : ClientId) (order : List ObjectIndex) (id : ClientId) :
    (turn.destroyAll client order).frontend.clients.get? id =
      (turn.frontend.clients.get? id).map fun state =>
        if id = client then state.bereft order else state := by
  induction order using List.reverseRecOn with
  | nil =>
    simp only [Client.bereft_nil, ite_self]
    exact (Option.map_id').symm
  | append_singleton order index ih =>
    rw [destroyAll_concat, clients_destroy]
    refine (Arena.get?_modify ..).trans ?_
    rw [ih]
    by_cases here : id = client
    · simp only [here, if_true, Option.map_map, Client.bereft_concat]
      rfl
    · simp only [here, if_false]

/-- To destroy objects drops nobody. -/
theorem isConnected_destroyAll (client : ClientId) (order : List ObjectIndex) (id : ClientId) :
    (turn.destroyAll client order).frontend.isConnected id = turn.frontend.isConnected id := by
  simp only [Frontend.isConnected, clients_destroyAll]
  cases turn.frontend.clients.get? id with
  | none => rfl
  | some state =>
    by_cases here : id = client <;> simp [here, Client.bereft]

/-- To destroy objects does not change who owns which connection. -/
theorem owner_destroyAll (client : ClientId) (order : List ObjectIndex) :
    (turn.destroyAll client order).frontend.ties.owner = turn.frontend.ties.owner := by
  funext id
  refine (congrArg (Option.bind · Client.connection) (clients_destroyAll ..)).trans ?_
  simp only [Frontend.ties]
  cases turn.frontend.clients.get? id with
  | none => rfl
  | some state =>
    by_cases here : id = client <;> simp [here, Client.bereft]

end Turn

/-! ### Lives -/

/-- A client that is not served any more is cleared away. -/
def Life.clearing (client : ClientId) (objects : Nat) : Life :=
  (List.range objects).map (fun index => .destroy ⟨client, index⟩) ++ [.forget client]

namespace Frontend

variable {turn : Turn}

/-- Objects of a client that left are destroyed one after the other. -/
theorem live_destroys (client : ClientId) (away : turn.frontend.isConnected client = false)
    (order : List ObjectIndex) :
    turn.frontend.live (order.map fun index => .destroy ⟨client, index⟩) =
      (turn.destroyAll client order).frontend := by
  induction order using List.reverseRecOn with
  | nil => rfl
  | append_singleton order index ih =>
    rw [List.map_append, live_append, ih, Turn.destroyAll_concat]
    have away : (turn.destroyAll client order).frontend.isConnected client = false := by
      rw [Turn.isConnected_destroyAll, away]
    have happens : ((turn.destroyAll client order).frontend.happen
        (.destroy ⟨client, index⟩)).frontend =
          ((turn.destroyAll client order).destroy ⟨client, index⟩).frontend := by
      simp only [happen, away, Bool.false_eq_true, if_false]
      exact (Turn.frontend_destroy ..).symm
    exact happens

/-- Clearing a client away is a stretch of a life. -/
theorem live_clearing {client : ClientId} {state : Client}
    (found : turn.frontend.clients.get? client = some state) (away : state.isConnected = false) :
    turn.frontend.live (.clearing client state.objects.length) =
      (turn.clearAway client).frontend := by
  have unserved : turn.frontend.isConnected client = false := by
    simp [isConnected, found, away]
  have bereft : (turn.destroyAll client (List.range state.objects.length)).frontend.clients.get?
      client = some { state with objects := state.objects.map ProtocolObject.expired } := by
    rw [Turn.clients_destroyAll, found, Option.map_some, if_pos rfl]
    refine congrArg some (Client.bereft_all fun index object held _ => ?_)
    exact List.mem_range.mpr (List.getElem?_eq_some_iff.mp held).1
  have spent : (turn.destroyAll client (List.range state.objects.length)).frontend.isSpent client =
      true := by
    simp [isSpent, bereft, away, ProtocolObject.expired]
  rw [Life.clearing, live_append, live_destroys client unserved]
  have forgets : ((turn.destroyAll client (List.range state.objects.length)).frontend.happen
      (.forget client)).frontend = (turn.clearAway client).frontend := by
    simp only [happen, spent, if_true, Turn.clearAway, found]
    rfl
  exact forgets

/-- Clients that are not served any more are cleared away, one after the other. -/
theorem live_clearings {gone : List (ClientId × Client)} (distinct : (gone.map Prod.fst).Nodup)
    (there : ∀ entry ∈ gone, turn.frontend.clients.get? entry.1 = some entry.2)
    (away : ∀ entry ∈ gone, entry.2.isConnected = false) :
    turn.frontend.live (gone.flatMap fun entry => Life.clearing entry.1 entry.2.objects.length) =
      (gone.foldl (fun turn entry => turn.clearAway entry.1) turn).frontend := by
  induction gone generalizing turn with
  | nil => rfl
  | cons first rest ih =>
    obtain ⟨apart, distinct⟩ := List.nodup_cons.mp distinct
    rw [List.flatMap_cons, live_append, List.foldl_cons,
      live_clearing (there first List.mem_cons_self) (away first List.mem_cons_self)]
    refine ih distinct (fun entry listed => ?_) fun entry listed =>
      away entry (List.mem_cons_of_mem _ listed)
    have other : entry.1 ≠ first.1 := fun same =>
      apart (same ▸ List.mem_map_of_mem listed)
    rw [← there entry (List.mem_cons_of_mem _ listed)]
    have found := there first List.mem_cons_self
    simp only [Turn.clearAway, found]
    refine (Arena.get?_erase ..).trans ((if_neg other).trans ?_)
    refine (Turn.clients_destroyAll turn first.1 (List.range first.2.objects.length)
      entry.1).trans ?_
    simp only [other, if_false]
    exact Option.map_id'

/-- Everybody who is not served any more is cleared away in some stretch of a life. -/
theorem exists_live_clearDropped (distinct : turn.frontend.clients.keys.Nodup) :
    ∃ life : Life, (∀ happening ∈ life, happening.isAction = false) ∧
      turn.frontend.live life = turn.clearDropped.frontend := by
  obtain ⟨gone, sorted, cleared⟩ : ∃ gone : List (ClientId × Client),
      gone.Perm (turn.frontend.clients.entries.filter fun entry => !entry.2.isConnected) ∧
        turn.clearDropped = gone.foldl (fun turn entry => turn.clearAway entry.1) turn :=
    ⟨_, List.mergeSort_perm .., rfl⟩
  have listed (entry : ClientId × Client) (among : entry ∈ gone) :
      entry ∈ turn.frontend.clients.entries ∧ entry.2.isConnected = false := by
    simpa using sorted.mem_iff.mp among
  refine ⟨gone.flatMap fun entry => Life.clearing entry.1 entry.2.objects.length, ?_, ?_⟩
  · intro happening among
    obtain ⟨entry, -, among⟩ := List.mem_flatMap.mp among
    rcases List.mem_append.mp among with destroys | forgets
    · obtain ⟨index, -, rfl⟩ := List.mem_map.mp destroys
      rfl
    · cases List.mem_singleton.mp forgets
      rfl
  · rw [cleared]
    refine live_clearings ?_ ?_ fun entry among => (listed entry among).2
    · have keys := sorted.map Prod.fst
      exact keys.nodup_iff.mpr (distinct.sublist (List.filter_sublist.map _))
    · intro entry among
      exact (Arena.get?_eq_some_iff distinct).mpr (listed entry among).1

/-- **A step of the frontend is a stretch of a life** with one action. -/
theorem exists_live_step {frontend : Frontend} (distinct : frontend.clients.keys.Nodup)
    (host : Host) (action : Action) :
    ∃ rest : Life, (∀ happening ∈ rest, happening.isAction = false) ∧
      frontend.live (.act host action :: rest) = (frontend.step host action).frontend := by
  obtain ⟨acted, made⟩ : ∃ acted, acted = frontend.happen (.act host action) := ⟨_, rfl⟩
  have keys : acted.frontend.clients.keys.Nodup := by
    rw [made, happen]
    split
    · exact distinct
    · have roster : (Turn.roster { frontend }).Nodup := distinct
      exact Turn.nodup_act roster host action
  have acts : frontend.live [.act host action] = acted.frontend := congrArg Turn.frontend made.symm
  have reaps (turn : Turn) : turn.frontend.live [.reap] = turn.reap.frontend :=
    (Turn.frontend_reap { frontend := turn.frontend }).trans (Turn.frontend_reap turn).symm
  have steps : frontend.step host action =
      (if frontend.hears action then acted.clearDropped else acted).reap := by
    rw [made]
    rfl
  obtain ⟨life, clears, cleared⟩ := exists_live_clearDropped keys
  cases hears : frontend.hears action with
  | true =>
    refine ⟨life ++ [.reap], ?_, ?_⟩
    · intro happening among
      rcases List.mem_append.mp among with among | among
      · exact clears happening among
      · cases List.mem_singleton.mp among
        rfl
    · rw [← List.singleton_append, live_append, acts, live_append, cleared, reaps, steps, hears,
        if_pos rfl]
  | false =>
    refine ⟨[.reap], ?_, ?_⟩
    · intro happening among
      cases List.mem_singleton.mp among
      rfl
    · rw [← List.singleton_append, live_append, acts, reaps, steps, hears,
        if_neg Bool.false_ne_true]

/-- Nobody is there twice. -/
theorem nodup_clients_after (config : Config) (life : Life) :
    (after config life).clients.keys.Nodup := by
  induction life using List.reverseRecOn with
  | nil => exact List.nodup_nil
  | append_singleton life happening ih =>
    rw [after_concat]
    have roster : (Turn.roster { frontend := after config life }).Nodup := ih
    cases happening with
    | act host action =>
      simp only [happen]
      split
      · exact ih
      · exact Turn.nodup_act roster host action
    | destroy id =>
      simp only [happen]
      split
      · exact ih
      · change (Turn.roster _).Nodup
        rw [Turn.roster_destroy]
        exact roster
    | forget client =>
      simp only [happen]
      split
      · exact Arena.nodup_keys_erase ih client
      · exact ih
    | reap =>
      have purged (gone : List ConnectionId) (frontend : Frontend) :
          (gone.foldl purge frontend).clients = frontend.clients := by
        induction gone generalizing frontend with
        | nil => rfl
        | cons first rest ih => exact ih _
      have same : ((after config life).happen .reap).frontend.clients =
          (after config life).clients := by
        rw [happen, Turn.frontend_reap]
        exact purged _ _
      rw [same]
      exact ih
    | subscribe host operation =>
      simp only [happen]
      split <;> exact ih

/-- The frontend runs: it takes a step for each action. -/
def steps (frontend : Frontend) (actions : List (Host × Action)) : Frontend :=
  actions.foldl (fun frontend entry => (frontend.step entry.1 entry.2).frontend) frontend

/-- One action more is one step more. -/
theorem steps_concat (frontend : Frontend) (actions : List (Host × Action)) (host : Host)
    (action : Action) : frontend.steps (actions ++ [(host, action)]) =
      ((frontend.steps actions).step host action).frontend := by
  rw [steps, List.foldl_append]
  rfl

/-- **Running is living:** a frontend that runs gets where some life leads that has as many
actions. -/
theorem exists_life_of_steps (config : Config) (actions : List (Host × Action)) :
    ∃ life : Life, life.countP Happening.isAction = actions.length ∧
      after config life = (start config).state.steps actions := by
  induction actions using List.reverseRecOn with
  | nil => exact ⟨[], rfl, rfl⟩
  | append_singleton actions entry ih =>
    obtain ⟨host, action⟩ := entry
    obtain ⟨life, count, reached⟩ := ih
    obtain ⟨rest, clears, steps⟩ :=
      exists_live_step (nodup_clients_after config life) host action
    have others : rest.countP Happening.isAction = 0 :=
      List.countP_eq_zero.mpr fun happening listed => by simp [clears happening listed]
    refine ⟨life ++ .act host action :: rest, ?_, ?_⟩
    · simp [List.countP_append, List.countP_cons, count, others, Happening.isAction]
    · rw [after, live_append, steps_concat, ← reached]
      exact steps

/-- What is reachable is what a fresh frontend can run to. -/
theorem reachable_iff {config : Config} {frontend : Frontend} :
    Reachable config frontend ↔ ∃ actions, frontend = (start config).state.steps actions := by
  constructor
  · intro reachable
    induction reachable with
    | start => exact ⟨[], rfl⟩
    | step host action _ ih =>
      obtain ⟨actions, rfl⟩ := ih
      exact ⟨actions ++ [(host, action)], (steps_concat ..).symm⟩
  · rintro ⟨actions, rfl⟩
    induction actions using List.reverseRecOn with
    | nil => exact .start
    | append_singleton actions entry ih =>
      rw [steps_concat]
      exact .step entry.1 entry.2 ih

/-- As many actions as a counter has values are in range. -/
theorem exists_inRange_of_steps (config : Config) (actions : List (Host × Action))
    (few : actions.length ≤ UInt32.size) :
    ∃ life : Life, (start config).state.InRange life ∧
      after config life = (start config).state.steps actions := by
  obtain ⟨life, count, reached⟩ := exists_life_of_steps config actions
  exact ⟨life, inRange_of_actions life (count ▸ few), reached⟩

/-- The running frontend is coupled to its server, where nothing waits between two steps. -/
theorem coupled_of_steps (config : Config) (actions : List (Host × Action))
    (few : actions.length ≤ UInt32.size) :
    ((start config).state.steps actions).Coupled ∧
      ((start config).state.steps actions).server.IsQuiet := by
  obtain ⟨life, range, reached⟩ := exists_inRange_of_steps config actions few
  rw [← reached]
  exact ⟨(sound_after range).coupled, (sound_after range).quiet⟩

end Frontend

end DisplayServer
