import DisplayServer.Proofs.Proceeding

/-! # What actions ask of the server

What an action asks of the server (`Frontend.asks`), and the callback that it is granted
(`Frontend.framed`), can be told from the frontend before it is carried out. A request either fails
a check, or it is dispatched (`Frontend.dispatched?`): then it creates an object, whose meaning is
settled by the end of it (`Turn.settles_request`), or it does not, and destroys its own at most. So
every action proceeds (`Turn.proceeds_act`).
-/

namespace DisplayServer

open Function (update update_self update_of_ne update_apply)
open Relation (ReflTransGen)
open Wire

namespace Frontend

/-- The name of the next object of a client. -/
def nextObject (frontend : Frontend) (client : ClientId) : ObjectId :=
  ⟨client, (frontend.clients.get? client).elim 0 fun state => state.objects.length⟩

/-- The object and the signature of a request that passes all checks. -/
def dispatched? (frontend : Frontend) (id : ObjectId) (name : String)
    (arguments : List Argument) : Option (ProtocolObject × Signature) :=
  match frontend.object? id with
  | none => none
  | some object =>
    if object.isAlive ∧ Argument.fitMessage arguments then
      match frontend.check id.client object name arguments with
      | .ok signature => some (object, signature)
      | .error _ => none
    else none

/-- The operation of the server that an action comes to, if it comes to one. -/
def asks (frontend : Frontend) : Action → Option Operation
  | .connect isManaged => if isManaged then some .connect else none
  | .bindGlobal client name version =>
    (Capability.ofName? name).bind fun capability =>
      if version = 0 ∨ capability.version < version then none
      else ((frontend.clients.get? client).bind Client.connection).map fun connection =>
        .bind connection capability.name version
  | .request client index name arguments =>
    (frontend.dispatched? ⟨client, index⟩ name arguments).bind fun (object, _) =>
      frontend.operation? client object (.ofArguments object.resource.interface name arguments)
  | .present time => some (.presentAll time)
  | .close _ | .flush => none

/-- The callback that a request is granted, with its object. -/
def granted (frontend : Frontend) (created : ObjectId) :
    Option Operation → List (CallbackId × ObjectId)
  | some (.frame surface) =>
    match (frontend.server.frame surface).answer with
    | .ok callback => [(callback, created)]
    | .error _ => []
  | _ => []

/-- The callback that an action is granted, with its object. -/
def framed (frontend : Frontend) : Action → List (CallbackId × ObjectId)
  | .request client index name arguments =>
    frontend.granted (frontend.nextObject client)
      (frontend.asks (.request client index name arguments))
  | _ => []

/-- A callback is granted to the object that a request of a frame creates. -/
theorem mem_granted {frontend : Frontend} {created id : ObjectId} {asked : Option Operation}
    {callback : CallbackId} (granted : (callback, id) ∈ frontend.granted created asked) :
    ∃ surface, asked = some (.frame surface) ∧
      (frontend.server.frame surface).answer = .ok callback ∧ id = created := by
  unfold Frontend.granted at granted
  split at granted
  · rename_i surface
    split at granted
    · rename_i answer
      cases List.mem_singleton.mp granted
      exact ⟨surface, rfl, answer, rfl⟩
    · cases granted
  · cases granted

/-- Only a request for a frame asks the server for one. -/
theorem eq_frame_of_operation? {frontend : Frontend} {client : ClientId} {object : ProtocolObject}
    {request : Request} {surface : SurfaceId}
    (asked : frontend.operation? client object request = some (.frame surface)) :
    request = .frame := by
  unfold operation? at asked
  split at asked <;> grind [Option.map_eq_some_iff]

end Frontend

namespace Turn

variable {turn turn' : Turn} {host : Host} {operation : Operation} {config : Config}
  {accepted : Nat} {drawn : ConnectionId → Nat} {id : ObjectId} {asked : Option Operation}

private theorem carryOut_ignored (host : Host) (id created : ObjectId) (object : ProtocolObject) :
    turn.carryOut host id created object .ignored = turn := by
  obtain ⟨resource, version, isAlive⟩ := object
  cases resource <;> rfl

section Requests

variable {framed : List (CallbackId × ObjectId)} {state : Client} {object : ProtocolObject}
  {name : String} {arguments : List Argument} {signature : Signature} {interface : Interface}
  (sound : turn.frontend.Sound config accepted drawn)
  (served : turn.frontend.isConnected id.client = true)
  (found : turn.frontend.clients.get? id.client = some state)
  (held : state.objects[id.index]? = some object) (alive : object.isAlive = true)
  (checked : turn.frontend.check id.client object name arguments = .ok signature)
  (asks : asked = turn.frontend.operation? id.client object
    (.ofArguments object.resource.interface name arguments))
  (rooms : ∀ operation, asked = some operation →
    ∀ id, drawn id + turn.frontend.server.drawnBy host operation id ≤ UInt32.size)

omit sound served checked asks rooms in
include found held alive in
private theorem stands_of_held : turn.frontend.ties.stands id = some object.resource := by
  refine Frontend.stands_eq_some.mpr ⟨object, ?_, alive, rfl⟩
  simp [Frontend.object?, found, held]

include sound served found held alive checked asks rooms

/-- A request that creates no object. -/
theorem proceeds_uncreative (creates : signature.created? = none) :
    turn.Proceeds config accepted drawn
      (turn.requestLive host id state.objects.length object name arguments)
      (asked.map fun operation => (host, operation)) framed := by
  have stands := stands_of_held found held alive
  obtain ⟨known, length, fit⟩ := Frontend.check_eq_ok checked
  obtain ⟨makes, ends⟩ := created?_ofArguments known length fit
  simp only [requestLive, checked, creates]
  cases destructs : signature.isDestructor with
  | true =>
    have ignored := ends destructs
    rw [show asked = none by rw [asks, ignored, Frontend.operation?_ignored], ignored,
      carryOut_ignored]
    refine proceeds_destroy sound fun callback => ?_
    rw [Option.some.inj (stands.symm.trans callback)] at known
    cases known
  | false =>
    obtain ⟨heeds, -⟩ := heeds_carryOut host ⟨id.client,
      state.objects.length⟩ sound.toStanding served stands rfl
      (fun interface created => nomatch (makes.trans creates).symm.trans created) (asks ▸ rooms)
      fun index named => by
        obtain ⟨record, found, alive, -⟩ := surface_of_accepted known length fit named
        exact ⟨_, Frontend.stands_eq_some.mpr ⟨record, found, alive, rfl⟩⟩
    rw [← asks] at heeds
    exact .of_heeds sound heeds (fun _ comes => Frontend.accepted_operation? (asks ▸ comes)) rooms

/-- A request that creates an object is heeded, when the object was added. -/
theorem heeds_creative (creates : signature.created? = some interface) {added : Turn}
    {created : ObjectId} (same : created.client = id.client)
    (adds : turn.Adds added created (.inert interface)) :
    added.Heeds host (added.carryOut host id created object
        (.ofArguments object.resource.interface name arguments)) asked ∧
      ((∃ connection, turn.frontend.ties.owner id.client = some connection) →
        added.Settles (added.carryOut host id created object
          (.ofArguments object.resource.interface name arguments)) created) := by
  have stands := stands_of_held found held alive
  have standing := sound.toStanding
  obtain ⟨known, length, fit⟩ := Frontend.check_eq_ok checked
  obtain ⟨makes, -⟩ := created?_ofArguments known length fit
  have listed (index : ObjectIndex)
      (named : Request.ofArguments object.resource.interface name arguments =
        .getWindowSurface index) := surface_of_accepted known length fit named
  have still : added.frontend.operation? id.client object
      (.ofArguments object.resource.interface name arguments) = asked := by
    rw [asks]
    refine Frontend.operation?_congr adds.server (by rw [adds.owner]) fun index named => ?_
    rcases named with window | ⟨offset, attach⟩
    · obtain ⟨record, held, -⟩ := listed index window
      rw [adds.objects _ _ held, held]
    · rw [attach, creates] at makes
      cases makes
  obtain ⟨heeds, settles⟩ := heeds_carryOut host created
    (adds.standing trivial standing) ((congrFun adds.served id.client).trans served)
    (adds.stands_old standing stands) same
    (fun other created? => by
      rw [makes, creates] at created?
      rw [← Option.some.inj created?]
      exact adds.stands_created)
    (by rw [still, adds.server]; exact rooms)
    fun index window => by
      obtain ⟨record, held, alive, -⟩ := listed index window
      exact ⟨_, adds.stands_old standing
        (Frontend.stands_eq_some.mpr ⟨record, held, alive, rfl⟩)⟩
  refine ⟨still ▸ heeds, fun managed => ?_⟩
  refine settles (adds.owner ▸ managed)
    (fun other inert => sound.meant id ⟨served, managed, other, inert ▸ stands⟩)
    ((Request.interface?_ofArguments ..).resolve_left fun ignored => ?_) (fun index window => ?_)
    (by rw [makes, creates]; nofun)
  · rw [ignored, creates] at makes
    cases makes
  · obtain ⟨record, held, alive, kind⟩ := listed index window
    have stands := Frontend.stands_eq_some.mpr ⟨record, held, alive, rfl⟩
    rcases Resource.surface_of_interface kind with ⟨surface, means⟩ | means
    · exact ⟨surface, adds.stands_old standing (means ▸ stands)⟩
    · exact (sound.meant ⟨id.client, index⟩ ⟨served, managed, _, means ▸ stands⟩).elim

omit asks rooms in
/-- What creates a callback is the request of a frame on a surface. -/
theorem frame_of_creates (creates : signature.created? = some .callback)
    (managed : ∃ connection, turn.frontend.ties.owner id.client = some connection) :
    Request.ofArguments object.resource.interface name arguments = .frame ∧
      ∃ surface, object.resource = .surface surface := by
  have stands := stands_of_held found held alive
  obtain ⟨known, length, fit⟩ := Frontend.check_eq_ok checked
  obtain ⟨makes, -⟩ := created?_ofArguments known length fit
  rw [creates] at makes
  have fits := Request.interface?_ofArguments object.resource.interface name arguments
  generalize Request.ofArguments object.resource.interface name arguments = request at makes fits
  cases request <;> cases makes
  refine ⟨rfl, ?_⟩
  rcases fits with absurd | fits
  · cases absurd
  rcases Resource.surface_of_interface (Option.some.inj fits).symm with means | means
  · exact means
  · exact (sound.meant id ⟨served, managed, _, means ▸ stands⟩).elim

omit sound served held alive asks rooms in
/-- A request that creates an object has it added first. -/
theorem adds_requestLive (host : Host) (creates : signature.created? = some interface) :
    ∃ added : Turn, turn.Adds added ⟨id.client, state.objects.length⟩ (.inert interface) ∧
      turn.requestLive host id state.objects.length object name arguments =
        added.carryOut host id ⟨id.client, state.objects.length⟩ object
          (.ofArguments object.resource.interface name arguments) := by
  obtain ⟨known, length, fit⟩ := Frontend.check_eq_ok checked
  obtain ⟨makes, ends⟩ := created?_ofArguments known length fit
  have lasts : signature.isDestructor = false := by
    refine Bool.eq_false_iff.mpr fun destructs => ?_
    rw [ends destructs, creates] at makes
    cases makes
  refine ⟨_, adds_addObject { resource := .inert interface, version := object.version } found rfl,
    ?_⟩
  simp only [requestLive, checked, creates, lasts, Bool.false_eq_true, if_false]

/-- The object that a request creates is new. -/
theorem born_creative (creates : signature.created? = some interface) :
    turn.frontend.ties.born ⟨id.client, state.objects.length⟩ = false ∧
      (turn.requestLive host id state.objects.length object name
        arguments).frontend.ties.born ⟨id.client, state.objects.length⟩ = true := by
  obtain ⟨added, adds, goes⟩ := adds_requestLive found checked host creates
  have same : (⟨id.client, state.objects.length⟩ : ObjectId).client = id.client := rfl
  obtain ⟨heeds, -⟩ :=
    heeds_creative sound served found held alive checked asks rooms creates same adds
  have born : added.frontend.ties.born ⟨id.client, state.objects.length⟩ = true := by
    rw [adds.ties]
    exact update_self ..
  exact ⟨adds.unborn, goes ▸ (Ties.Ages.of_moves heeds.moves).born _ born⟩

/-- A request that creates an object. -/
theorem proceeds_creative (creates : signature.created? = some interface) :
    turn.Proceeds config accepted drawn
        (turn.requestLive host id state.objects.length object name arguments)
        (asked.map fun operation => (host, operation))
        (turn.frontend.granted ⟨id.client, state.objects.length⟩ asked) ∧
      ((∃ connection, turn.frontend.ties.owner id.client = some connection) →
        turn.Settles (turn.requestLive host id state.objects.length object name arguments)
          ⟨id.client, state.objects.length⟩) := by
  obtain ⟨added, adds, goes⟩ := adds_requestLive found checked host creates
  obtain ⟨created, named⟩ : ∃ created : ObjectId, created = ⟨id.client, state.objects.length⟩ :=
    ⟨_, rfl⟩
  have same : created.client = id.client := by rw [named]
  rw [← named] at adds goes ⊢
  obtain ⟨heeds, settles⟩ :=
    heeds_creative sound served found held alive checked asks rooms creates same adds
  rw [goes]
  refine ⟨adds.proceeds sound trivial nofun heeds
    (fun _ comes => Frontend.accepted_operation? (asks ▸ comes)) rooms ?_ ?_, fun managed => ?_⟩
  · intro managed here interface inert
    rw [same] at managed
    rcases (settles managed).meant with ⟨resource, stands, meant⟩ | ⟨dropped, -⟩
    · exact meant interface (Option.some.inj (stands.symm.trans inert))
    · exact Bool.noConfusion (dropped.symm.trans here)
  · intro managed callback'
    rw [same] at managed
    obtain rfl := Resource.inert.inj callback'
    obtain ⟨request, surface, means⟩ :=
      frame_of_creates sound served found held alive checked creates managed
    have live := sound.toStanding.surface_live served
      (means ▸ stands_of_held found held alive)
    obtain ⟨callback', answer⟩ := Server.answer_frame live
    rw [request] at asks ⊢
    simp only [Frontend.operation?, means] at asks
    rw [asks]
    simp only [Frontend.granted, answer, List.mem_singleton]
    refine ⟨⟨callback', rfl⟩, fun callback entry => ?_⟩
    have entered : (added.carryOut host id created object .frame).frontend.callbacks =
        added.frontend.callbacks.insert callback' created := by
      simp only [carryOut, means, onSurface, frame, adds.server, answer]
      rfl
    rw [entered, Arena.get?_insert] at entry
    split at entry
    · rename_i here
      exact .inr (by rw [here])
    · exact .inl ((congrFun adds.callbacks callback).symm.trans entry)
  · obtain ⟨meant, clean⟩ := settles managed
    exact ⟨meant, fun message logged lapse => adds.log ▸ clean message logged lapse⟩

end Requests

section Dispatch

variable {name : String} {arguments : List Argument} {object : ProtocolObject}
  {signature : Signature}

variable (host) in
/-- A request that passes all checks. -/
theorem request_of_dispatched
    (dispatched : turn.frontend.dispatched? id name arguments = some (object, signature)) :
    ∃ state, turn.frontend.clients.get? id.client = some state ∧
      state.objects[id.index]? = some object ∧ object.isAlive = true ∧
      turn.frontend.check id.client object name arguments = .ok signature ∧
      turn.frontend.nextObject id.client = ⟨id.client, state.objects.length⟩ ∧
      turn.frontend.asks (.request id.client id.index name arguments) =
        turn.frontend.operation? id.client object
          (.ofArguments object.resource.interface name arguments) ∧
      turn.request host id name arguments =
        turn.requestLive host id state.objects.length object name arguments := by
  have asks : turn.frontend.asks (.request id.client id.index name arguments) =
      turn.frontend.operation? id.client object
        (.ofArguments object.resource.interface name arguments) := by
    simp only [Frontend.asks, dispatched, Option.bind_some]
  unfold Frontend.dispatched? at dispatched
  split at dispatched
  · cases dispatched
  · rename_i object' listed
    obtain ⟨state, found, held⟩ := Option.bind_eq_some_iff.mp listed
    split at dispatched
    · rename_i fit
      split at dispatched
      · rename_i checked
        cases dispatched
        exact ⟨state, found, held, fit.1, checked, by simp [Frontend.nextObject, found],
          asks, by simp only [request, found, held, if_pos fit]⟩
      · cases dispatched
    · cases dispatched

/-- A request that does not pass the checks comes to nothing, or its client is dropped. -/
theorem minds_of_undispatched (undispatched : turn.frontend.dispatched? id name arguments = none) :
    turn.Minds (turn.request host id name arguments) := by
  unfold request
  cases found : turn.frontend.clients.get? id.client with
  | none => exact .refl turn
  | some state =>
    cases held : state.objects[id.index]? with
    | none =>
      simp only [held]
      exact .refl turn
    | some object =>
      have listed : turn.frontend.object? id = some object := by
        simp [Frontend.object?, found, held]
      simp only [Frontend.dispatched?, listed] at undispatched
      simp only [held]
      split
      · rename_i fit
        rw [if_pos fit] at undispatched
        cases checked : turn.frontend.check id.client object name arguments with
        | ok signature =>
          rw [checked] at undispatched
          cases undispatched
        | error violation =>
          simp only [requestLive, checked]
          exact minds_violate ..
      · exact minds_drop ..

variable (sound : turn.frontend.Sound config accepted drawn)
  (served : turn.frontend.isConnected id.client = true)
  (rooms : ∀ operation,
    turn.frontend.asks (.request id.client id.index name arguments) = some operation →
      ∀ id, drawn id + turn.frontend.server.drawnBy host operation id ≤ UInt32.size)

include sound served rooms

variable (id) in
/-- A request proceeds, whether it is dispatched, refused, or ignored. -/
theorem proceeds_request :
    turn.Proceeds config accepted drawn (turn.request host id name arguments)
      ((turn.frontend.asks (.request id.client id.index name arguments)).map
        fun operation => (host, operation))
      (turn.frontend.framed (.request id.client id.index name arguments)) := by
  simp only [Frontend.framed]
  cases dispatched : turn.frontend.dispatched? id name arguments with
  | none =>
    have asks : turn.frontend.asks (.request id.client id.index name arguments) = none := by
      simp only [Frontend.asks, dispatched, Option.bind_none]
    rw [asks]
    exact .of_minds sound (minds_of_undispatched dispatched)
  | some pair =>
    obtain ⟨object, signature⟩ := pair
    obtain ⟨state, found, held, alive, checked, next, asks, goes⟩ :=
      request_of_dispatched host dispatched
    rw [goes, next]
    cases creates : signature.created? with
    | none => exact proceeds_uncreative sound served found held alive checked asks rooms creates
    | some interface =>
      exact (proceeds_creative sound served found held alive checked asks rooms creates).1

variable (turn) in
/-- A request that creates an object gives it a meaning, or its client is told off. -/
theorem settles_request
    (managed : ∃ connection, turn.frontend.ties.owner id.client = some connection)
    (dispatched : turn.frontend.dispatched? id name arguments = some (object, signature))
    (creates : signature.created? ≠ none) :
    turn.Settles (turn.request host id name arguments) (turn.frontend.nextObject id.client) := by
  obtain ⟨interface, creates⟩ := Option.ne_none_iff_exists'.mp creates
  obtain ⟨state, found, held, alive, checked, next, asks, goes⟩ :=
    request_of_dispatched host dispatched
  rw [goes, next]
  exact (proceeds_creative sound served found held alive checked asks rooms creates).2 managed

variable (turn host id) in
/-- The object of a callback that is granted is new. -/
theorem born_framed {callback : CallbackId} {created : ObjectId}
    (granted : (callback, created) ∈
      turn.frontend.framed (.request id.client id.index name arguments)) :
    turn.frontend.ties.born created = false ∧
      (turn.request host id name arguments).frontend.ties.born created = true ∧
        ∃ surface, turn.frontend.asks (.request id.client id.index name arguments) =
            some (.frame surface) ∧
          (turn.frontend.server.frame surface).answer = .ok callback := by
  obtain ⟨surface, frames, answer, rfl⟩ := Frontend.mem_granted granted
  cases dispatched : turn.frontend.dispatched? id name arguments with
  | none =>
    simp only [Frontend.asks, dispatched, Option.bind_none] at frames
    cases frames
  | some pair =>
    obtain ⟨object, signature⟩ := pair
    obtain ⟨state, found, held, alive, checked, next, asks, goes⟩ :=
      request_of_dispatched host dispatched
    obtain ⟨known, length, fit⟩ := Frontend.check_eq_ok checked
    obtain ⟨makes, -⟩ := created?_ofArguments known length fit
    rw [Frontend.eq_frame_of_operation? (asks.symm.trans frames)] at makes
    obtain ⟨unborn, born⟩ :=
      born_creative sound served found held alive checked asks rooms makes.symm
    rw [goes, next]
    exact ⟨unborn, born, surface, frames, answer⟩

end Dispatch

/-- All globals are advertised to a client that connects. -/
theorem minds_advertise (capabilities : List Capability) :
    turn.Minds (capabilities.foldl
      (fun turn capability =>
        turn.say client .registry (.global capability.name capability.version)) turn) := by
  induction capabilities generalizing turn with
  | nil => exact .refl turn
  | cons capability rest ih => exact (minds_say _ _ rfl).trans ih

section Globals

variable (host) in
/-- A new object of a capability gets a binding, unless its client was not accepted. -/
theorem heeds_bindCapability {added : Turn} {created : ObjectId} {name : String}
    {capability : Capability} {version : UInt32} {connection : Option ConnectionId}
    (standing : turn.frontend.Standing config accepted drawn)
    (served : turn.frontend.isConnected created.client = true)
    (known : Capability.ofName? name = some capability)
    (adds : turn.Adds added created (.ofCapability capability.kind))
    (owned : turn.frontend.ties.owner created.client = connection)
    (rooms : ∀ operation, (connection.map fun connection =>
        Operation.bind connection capability.name version) = some operation →
      ∀ id, drawn id + turn.frontend.server.drawnBy host operation id ≤ UInt32.size) :
    added.Heeds host (added.bindCapability created capability version connection)
      (connection.map fun connection => .bind connection capability.name version) := by
  cases connection with
  | none => exact minds_postError ..
  | some connection =>
    have named : capability.name = name := by simpa using List.find?_some known
    have unbound : added.frontend.ties.bindings created = none := by
      rw [adds.ties]
      by_contra bound
      obtain ⟨binding, bound⟩ := Option.ne_none_iff_exists'.mp bound
      obtain ⟨-, -, -, resource, stands, -⟩ := standing.tied.bindings.bound _ _ bound
      have born := standing.tied.clients.born created (stands ▸ Option.some_ne_none resource)
      exact Bool.noConfusion (adds.unborn.symm.trans born)
    exact serves_bindCapability (adds.standing (by cases capability.kind <;> trivial) standing)
      ((congrFun adds.served created.client).trans served) (named ▸ known) adds.stands_created
      unbound ((congrFun adds.owner created.client).trans owned)
      (by rw [adds.server]; exact rooms _ rfl)

variable {framed : List (CallbackId × ObjectId)} {client : ClientId} {name : String}
  {version : UInt32} (sound : turn.frontend.Sound config accepted drawn)

include sound

/-- To bind a global proceeds. -/
theorem proceeds_bindGlobal (served : turn.frontend.isConnected client = true)
    (rooms : ∀ operation, turn.frontend.asks (.bindGlobal client name version) = some operation →
      ∀ id, drawn id + turn.frontend.server.drawnBy host operation id ≤ UInt32.size) :
    turn.Proceeds config accepted drawn (turn.bindGlobal client name version)
      ((turn.frontend.asks (.bindGlobal client name version)).map
        fun operation => (host, operation)) framed := by
  unfold bindGlobal
  cases found : turn.frontend.clients.get? client with
  | none =>
    have asks : turn.frontend.asks (.bindGlobal client name version) = none := by
      simp only [Frontend.asks, found, Option.bind_none, Option.map_none, ite_self]
      cases Capability.ofName? name <;> rfl
    rw [asks]
    exact .of_minds sound (.refl turn)
  | some state =>
    cases known : Capability.ofName? name with
    | none =>
      simp only [Frontend.asks, known]
      exact .of_minds sound (minds_violate ..)
    | some capability =>
      simp only [Frontend.asks, found, known, Option.bind_some] at rooms ⊢
      split
      · exact .of_minds sound (minds_violate ..)
      · rename_i fit
        rw [if_neg fit] at rooms
        obtain ⟨created, named⟩ :
            ∃ created : ObjectId, created = ⟨client, state.objects.length⟩ := ⟨_, rfl⟩
        have adds := adds_addObject { resource := .ofCapability capability.kind, version }
          found rfl
        rw [← named] at adds ⊢
        have owned : turn.frontend.ties.owner client = state.connection := by
          simp [Frontend.ties, found]
        have same : created.client = client := by rw [named]
        have unsettled (interface : Interface) :
            Resource.ofCapability capability.kind ≠ .inert interface := by
          cases capability.kind <;> simp [Resource.ofCapability]
        refine adds.proceeds sound ?_ ?_ (heeds_bindCapability host sound.toStanding (same ▸ served)
          known adds (same ▸ owned) rooms) ?_ rooms ?_ fun _ inert => (unsettled _ inert).elim
        · cases capability.kind <;> trivial
        · cases capability.kind <;> simp [Resource.ofCapability]
        · rintro operation comes
          obtain ⟨connection, -, rfl⟩ := Option.map_eq_some_iff.mp comes
          rfl
        · intro _ _ interface inert
          have before := Ties.inert_of_moves (heeds_bindCapability host
            sound.toStanding (same ▸ served) known adds (same ▸ owned) rooms).moves inert
          exact unsettled interface (Option.some.inj (adds.stands_created.symm.trans before))

omit sound in
/-- A client connects, and all globals are advertised to it. -/
theorem connect_eq (turn : Turn) (isManaged : Bool) : ∃ entered : Turn,
    entered.sent = turn.sent ∧ entered.Minds (turn.connect isManaged) ∧
      entered.frontend = { turn.frontend with
        server := if isManaged then turn.frontend.server.connect.state else turn.frontend.server
        clients := turn.frontend.clients.insert turn.frontend.nextClient
          { connection := if isManaged then some ⟨turn.frontend.server.nextConnection⟩ else none
            seat := turn.frontend.freeSeat }
        nextClient := turn.frontend.nextClient + 1 } := by
  cases isManaged with
  | false => exact ⟨_, by rfl, minds_advertise _, by rfl⟩
  | true => exact ⟨_, by rfl, minds_advertise _, by rfl⟩

/-- What a client that connects does to the ties. -/
theorem ties_connect {entered : Turn} {isManaged : Bool} {connection : Option ConnectionId}
    (owns : connection = if isManaged then some ⟨turn.frontend.server.nextConnection⟩ else none)
    (room : accepted + (turn.frontend.asks (.connect isManaged)).elim 0 Operation.accepted ≤
      UInt32.size)
    (made : entered.frontend = { turn.frontend with
      server := if isManaged then turn.frontend.server.connect.state else turn.frontend.server
      clients := turn.frontend.clients.insert turn.frontend.nextClient
        { connection, seat := turn.frontend.freeSeat }
      nextClient := turn.frontend.nextClient + 1 }) :
    entered.frontend.ties = { turn.frontend.ties with
      core := fun id => decide (connection = some id) || turn.frontend.ties.core id
      nextClient := turn.frontend.ties.nextClient + 1
      known := update turn.frontend.ties.known turn.frontend.ties.nextClient true
      owner := update turn.frontend.ties.owner turn.frontend.ties.nextClient connection
      served := update turn.frontend.ties.served turn.frontend.ties.nextClient true } := by
  have fresh : turn.frontend.clients.get? turn.frontend.nextClient = none := by
    by_contra known
    have arrived := sound.tied.clients.arrived turn.frontend.nextClient
      (Option.isSome_iff_ne_none.mpr known)
    exact Nat.lt_irrefl _ arrived
  have enter (server : Server) := Frontend.ties_enter { turn.frontend with server }
    connection turn.frontend.freeSeat fresh
  rw [made]
  cases isManaged with
  | false =>
    subst owns
    refine (enter turn.frontend.server).trans ?_
    simp only [Bool.false_eq_true, if_false, reduceCtorEq, decide_false, Bool.false_or]
    rfl
  | true =>
    subst owns
    refine (enter turn.frontend.server.connect.state).trans ?_
    rw [Frontend.ties_server, sound.server.census_connect room,
      funext (Server.isConnected_connect turn.frontend.server)]
    simp only [if_true, Option.some.injEq, eq_comm]
    rfl

/-- When a client arrives, the frontend stays in good order. -/
theorem standing_connect {entered : Turn} (isManaged : Bool)
    (room : accepted + (turn.frontend.asks (.connect isManaged)).elim 0 Operation.accepted ≤
      UInt32.size)
    (rooms : ∀ operation, turn.frontend.asks (.connect isManaged) = some operation →
      ∀ id, drawn id + turn.frontend.server.drawnBy host operation id ≤ UInt32.size)
    (made : entered.frontend = { turn.frontend with
      server := if isManaged then turn.frontend.server.connect.state else turn.frontend.server
      clients := turn.frontend.clients.insert turn.frontend.nextClient
        { connection := if isManaged then some ⟨turn.frontend.server.nextConnection⟩ else none
          seat := turn.frontend.freeSeat }
      nextClient := turn.frontend.nextClient + 1 }) :
    entered.frontend.Standing config
      (accepted + ((turn.frontend.asks (.connect isManaged)).map
        fun operation => (host, operation)).elim 0 fun asked => asked.2.accepted)
      fun id => drawn id + ((turn.frontend.asks (.connect isManaged)).map
        fun operation => (host, operation)).elim 0 fun asked =>
          turn.frontend.server.drawnBy asked.1 asked.2 id := by
  have entered_server : entered.frontend.server =
      if isManaged then turn.frontend.server.connect.state else turn.frontend.server := by
    rw [made]
  constructor
  case tied =>
    rw [ties_connect sound rfl room made]
    refine sound.tied.arrive _ (Nat.le_add_right ..) fun id owns => ?_
    cases isManaged with
    | false => cases owns
    | true =>
      cases owns
      exact ⟨sound.server.accounted.number_eq room, Nat.lt_succ_self accepted⟩
  case distinct =>
    rw [made]
    exact sound.distinct
  case server =>
    rw [entered_server]
    cases isManaged with
    | false => exact sound.server
    | true => exact sound.server.next host .connect room (rooms _ rfl)
  case quiet =>
    rw [entered_server]
    cases isManaged with
    | false => exact sound.quiet
    | true => exact sound.quiet.next sound.server.named host .connect rfl

/-- To connect proceeds. -/
theorem proceeds_connect (isManaged : Bool)
    (room : accepted + (turn.frontend.asks (.connect isManaged)).elim 0 Operation.accepted ≤
      UInt32.size)
    (rooms : ∀ operation, turn.frontend.asks (.connect isManaged) = some operation →
      ∀ id, drawn id + turn.frontend.server.drawnBy host operation id ≤ UInt32.size) :
    turn.Proceeds config accepted drawn (turn.connect isManaged)
      ((turn.frontend.asks (.connect isManaged)).map fun operation => (host, operation))
      framed := by
  obtain ⟨entered, sent, minds, made⟩ := connect_eq turn isManaged
  have ties := ties_connect sound rfl room made
  have entered_server : entered.frontend.server =
      if isManaged then turn.frontend.server.connect.state else turn.frontend.server := by
    rw [made]
  have ages : turn.frontend.ties.Ages entered.frontend.ties := by
    rw [ties]
    exact ⟨fun _ born => born, fun _ _ dead => dead⟩
  have newcomer (id : ObjectId) (alive : turn.frontend.ties.stands id ≠ none) :
      id.client ≠ turn.frontend.ties.nextClient :=
    Nat.ne_of_lt (sound.tied.clients.begotten id (sound.tied.clients.born id alive))
  have idle_old {id : ObjectId} (idle : entered.frontend.ties.Idle id) : False := by
    obtain ⟨served, ⟨connection, managed⟩, interface, inert⟩ := idle
    simp only [ties] at served managed inert
    have apart := newcomer id (inert ▸ Option.some_ne_none _)
    rw [update_of_ne apart] at served managed
    exact sound.meant id ⟨served, ⟨connection, managed⟩, interface, inert⟩
  refine ⟨⟨minds.standing_after (standing_connect sound isManaged room rooms made),
    fun id idle => idle_old (idle.of_moves minds.moves)⟩, ?_,
    ages.trans (.of_moves minds.moves), fun callback id entry => ?_, fun id stands => ?_⟩
  · obtain ⟨more, said, mute⟩ := minds.said
    have server := minds.server.trans entered_server
    cases isManaged with
    | false => exact ⟨⟨[], nofun, server⟩, more, said.trans (by rw [sent]), mute⟩
    | true =>
      have quiet : (turn.frontend.server.next host .connect).IsQuiet :=
        sound.quiet.next sound.server.named host .connect rfl
      have distinct := (sound.server.next host .connect room (rooms _ rfl)).distinct
      refine ⟨server.trans (quiet.drained_eq distinct).symm, more, said.trans (by rw [sent]), ?_⟩
      rw [if_pos (quiet.drainEvents_eq_nil distinct)]
      exact mute
  · rcases Ties.recalls_of_moves minds.moves entry with old | ⟨idle, -⟩
    · rw [ties] at old
      exact .inl old
    · exact (idle_old idle).elim
  · rcases Ties.calls_of_moves minds.moves stands with old | ⟨idle, -⟩
    · rw [ties] at old
      exact .inl old
    · exact (idle_old idle).elim

end Globals

/-- Where nothing waits there is nothing to deliver. -/
theorem minds_flush (standing : turn.frontend.Standing config accepted drawn) :
    turn.Minds turn.flush := by
  have distinct := standing.server.distinct
  have flushed : turn.flush = turn.taken := by
    rw [flush_eq, standing.quiet.drainEvents_eq_nil distinct]
    rfl
  rw [flushed]
  exact ⟨.of_eq ties_taken rfl rfl, standing.quiet.drained_eq distinct⟩

/-- **An action proceeds:** the server does what is asked of it, and everything that comes of it is
delivered. -/
theorem proceeds_act (sound : turn.frontend.Sound config accepted drawn) {action : Action}
    (heard : turn.frontend.ignores action = false)
    (room : accepted + (turn.frontend.asks action).elim 0 Operation.accepted ≤ UInt32.size)
    (rooms : ∀ operation, turn.frontend.asks action = some operation →
      ∀ id, drawn id + turn.frontend.server.drawnBy host operation id ≤ UInt32.size) :
    turn.Proceeds config accepted drawn (turn.act host action)
      ((turn.frontend.asks action).map fun operation => (host, operation))
      (turn.frontend.framed action) := by
  cases action with
  | connect isManaged => exact proceeds_connect sound isManaged room rooms
  | close client => exact .of_minds sound (minds_drop turn client)
  | bindGlobal client name version =>
    exact proceeds_bindGlobal sound (by simpa [Frontend.ignores, Action.client?] using heard) rooms
  | request client object name arguments =>
    exact proceeds_request ⟨client, object⟩ sound
      (by simpa [Frontend.ignores, Action.client?] using heard) rooms
  | present time =>
    have heeds : turn.Heeds host (turn.act host (.present time)) (some (.presentAll time)) :=
      serves_present sound.toStanding time
    have accepts (operation : Operation) (asked : some (.presentAll time) = some operation) :
        operation.accepted = 0 := by
      rw [← Option.some.inj asked]
      rfl
    exact .of_heeds sound heeds accepts rooms
  | flush => exact .of_minds sound (minds_flush sound.toStanding)

end Turn

end DisplayServer
