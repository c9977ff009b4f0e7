import DisplayServer.Proofs.Delivering

/-! # What requests ask of the server

A request comes to one operation of the server at most (`Frontend.operation?`); whatever else it
comes to, it comes to on the wire alone. -/

namespace DisplayServer

open Relation (ReflTransGen)
open Wire

namespace Wire.Request

/-- The interface that takes a request. One without an effect is taken by any. -/
def interface? : Request → Option Interface
  | createSurface | createRegion => some .compositor
  | createPool _ _ => some .sharedMemory
  | createBuffer _ _ _ _ _ | resizePool _ => some .pool
  | attach _ _ | setOffset _ | damage _ | damageBuffer _ | frame | commit | setTransform _
  | setScale _ => some .surface
  | createPositioner | getWindowSurface _ => some .windowShell
  | getToplevel | getPopup | setGeometry _ | ackConfigure _ => some .windowSurface
  | setTitle _ | setAppId _ => some .toplevel
  | ignored => none

/-- The interface of the object that a request creates. -/
def created? : Request → Option Interface
  | createSurface => some .surface
  | createRegion => some .region
  | createPool _ _ => some .pool
  | createBuffer _ _ _ _ _ => some .buffer
  | frame => some .callback
  | createPositioner => some .positioner
  | getWindowSurface _ => some .windowSurface
  | getToplevel => some .toplevel
  | getPopup => some .popup
  | _ => none

/-- A request is ignored, or one of the interface and with the signature that it was read for. A
window surface is asked for with an object that is to be its surface. -/
theorem ofArguments_listed (interface : Interface) (name : String) (arguments : List Argument) :
    ofArguments interface name arguments = ignored ∨
      (ofArguments interface name arguments).interface? = some interface ∧
        ∀ signature, interface.signature? name = some signature →
          (ofArguments interface name arguments).created? = signature.created? ∧
            signature.isDestructor = false ∧
            ∀ index, ofArguments interface name arguments = getWindowSurface index →
              ∃ created, arguments = [created, .object index] ∧
                signature.arguments = [.newObject .windowSurface, .object .surface] := by
  unfold ofArguments
  split
  case h_23 => exact .inl rfl
  all_goals
    refine .inr ⟨rfl, fun signature found => ?_⟩
    simp [Interface.signature?, Interface.requests, Interface.destroy] at found
    subst found
    refine ⟨rfl, rfl, ?_⟩
  case h_16 created _ =>
    rintro index ⟨⟩
    exact ⟨created, rfl, rfl⟩
  all_goals exact nofun

/-- A request is one of the interface that it was read for, or ignored. -/
theorem interface?_ofArguments (interface : Interface) (name : String)
    (arguments : List Argument) : ofArguments interface name arguments = ignored ∨
      (ofArguments interface name arguments).interface? = some interface :=
  (ofArguments_listed interface name arguments).imp_right And.left

end Wire.Request

section Accepted

variable {frontend : Frontend} {client : ClientId} {argument : Argument}

private theorem Frontend.integer_of_accepts
    (fit : frontend.accepts client .integer argument = true) :
    ∃ value, argument = .integer value := by
  cases argument <;> first | exact ⟨_, rfl⟩ | cases fit

private theorem Frontend.word_of_accepts (fit : frontend.accepts client .word argument = true) :
    ∃ value, argument = .word value := by
  cases argument <;> first | exact ⟨_, rfl⟩ | cases fit

private theorem Frontend.descriptor_of_accepts
    (fit : frontend.accepts client .descriptor argument = true) :
    ∃ descriptor, argument = .descriptor descriptor := by
  cases argument <;> first | exact ⟨_, rfl⟩ | cases fit

/-- An argument that is accepted as an object names a live one of the interface. -/
theorem Frontend.object_of_accepts {interface : Interface}
    (fit : frontend.accepts client (.object interface) argument = true) :
    ∃ index object, argument = .object index ∧ frontend.object? ⟨client, index⟩ = some object ∧
      object.isAlive = true ∧ object.resource.interface = interface := by
  cases argument with
  | object index =>
    obtain ⟨object, found, right⟩ := (Option.any_eq_true _ _).mp fit
    obtain ⟨alive, same⟩ := Bool.and_eq_true_iff.mp right
    exact ⟨index, object, rfl, found, alive, of_decide_eq_true same⟩
  | _ => cases fit

end Accepted

section Checked

variable {frontend : Frontend} {client : ClientId} {interface : Interface} {name : String}
  {signature : Signature} {arguments : List Argument}
  (found : interface.signature? name = some signature)
  (length : signature.arguments.length = arguments.length)
  (fit : (signature.arguments.zip arguments).all fun pair =>
    frontend.accepts client pair.1 pair.2)

include found length fit

/-- A request that creates an object is known. -/
theorem ofArguments_ne_ignored (creates : signature.created? ≠ none) :
    Request.ofArguments interface name arguments ≠ .ignored := by
  have listed := List.mem_of_find?_eq_some found
  obtain rfl : signature.name = name := by simpa using List.find?_some found
  clear found
  cases interface <;> simp only [Interface.requests, List.mem_cons, List.not_mem_nil, or_false]
    at listed
  case sharedMemory =>
    rcases listed with rfl | rfl
    · match arguments, length with
      | [_, first, second], _ =>
        simp only [List.zip_cons_cons, List.all_cons, Bool.and_eq_true] at fit
        obtain ⟨_, rfl⟩ := Frontend.descriptor_of_accepts fit.2.1
        obtain ⟨_, rfl⟩ := Frontend.integer_of_accepts fit.2.2.1
        simp [Request.ofArguments]
    · exact absurd rfl creates
  case pool =>
    rcases listed with rfl | rfl | rfl
    · match arguments, length with
      | [_, offset, width, height, stride, format], _ =>
        simp only [List.zip_cons_cons, List.all_cons, Bool.and_eq_true] at fit
        obtain ⟨_, rfl⟩ := Frontend.integer_of_accepts fit.2.1
        obtain ⟨_, rfl⟩ := Frontend.integer_of_accepts fit.2.2.1
        obtain ⟨_, rfl⟩ := Frontend.integer_of_accepts fit.2.2.2.1
        obtain ⟨_, rfl⟩ := Frontend.integer_of_accepts fit.2.2.2.2.1
        obtain ⟨_, rfl⟩ := Frontend.word_of_accepts fit.2.2.2.2.2.1
        simp [Request.ofArguments]
    all_goals exact absurd rfl creates
  case windowShell =>
    rcases listed with rfl | rfl | rfl | rfl
    case inr.inr.inl =>
      match arguments, length with
      | [_, surface], _ =>
        simp only [List.zip_cons_cons, List.all_cons, Bool.and_eq_true] at fit
        obtain ⟨_, _, rfl, -⟩ := Frontend.object_of_accepts fit.2.1
        simp [Request.ofArguments]
    all_goals first | exact absurd rfl creates | simp [Request.ofArguments]
  -- What the others create takes no further arguments, or none that matter.
  all_goals
    repeat' rcases listed with rfl | listed
    all_goals
      first
        | exact absurd rfl creates
        | simp [Request.ofArguments]

/-- A request creates what its signature says, and a destructor creates nothing. -/
theorem created?_ofArguments :
    (Request.ofArguments interface name arguments).created? = signature.created? ∧
     (signature.isDestructor = true → Request.ofArguments interface name arguments = .ignored) := by
  rcases Request.ofArguments_listed interface name arguments with ignored | ⟨-, listed⟩
  · have plain : signature.created? = none :=
      not_not.mp fun creates => ofArguments_ne_ignored found length fit creates ignored
    rw [ignored, plain]
    exact ⟨rfl, fun _ => rfl⟩
  · obtain ⟨makes, stays, -⟩ := listed signature found
    exact ⟨makes, fun ends => (Bool.eq_false_iff.mp stays ends).elim⟩

/-- The surface that a window surface is asked for is an object of that kind. -/
theorem surface_of_accepted {index : ObjectIndex}
    (makes : Request.ofArguments interface name arguments = .getWindowSurface index) :
    ∃ object, frontend.object? ⟨client, index⟩ = some object ∧ object.isAlive = true ∧
      object.resource.interface = .surface := by
  rcases Request.ofArguments_listed interface name arguments with ignored | ⟨-, listed⟩
  · cases ignored.symm.trans makes
  · obtain ⟨-, -, asks⟩ := listed signature found
    obtain ⟨created, rfl, takes⟩ := asks index makes
    rw [takes] at fit
    simp only [List.zip_cons_cons, List.all_cons, Bool.and_eq_true] at fit
    obtain ⟨_, object, ⟨⟩, held⟩ := Frontend.object_of_accepts fit.2.1
    exact ⟨object, held⟩

end Checked

/-- What it takes that a request passes the checks. -/
theorem Frontend.check_eq_ok {frontend : Frontend} {client : ClientId} {object : ProtocolObject}
    {name : String} {arguments : List Argument} {signature : Signature}
    (checked : frontend.check client object name arguments = .ok signature) :
    object.resource.interface.signature? name = some signature ∧
      signature.arguments.length = arguments.length ∧
        (signature.arguments.zip arguments).all
          (fun pair => frontend.accepts client pair.1 pair.2) := by
  unfold check at checked
  split at checked
  · cases checked
  · split at checked
    · cases checked
    · split at checked
      · rename_i found _ fit
        cases checked
        exact ⟨found, fit⟩
      · cases checked

namespace Frontend

/-- The operation of the server that a request of an object comes to, if it comes to one. -/
def operation? (frontend : Frontend) (client : ClientId) (object : ProtocolObject)
    (request : Request) : Option Operation :=
  match object.resource, request with
  | .compositor, .createSurface =>
    ((frontend.clients.get? client).bind Client.connection).map fun connection =>
      .createSurface connection object.version
  | .sharedMemory, .createPool descriptor size =>
    ((frontend.clients.get? client).bind Client.connection).map fun connection =>
      .createPool connection descriptor size
  | .windowShell, .getWindowSurface index =>
    match (frontend.object? ⟨client, index⟩).map ProtocolObject.resource with
    | some (.surface surface) =>
      if (frontend.server.windowSurfaceOf? surface).isSome then none
      else some (.getWindowSurface surface)
    | _ => none
  | .surface surface, .attach none offset => some (.attach surface .removed offset)
  | .surface surface, .attach (some index) offset =>
    match (frontend.object? ⟨client, index⟩).map ProtocolObject.resource with
    | some (.buffer buffer _) => some (.attach surface (.buffer buffer) offset)
    | _ => none
  | .surface surface, .setOffset offset => some (.setOffset surface offset)
  | .surface surface, .damage rect => some (.addDamage surface (.surface rect))
  | .surface surface, .damageBuffer rect => some (.addDamage surface (.buffer rect))
  | .surface surface, .frame => some (.frame surface)
  | .surface surface, .commit => some (.commit surface)
  | .surface surface, .setTransform value =>
    (Transform.ofWire? value.toInt).map fun transform => .setTransform surface transform
  | .surface surface, .setScale scale => some (.setScale surface scale)
  | .pool pool, .createBuffer offset width height stride number =>
    match formatOf number with
    | .known format => some (.createBuffer pool { offset, width, height, stride, format })
    | _ => none
  | .pool pool, .resizePool size => some (.resizePool pool size)
  | .windowSurface window _, .getToplevel => some (.getToplevel window)
  | .windowSurface window _, .setGeometry rect => some (.setWindowGeometry window rect)
  | .windowSurface window _, .ackConfigure serial => some (.ackConfigure window ⟨serial⟩)
  | .toplevel toplevel, .setTitle title => some (.setTitle toplevel title)
  | .toplevel toplevel, .setAppId appId => some (.setAppId toplevel appId)
  | _, _ => none

end Frontend

/-- What is ignored asks the server for nothing. -/
theorem Frontend.operation?_ignored (frontend : Frontend) (client : ClientId)
    (object : ProtocolObject) : frontend.operation? client object .ignored = none := by
  obtain ⟨resource, version, isAlive⟩ := object
  cases resource <;> rfl

/-- No request accepts a client. -/
theorem Frontend.accepted_operation? {frontend : Frontend} {client : ClientId}
    {object : ProtocolObject} {request : Request} {operation : Operation}
    (asked : frontend.operation? client object request = some operation) :
    operation.accepted = 0 := by
  unfold operation? at asked
  split at asked <;> grind [Operation.accepted, Option.map_eq_some_iff]

/-- What a request comes to depends on the objects that it names. -/
theorem Frontend.operation?_congr {frontend frontend' : Frontend} {client : ClientId}
    {object : ProtocolObject} {request : Request} (server : frontend'.server = frontend.server)
    (owner : frontend'.ties.owner client = frontend.ties.owner client)
    (objects : ∀ index, (request = .getWindowSurface index ∨
      ∃ offset, request = .attach (some index) offset) →
        frontend'.object? ⟨client, index⟩ = frontend.object? ⟨client, index⟩) :
    frontend'.operation? client object request = frontend.operation? client object request := by
  have owner : (frontend'.clients.get? client).bind Client.connection =
      (frontend.clients.get? client).bind Client.connection := owner
  unfold operation?
  rw [owner, server]
  cases request with
  | getWindowSurface index =>
    have same := objects index (.inl rfl)
    cases object.resource <;> simp only [same]
  | attach buffer offset =>
    cases buffer with
    | none => cases object.resource <;> rfl
    | some index =>
      have same := objects index (.inr ⟨offset, rfl⟩)
      cases object.resource <;> simp only [same]
  | _ => cases object.resource <;> rfl

namespace Turn

variable {turn turn' : Turn} {host : Host} {id created : ObjectId} {object : ProtocolObject}
  {config : Config} {accepted : Nat} {drawn : ConnectionId → Nat}

/-- A turn goes on with an operation of the server, or without the server. -/
def Heeds (host : Host) (turn turn' : Turn) : Option Operation → Prop
  | some operation => turn.Serves host operation turn'
  | none => turn.Minds turn'

private theorem minds_settleOnSurface (outcome : Outcome Server (Except SurfaceError Unit)) :
    (turn.absorb outcome).Minds (turn.settleOnSurface id outcome) := by
  unfold settleOnSurface
  split
  · exact .refl _
  · exact minds_refuseOnSurface _

private theorem minds_settleOnWindow (failure : LogMessage)
    (outcome : Outcome Server (Except WindowError Unit)) :
    (turn.absorb outcome).Minds (turn.settleOnWindow failure outcome) := by
  unfold settleOnWindow
  split
  · exact .refl _
  · exact minds_note _

/-- An object gets a meaning that the server has no part in. -/
theorem settles_establish {interface : Interface} {resource : Resource}
    (inert : turn.frontend.ties.stands created = some (.inert interface))
    (meant : ∀ interface, resource ≠ .inert interface) :
    turn.Settles (turn.establish created resource) created := by
  refine ⟨.inl ⟨resource, ?_, meant⟩, fun _ logged _ => logged⟩
  exact (congrFun (congrArg Ties.stands (Frontend.ties_establish _ inert)) created).trans
    (Function.update_self ..)

/-- To send a message touches no state. -/
theorem frontend_send (id : ObjectId) (message : Message) :
    (turn.send id message).frontend = turn.frontend := by
  unfold send say
  split
  · split <;> rfl
  · rfl

private theorem log_send (id : ObjectId) (message : Message) :
    (turn.send id message).log = turn.log := by
  unfold send say
  split
  · split <;> rfl
  · rfl

section Heeding

variable (standing : turn.frontend.Standing config accepted drawn)

include standing

private theorem serves_resizePool (pool : PoolId) (size : Int32) :
    turn.Serves host (.resizePool pool size) (turn.resizePool host id pool size) := by
  refine .of_calm standing (turn.frontend.server.resizePool host pool size) rfl rfl rfl ?_
  unfold resizePool
  dsimp only
  split
  · exact .refl _
  · exact minds_postError ..

/-- A request to a surface that creates nothing is served, whether or not it is refused. -/
theorem serves_settleOnSurface {operation : Operation}
    {outcome : Outcome Server (Except SurfaceError Unit)} (calm : operation.isCalm = true)
    (silent : operation.isSilent = true)
    (state : outcome.state = turn.frontend.server.next host operation) :
    turn.Serves host operation (turn.settleOnSurface id outcome) :=
  .of_calm standing _ calm silent state (minds_settleOnSurface outcome)

/-- A request to a window that creates nothing is served, whether or not it is refused. -/
theorem serves_settleOnWindow {operation : Operation} {failure : LogMessage}
    {outcome : Outcome Server (Except WindowError Unit)} (calm : operation.isCalm = true)
    (silent : operation.isSilent = true)
    (state : outcome.state = turn.frontend.server.next host operation) :
    turn.Serves host operation (turn.settleOnWindow failure outcome) :=
  .of_calm standing _ calm silent state (minds_settleOnWindow failure outcome)

/-- A toplevel heeds every request. -/
theorem heeds_onToplevel (toplevel : ToplevelId) (request : Request)
    (stands : object.resource = .toplevel toplevel) :
    turn.Heeds host (turn.onToplevel toplevel request)
      (turn.frontend.operation? id.client object request) := by
  obtain ⟨_, version, isAlive⟩ := object
  obtain rfl := stands
  cases request <;> first
    | exact Minds.refl turn
    | exact serves_settleOnWindow standing rfl rfl rfl

variable (served : turn.frontend.isConnected id.client = true)
  (alive : turn.frontend.ties.stands id = some object.resource)
  (same : created.client = id.client)
  {request : Request}
  (inert : ∀ interface, request.created? = some interface →
    turn.frontend.ties.stands created = some (.inert interface))
  (rooms : ∀ operation, turn.frontend.operation? id.client object request = some operation →
    ∀ client, drawn client + turn.frontend.server.drawnBy host operation client ≤ UInt32.size)

include served alive same inert rooms

/-- A surface heeds every request, and settles what it is to create. -/
theorem heeds_onSurface {surface : SurfaceId} (stands : object.resource = .surface surface) :
    turn.Heeds host (turn.onSurface host id created surface request)
        (turn.frontend.operation? id.client object request) ∧
      (request.interface? = some .surface → request.created? ≠ none →
        turn.Settles (turn.onSurface host id created surface request) created) := by
  obtain ⟨_, version, isAlive⟩ := object
  obtain rfl := stands
  cases request with
  | frame =>
    obtain ⟨serves, settles⟩ := serves_frame standing served same (inert _ rfl) alive
      (rooms _ rfl)
    exact ⟨serves, fun _ _ => settles⟩
  | commit =>
    exact ⟨serves_commit standing served alive, fun _ none => (none rfl).elim⟩
  | attach buffer offset =>
    refine ⟨?_, fun _ none => (none rfl).elim⟩
    cases buffer with
    | none => exact serves_settleOnSurface standing rfl rfl rfl
    | some index =>
      unfold onSurface attach Frontend.operation?
      dsimp only
      cases (turn.frontend.object? ⟨id.client, index⟩).map ProtocolObject.resource with
      | none => exact minds_note _
      | some held =>
        cases held with
        | buffer => exact serves_settleOnSurface standing rfl rfl rfl
        | _ => exact minds_note _
  | setTransform value =>
    refine ⟨?_, fun _ none => (none rfl).elim⟩
    unfold onSurface setTransform Frontend.operation?
    dsimp only
    cases Transform.ofWire? value.toInt with
    | none => exact minds_postError ..
    | some transform => exact serves_settleOnSurface standing rfl rfl rfl
  | setOffset | damage | damageBuffer | setScale =>
    exact ⟨serves_settleOnSurface standing rfl rfl rfl, fun _ none => (none rfl).elim⟩
  | _ =>
    refine ⟨Minds.refl turn, fun fits creates => ?_⟩
    first | exact (creates rfl).elim | cases fits

/-- A pool heeds every request, and settles what it is to create. -/
theorem heeds_onPool {pool : PoolId} (stands : object.resource = .pool pool) :
    turn.Heeds host (turn.onPool host id created pool request)
        (turn.frontend.operation? id.client object request) ∧
      (request.interface? = some .pool → request.created? ≠ none →
        turn.Settles (turn.onPool host id created pool request) created) := by
  obtain ⟨_, version, isAlive⟩ := object
  obtain rfl := stands
  cases request with
  | createBuffer offset width height stride number =>
    have refused (code : ErrorCode) (text : String) :
        turn.Settles (turn.postError id code text) created :=
      settles_postError alive served same fun _ logged _ => logged
    unfold onPool
    unfold Frontend.operation? at rooms ⊢
    dsimp only at rooms ⊢
    cases means : formatOf number with
    | known format =>
      rw [means] at rooms
      obtain ⟨serves, settles⟩ := serves_createBuffer standing served alive same (inert _ rfl) alive
        (rooms _ rfl)
      exact ⟨serves, fun _ _ => settles⟩
    | foreign name => exact ⟨minds_postError .., fun _ _ => refused _ _⟩
    | unknown => exact ⟨minds_postError .., fun _ _ => refused _ _⟩
  | resizePool size =>
    exact ⟨serves_resizePool standing pool size, fun _ none => (none rfl).elim⟩
  | _ => exact ⟨Minds.refl turn, nofun⟩

/-- A window surface heeds every request, and settles what it is to create. -/
theorem heeds_onWindowSurface {window : WindowSurfaceId} {shell : ObjectIndex}
    (stands : object.resource = .windowSurface window shell) :
    turn.Heeds host (turn.onWindowSurface id created window shell request)
        (turn.frontend.operation? id.client object request) ∧
      (request.interface? = some .windowSurface → request.created? ≠ none →
        turn.Settles (turn.onWindowSurface id created window shell request) created) := by
  obtain ⟨_, version, isAlive⟩ := object
  obtain rfl := stands
  cases request with
  | getToplevel =>
    obtain ⟨serves, settles⟩ := serves_createToplevel standing served alive same (inert _ rfl)
    exact ⟨serves, fun _ _ => settles⟩
  | getPopup =>
    have inert := inert _ rfl
    have establishes : (turn.note .popupDismissed).Minds
        ((turn.note .popupDismissed).establish created .popup) :=
      minds_establish inert trivial nofun nofun
    have minds := (minds_note .popupDismissed).trans establishes
    have shown := (congrFun (congrArg Ties.stands (Frontend.ties_establish .popup inert))
      created).trans (Function.update_self ..)
    unfold onWindowSurface
    refine ⟨minds.trans (minds_send _ rfl), fun _ _ => ⟨.inl ⟨.popup, ?_, nofun⟩, ?_⟩⟩
    · rw [frontend_send]
      exact shown
    · intro message logged lapse
      rw [log_send] at logged
      refine (List.mem_append.mp logged).resolve_right fun alone => ?_
      rw [List.mem_singleton.mp alone] at lapse
      cases lapse
  | setGeometry | ackConfigure =>
    exact ⟨serves_settleOnWindow standing rfl rfl rfl, fun _ none => (none rfl).elim⟩
  | _ => exact ⟨Minds.refl turn, nofun⟩

/-- A window surface that is asked for is granted or refused, and settled on a surface. -/
theorem heeds_createWindowSurface {index : ObjectIndex} (makes : request = .getWindowSurface index)
    (stands : object.resource = .windowShell)
    (listed : ∃ held, turn.frontend.ties.stands ⟨id.client, index⟩ = some held) :
    turn.Heeds host (turn.createWindowSurface id created index)
        (turn.frontend.operation? id.client object request) ∧
      ((∃ surface, turn.frontend.ties.stands ⟨id.client, index⟩ = some (.surface surface)) →
        turn.Settles (turn.createWindowSurface id created index) created) := by
  subst makes
  obtain ⟨_, version, isAlive⟩ := object
  obtain rfl := stands
  obtain ⟨held, meant⟩ := listed
  obtain ⟨record, found, -, means⟩ := Frontend.stands_eq_some.mp meant
  have inert := inert _ rfl
  unfold Frontend.operation?
  simp only [found, Option.map_some, means]
  cases held with
  | surface surface =>
    cases bare : turn.frontend.server.windowSurfaceOf? surface with
    | none =>
      obtain ⟨serves, settles⟩ := serves_createWindowSurface standing served alive same inert meant
        bare
      simp only [bare, Option.isSome_none, Bool.false_eq_true, if_false]
      exact ⟨serves, fun _ => settles⟩
    | some window =>
      simp only [createWindowSurface, found, Option.map_some, means, bare, Option.isSome_some,
        if_true]
      exact ⟨minds_postError .., fun _ =>
        settles_postError alive served same fun _ logged _ => logged⟩
  | _ =>
    simp only [createWindowSurface, found, Option.map_some, means]
    refine ⟨.refl turn, ?_⟩
    rintro ⟨_, surface⟩
    cases meant.symm.trans surface

/-- The compositor heeds every request, and settles what it is to create for a client with a
connection. -/
theorem heeds_onCompositor (stands : object.resource = .compositor) :
    turn.Heeds host (turn.carryOut host id created object request)
        (turn.frontend.operation? id.client object request) ∧
      ((∃ connection, turn.frontend.ties.owner id.client = some connection) →
        request.interface? = some .compositor → request.created? ≠ none →
        turn.Settles (turn.carryOut host id created object request) created) := by
  obtain ⟨_, version, isAlive⟩ := object
  obtain rfl := stands
  cases request with
  | createSurface =>
    unfold carryOut
    unfold Frontend.operation? at rooms ⊢
    dsimp only at rooms ⊢
    cases owned : (turn.frontend.clients.get? id.client).bind Client.connection with
    | none =>
      simp only [createSurface, owned]
      refine ⟨.refl turn, ?_⟩
      rintro ⟨connection, managed⟩
      cases owned.symm.trans managed
    | some connection =>
      rw [owned] at rooms
      obtain ⟨serves, settles⟩ := serves_createSurface standing served owned alive same
        (inert _ rfl) (rooms _ rfl)
      exact ⟨serves, fun _ _ _ => settles⟩
  | createRegion =>
    exact ⟨minds_establish (inert _ rfl) trivial (by simp) (by simp),
      fun _ _ _ => settles_establish (inert _ rfl) (by simp)⟩
  | _ =>
    refine ⟨Minds.refl turn, fun _ fits creates => ?_⟩
    first | exact (creates rfl).elim | cases fits

/-- The shared memory heeds every request, and settles what it is to create for a client with a
connection. -/
theorem heeds_onSharedMemory (stands : object.resource = .sharedMemory) :
    turn.Heeds host (turn.carryOut host id created object request)
        (turn.frontend.operation? id.client object request) ∧
      ((∃ connection, turn.frontend.ties.owner id.client = some connection) →
        request.interface? = some .sharedMemory → request.created? ≠ none →
        turn.Settles (turn.carryOut host id created object request) created) := by
  obtain ⟨_, version, isAlive⟩ := object
  obtain rfl := stands
  cases request with
  | createPool descriptor size =>
    unfold carryOut
    unfold Frontend.operation? at rooms ⊢
    dsimp only at rooms ⊢
    cases owned : (turn.frontend.clients.get? id.client).bind Client.connection with
    | none =>
      simp only [createPool, owned]
      refine ⟨.refl turn, ?_⟩
      rintro ⟨connection, managed⟩
      cases owned.symm.trans managed
    | some connection =>
      rw [owned] at rooms
      obtain ⟨serves, settles⟩ := serves_createPool standing served owned alive same
        (inert _ rfl) (rooms _ rfl)
      exact ⟨serves, fun _ _ _ => settles⟩
  | _ =>
    refine ⟨Minds.refl turn, fun _ fits creates => ?_⟩
    first | exact (creates rfl).elim | cases fits

/-- The window shell heeds every request, and settles what it is to create. -/
theorem heeds_onWindowShell (stands : object.resource = .windowShell)
    (listed : ∀ index, request = .getWindowSurface index →
      ∃ held, turn.frontend.ties.stands ⟨id.client, index⟩ = some held) :
    turn.Heeds host (turn.carryOut host id created object request)
        (turn.frontend.operation? id.client object request) ∧
      (request.interface? = some .windowShell →
        (∀ index, request = .getWindowSurface index →
          ∃ surface, turn.frontend.ties.stands ⟨id.client, index⟩ = some (.surface surface)) →
        request.created? ≠ none →
        turn.Settles (turn.carryOut host id created object request) created) := by
  obtain ⟨_, version, isAlive⟩ := object
  obtain rfl := stands
  cases request with
  | createPositioner =>
    exact ⟨minds_establish (inert _ rfl) trivial (by simp) (by simp),
      fun _ _ _ => settles_establish (inert _ rfl) (by simp)⟩
  | getWindowSurface index =>
    obtain ⟨heeds, settles⟩ := heeds_createWindowSurface standing served alive same inert rooms
      rfl rfl (listed index rfl)
    exact ⟨heeds, fun _ surface _ => settles (surface index rfl)⟩
  | _ =>
    refine ⟨Minds.refl turn, fun fits _ creates => ?_⟩
    first | exact (creates rfl).elim | cases fits

variable (host created) in
/-- **A request is heeded:** what it asks of the server is done, and what comes of it delivered. A
new object gets its meaning, or its client is told off. -/
theorem heeds_carryOut (listed : ∀ index, request = .getWindowSurface index →
      ∃ held, turn.frontend.ties.stands ⟨id.client, index⟩ = some held) :
    turn.Heeds host (turn.carryOut host id created object request)
        (turn.frontend.operation? id.client object request) ∧
      ((∃ connection, turn.frontend.ties.owner id.client = some connection) →
        (∀ interface, object.resource ≠ .inert interface) →
        request.interface? = some object.resource.interface →
        (∀ index, request = .getWindowSurface index →
          ∃ surface, turn.frontend.ties.stands ⟨id.client, index⟩ = some (.surface surface)) →
        request.created? ≠ none →
        turn.Settles (turn.carryOut host id created object request) created) := by
  obtain ⟨resource, version, isAlive⟩ := object
  cases resource with
  | surface surface =>
    obtain ⟨heeds, settles⟩ := heeds_onSurface standing served alive same inert rooms rfl
    exact ⟨heeds, fun _ _ fits _ => settles fits⟩
  | pool pool =>
    obtain ⟨heeds, settles⟩ := heeds_onPool standing served alive same inert rooms rfl
    exact ⟨heeds, fun _ _ fits _ => settles fits⟩
  | windowSurface window shell =>
    obtain ⟨heeds, settles⟩ := heeds_onWindowSurface standing served alive same inert rooms rfl
    exact ⟨heeds, fun _ _ fits _ => settles fits⟩
  | toplevel toplevel =>
    refine ⟨heeds_onToplevel standing toplevel request rfl, fun _ _ fits _ creates => ?_⟩
    cases request <;> first | exact (creates rfl).elim | cases fits
  | compositor =>
    obtain ⟨heeds, settles⟩ := heeds_onCompositor standing served alive same inert rooms rfl
    exact ⟨heeds, fun managed _ fits _ => settles managed fits⟩
  | sharedMemory =>
    obtain ⟨heeds, settles⟩ := heeds_onSharedMemory standing served alive same inert rooms rfl
    exact ⟨heeds, fun managed _ fits _ => settles managed fits⟩
  | windowShell =>
    obtain ⟨heeds, settles⟩ :=
      heeds_onWindowShell standing served alive same inert rooms rfl listed
    exact ⟨heeds, fun _ _ => settles⟩
  | inert interface =>
    exact ⟨Minds.refl turn, fun _ meant => (meant interface rfl).elim⟩
  | _ =>
    refine ⟨Minds.refl turn, fun _ _ fits _ creates => ?_⟩
    cases request <;> first | exact (creates rfl).elim | cases fits

end Heeding

end Turn

end DisplayServer
