import DisplayServer.Proofs.Issuing

/-! # What an operation does to a surface

Seen from one surface, an operation asks something of it, commits, presents or destroys it, or
leaves it alone but for its role and its window. `Server.Course` lists these cases with the
conditions under which they arise, and `Server.course` says that there are no others. Nothing is
assumed of the counters: giving a handle out again replaces the surface that had it.
-/

namespace DisplayServer

/-- What a request asks of a surface. -/
inductive Surface.Wish where
  | attachment (attachment : Attachment) (offset : Point)
  | offset (offset : Point)
  | damage (damage : Damage)
  | scale (scale : Int32)
  | transform (transform : Transform)
  | callback (callback : CallbackId)
deriving DecidableEq, Repr

namespace Surface

/-- A surface records what is asked of it. -/
def heed (surface : Surface) : Wish → Surface
  | .attachment attachment offset => surface.attach attachment offset
  | .offset offset => surface.setOffset offset
  | .damage damage => surface.addDamage damage
  | .scale scale => surface.setScale scale
  | .transform transform => surface.setTransform transform
  | .callback callback => surface.addCallback callback

/-- At most the role and the window of a surface change. -/
inductive Kept : Option Surface → Option Surface → Prop where
  | none : Kept none none
  | some {surface : Surface} (role : Option Role) (windowSurface : Option WindowSurfaceId) :
      Kept (some surface) (some { surface with role, windowSurface })

private theorem Kept.refl (surface : Option Surface) : Kept surface surface := by
  cases surface with
  | none => exact .none
  | some surface => exact .some surface.role surface.windowSurface

private theorem Kept.trans {first second third : Option Surface} (before : Kept first second)
    (after : Kept second third) : Kept first third := by
  cases before with
  | none => exact after
  | some _ _ =>
    cases after with
    | some role windowSurface => exact .some role windowSurface

private theorem kept_assumeRole {surface changed : Surface} {role : Role}
    (taken : surface.assumeRole role = .ok changed) : Kept (some surface) (some changed) := by
  unfold assumeRole at taken
  split at taken
  · cases taken
    exact .some ..
  · split at taken <;> cases taken
    exact .refl _

/-- A change of one surface that keeps it keeps them all. -/
theorem kept_modify (surfaces : Arena SurfaceId Surface) {key : SurfaceId}
    {change : Surface → Surface} (keeps : ∀ surface, surfaces.get? key = some surface →
      Kept (some surface) (some (change surface)))
    (id : SurfaceId) : Kept (surfaces.get? id) ((surfaces.modify key change).get? id) := by
  rw [Arena.get?_modify]
  split
  · rename_i same
    subst same
    cases found : surfaces.get? id with
    | none => exact .none
    | some surface => exact keeps surface found
  · exact .refl _

end Surface

namespace Operation

/-- What an operation asked of a surface, to judge by its answer. -/
def wish? (id : SurfaceId) : Operation → Answer → Option Surface.Wish
  | .attach surface attachment offset, .done =>
    if surface = id then some (.attachment attachment offset) else none
  | .setOffset surface offset, .done => if surface = id then some (.offset offset) else none
  | .addDamage surface damage, .done => if surface = id then some (.damage damage) else none
  | .setScale surface scale, .done => if surface = id then some (.scale scale) else none
  | .setTransform surface transform, .done =>
    if surface = id then some (.transform transform) else none
  | .frame surface, @Answer.handle .callback callback =>
    if surface = id then some (.callback callback) else none
  | _, _ => none

/-- The operation that asks for something, and its answer. -/
def ofWish (id : SurfaceId) : Surface.Wish → Operation × Answer
  | .attachment attachment offset => (.attach id attachment offset, .done)
  | .offset offset => (.setOffset id offset, .done)
  | .damage damage => (.addDamage id damage, .done)
  | .scale scale => (.setScale id scale, .done)
  | .transform transform => (.setTransform id transform, .done)
  | .callback callback => (.frame id, .handle callback)

/-- The surface that an operation is about, apart from its role and its window. -/
def surface? : Operation → Option SurfaceId
  | attach surface _ _ | setOffset surface _ | addDamage surface _ | setScale surface _
  | setTransform surface _ | frame surface | commit surface | present surface _
  | destroySurface surface => some surface
  | _ => none

/-- Whether an operation asks something of a surface. -/
def isRequest : Operation → Bool
  | attach _ _ _ | setOffset _ _ | addDamage _ _ | setScale _ _ | setTransform _ _ | frame _ => true
  | _ => false

/-- Whether an operation may create surfaces, or change or destroy several of them. -/
def isWide : Operation → Bool
  | connect | disconnect _ | createSurface _ _ | presentAll _ => true
  | _ => false

/-- A wish tells which request was made, and how it was answered. -/
theorem eq_ofWish {operation : Operation} {id : SurfaceId} {answer : Answer} {wish : Surface.Wish}
    (asked : operation.wish? id answer = some wish) : (operation, answer) = ofWish id wish := by
  unfold wish? at asked
  split at asked
  case h_7 => cases asked
  all_goals
    split at asked
    · rename_i same
      cases asked
      rw [same]
      rfl
    · cases asked

/-- Only requests are wishes. -/
theorem isRequest_of_wish? {operation : Operation} {id : SurfaceId} {answer : Answer}
    {wish : Surface.Wish} (asked : operation.wish? id answer = some wish) :
    operation.isRequest = true := by
  unfold wish? at asked
  split at asked
  all_goals first | rfl | cases asked

/-- An operation asks something only of the surface that it is about. -/
theorem wish?_eq_none {operation : Operation} {id : SurfaceId}
    (apart : operation.surface? ≠ some id) (answer : Answer) : operation.wish? id answer = none := by
  unfold wish?
  split <;> first | rfl | exact if_neg fun same => apart (congrArg some same)

end Operation

namespace Connection

variable {server : Server} {host : Host} {operation : Operation} {old new : Connection}

/-- A surface that an operation is not about is kept. -/
theorem Change.kept (change : Change server host operation old new) {id : SurfaceId}
    (apart : operation.surface? ≠ some id) (narrow : operation.isWide = false) :
    Surface.Kept (old.surfaces.get? id) (new.surfaces.get? id) := by
  have elsewhere {surfaces : Arena SurfaceId Surface} {key : SurfaceId} {change : Surface → Surface}
      (other : some key ≠ some id) :
      Surface.Kept (surfaces.get? id) ((surfaces.modify key change).get? id) := by
    rw [Arena.get?_modify, if_neg fun same => other (congrArg some same.symm)]
    exact .refl _
  cases change with
  | same | takeEvents _ | unbind | createPool _ _ | resizePool _ _ _ | createBuffer _ _
  | ackConfigure | setWindowGeometry _ _ | missConfigure _ | setTitle | setAppId => exact .refl _
  | @bind _ _ _ _ capability _ => cases capability.kind <;> exact .refl _
  | destroyPool =>
    rw [destroyPool_frame]
    exact .refl _
  | destroyBuffer =>
    rw [destroyBuffer_eq]
    exact .refl _
  | failRead _ failure =>
    rw [failure.frame]
    exact .refl _
  | attach _ _ _ =>
    simp only [modifySurface]
    rw [claim_frame, withdraw_frame]
    exact elsewhere apart
  | request found request =>
    cases request with
    | role taken =>
      apply Surface.kept_modify
      intro surface held
      cases found.symm.trans held
      exact Surface.kept_assumeRole taken
    | _ => exact elsewhere apart
  | frame =>
    simp only [addCallback, draw]
    split
    · exact .refl _
    · exact elsewhere apart
  | commit done =>
    obtain ⟨surface, found⟩ := surface_of_commit? done
    obtain ⟨change, surfaces, _⟩ := surfaces_commit found done
    rw [surfaces]
    exact elsewhere apart
  | commitUnread done _ failure =>
    obtain ⟨surface, found⟩ := surface_of_commit? done
    obtain ⟨change, surfaces, _⟩ := surfaces_commit found done
    rw [failure.frame, surfaces]
    exact elsewhere apart
  | present done =>
    obtain ⟨_, _, rfl⟩ := present?_eq_some done
    exact elsewhere apart
  | destroySurface done =>
    obtain ⟨surface, found⟩ := surface_of_destroySurface? done
    rw [destroySurface?_eq found done, Arena.get?_erase,
      if_neg fun same => apart (congrArg some same.symm)]
    exact .refl _
  | @getWindowSurface _ key _ done =>
    obtain ⟨surface, changed, found, taken, granted⟩ := getWindowSurface_eq_ok done
    have roleTaken : Surface.Kept (old.surfaces.get? id)
        ((old.surfaces.modify key fun _ => changed).get? id) := by
      apply Surface.kept_modify
      intro surface' held
      cases found.symm.trans held
      exact Surface.kept_assumeRole taken
    obtain ⟨_, _, rfl⟩ | ⟨_, rfl⟩ := granted
    · exact roleTaken
    · refine roleTaken.trans (Surface.kept_modify _ ?_ id)
      intro surface' _
      exact .some ..
  | getToplevel done =>
    obtain ⟨_, _, _, _, rfl⟩ := getToplevel_eq_ok done
    exact .refl _
  | sendConfigure done =>
    obtain ⟨_, _, _, _, _, rfl⟩ := configure_eq_ok done
    exact .refl _
  | destroyWindowSurface done =>
    obtain ⟨window, _, rfl⟩ := destroyWindowSurface?_eq_some done
    apply Surface.kept_modify
    intro surface _
    split
    · exact .some ..
    · exact .refl _
  | destroyToplevel done =>
    obtain ⟨_, _, rfl⟩ := destroyToplevel?_eq_some done
    exact .refl _
  | presentAll | createSurface => cases narrow

end Connection

namespace Server

/-- What an operation successfully asks of a surface. -/
def wish? (server : Server) (host : Host) (operation : Operation) (id : SurfaceId) :
    Option Surface.Wish :=
  operation.wish? id (server.step host operation).answer

/-- An operation presents a surface. -/
inductive Presents (server : Server) (id : SurfaceId) : Operation → Prop where
  | alone (time : UInt32) : Presents server id (.present id time)
  | shown (time : UInt32) {surface : Surface} (live : server.surface? id = some surface)
      (shows : surface.current.buffer ≠ none) : Presents server id (.presentAll time)

/-- An operation gives the handle of a surface out, or accepts a client under the number of its
client. Where the surface is live it is replaced. -/
inductive Replaces (server : Server) (host : Host) (id : SurfaceId) : Operation → Prop where
  | surface {connection : ConnectionId} {version : UInt32}
      (answered : (server.step host (.createSurface connection version)).answer = .handle id) :
      Replaces server host id (.createSurface connection version)
  | client (answered : (server.step host .connect).answer = .connection id.connection) :
      Replaces server host id .connect

/-- An operation destroys a surface. -/
inductive Destroys (server : Server) (host : Host) (id : SurfaceId) : Operation → Prop where
  | alone : Destroys server host id (.destroySurface id)
  | disconnect : Destroys server host id (.disconnect id.connection)
  | replaced {operation : Operation} (replaces : server.Replaces host id operation) :
      Destroys server host id operation

/-- An operation commits, presents or destroys a surface. -/
inductive Disturbs (server : Server) (host : Host) (id : SurfaceId) : Operation → Prop where
  | commit : Disturbs server host id (.commit id)
  | presents {operation : Operation} (presents : server.Presents id operation) :
      Disturbs server host id operation
  | destroys {operation : Operation} (destroys : server.Destroys host id operation) :
      Disturbs server host id operation

/-- **What becomes of a surface.** -/
inductive Course (server : Server) (host : Host) (id : SurfaceId) (operation : Operation) :
    Option Surface → Option Surface → Prop where
  | kept {before after : Option Surface} (kept : Surface.Kept before after)
      (unasked : server.wish? host operation id = none)
      (undisturbed : before = none ∨ ¬ server.Disturbs host id operation) :
      Course server host id operation before after
  | asked {surface : Surface} {wish : Surface.Wish}
      (asked : server.wish? host operation id = some wish) :
      Course server host id operation (some surface) (some (surface.heed wish))
  | created {before : Option Surface} {connection : ConnectionId} {version : UInt32}
      (creates : operation = .createSurface connection version)
      (answered : (server.step host operation).answer = .handle id) :
      Course server host id operation before (some { version })
  | committed {surface : Surface} {client : Connection} (commits : operation = .commit id)
      (found : server.connection? id.connection = some client) :
      Course server host id operation (some surface)
        (some (surface.promote (client.nextContent surface)))
  | presented {surface : Surface} (presents : server.Presents id operation) :
      Course server host id operation (some surface) (some surface.presented)
  | destroyed {surface : Surface} (destroys : server.Destroys host id operation) :
      Course server host id operation (some surface) none

section Course

variable {server : Server} {host : Host} {operation : Operation} {id : SurfaceId}

/-- An operation that is about no surface, or about another one, leaves a surface undisturbed. -/
theorem not_disturbs (apart : operation.surface? ≠ some id) (narrow : operation.isWide = false) :
    ¬ server.Disturbs host id operation := by
  rintro (_ | ⟨_ | _⟩ | ⟨_ | _ | ⟨_ | _⟩⟩)
  all_goals first | exact apart rfl | cases narrow

/-- No request disturbs a surface. -/
theorem not_disturbs_of_isRequest (request : operation.isRequest = true) :
    ¬ server.Disturbs host id operation := by
  rintro (_ | ⟨_ | _⟩ | ⟨_ | _ | ⟨_ | _⟩⟩)
  all_goals cases request

/-- A surface is looked up on its connection. -/
theorem surface?_of_connection? {client : Connection}
    (live : server.connection? id.connection = some client) :
    server.surface? id = client.surfaces.get? id := by
  rw [surface?, live]
  rfl

/-- Putting a connection back replaces its surfaces, and leaves those of others alone. -/
theorem surface?_putBack {connection : ConnectionId} {client new : Connection}
    (named : server.Named) (live : server.connection? connection = some client)
    (same : new.id = client.id) (id : SurfaceId) :
    (server.putBack new).surface? id =
      if id.connection = connection then new.surfaces.get? id else server.surface? id := by
  simp only [surface?, connection?_putBack, same, named connection client live]
  by_cases here : id.connection = connection
  · simp [here, live]
  · simp [here]

/-- What every change of a connection does to a surface, an operation does to it. -/
theorem kept_next (named : server.Named) (notConnect : operation ≠ .connect)
    (notDisconnect : ∀ id, operation ≠ .disconnect id)
    (keeps : ∀ old new, Connection.Change server host operation old new →
      Surface.Kept (old.surfaces.get? id) (new.surfaces.get? id)) :
    Surface.Kept (server.surface? id) ((server.next host operation).surface? id) := by
  have effect := effect_next named host operation notConnect notDisconnect
  cases live : server.connection? id.connection with
  | none =>
    have dead : (server.next host operation).connection? id.connection = none := by
      cases reached : (server.next host operation).connection? id.connection with
      | none => rfl
      | some new =>
        obtain ⟨old, found, _⟩ := effect.source reached
        cases live.symm.trans found
    simp only [surface?, live, dead]
    exact .none
  | some old =>
    obtain ⟨new, reached, change⟩ := effect.change _ old live
    simp only [surface?, live, reached]
    exact keeps old new change

/-- What changes nothing leaves the surface as it is. -/
theorem Course.of_refused (same : server.next host operation = server)
    (unasked : server.wish? host operation id = none)
    (undisturbed : server.surface? id = none ∨ ¬ server.Disturbs host id operation) :
    server.Course host id operation (server.surface? id)
      ((server.next host operation).surface? id) := by
  rw [same]
  exact .kept (.refl _) unasked undisturbed

/-- A request that works is recorded. -/
theorem Course.of_asked {client new : Connection} {surface : Surface} {wish : Surface.Wish}
    (named : server.Named) (live : server.connection? id.connection = some client)
    (found : client.surfaces.get? id = some surface)
    (state : server.next host operation = server.putBack new)
    (asked : server.wish? host operation id = some wish) (kept : new.id = client.id)
    (recorded : new.surfaces.get? id = some (surface.heed wish)) :
    server.Course host id operation (server.surface? id)
      ((server.next host operation).surface? id) := by
  rw [state, surface?_putBack named live kept, if_pos rfl, recorded,
    surface?_eq_some.mpr ⟨client, live, found⟩]
  exact .asked asked

/-- A request that touches no buffer fails, or is recorded. -/
theorem course_onSurface (named : server.Named) {change : Surface → Except SurfaceError Surface}
    {wish : Surface.Wish} (request : operation.isRequest = true)
    (step : server.step host operation =
      (server.onSurface id change).map (.ofAttempt .surface fun _ => .done))
    (failed : ∀ cause, operation.wish? id (.failed cause) = none)
    (worked : operation.wish? id .done = some wish)
    (heeds : ∀ surface changed, change surface = .ok changed → changed = surface.heed wish) :
    server.Course host id operation (server.surface? id)
      ((server.next host operation).surface? id) := by
  rcases ofAttempt_onConnection server id.connection SurfaceError.dead [] (fun client => do
      return ((), ← client.request id change)) with ⟨cause, refused⟩ | ⟨client, _, new, live, done, same⟩
  · change server.onSurface id change = _ at refused
    rw [refused] at step
    refine .of_refused (congrArg Outcome.state step) ?_ (.inr (not_disturbs_of_isRequest request))
    rw [wish?, step]
    exact failed _
  · change server.onSurface id change = _ at same
    rw [same] at step
    unfold Connection.request at done
    cases found : client.surfaces.get? id with
    | none =>
      simp only [found] at done
      cases done
    | some surface =>
      simp only [found] at done
      cases changes : change surface with
      | error cause =>
        simp only [changes] at done
        cases done
      | ok changed =>
        simp only [changes] at done
        cases done
        cases heeds surface changed changes
        have asked : server.wish? host operation id = some wish := by
          rw [wish?, step]
          exact worked
        apply Course.of_asked named live found (congrArg Outcome.state step) asked
        · rfl
        · simp only [Connection.modifySurface, Arena.get?_modify, if_true, found, Option.map_some]

private theorem course_attach (named : server.Named) (attachment : Attachment) (offset : Point) :
    server.Course host id (.attach id attachment offset) (server.surface? id)
      ((server.next host (.attach id attachment offset)).surface? id) := by
  have step : server.step host (.attach id attachment offset) =
    (server.attach id attachment offset).map (.ofAttempt .surface fun _ => .done) := rfl
  rcases ofAttempt_onConnection server id.connection SurfaceError.dead [] (fun client => do
      return ((), ← client.attach id attachment offset)) with
    ⟨cause, refused⟩ | ⟨client, _, new, live, done, same⟩
  · change server.attach id attachment offset = _ at refused
    rw [refused] at step
    refine .of_refused (congrArg Outcome.state step) ?_ (.inr (not_disturbs_of_isRequest rfl))
    rw [wish?, step]
    rfl
  · change server.attach id attachment offset = _ at same
    rw [same] at step
    cases attached : client.attach id attachment offset with
    | error cause =>
      simp only [attached] at done
      cases done
    | ok after =>
      simp only [attached] at done
      cases done
      obtain ⟨surface, found, _, _, rfl⟩ := Connection.attach_eq_ok attached
      have asked : server.wish? host (.attach id attachment offset) id =
          some (.attachment attachment offset) := by
        rw [wish?, step]
        exact if_pos rfl
      apply Course.of_asked named live found (congrArg Outcome.state step) asked
      · simp only [Connection.modifySurface]
        rw [Connection.claim_frame, Connection.withdraw_frame]
      · simp only [Connection.modifySurface]
        rw [Connection.claim_frame, Connection.withdraw_frame, Arena.get?_modify, if_pos rfl, found]
        rfl

private theorem course_frame (named : server.Named) :
    server.Course host id (.frame id) (server.surface? id)
      ((server.next host (.frame id)).surface? id) := by
  have calm : ¬ server.Disturbs host id (.frame id) := not_disturbs_of_isRequest rfl
  cases live : server.connection? id.connection with
  | none =>
    have step : server.step host (.frame id) =
        { answer := .failed (.surface .dead), state := server } := by
      simp only [Server.step, Server.frame, live]
      rfl
    exact .of_refused (congrArg Outcome.state step) (by rw [wish?, step]; rfl) (.inr calm)
  | some client =>
    cases found : client.surfaces.get? id with
    | none =>
      -- the handle stays drawn, the surfaces are what they were
      have step : server.step host (.frame id) =
          { answer := .failed (.surface .dead)
            state := server.putBack (client.draw .callback).2 } := by
        simp only [Server.step, Server.frame, live, Connection.addCallback, Connection.draw, found]
        rfl
      have kept : (client.draw .callback).2.id = client.id := rfl
      have after : (server.next host (.frame id)).surface? id = none := by
        rw [next, step, surface?_putBack named live kept, if_pos rfl]
        exact found
      rw [after, surface?_of_connection? live, found]
      exact .kept .none (by rw [wish?, step]; rfl) (.inl rfl)
    | some surface =>
      have step : server.step host (.frame id) =
          { answer := .handle (client.draw .callback).1
            state := server.putBack ((client.draw .callback).2.modifySurface id fun surface =>
              surface.addCallback (client.draw .callback).1) } := by
        simp only [Server.step, Server.frame, live, Connection.addCallback, Connection.draw, found]
        rfl
      have asked : server.wish? host (.frame id) id =
          some (.callback (client.draw .callback).1) := by
        rw [wish?, step]
        exact if_pos rfl
      apply Course.of_asked named live found (congrArg Outcome.state step) asked
      · rfl
      · simp only [Connection.modifySurface, Arena.get?_modify, if_true, Connection.draw, found,
          Option.map_some]
        rfl

/-- A commit carries out what waits on its surface. -/
theorem course_commit (named : server.Named) :
    server.Course host id (.commit id) (server.surface? id)
      ((server.next host (.commit id)).surface? id) := by
  cases before : server.surface? id with
  | none =>
    have same : server.next host (.commit id) = server := by
      cases live : server.connection? id.connection with
      | none => simp only [next, Server.step, Outcome.map, Server.commit, live, Outcome.refuse]
      | some client =>
        have found : client.surfaces.get? id = none := surface?_of_connection? live ▸ before
        simp only [next, Server.step, Outcome.map, Server.commit, live, Connection.commit?, found,
          Option.map_none, Outcome.refuse]
    rw [same, before]
    exact .kept .none rfl (.inl rfl)
  | some surface =>
    obtain ⟨client, live, found⟩ := surface?_eq_some.mp before
    obtain ⟨commit, done⟩ : ∃ commit, client.commit? id = some commit := by
      simp only [Connection.commit?, found, Option.map_some, Option.some.injEq, exists_eq']
    obtain ⟨new, reached, how⟩ := connection?_next_commit named host live done
    obtain ⟨change, surfaces, promotes⟩ := Connection.surfaces_commit found done
    have kept : new.surfaces = commit.client.surfaces := by
      rcases how with rfl | ⟨buffer, _, failure⟩
      · rfl
      · rw [failure.frame]
    have after : (server.next host (.commit id)).surface? id =
        some (surface.promote (client.nextContent surface)) := by
      rw [surface?_eq_some]
      refine ⟨new, reached, ?_⟩
      rw [kept, surfaces, Arena.get?_modify, if_pos rfl, found, Option.map_some, promotes]
    rw [after]
    exact .committed rfl live

private theorem course_present (named : server.Named) (time : UInt32) :
    server.Course host id (.present id time) (server.surface? id)
      ((server.next host (.present id time)).surface? id) := by
  have step : server.step host (.present id time) =
    (server.present id time).map (.ofAttempt .surface fun _ => .done) := rfl
  cases before : server.surface? id with
  | none =>
    have same : server.next host (.present id time) = server := by
      cases live : server.connection? id.connection with
      | none => simp only [next, step, Outcome.map, Server.present, onConnection, live,
          Outcome.ofAttempt, Outcome.refuse]
      | some client =>
        have found : client.surfaces.get? id = none := surface?_of_connection? live ▸ before
        simp only [next, step, Outcome.map, Server.present, onConnection, live,
          Connection.present?, found, Option.map_none]
        rfl
    rw [same, before]
    exact .kept .none rfl (.inl rfl)
  | some surface =>
    obtain ⟨client, live, found⟩ := surface?_eq_some.mp before
    let new := (client.modifySurface id Surface.presented).emit
      (surface.callbacks.map fun callback => .frameDone callback time)
    have state : server.next host (.present id time) = server.putBack new := by
      simp only [next, step, Outcome.map, Server.present, onConnection, live,
        Connection.present?, found, Option.map_some]
      rfl
    have kept : new.id = client.id := rfl
    have after : (server.next host (.present id time)).surface? id = some surface.presented := by
      rw [state, surface?_putBack named live kept, if_pos rfl]
      change (client.surfaces.modify id Surface.presented).get? id = _
      rw [Arena.get?_modify, if_pos rfl, found, Option.map_some]
    rw [after]
    exact .presented (.alone time)

private theorem course_destroySurface (named : server.Named) :
    server.Course host id (.destroySurface id) (server.surface? id)
      ((server.next host (.destroySurface id)).surface? id) := by
  cases before : server.surface? id with
  | none =>
    have same : server.next host (.destroySurface id) = server := by
      cases live : server.connection? id.connection with
      | none => simp only [next, Server.step, Outcome.map, Server.destroySurface, live]
      | some client =>
        have found : client.surfaces.get? id = none := surface?_of_connection? live ▸ before
        simp only [next, Server.step, Outcome.map, Server.destroySurface, live,
          Connection.destroySurface?, found, Option.map_none]
    rw [same, before]
    exact .kept .none rfl (.inl rfl)
  | some surface =>
    obtain ⟨client, live, found⟩ := surface?_eq_some.mp before
    obtain ⟨callbacks, left, done⟩ : ∃ callbacks left,
        client.destroySurface? id = some (callbacks, left) := by
      simp only [Connection.destroySurface?, found, Option.map_some, Option.some.injEq,
        Prod.mk.injEq, exists_and_left, exists_eq', and_true]
    have kept : left.id = client.id := by rw [Connection.destroySurface?_eq found done]
    have after : (server.next host (.destroySurface id)).surface? id = none := by
      simp only [next, Server.step, Outcome.map, Server.destroySurface, live, done]
      change (server.putBack left).surface? id = none
      rw [surface?_putBack named live kept, if_pos rfl, Connection.destroySurface?_eq found done,
        Arena.get?_erase, if_pos rfl]
    rw [after]
    exact .destroyed .alone

/-- A client that is accepted under the number of another one takes its place. -/
theorem course_connect :
    server.Course host id .connect (server.surface? id)
      ((server.next host .connect).surface? id) := by
  by_cases here : id.connection = ⟨server.nextConnection⟩
  · have after : (server.next host .connect).surface? id = none := by
      rw [surface?, connection?_next_connect, if_pos here]
      rfl
    rw [after]
    cases before : server.surface? id with
    | none => exact .kept .none rfl (.inl rfl)
    | some surface => exact .destroyed (.replaced (.client (congrArg Answer.connection here.symm)))
  · have after : (server.next host .connect).surface? id = server.surface? id := by
      rw [surface?, connection?_next_connect, if_neg here]
      rfl
    rw [after]
    refine .kept (.refl _) rfl (.inr ?_)
    rintro (_ | ⟨_ | _⟩ | ⟨_ | _ | ⟨_ | answered⟩⟩)
    exact here (Answer.connection.inj answered).symm

private theorem course_disconnect (gone : ConnectionId) :
    server.Course host id (.disconnect gone) (server.surface? id)
      ((server.next host (.disconnect gone)).surface? id) := by
  by_cases here : id.connection = gone
  · have after : (server.next host (.disconnect gone)).surface? id = none := by
      rw [surface?, connection?_next_disconnect, if_pos here]
      rfl
    rw [after, ← here]
    cases before : server.surface? id with
    | none => exact .kept .none rfl (.inl rfl)
    | some surface => exact .destroyed .disconnect
  · have after : (server.next host (.disconnect gone)).surface? id = server.surface? id := by
      rw [surface?, connection?_next_disconnect, if_neg here]
      rfl
    rw [after]
    refine .kept (.refl _) rfl (.inr ?_)
    rintro (_ | ⟨_ | _⟩ | ⟨_ | _ | ⟨_ | _⟩⟩)
    exact here rfl

/-- A surface is created under the next handle, and replaces what is live there. -/
theorem course_createSurface (named : server.Named) (connection : ConnectionId)
    (version : UInt32) :
    server.Course host id (.createSurface connection version) (server.surface? id)
      ((server.next host (.createSurface connection version)).surface? id) := by
  have calm (other : (server.step host (.createSurface connection version)).answer ≠ .handle id) :
      ¬ server.Disturbs host id (.createSurface connection version) := by
    rintro (_ | ⟨_ | _⟩ | ⟨_ | _ | ⟨answered | _⟩⟩)
    exact other answered
  cases live : server.connection? connection with
  | none =>
    have step : server.step host (.createSurface connection version) =
        { answer := .failed (.surface .dead), state := server } := by
      simp only [Server.step, Server.createSurface, onConnection, live]
      rfl
    refine .of_refused (congrArg Outcome.state step) rfl (.inr (calm ?_))
    rw [step]
    exact fun same => by cases same
  | some client =>
    have step : server.step host (.createSurface connection version) =
        { answer := .handle (client.addSurface version).1
          state := server.putBack (client.addSurface version).2 } := by
      simp only [Server.step, Server.createSurface, onConnection, live]
      rfl
    have kept : (client.addSurface version).2.id = client.id := rfl
    have own : (client.addSurface version).1.connection = connection := named connection client live
    rw [next, step, surface?_putBack named live kept]
    by_cases drawn : id = (client.addSurface version).1
    · have added : (client.addSurface version).2.surfaces.get? (client.addSurface version).1 =
          some { version } := (Arena.get?_insert ..).trans (if_pos rfl)
      rw [drawn, if_pos own, added]
      exact .created rfl (by rw [step])
    · have same : (if id.connection = connection then
          (client.addSurface version).2.surfaces.get? id else server.surface? id) =
            server.surface? id := by
        split
        · rename_i here
          rw [surface?_of_connection? (here ▸ live)]
          exact (Arena.get?_insert ..).trans (if_neg drawn)
        · rfl
      rw [same]
      refine .kept (.refl _) rfl (.inr (calm ?_))
      rw [step]
      rintro ⟨⟩
      exact drawn rfl

private theorem course_presentAll (time : UInt32) :
    server.Course host id (.presentAll time) (server.surface? id)
      ((server.next host (.presentAll time)).surface? id) := by
  have next : (server.next host (.presentAll time)).connection? id.connection =
      (server.connection? id.connection).map fun client => client.presentAll time :=
    Arena.get?_mapValues ..
  have after : (server.next host (.presentAll time)).surface? id =
      (server.surface? id).map fun surface =>
        if surface.current.buffer.isSome then surface.presented else surface := by
    rw [surface?, next]
    cases live : server.connection? id.connection with
    | none => simp only [surface?, live]; rfl
    | some client =>
      rw [surface?_of_connection? live]
      exact Arena.get?_mapValues ..
  rw [after]
  cases before : server.surface? id with
  | none => exact .kept .none rfl (.inl rfl)
  | some surface =>
    rw [Option.map_some]
    split
    · rename_i shows
      exact .presented (.shown time before (Option.isSome_iff_ne_none.mp shows))
    · rename_i hidden
      refine .kept (.refl _) rfl (.inr ?_)
      rintro (_ | ⟨_ | ⟨_, live, shows⟩⟩ | ⟨_ | _ | ⟨_ | _⟩⟩)
      cases before.symm.trans live
      exact hidden (Option.isSome_iff_ne_none.mpr shows)

/-- **What an operation does to a surface.** -/
theorem course (named : server.Named) (host : Host) (operation : Operation) (id : SurfaceId) :
    server.Course host id operation (server.surface? id)
      ((server.next host operation).surface? id) := by
  by_cases about : operation.surface? = some id
  · cases operation with
    | attach _ attachment offset =>
      cases about
      exact course_attach named attachment offset
    | setOffset _ offset =>
      cases about
      refine course_onSurface named rfl rfl (fun _ => rfl) (if_pos rfl) ?_
      intro surface changed made
      exact (Except.ok.inj made).symm
    | addDamage _ damage =>
      cases about
      refine course_onSurface named rfl rfl (fun _ => rfl) (if_pos rfl) ?_
      intro surface changed made
      exact (Except.ok.inj made).symm
    | setScale _ scale =>
      cases about
      refine course_onSurface named rfl rfl (fun _ => rfl) (if_pos rfl) ?_
      intro surface changed made
      split at made
      · cases made
      · exact (Except.ok.inj made).symm
    | setTransform _ transform =>
      cases about
      refine course_onSurface named rfl rfl (fun _ => rfl) (if_pos rfl) ?_
      intro surface changed made
      exact (Except.ok.inj made).symm
    | frame _ =>
      cases about
      exact course_frame named
    | commit _ =>
      cases about
      exact course_commit named
    | present _ time =>
      cases about
      exact course_present named time
    | destroySurface _ =>
      cases about
      exact course_destroySurface named
    | _ => cases about
  · cases wide : operation.isWide with
    | true =>
      cases operation with
      | connect => exact course_connect
      | disconnect gone => exact course_disconnect gone
      | createSurface connection version => exact course_createSurface named connection version
      | presentAll time => exact course_presentAll time
      | _ => cases wide
    | false =>
      refine .kept ?_ (Operation.wish?_eq_none about _) (.inr (not_disturbs about wide))
      apply kept_next named
      · rintro rfl
        cases wide
      · rintro gone rfl
        cases wide
      · intro old new change
        exact change.kept about wide

/-- What a commit makes of its surface. -/
theorem surface?_next_commit {surface : Surface} (named : server.Named)
    (host : Host) (live : server.surface? id = some surface) :
    ∃ client, server.connection? id.connection = some client ∧
      (server.next host (.commit id)).surface? id =
        some (surface.promote (client.nextContent surface)) := by
  have course := server.course named host (.commit id) id
  rw [live] at course
  generalize reached : (server.next host (.commit id)).surface? id = after at course
  cases course with
  | kept _ _ undisturbed => exact (undisturbed.resolve_left nofun .commit).elim
  | asked asked => cases asked
  | created creates _ => cases creates
  | committed _ found => exact ⟨_, found, rfl⟩
  | presented presents => cases presents
  | destroyed destroys =>
    rcases destroys with _ | _ | ⟨_ | _⟩

/-- In range no handle is given out again while its surface is live. -/
theorem Ready.not_replaces {accepted : Nat} {drawn : ConnectionId → Nat}
    (ready : server.Ready host operation accepted drawn) {surface : Surface}
    (live : server.surface? id = some surface) : ¬ server.Replaces host id operation := by
  intro replaces
  obtain ⟨client, found, held⟩ := surface?_eq_some.mp live
  have listed := Arena.mem_keys_of_get? held
  cases replaces with
  | surface answered =>
    have issues : server.Issues host (.createSurface _ _) id := ⟨answered, nofun⟩
    exact issues.not_isLive ready ⟨client, found, listed⟩
  | client answered =>
    have same : (⟨server.nextConnection⟩ : ConnectionId) = id.connection :=
      Answer.connection.inj answered
    have room : accepted < UInt32.size := ready.room
    exact ready.notMem room (same ▸ Arena.mem_keys_of_get? found)

/-- A surface that ceased to be live never is live again. -/
theorem surface?_of_ceased {config : Config} {front middle back : Script} {id : SurfaceId}
    {surface : Surface}
    (range : (Server.start config).state.InRange (front ++ middle ++ back))
    (live : (after config front).surface? id = some surface)
    (ceased : (after config (front ++ middle)).surface? id = none) :
    (after config (front ++ middle ++ back)).surface? id = none := by
  have gone : ¬ (after config (front ++ middle)).IsLive id := by
    rw [isLive_surface_iff, ceased]
    rintro ⟨_, found⟩
    cases found
  have still := (neverReused_of_inRange range).gone front middle back rfl id
    (isLive_surface_iff.mpr ⟨surface, live⟩) gone
  rw [isLive_surface_iff] at still
  exact Option.eq_none_iff_forall_ne_some.mpr fun surface found => still ⟨surface, found⟩

end Course

end Server

end DisplayServer
