import DisplayServer.Proofs.Publishing
import DisplayServer.Proofs.Releases

/-! # Double buffering

What a client asks of a surface between two commits is a batch (`Server.batch`). Requests that fail
are not part of it. Nothing of a batch shows before the commit, and the commit carries it out as a
whole (`Server.CarriesOut`): of the values that were asked for the last one counts, the damage
replaces the damage of the commit before, and the frame callbacks join those still waiting.

The pending state of a surface is what its batch amounts to (`Surface.Batch.pending`). This is
preserved by every operation (`Server.Recorded.next`), as `Server.Course` lists them.
-/

namespace DisplayServer

namespace Surface

namespace Wish

def attachment? : Wish → Option Attachment
  | .attachment value _ => some value
  | _ => none

/-- An offset may come with an attachment, if attachments carry offsets. -/
def delta? (carried : Bool) : Wish → Option Point
  | .attachment _ value => if carried then some value else none
  | .offset value => some value
  | _ => none

def scale? : Wish → Option Int32
  | .scale value => some value
  | _ => none

def transform? : Wish → Option Transform
  | .transform value => some value
  | _ => none

def damage? : Wish → Option Damage
  | .damage value => some value
  | _ => none

def callback? : Wish → Option CallbackId
  | .callback value => some value
  | _ => none

end Wish

/-- What is asked of a surface between two commits, in this order. -/
abbrev Batch := List Wish

namespace Batch

/-- The last thing of some sort that was asked for. -/
def last {α : Type} (batch : Batch) (pick : Wish → Option α) : Option α :=
  (batch.filterMap pick).getLast?

def damage (batch : Batch) : List Damage :=
  batch.filterMap Wish.damage?

def callbacks (batch : Batch) : List CallbackId :=
  batch.filterMap Wish.callback?

/-- The pending state that a batch amounts to. -/
def pending (carried : Bool) (batch : Batch) : PendingState where
  attachment := batch.last Wish.attachment?
  delta := batch.last (Wish.delta? carried)
  scale := batch.last Wish.scale?
  transform := batch.last Wish.transform?
  damage := batch.damage
  callbacks := batch.callbacks

/-- The last wish of a batch counts, if it is of the kind asked for. -/
theorem last_concat {α : Type} (batch : Batch) (wish : Wish) (pick : Wish → Option α) :
    (batch ++ [wish]).last pick = (pick wish).or (batch.last pick) := by
  unfold last
  rw [List.filterMap_append]
  cases picked : pick wish with
  | none => simp [picked]
  | some value => simp [picked]

end Batch

variable {surface : Surface}

/-- Heeding one more wish is recording a longer batch. -/
theorem pending_heed {batch : Batch}
    (recorded : surface.pending = batch.pending surface.attachesWithOffset) (wish : Wish) :
    (surface.heed wish).pending = (batch ++ [wish]).pending surface.attachesWithOffset := by
  unfold Batch.pending
  simp only [Batch.last_concat, Batch.damage, Batch.callbacks, List.filterMap_append]
  cases wish with
  | attachment attachment offset =>
    simp only [heed, attach, mapPending, recorded, Batch.pending, Wish.attachment?, Wish.delta?,
      Wish.scale?, Wish.transform?, Option.none_or, Option.some_or]
    cases surface.attachesWithOffset <;>
      simp [Batch.damage, Batch.callbacks, Wish.damage?, Wish.callback?]
  | offset | damage | scale | transform | callback =>
    simp [heed, setOffset, addDamage, setScale, setTransform, addCallback, mapPending, recorded,
      Batch.pending, Batch.damage, Batch.callbacks, Wish.attachment?, Wish.delta?, Wish.scale?,
      Wish.transform?, Wish.damage?, Wish.callback?]

/-- The pending state is what a batch amounts to, and only a buffer of the client is attached. -/
structure Records (surface : Surface) (id : SurfaceId) (batch : Batch) : Prop where
  pending : surface.pending = batch.pending surface.attachesWithOffset
  own : ∀ buffer, surface.pending.attachment = some (.buffer buffer) →
    buffer.connection = id.connection

/-- To heed a wish is to record it. -/
theorem Records.heed {id : SurfaceId} {batch : Batch} (records : surface.Records id batch)
    {wish : Wish} (own : ∀ buffer offset, wish = .attachment (.buffer buffer) offset →
      buffer.connection = id.connection) :
    (surface.heed wish).Records id (batch ++ [wish]) where
  pending := by
    have version : (surface.heed wish).attachesWithOffset = surface.attachesWithOffset := by
      cases wish <;> rfl
    rw [version]
    exact pending_heed records.pending wish
  own buffer attached := by
    cases wish with
    | attachment attachment offset => exact own buffer offset (by rw [Option.some.inj attached])
    | _ => exact records.own buffer attached

/-- What shows of a surface is as it was. -/
structure Unmoved (start waiting : Surface) : Prop where
  version : waiting.version = start.version
  current : waiting.current = start.current
  damage : waiting.damage = start.damage
  callbacks : waiting.callbacks = start.callbacks

private theorem Unmoved.refl (surface : Surface) : surface.Unmoved surface :=
  ⟨rfl, rfl, rfl, rfl⟩

private theorem Unmoved.trans {first second third : Surface} (before : first.Unmoved second)
    (after : second.Unmoved third) : first.Unmoved third :=
  ⟨after.1.trans before.1, after.2.trans before.2, after.3.trans before.3,
    after.4.trans before.4⟩

/-- To heed a wish changes nothing but what is pending. -/
theorem unmoved_heed (surface : Surface) (wish : Wish) : surface.Unmoved (surface.heed wish) := by
  cases wish <;> exact ⟨rfl, rfl, rfl, rfl⟩

end Surface

/-- Whether an operation begins a batch: it commits the surface, or creates it. -/
def Operation.startsBatch (id : SurfaceId) : Operation → Answer → Bool
  | .commit surface, .done => decide (surface = id)
  | .createSurface _ _, @Answer.handle .surface surface => decide (surface = id)
  | _, _ => false

namespace Server

open Surface (Wish)

/-- The batch of a surface after one more operation. -/
def gatherStep (server : Server) (id : SurfaceId) (batch : Surface.Batch) (host : Host)
    (operation : Operation) : Surface.Batch :=
  (if operation.startsBatch id (server.step host operation).answer then [] else batch) ++
    (server.wish? host operation id).toList

/-- The batch of a surface after a script, from the batch before it. -/
def gather (server : Server) (id : SurfaceId) (batch : Surface.Batch) : Script → Surface.Batch
  | [] => batch
  | (host, operation) :: rest =>
    (server.next host operation).gather id (server.gatherStep id batch host operation) rest

/-- What was successfully asked of a surface since its last commit, or since it was created. -/
def batch (config : Config) (script : Script) (id : SurfaceId) : Surface.Batch :=
  (Server.start config).state.gather id [] script

/-- A script neither commits nor presents nor destroys a surface. -/
def Undisturbed (server : Server) (id : SurfaceId) : Script → Prop
  | [] => True
  | (host, operation) :: rest =>
    ¬ server.Disturbs host id operation ∧ (server.next host operation).Undisturbed id rest

/-- **A commit carries a batch out.** -/
structure CarriesOut (server : Server) (batch : Surface.Batch) (before committed : Surface) :
    Prop where
  scale : committed.current.scale = (batch.last Wish.scale?).getD before.current.scale
  transform : committed.current.transform = (batch.last Wish.transform?).getD before.current.transform
  /-- Before version 5 an attachment carries an offset. -/
  delta : committed.current.delta =
    (batch.last (Wish.delta? (decide (before.version < 5)))).getD before.current.delta
  unattached : batch.last Wish.attachment? = none →
    committed.current.buffer = before.current.buffer ∧
      committed.current.size = before.current.size
  shown : ∀ id buffer, batch.last Wish.attachment? = some (.buffer id) →
    server.buffer? id = some buffer →
      committed.current.buffer = some id ∧ committed.current.size = buffer.geometry.dimensions
  /-- Nothing was attached last, or a buffer that has died since. -/
  hidden : ∀ attachment, batch.last Wish.attachment? = some attachment →
    (∀ id, attachment = .buffer id → server.buffer? id = none) →
      committed.current.buffer = none ∧ committed.current.size = .zero
  damage : committed.damage = batch.damage
  callbacks : committed.callbacks = before.callbacks ++ batch.callbacks
  pending : committed.pending = {}

/-- The pending state of a surface, if it is live, is what its batch amounts to. -/
def Recorded (server : Server) (id : SurfaceId) (batch : Surface.Batch) : Prop :=
  ∀ surface, server.surface? id = some surface → surface.Records id batch

section Step

variable {server : Server} {host : Host} {operation : Operation} {id : SurfaceId}
  {batch : Surface.Batch}

private theorem startsBatch_eq_false (calm : ¬ server.Disturbs host id operation) :
    operation.startsBatch id (server.step host operation).answer = false := by
  cases starts : operation.startsBatch id (server.step host operation).answer with
  | false => rfl
  | true =>
    unfold Operation.startsBatch at starts
    split at starts
    · cases of_decide_eq_true starts
      exact (calm .commit).elim
    · rename_i answered
      cases of_decide_eq_true starts
      exact (calm (.destroys (.replaced (.surface answered)))).elim
    · cases starts

/-- An attachment that is answered was allowed. -/
theorem mayAttach_of_done {attachment : Attachment} {offset : Point}
    (answered : (server.step host (.attach id attachment offset)).answer = .done) :
    ∃ client, server.connection? id.connection = some client ∧
      client.mayAttach id attachment = true := by
  have step : server.step host (.attach id attachment offset) =
    (server.attach id attachment offset).map (.ofAttempt .surface fun _ => .done) := rfl
  rcases ofAttempt_onConnection server id.connection SurfaceError.dead [] (fun client => do
      return ((), ← client.attach id attachment offset)) with
    ⟨cause, refused⟩ | ⟨client, _, new, live, done, _⟩
  · change server.attach id attachment offset = _ at refused
    rw [step, refused] at answered
    cases answered
  · cases attached : client.attach id attachment offset with
    | error cause =>
      simp only [attached] at done
      cases done
    | ok after =>
      obtain ⟨_, _, allowed, _⟩ := Connection.attach_eq_ok attached
      exact ⟨client, live, allowed⟩

/-- Only a buffer of the client itself is attached. -/
theorem own_of_attachment {buffer : BufferId} {offset : Point}
    (asked : server.wish? host operation id = some (.attachment (.buffer buffer) offset)) :
    buffer.connection = id.connection := by
  obtain ⟨rfl, answered⟩ := Prod.mk.inj (Operation.eq_ofWish asked)
  obtain ⟨_, _, allowed⟩ := mayAttach_of_done answered
  exact of_decide_eq_true (Bool.and_eq_true_iff.mp allowed).1

private theorem gatherStep_of_calm (calm : ¬ server.Disturbs host id operation)
    (unasked : server.wish? host operation id = none) :
    server.gatherStep id batch host operation = batch := by
  simp [gatherStep, startsBatch_eq_false calm, unasked]

/-- **An operation records what is asked.** -/
theorem Recorded.next (recorded : server.Recorded id batch) (named : server.Named) (host : Host)
    (operation : Operation) :
    (server.next host operation).Recorded id (server.gatherStep id batch host operation) := by
  intro surface reached
  have course := server.course named host operation id
  rw [reached] at course
  generalize live : server.surface? id = before at course
  cases course with
  | kept kept unasked undisturbed =>
    cases kept with
    | some _ _ =>
      have calm : ¬ server.Disturbs host id operation := undisturbed.resolve_left nofun
      rw [gatherStep_of_calm calm unasked]
      have records := recorded _ live
      exact ⟨records.pending, records.own⟩
  | @asked surface wish asked =>
    have calm : ¬ server.Disturbs host id operation :=
      not_disturbs_of_isRequest (Operation.isRequest_of_wish? asked)
    have gathered : server.gatherStep id batch host operation = batch ++ [wish] := by
      simp only [gatherStep, startsBatch_eq_false calm, asked, Bool.false_eq_true, if_false,
        Option.toList_some]
    rw [gathered]
    apply (recorded _ live).heed
    rintro buffer offset rfl
    exact own_of_attachment asked
  | @created _ connection version creates answered =>
    subst creates
    have gathered :
        server.gatherStep id batch host (.createSurface connection version) = [] := by
      simp only [gatherStep, Operation.startsBatch, answered, decide_true, if_true, wish?,
        Operation.wish?, Option.toList_none, List.append_nil]
    rw [gathered]
    exact ⟨rfl, fun _ held => by cases held⟩
  | committed commits found =>
    subst commits
    have gathered : server.gatherStep id batch host (.commit id) = [] := by
      simp only [gatherStep, Operation.startsBatch, commit_succeeds live, decide_true, if_true,
        wish?, Operation.wish?, Option.toList_none, List.append_nil]
    rw [gathered]
    exact ⟨rfl, fun _ held => by cases held⟩
  | presented presents =>
    have gathered : server.gatherStep id batch host operation = batch := by
      cases presents <;> exact List.append_nil batch
    rw [gathered]
    have records := recorded _ live
    exact ⟨records.pending, records.own⟩

/-- What shows of a surface stays until it is committed, presented or destroyed. -/
theorem unmoved_next {surface : Surface} (named : server.Named)
    (live : server.surface? id = some surface) (calm : ¬ server.Disturbs host id operation) :
    ∃ waiting, (server.next host operation).surface? id = some waiting ∧
      surface.Unmoved waiting := by
  have course := server.course named host operation id
  rw [live] at course
  generalize reached : (server.next host operation).surface? id = after at course
  cases course with
  | kept kept _ _ =>
    cases kept with
    | some role windowSurface => exact ⟨_, rfl, rfl, rfl, rfl, rfl⟩
  | asked asked => exact ⟨_, rfl, surface.unmoved_heed _⟩
  | created creates answered =>
    subst creates
    exact (calm (.destroys (.replaced (.surface answered)))).elim
  | committed commits _ =>
    subst commits
    exact (calm .commit).elim
  | presented presents => exact (calm (.presents presents)).elim
  | destroyed destroys => exact (calm (.destroys destroys)).elim

/-- The entry of a surface stays while the surface is not disturbed. -/
theorem entryOf?_next_of_calm (named : server.Named) (owned : server.Owned)
    (calm : ¬ server.Disturbs host id operation) :
    (server.next host operation).entryOf? id = server.entryOf? id := by
  apply entryOf?_next_of_kept named owned
  · rintro rfl
    exact calm .commit
  · refine .inr ⟨?_, ?_⟩
    · rintro rfl
      exact calm (.destroys .alone)
    · rintro rfl
      exact calm (.destroys .disconnect)

/-- Promoting what is recorded carries the batch out. -/
theorem carriesOut_promote {client : Connection} {surface : Surface}
    (found : server.connection? id.connection = some client) (records : surface.Records id batch) :
    server.CarriesOut batch surface (surface.promote (client.nextContent surface)) := by
  obtain ⟨pending, own⟩ := records
  have kept : (client.nextContent surface).scale = surface.current.scale ∧
      (client.nextContent surface).transform = surface.current.transform ∧
      (client.nextContent surface).delta = surface.current.delta := by
    unfold Connection.nextContent
    split <;> exact ⟨rfl, rfl, rfl⟩
  have attached : surface.pending.attachment = batch.last Wish.attachment? := by rw [pending]; rfl
  have buffers (buffer : BufferId) (own : buffer.connection = id.connection) :
      server.buffer? buffer = client.buffers.get? buffer := by
    rw [buffer?, own, found]
    rfl
  constructor
  case scale =>
    simp only [Surface.promote, SurfaceContent.update, pending, kept]
    rfl
  case transform =>
    simp only [Surface.promote, SurfaceContent.update, pending, kept]
    rfl
  case delta =>
    simp only [Surface.promote, SurfaceContent.update, pending, kept]
    rfl
  case unattached =>
    intro none
    simp only [Surface.promote, SurfaceContent.update, Connection.nextContent, attached, none,
      and_self]
  case shown =>
    intro buffer held last live
    rw [last] at attached
    rw [buffers buffer (own buffer attached)] at live
    have alive : client.buffers.contains buffer = true := by rw [Arena.contains, live]; rfl
    simp only [Surface.promote, SurfaceContent.update, Connection.nextContent, attached,
      SurfaceContent.showBuffer, Connection.resolve, alive, if_true, Connection.dimensionsOf,
      Option.bind_some, live, and_self]
  case hidden =>
    intro attachment last dead
    rw [last] at attached
    have resolved : client.resolve attachment = none := by
      cases attachment with
      | removed => rfl
      | buffer buffer =>
        have gone := dead buffer rfl
        rw [buffers buffer (own buffer attached)] at gone
        simp only [Connection.resolve, Arena.contains, gone, Option.isSome_none, Bool.false_eq_true,
          if_false]
    simp only [Surface.promote, SurfaceContent.update, Connection.nextContent, attached,
      SurfaceContent.showBuffer, resolved, Connection.dimensionsOf, Option.bind_none, and_self]
  case damage =>
    simp only [Surface.promote, pending]
    rfl
  case callbacks =>
    simp only [Surface.promote, pending]
    rfl
  case pending => rfl

private theorem CarriesOut.of_unmoved {start waiting committed : Surface}
    (unmoved : start.Unmoved waiting) (carriesOut : server.CarriesOut batch waiting committed) :
    server.CarriesOut batch start committed := by
  obtain ⟨scale, transform, delta, unattached, shown, hidden, damage, callbacks, pending⟩ :=
    carriesOut
  rw [unmoved.current] at scale transform delta unattached
  rw [unmoved.version] at delta
  rw [unmoved.callbacks] at callbacks
  exact ⟨scale, transform, delta, unattached, shown, hidden, damage, callbacks, pending⟩

end Step

section Runs

/-- A run records what it asks of a surface. -/
theorem recorded_run {server : Server} {id : SurfaceId} {batch : Surface.Batch} (script : Script)
    (named : server.Named) (recorded : server.Recorded id batch) :
    (server.run script).Recorded id (server.gather id batch script) := by
  induction script generalizing server batch with
  | nil => exact recorded
  | cons entry rest ih =>
    exact ih (named_next named entry.1 entry.2) (recorded.next named entry.1 entry.2)

/-- After every script, what is pending on a surface is what was asked of it since its last commit.
-/
theorem recorded_after (config : Config) (script : Script) (id : SurfaceId) :
    (after config script).Recorded id (batch config script id) := by
  apply recorded_run script (numbered_start config).named
  intro surface live
  cases live

/-- What shows of a surface stays through a script that does not disturb it, and so does its
entry in the view. -/
theorem unmoved_run {server : Server} {id : SurfaceId} {surface : Surface} (script : Script)
    (named : server.Named) (owned : server.Owned) (live : server.surface? id = some surface)
    (undisturbed : server.Undisturbed id script) :
    ∃ waiting, (server.run script).surface? id = some waiting ∧ surface.Unmoved waiting ∧
      (server.run script).entryOf? id = server.entryOf? id := by
  induction script generalizing server surface with
  | nil => exact ⟨surface, live, .refl surface, rfl⟩
  | cons entry rest ih =>
    obtain ⟨host, operation⟩ := entry
    obtain ⟨calm, later⟩ := undisturbed
    obtain ⟨middle, reached, unmoved⟩ := unmoved_next named live calm
    obtain ⟨waiting, found, still, entry⟩ :=
      ih (named_next named host operation) (owned_next named owned host operation) reached later
    exact ⟨waiting, found, unmoved.trans still,
      entry.trans (entryOf?_next_of_calm named owned calm)⟩

/-- **Surfaces are double-buffered.** As long as a surface is not committed, presented or destroyed,
what shows of it and its entry in the view stay as they are, whatever is asked of it. Then its
commit works, and carries out what was successfully asked since the last one. -/
theorem commit_carries_batch_out (config : Config) (front middle : Script) (id : SurfaceId)
    (start : Surface) (live : (after config front).surface? id = some start)
    (undisturbed : (after config front).Undisturbed id middle) :
    ∃ waiting, (after config (front ++ middle)).surface? id = some waiting ∧
      start.Unmoved waiting ∧
      (after config (front ++ middle)).entryOf? id = (after config front).entryOf? id ∧
      ∀ host, ((after config (front ++ middle)).step host (.commit id)).answer = .done ∧
        ∃ committed,
          ((after config (front ++ middle)).next host (.commit id)).surface? id = some committed ∧
          (after config (front ++ middle)).CarriesOut (batch config (front ++ middle) id) start
            committed := by
  have named := named_after config front
  have joined : after config (front ++ middle) = (after config front).run middle := run_append ..
  obtain ⟨waiting, reached, unmoved, entry⟩ :=
    unmoved_run middle named (owned_after config front) live undisturbed
  rw [← joined] at reached entry
  refine ⟨waiting, reached, unmoved, entry, fun host => ⟨commit_succeeds reached, ?_⟩⟩
  obtain ⟨client, found, committed⟩ :=
    surface?_next_commit (named_after config (front ++ middle)) host reached
  have records := recorded_after config (front ++ middle) id waiting reached
  exact ⟨_, committed, (carriesOut_promote found records).of_unmoved unmoved⟩

/-- A buffer that is taken back shows until the commit, and no longer. -/
theorem commit_carries_batch_out_takenBack :
    let surface : SurfaceId := ⟨⟨0⟩, 2⟩
    let request : Script := [(.withFile, .attach surface .removed .zero)]
    let front := Script.takenBack.take 6
    (after {} front).Undisturbed surface request ∧
      ∃ start waiting committed, (after {} front).surface? surface = some start ∧
        start.current.buffer = some ⟨⟨0⟩, 1⟩ ∧
        (after {} (front ++ request)).surface? surface = some waiting ∧
        waiting.current = start.current ∧
        ((after {} (front ++ request)).next .withFile (.commit surface)).surface? surface =
          some committed ∧
        committed.current.buffer = none := by
  intro surface request front
  have undisturbed : (after {} front).Undisturbed surface request :=
    ⟨not_disturbs_of_isRequest rfl, trivial⟩
  obtain ⟨waiting, reached, unmoved, _, works⟩ :=
    commit_carries_batch_out {} front request surface _ rfl undisturbed
  obtain ⟨_, committed, live, carriesOut⟩ := works .withFile
  exact ⟨undisturbed, _, waiting, committed, rfl, rfl, reached, unmoved.current, live,
    (carriesOut.hidden .removed rfl nofun).1⟩

end Runs

end Server

end DisplayServer
