import DisplayServer.Connection.Windows
import DisplayServer.Proofs.Arena
import Mathlib.Tactic.SplitIfs

/-! # The claims of surfaces on buffers

An attachment, a commit and the destruction of a surface move the claims that the surface has on
buffers. What they make of each single buffer is `Connection.reattach`, `Connection.settle` and
`Connection.abandon`; what they make of the surface, of the queue of events and of the rest of the
connection is said beside it.
-/

namespace DisplayServer.Connection

section Steps

variable (client : Connection)

private theorem get?_buffers_modifyBuffer (other : BufferId) (change : Buffer → Buffer)
    (id : BufferId) :
    (client.modifyBuffer other change).buffers.get? id = (client.buffers.get? id).map fun buffer =>
      if other = id then change buffer else buffer := by
  simp only [modifyBuffer, Arena.get?_modify]
  by_cases same : id = other
  · simp [same]
  · simp [same, Ne.symm same]

/-- What a withdrawn attachment does to each buffer. -/
theorem get?_buffers_withdraw (attachment : Option Attachment) (id : BufferId) :
    (client.withdraw attachment).buffers.get? id = (client.buffers.get? id).map fun buffer =>
      if attachment = some (.buffer id) then buffer.dropPending else buffer := by
  rcases attachment with _ | _ | other
  · simp [withdraw]
  · simp [withdraw]
  · simp [withdraw, get?_buffers_modifyBuffer]

/-- What an attachment does to each buffer. -/
theorem get?_buffers_claim (attachment : Attachment) (id : BufferId) :
    (client.claim attachment).buffers.get? id = (client.buffers.get? id).map fun buffer =>
      if attachment = .buffer id then buffer.addPending else buffer := by
  rcases attachment with _ | other
  · simp [claim]
  · simp [claim, get?_buffers_modifyBuffer]

/-- What a surface that starts to show a buffer does to each buffer. -/
theorem get?_buffers_adopt (new : Option BufferId) (id : BufferId) :
    (client.adopt new).buffers.get? id = (client.buffers.get? id).map fun buffer =>
      if new = some id then buffer.addCurrent else buffer := by
  rcases new with _ | other
  · simp [adopt]
  · simp [adopt, get?_buffers_modifyBuffer]

/-- A buffer that one surface stops to show by a commit. -/
def retired (buffer : Buffer) : Buffer :=
  if buffer.dropCurrent.currentRefs = 0 then buffer.dropCurrent.release else buffer.dropCurrent

/-- What a surface that stops showing a buffer does to each buffer. -/
theorem get?_buffers_retire (old : Option BufferId) (id : BufferId) :
    (client.retire old).buffers.get? id = (client.buffers.get? id).map fun buffer =>
      if old = some id then retired buffer else buffer := by
  rcases old with _ | other
  · simp [retire]
  · simp only [retire, Option.some.injEq]
    cases live : client.buffers.get? other with
    | none =>
      by_cases same : other = id
      · simp [← same, live]
      · simp [same]
    | some held =>
      -- Whether the buffer is handed back is decided by the one found, which is the one changed.
      by_cases last : held.dropCurrent.currentRefs = 0 <;> by_cases same : other = id
      · subst same
        simp [last, live, emit, get?_buffers_modifyBuffer, retired]
      · simp [last, emit, get?_buffers_modifyBuffer, same]
      · subst same
        simp [last, live, get?_buffers_modifyBuffer, retired]
      · simp [last, get?_buffers_modifyBuffer, same]

/-- No buffer goes when an attachment is withdrawn. -/
theorem keys_buffers_withdraw (attachment : Option Attachment) :
    (client.withdraw attachment).buffers.keys = client.buffers.keys := by
  rcases attachment with _ | _ | other <;> simp [withdraw, modifyBuffer]

/-- No buffer comes or goes when one is attached. -/
theorem keys_buffers_claim (attachment : Attachment) :
    (client.claim attachment).buffers.keys = client.buffers.keys := by
  rcases attachment with _ | other <;> simp [claim, modifyBuffer]

private theorem keys_buffers_adopt (new : Option BufferId) :
    (client.adopt new).buffers.keys = client.buffers.keys := by
  rcases new with _ | other <;> simp [adopt, modifyBuffer]

private theorem keys_buffers_retire (old : Option BufferId) :
    (client.retire old).buffers.keys = client.buffers.keys := by
  rcases old with _ | other
  · rfl
  · simp only [retire]
    cases client.buffers.get? other with
    | none => rfl
    | some held =>
      by_cases last : held.dropCurrent.currentRefs = 0 <;> simp [last, modifyBuffer, emit]

/-- Giving up the claim of an attachment changes buffers only. -/
theorem withdraw_frame (attachment : Option Attachment) :
    client.withdraw attachment =
      { client with buffers := (client.withdraw attachment).buffers } := by
  rcases attachment with _ | _ | other <;> rfl

/-- An attachment changes buffers and nothing else. -/
theorem claim_frame (attachment : Attachment) :
    client.claim attachment = { client with buffers := (client.claim attachment).buffers } := by
  rcases attachment with _ | other <;> rfl

private theorem adopt_frame (new : Option BufferId) :
    client.adopt new = { client with buffers := (client.adopt new).buffers } := by
  rcases new with _ | other <;> rfl

/-- Ending to show a buffer changes buffers and may queue an event. -/
theorem retire_frame (old : Option BufferId) :
    client.retire old =
      { client with
        buffers := (client.retire old).buffers
        events := (client.retire old).events } := by
  rcases old with _ | other
  · rfl
  · simp only [retire]
    cases client.buffers.get? other with
    | none => rfl
    | some held =>
      by_cases last : held.dropCurrent.currentRefs = 0 <;> simp [last, modifyBuffer, emit]

/-- The buffer that a commit of a surface hands back, if it hands one back. -/
def handedBack? (surface : Surface) : Option BufferId :=
  surface.current.buffer.filter fun old =>
    surface.pending.attachment.any (fun attachment => client.resolve attachment ≠ some old) &&
      (client.buffers.get? old).any fun buffer => buffer.currentRefs ≤ 1

/-- What a commit of a surface makes of a buffer. -/
def settle (surface : Surface) (id : BufferId) (buffer : Buffer) : Buffer :=
  match surface.pending.attachment with
  | none => buffer
  | some attachment =>
    let buffer := if attachment = .buffer id then buffer.dropPending else buffer
    if surface.current.buffer = client.resolve attachment then buffer
    else
      let buffer := if surface.current.buffer = some id then retired buffer else buffer
      if client.resolve attachment = some id then buffer.addCurrent else buffer

/-- What a surface shows after its next commit, but for the offset, the scale and the transform. -/
def nextContent (surface : Surface) : SurfaceContent :=
  match surface.pending.attachment with
  | none => surface.current
  | some attachment =>
    surface.current.showBuffer (client.resolve attachment)
      (client.dimensionsOf (client.resolve attachment))

/-- What the destruction of a surface makes of a buffer. -/
def abandon (surface : Surface) (id : BufferId) (buffer : Buffer) : Buffer :=
  let buffer :=
    if surface.pending.attachment = some (.buffer id) then buffer.dropPending else buffer
  if surface.current.buffer = some id then buffer.dropCurrent else buffer

/-- What an attachment to a surface makes of a buffer. -/
def reattach (surface : Surface) (attachment : Attachment) (id : BufferId) (buffer : Buffer) :
    Buffer :=
  let buffer :=
    if surface.pending.attachment = some (.buffer id) then buffer.dropPending else buffer
  if attachment = .buffer id then buffer.addPending else buffer

/-- A commit changes the counts of a buffer, and may hand it back. -/
theorem settle_frame (surface : Surface) (id : BufferId) (buffer : Buffer) :
    client.settle surface id buffer =
      { buffer with
        pendingRefs := (client.settle surface id buffer).pendingRefs
        currentRefs := (client.settle surface id buffer).currentRefs
        isReleased := (client.settle surface id buffer).isReleased } := by
  unfold settle retired
  split
  · rfl
  · dsimp only
    split_ifs <;> rfl

/-- The destruction of a surface changes the counts of a buffer. -/
theorem abandon_frame (surface : Surface) (id : BufferId) (buffer : Buffer) :
    abandon surface id buffer =
      { buffer with
        pendingRefs := (abandon surface id buffer).pendingRefs
        currentRefs := (abandon surface id buffer).currentRefs } := by
  unfold abandon
  dsimp only
  split_ifs <;> rfl

/-- An attachment changes how many surfaces will show a buffer. -/
theorem reattach_frame (surface : Surface) (attachment : Attachment) (id : BufferId)
    (buffer : Buffer) :
    reattach surface attachment id buffer =
      { buffer with pendingRefs := (reattach surface attachment id buffer).pendingRefs } := by
  unfold reattach
  dsimp only
  split_ifs <;> rfl

/-- What an attachment that replaces another one does to each buffer. -/
theorem get?_buffers_reattach (surface : Surface) (attachment : Attachment) (id : BufferId) :
    ((client.withdraw surface.pending.attachment).claim attachment).buffers.get? id =
      (client.buffers.get? id).map (reattach surface attachment id) := by
  rw [get?_buffers_claim, get?_buffers_withdraw, Option.map_map]
  rfl

/-- A commit hands back the buffer that the surface shows if it attaches something else and nobody
else shows that buffer. -/
theorem handedBack?_eq_some {surface : Surface} {id : BufferId} :
    client.handedBack? surface = some id ↔
      surface.current.buffer = some id ∧
        (∃ attachment, surface.pending.attachment = some attachment ∧
          client.resolve attachment ≠ some id) ∧
        ∃ buffer, client.buffers.get? id = some buffer ∧ buffer.currentRefs ≤ 1 := by
  simp only [handedBack?, Option.filter_eq_some_iff, Bool.and_eq_true, Option.any_eq_true,
    decide_eq_true_eq, ne_eq]

end Steps

/-- An attachment that succeeds gives up the claim of the one it replaces, and makes its own. -/
theorem attach_eq_ok {client attached : Connection} {id : SurfaceId} {attachment : Attachment}
    {offset : Point} (done : client.attach id attachment offset = .ok attached) :
    ∃ surface, client.surfaces.get? id = some surface ∧ client.mayAttach id attachment = true ∧
      (surface.attachesWithOffset = true ∨ offset = .zero) ∧
      attached = ((client.withdraw surface.pending.attachment).claim attachment).modifySurface id
        fun surface => surface.attach attachment offset := by
  unfold attach at done
  cases found : client.surfaces.get? id with
  | none => simp [found] at done
  | some surface =>
    simp only [found] at done
    split at done
    · cases done
    · rename_i carried
      have rule : surface.attachesWithOffset = true ∨ offset = .zero := by
        by_cases zero : offset = .zero
        · exact .inr zero
        · exact .inl (by simpa [zero] using carried)
      refine ⟨surface, rfl, ?_⟩
      cases attachment with
      | removed =>
        simp only [Except.ok.injEq] at done
        exact ⟨rfl, rule, done.symm⟩
      | buffer buffer =>
        cases allowed : client.mayAttach id (.buffer buffer) with
        | false => simp [allowed] at done
        | true =>
          simp only [allowed, Except.ok.injEq] at done
          exact ⟨rfl, rule, done.symm⟩

section Commit

variable {client : Connection} {id : SurfaceId} {surface : Surface} {commit : Commit}

/-- Only a live surface can be committed. -/
theorem surface_of_commit? (done : client.commit? id = some commit) :
    ∃ surface, client.surfaces.get? id = some surface := by
  obtain ⟨surface, found, _⟩ := Option.map_eq_some_iff.mp done
  exact ⟨surface, found⟩

/-- A commit changes surfaces and buffers, and queues events. -/
theorem commit?_frame (done : client.commit? id = some commit) :
    commit.client = { client with
      buffers := commit.client.buffers
      surfaces := commit.client.surfaces
      events := commit.client.events } := by
  obtain ⟨surface, _, rfl⟩ := Option.map_eq_some_iff.mp done
  cases surface.pending.attachment with
  | none => rfl
  | some attachment =>
    simp only [commitAttachment, modifySurface]
    split
    · rw [withdraw_frame]
    · rw [adopt_frame, retire_frame, withdraw_frame]

/-- A commit promotes the pending state of its surface, and leaves the others alone. -/
theorem surfaces_commit (found : client.surfaces.get? id = some surface)
    (done : client.commit? id = some commit) :
    ∃ change, commit.client.surfaces = client.surfaces.modify id change ∧
      change surface = surface.promote (client.nextContent surface) := by
  simp only [commit?, found, Option.map_some, Option.some.injEq] at done
  subst done
  cases attached : surface.pending.attachment with
  | none =>
    refine ⟨fun surface => surface.promote surface.current, rfl, ?_⟩
    simp only [nextContent, attached]
  | some attachment =>
    refine ⟨fun surface' => surface'.promote (surface.current.showBuffer
      (client.resolve attachment) (client.dimensionsOf (client.resolve attachment))), ?_, ?_⟩
    · simp only [commitAttachment, modifySurface]
      split
      · rw [withdraw_frame]
      · rw [adopt_frame, retire_frame, withdraw_frame]
    · simp only [nextContent, attached]

/-- What a commit does to each buffer. -/
theorem get?_buffers_commit (found : client.surfaces.get? id = some surface)
    (done : client.commit? id = some commit) (buffer : BufferId) :
    commit.client.buffers.get? buffer =
      (client.buffers.get? buffer).map (client.settle surface buffer) := by
  simp only [commit?, found, Option.map_some, Option.some.injEq] at done
  subst done
  have settled (held : Buffer) : client.settle surface buffer held =
      match surface.pending.attachment with
      | none => held
      | some attachment =>
        let held := if attachment = .buffer buffer then held.dropPending else held
        if surface.current.buffer = client.resolve attachment then held
        else
          let held := if surface.current.buffer = some buffer then retired held else held
          if client.resolve attachment = some buffer then held.addCurrent else held := rfl
  cases attached : surface.pending.attachment with
  | none =>
    simp only [attached] at settled
    simp only [funext settled, Option.map_id']
    rfl
  | some attachment =>
    simp only [attached] at settled
    simp only [commitAttachment, modifySurface, funext settled]
    by_cases same : surface.current.buffer = client.resolve attachment
    · simp only [same, if_true, get?_buffers_withdraw, Option.some.injEq]
    · simp only [same, if_false, get?_buffers_adopt, get?_buffers_retire, get?_buffers_withdraw,
        Option.map_map, Function.comp_def, Option.some.injEq]

/-- No buffer comes or goes at a commit. -/
theorem keys_buffers_commit (done : client.commit? id = some commit) :
    commit.client.buffers.keys = client.buffers.keys := by
  obtain ⟨surface, _, rfl⟩ := Option.map_eq_some_iff.mp done
  cases surface.pending.attachment with
  | none => rfl
  | some attachment =>
    simp only [commitAttachment, modifySurface]
    split
    · exact keys_buffers_withdraw ..
    · rw [keys_buffers_adopt, keys_buffers_retire, keys_buffers_withdraw]

/-- A buffer is handed back when the surface that gives it up is the last to show it. -/
theorem events_retire_withdraw (attachment : Attachment) (old : Option BufferId) :
    ((client.withdraw (some attachment)).retire old).events =
      client.events ++ ((old.filter fun id =>
        (client.buffers.get? id).any fun buffer => buffer.currentRefs ≤ 1).toList.map
          .bufferReleased) := by
  have quiet : (client.withdraw (some attachment)).events = client.events := by rw [withdraw_frame]
  rcases old with _ | id
  · simp [retire, quiet]
  · simp only [retire, get?_buffers_withdraw]
    cases live : client.buffers.get? id with
    | none => simp [quiet, Option.filter, live]
    | some buffer =>
      have refs : (if some attachment = some (.buffer id) then buffer.dropPending
          else buffer).dropCurrent.currentRefs = buffer.currentRefs - 1 := by
        split <;> rfl
      simp only [Option.map_some, refs]
      by_cases last : buffer.currentRefs ≤ 1
      · have zero : buffer.currentRefs - 1 = 0 := by omega
        simp [zero, emit, modifyBuffer, quiet, Option.filter, live, last]
      · have more : ¬ buffer.currentRefs - 1 = 0 := by omega
        simp [more, modifyBuffer, quiet, Option.filter, live, last]

/-- The only event of a commit is the release of the buffer that it hands back. -/
theorem events_commit (found : client.surfaces.get? id = some surface)
    (done : client.commit? id = some commit) :
    commit.client.events =
      client.events ++ (client.handedBack? surface).toList.map .bufferReleased := by
  simp only [commit?, found, Option.map_some, Option.some.injEq] at done
  subst done
  cases attached : surface.pending.attachment with
  | none =>
    have nothing : client.handedBack? surface = none := by
      simp [handedBack?, attached]
    simp [nothing, modifySurface]
  | some attachment =>
    simp only [commitAttachment, modifySurface]
    by_cases same : surface.current.buffer = client.resolve attachment
    · have nothing : client.handedBack? surface = none := by
        cases shown : client.handedBack? surface with
        | none => rfl
        | some old =>
          obtain ⟨current, ⟨other, held, apart⟩, _⟩ := (client.handedBack?_eq_some).mp shown
          rw [attached, Option.some.injEq] at held
          exact (apart (by rw [← held, ← same, current])).elim
      simp only [same, if_true, nothing, Option.toList_none, List.map_nil, List.append_nil]
      rw [withdraw_frame]
    · have handed : client.handedBack? surface = surface.current.buffer.filter fun old =>
          (client.buffers.get? old).any fun buffer => buffer.currentRefs ≤ 1 := by
        cases current : surface.current.buffer with
        | none => simp [handedBack?, current]
        | some old =>
          rw [current] at same
          have apart : client.resolve attachment ≠ some old := Ne.symm same
          simp [handedBack?, current, attached, Option.filter, apart]
      simp only [same, if_false, handed]
      rw [adopt_frame]
      exact events_retire_withdraw ..

end Commit

section Destruction

variable {client left : Connection} {id : SurfaceId} {callbacks : List CallbackId}

/-- Only a live surface can be destroyed. -/
theorem surface_of_destroySurface? (done : client.destroySurface? id = some (callbacks, left)) :
    ∃ surface, client.surfaces.get? id = some surface := by
  obtain ⟨surface, found, _⟩ := Option.map_eq_some_iff.mp done
  exact ⟨surface, found⟩

/-- The toplevels without the one of a window surface. -/
def toplevelsWithout (client : Connection) (id : WindowSurfaceId) : Arena ToplevelId Toplevel :=
  match (client.windowSurfaces.get? id).bind WindowSurface.toplevel with
  | some toplevel => client.toplevels.erase toplevel
  | none => client.toplevels

/-- To remove a window surface touches no other table. -/
theorem removeWindow_eq (client : Connection) (id : WindowSurfaceId) :
    client.removeWindow id = { client with
      windowSurfaces := client.windowSurfaces.erase id
      toplevels := client.toplevelsWithout id } := by
  simp only [removeWindow, toplevelsWithout]
  cases live : client.windowSurfaces.get? id with
  | none =>
    rw [Arena.erase_of_get?_eq_none live]
    rfl
  | some window => rfl

/-- What destroying a surface makes of the connection, but for the buffers. -/
theorem destroySurface?_eq {surface : Surface} (found : client.surfaces.get? id = some surface)
    (done : client.destroySurface? id = some (callbacks, left)) :
    left = { client with
      surfaces := client.surfaces.erase id
      buffers := left.buffers
      windowSurfaces := match surface.windowSurface with
        | some window => client.windowSurfaces.erase window
        | none => client.windowSurfaces
      toplevels := match surface.windowSurface with
        | some window => client.toplevelsWithout window
        | none => client.toplevels } := by
  simp only [destroySurface?, found, Option.map_some, Option.some.injEq, Prod.mk.injEq] at done
  obtain ⟨_, rfl⟩ := done
  rw [withdraw_frame]
  cases surface.current.buffer <;> cases surface.windowSurface <;>
    simp only [modifyBuffer, removeWindow_eq, toplevelsWithout]

/-- What a surface that is destroyed does to each buffer. -/
theorem get?_buffers_destroySurface {surface : Surface}
    (found : client.surfaces.get? id = some surface)
    (done : client.destroySurface? id = some (callbacks, left)) (buffer : BufferId) :
    left.buffers.get? buffer =
      (client.buffers.get? buffer).map (abandon surface buffer) := by
  simp only [destroySurface?, found, Option.map_some, Option.some.injEq, Prod.mk.injEq] at done
  obtain ⟨_, rfl⟩ := done
  have abandoned (held : Buffer) : abandon surface buffer held =
      let held :=
        if surface.pending.attachment = some (.buffer buffer) then held.dropPending else held
      if surface.current.buffer = some buffer then held.dropCurrent else held := rfl
  simp only [funext abandoned]
  cases surface.current.buffer <;> cases surface.windowSurface <;>
    simp [removeWindow_eq, get?_buffers_modifyBuffer, get?_buffers_withdraw, Function.comp_def]

/-- No buffer goes with a surface. -/
theorem keys_buffers_destroySurface (done : client.destroySurface? id = some (callbacks, left)) :
    left.buffers.keys = client.buffers.keys := by
  obtain ⟨surface, _, same⟩ := Option.map_eq_some_iff.mp done
  cases same
  cases surface.current.buffer <;> cases surface.windowSurface <;>
    simp [removeWindow_eq, modifyBuffer, keys_buffers_withdraw]

end Destruction

end DisplayServer.Connection
