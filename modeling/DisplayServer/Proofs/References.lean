import DisplayServer.Proofs.Script
import DisplayServer.Proofs.Settlement

/-! # Reference counts

A buffer counts the surfaces that show it and those it is attached to. Both counts are exact
(`Connection.Balanced`), as every operation moves a count by what it does to the claims.
-/

namespace DisplayServer

namespace Connection

/-- The number of surfaces that show a buffer. -/
def showing (client : Connection) (id : BufferId) : Nat :=
  client.claims.values.countP fun claims => claims.shows id

/-- The number of surfaces that a buffer is attached to. -/
def awaiting (client : Connection) (id : BufferId) : Nat :=
  client.claims.values.countP fun claims => claims.awaits id

/-- The claims of a connection are on buffers of its own that were drawn before. -/
def ClaimsDrawn (client : Connection) (count : Nat) : Prop :=
  ∀ claims ∈ client.claims.values, ∀ id, claims.shows id = true ∨ claims.awaits id = true →
    id.connection = client.id ∧ id.index.toNat < count

/-- A buffer counts the claims on it, and is not shown when it was handed back. -/
structure Counted (client : Connection) (id : BufferId) (buffer : Buffer) : Prop where
  pending : buffer.pendingRefs = client.awaiting id
  current : buffer.currentRefs = client.showing id
  released : buffer.isReleased = true → buffer.currentRefs = 0

/-- **Buffers count the claims on them.** -/
def Balanced (client : Connection) : Prop :=
  ∀ id buffer, client.buffers.get? id = some buffer → client.Counted id buffer

section Claims

variable {client : Connection} {id : SurfaceId} {surface : Surface} {buffer : BufferId}

/-- A live surface has claims. -/
theorem claims_of_surface (found : client.surfaces.get? id = some surface) :
    client.claims.get? id = some surface.claims := by
  rw [get?_claims, found]
  rfl

private theorem resolve_eq_some {attachment : Attachment} {id : BufferId}
    (resolved : client.resolve attachment = some id) : attachment = .buffer id := by
  cases attachment with
  | removed => cases resolved
  | buffer other =>
    simp only [resolve] at resolved
    split at resolved
    · exact congrArg Attachment.buffer (Option.some.inj resolved)
    · cases resolved

/-- A buffer that an attachment makes current is live. -/
theorem contains_of_resolve {attachment : Attachment} {id : BufferId}
    (resolved : client.resolve attachment = some id) : client.buffers.contains id = true := by
  cases attachment with
  | removed => cases resolved
  | buffer other =>
    simp only [resolve] at resolved
    split at resolved
    · rename_i live
      exact Option.some.inj resolved ▸ live
    · cases resolved

/-- A surface that something is attached to comes to show what that resolves to. -/
theorem nextContent_buffer_eq {attachment : Attachment}
    (attached : surface.pending.attachment = some attachment) :
    (client.nextContent surface).buffer = client.resolve attachment := by
  simp only [nextContent, attached, SurfaceContent.showBuffer]

/-- What a surface shows after a commit it showed before, or had attached. -/
theorem nextContent_buffer (shown : (client.nextContent surface).buffer = some buffer) :
    surface.claims.shows buffer = true ∨ surface.claims.awaits buffer = true := by
  simp only [Surface.Claims.shows_iff, Surface.Claims.awaits_iff, Surface.claims]
  cases attached : surface.pending.attachment with
  | none =>
    simp only [nextContent, attached] at shown
    exact .inl shown
  | some attachment =>
    rw [nextContent_buffer_eq attached] at shown
    exact .inr (congrArg some (resolve_eq_some shown))

/-- What a commit makes of a buffer depends on whether the surface shows it before and after. -/
theorem settle_eq (held : Buffer) :
    client.settle surface buffer held =
      let withdrawn :=
        if surface.pending.attachment = some (.buffer buffer) then held.dropPending else held
      if surface.current.buffer = some buffer ↔
          (client.nextContent surface).buffer = some buffer then
        withdrawn
      else if surface.current.buffer = some buffer then retired withdrawn
      else withdrawn.addCurrent := by
  cases attached : surface.pending.attachment with
  | none =>
    have kept : (client.nextContent surface).buffer = surface.current.buffer := by
      simp only [nextContent, attached]
    simp [settle, attached, kept]
  | some attachment =>
    have next := client.nextContent_buffer_eq attached
    simp only [settle, attached, next, Option.some.injEq]
    by_cases same : surface.current.buffer = client.resolve attachment
    · simp only [same, if_true]
    · by_cases before : surface.current.buffer = some buffer
      · have apart : ¬ client.resolve attachment = some buffer := fun after =>
          same (before.trans after.symm)
        rw [before] at same
        simp only [same, before, apart, if_true, if_false, iff_false, not_true_eq_false]
      · simp only [same, before, if_false, false_iff, ite_not]

/-- A commit drops the claim of what was attached. -/
theorem settle_pendingRefs (held : Buffer) :
    (client.settle surface buffer held).pendingRefs =
      held.pendingRefs - if surface.claims.awaits buffer then 1 else 0 := by
  have retired (held : Buffer) : (retired held).pendingRefs = held.pendingRefs := by
    unfold Connection.retired
    split <;> rfl
  simp only [settle_eq, Surface.Claims.awaits_iff, Surface.claims, apply_ite Buffer.pendingRefs,
    Buffer.addCurrent, retired, Buffer.dropPending, ite_self]
  split <;> rfl

/-- A commit trades the claim on what was shown for one on what is to be shown. -/
theorem settle_currentRefs (held : Buffer)
    (counted : (if surface.claims.shows buffer then 1 else 0) ≤ held.currentRefs) :
    (client.settle surface buffer held).currentRefs +
        (if surface.claims.shows buffer then 1 else 0) =
      held.currentRefs + if (client.nextContent surface).buffer = some buffer then 1 else 0 := by
  have retired (held : Buffer) : (retired held).currentRefs = held.currentRefs - 1 := by
    unfold Connection.retired
    split <;> rfl
  simp only [Surface.Claims.shows_iff, Surface.claims] at counted ⊢
  simp only [settle_eq, apply_ite Buffer.currentRefs, Buffer.addCurrent, retired,
    Buffer.dropPending, ite_self]
  by_cases before : surface.current.buffer = some buffer <;>
    by_cases after : (client.nextContent surface).buffer = some buffer <;>
    simp only [before, after, if_true, if_false, iff_self, iff_false, false_iff, not_true_eq_false]
      at counted ⊢
  omega

/-- A buffer that is not shown is handed back by the commit that ended the last claim, and by
nothing else. -/
theorem settle_isReleased (held : Buffer) (free : held.isReleased = true → held.currentRefs = 0)
    (counted : (if surface.claims.shows buffer then 1 else 0) ≤ held.currentRefs) :
    (client.settle surface buffer held).isReleased = true ↔
      (client.settle surface buffer held).currentRefs = 0 ∧
        (held.isReleased = true ∨ 0 < held.currentRefs) := by
  simp only [Surface.Claims.shows_iff, Surface.claims] at counted
  have kept : (if surface.pending.attachment = some (.buffer buffer) then held.dropPending
      else held).currentRefs = held.currentRefs ∧
      (if surface.pending.attachment = some (.buffer buffer) then held.dropPending
        else held).isReleased = held.isReleased := by
    split <;> exact ⟨rfl, rfl⟩
  rw [settle_eq]
  simp only
  generalize (if surface.pending.attachment = some (.buffer buffer) then held.dropPending
      else held) = withdrawn at kept ⊢
  obtain ⟨refs, flag⟩ := kept
  split
  · rw [flag, refs]
    grind
  · split
    · rename_i before
      simp only [before, if_true] at counted
      simp only [retired, Buffer.dropCurrent, Buffer.release, refs]
      grind
    · simp [Buffer.addCurrent]

private theorem abandon_pendingRefs (held : Buffer) :
    (abandon surface buffer held).pendingRefs =
      held.pendingRefs - if surface.claims.awaits buffer then 1 else 0 := by
  simp only [abandon, Surface.Claims.awaits_iff, Surface.claims, apply_ite Buffer.pendingRefs,
    Buffer.dropPending, Buffer.dropCurrent, ite_self]
  split <;> rfl

private theorem abandon_currentRefs (held : Buffer) :
    (abandon surface buffer held).currentRefs =
      held.currentRefs - if surface.claims.shows buffer then 1 else 0 := by
  simp only [abandon, Surface.Claims.shows_iff, Surface.claims, apply_ite Buffer.currentRefs,
    Buffer.dropPending, Buffer.dropCurrent, ite_self]
  split <;> rfl

private theorem abandon_isReleased (held : Buffer) :
    (abandon surface buffer held).isReleased = held.isReleased := by
  rw [abandon_frame]

/-- An attachment trades the claim of the one that it replaces for its own. -/
theorem reattach_pendingRefs (attachment : Attachment) (held : Buffer)
    (counted : (if surface.claims.awaits buffer then 1 else 0) ≤ held.pendingRefs) :
    (reattach surface attachment buffer held).pendingRefs +
        (if surface.claims.awaits buffer then 1 else 0) =
      held.pendingRefs + if attachment = .buffer buffer then 1 else 0 := by
  simp only [Surface.Claims.awaits_iff, Surface.claims] at counted ⊢
  simp only [reattach, apply_ite Buffer.pendingRefs, Buffer.addPending, Buffer.dropPending]
  by_cases before : surface.pending.attachment = some (.buffer buffer) <;>
    by_cases after : attachment = .buffer buffer <;>
    simp only [before, after, if_true, if_false] at counted ⊢ <;>
    omega

end Claims

section Step

variable {old new : Connection} {operation : Operation} {count : Nat}

/-- The claims of a client are those of its surfaces. -/
theorem values_claims (client : Connection) :
    client.claims.values = client.surfaces.values.map Surface.claims := by
  simp [claims, Arena.mapValues, Arena.values]

/-- Nobody claims a buffer that is to be created. -/
theorem ClaimsDrawn.fresh (claimed : old.ClaimsDrawn count) (drawn : old.Drawn count)
    (room : count < UInt32.size) :
    old.awaiting (old.fresh .buffer) = 0 ∧ old.showing (old.fresh .buffer) = 0 := by
  have ahead : ¬ (old.fresh .buffer).index.toNat < count := by
    rw [drawn.index_fresh room]
    exact Nat.lt_irrefl count
  constructor
  · exact List.countP_eq_zero.mpr fun claims listed awaits =>
      ahead (claimed claims listed _ (.inr awaits)).2
  · exact List.countP_eq_zero.mpr fun claims listed shows =>
      ahead (claimed claims listed _ (.inl shows)).2

section Move

variable (distinct : old.claims.keys.Nodup) {id : SurfaceId} {claims : Surface.Claims}
  (found : old.claims.get? id = some claims)

include found in
/-- A surface counts for no more than all of them. -/
theorem claims_le_counts (buffer : BufferId) :
    (if claims.awaits buffer then 1 else 0) ≤ old.awaiting buffer ∧
      (if claims.shows buffer then 1 else 0) ≤ old.showing buffer :=
  ⟨Arena.le_countP_values found fun claims => claims.awaits buffer,
    Arena.le_countP_values found fun claims => claims.shows buffer⟩

include distinct found

/-- The claims of one surface move the counts of the buffers that it claims before or after. -/
theorem counts_modify {change : Surface.Claims → Surface.Claims}
    (moved : new.claims = old.claims.modify id change) (buffer : BufferId) :
    new.awaiting buffer + (if claims.awaits buffer then 1 else 0) =
        old.awaiting buffer + (if (change claims).awaits buffer then 1 else 0) ∧
      new.showing buffer + (if claims.shows buffer then 1 else 0) =
        old.showing buffer + if (change claims).shows buffer then 1 else 0 := by
  simp only [awaiting, showing, moved]
  exact ⟨Arena.countP_values_modify distinct found change _,
    Arena.countP_values_modify distinct found change _⟩

private theorem counts_erase (moved : new.claims = old.claims.erase id) (buffer : BufferId) :
    new.awaiting buffer + (if claims.awaits buffer then 1 else 0) = old.awaiting buffer ∧
      new.showing buffer + (if claims.shows buffer then 1 else 0) = old.showing buffer := by
  simp only [awaiting, showing, moved]
  exact ⟨Arena.countP_values_erase distinct found _, Arena.countP_values_erase distinct found _⟩

end Move

/-- **The counts stay exact.** -/
theorem Settlement.balanced (settlement : Settlement old new operation)
    (drawn : old.Drawn count) (room : count + old.drawnUntil new ≤ UInt32.size)
    (claimed : old.ClaimsDrawn count) (balanced : old.Balanced) : new.Balanced := by
  have distinct : old.claims.keys.Nodup := old.keys_claims ▸ drawn.nodup .surface
  intro id buffer live
  cases settlement with
  | quiet claims buffers =>
    obtain ⟨pending, current, released⟩ := balanced id buffer (buffers id buffer live)
    exact ⟨by rw [pending, awaiting, awaiting, claims], by rw [current, showing, showing, claims],
      released⟩
  | bufferCreated claims buffers advanced =>
    rw [drawnUntil_of_advanced advanced] at room
    rw [buffers, Arena.get?_insert] at live
    have same : new.awaiting id = old.awaiting id ∧ new.showing id = old.showing id := by
      simp only [awaiting, showing, claims, and_self]
    split at live
    · rename_i created
      cases live
      obtain ⟨unawaited, unshown⟩ := claimed.fresh drawn room
      exact ⟨by rw [same.1, created, unawaited], by rw [same.2, created, unshown], fun _ => rfl⟩
    · obtain ⟨pending, current, released⟩ := balanced id buffer live
      exact ⟨pending.trans same.1.symm, current.trans same.2.symm, released⟩
  | surfaceCreated claims buffers advanced =>
    rw [drawnUntil_of_advanced advanced] at room
    obtain ⟨pending, current, released⟩ := balanced id buffer (buffers ▸ live)
    have absent : old.fresh .surface ∉ old.claims.keys :=
      old.keys_claims ▸ drawn.fresh_notMem room .surface
    refine ⟨pending.trans ?_, current.trans ?_, released⟩
    · rw [awaiting, awaiting, claims, Arena.countP_values_insert absent]
      rfl
    · rw [showing, showing, claims, Arena.countP_values_insert absent]
      rfl
  | @attached _ attachment _ surface found _ claims buffers =>
    have held := claims_of_surface found
    obtain ⟨awaitingMoved, showingMoved⟩ := counts_modify distinct held claims id
    obtain ⟨awaits, _⟩ := claims_le_counts held id
    rw [buffers, get?_buffers_reattach, Option.map_eq_some_iff] at live
    obtain ⟨before, liveBefore, rfl⟩ := live
    obtain ⟨pending, current, released⟩ := balanced id before liveBefore
    have reattached : (reattach surface attachment id before).pendingRefs + _ = _ + _ :=
      reattach_pendingRefs attachment before (pending ▸ awaits)
    refine ⟨?_, ?_, ?_⟩
    · simp only [Surface.Claims.awaits_iff, Option.some.injEq] at awaitingMoved reattached
      omega
    · rw [reattach_frame]
      exact current.trans (Nat.add_right_cancel showingMoved).symm
    · rw [reattach_frame]
      exact released
  | @committed _ surface found claims buffers =>
    have held := claims_of_surface found
    obtain ⟨awaitingMoved, showingMoved⟩ := counts_modify distinct held claims id
    obtain ⟨awaits, shows⟩ := claims_le_counts held id
    rw [buffers, Option.map_eq_some_iff] at live
    obtain ⟨before, liveBefore, rfl⟩ := live
    obtain ⟨pending, current, released⟩ := balanced id before liveBefore
    have settled : (old.settle surface id before).currentRefs + _ = _ + _ :=
      settle_currentRefs before (current ▸ shows)
    refine ⟨?_, ?_, fun handedBack => ?_⟩
    · have unattached :
          (⟨(old.nextContent surface).buffer, none⟩ : Surface.Claims).awaits id = false := rfl
      rw [unattached] at awaitingMoved
      rw [settle_pendingRefs, pending, Nat.eq_sub_of_add_eq awaitingMoved]
      rfl
    · simp only [Surface.Claims.shows_iff] at showingMoved settled
      omega
    · exact ((settle_isReleased before released (current ▸ shows)).mp handedBack).1
  | destroyed found claims buffers =>
    have held := claims_of_surface found
    obtain ⟨awaitingMoved, showingMoved⟩ := counts_erase distinct held claims id
    rw [buffers, Option.map_eq_some_iff] at live
    obtain ⟨before, liveBefore, rfl⟩ := live
    obtain ⟨pending, current, released⟩ := balanced id before liveBefore
    refine ⟨?_, ?_, fun handedBack => ?_⟩
    · rw [abandon_pendingRefs, pending]
      omega
    · rw [abandon_currentRefs, current]
      omega
    · rw [abandon_isReleased] at handedBack
      rw [abandon_currentRefs, released handedBack, Nat.zero_sub]

/-- Claims stay on buffers that were drawn: only a live buffer can be attached. -/
theorem Settlement.claimsDrawn (settlement : Settlement old new operation) (named : new.id = old.id)
    (drawn : old.Drawn count) (claimed : old.ClaimsDrawn count) : new.ClaimsDrawn count := by
  intro claims listed id refers
  rw [named]
  cases settlement with
  | quiet same _ | bufferCreated same _ _ => exact claimed claims (same ▸ listed) id refers
  | surfaceCreated added _ _ =>
    rcases Arena.mem_values_insert (added ▸ listed) with earlier | rfl
    · exact claimed claims earlier id refers
    · rcases refers with shows | awaits
      · cases shows
      · cases awaits
  | attached found allowed moved _ =>
    rcases Arena.mem_values_modify (moved ▸ listed) with earlier | ⟨before, held, rfl⟩
    · exact claimed claims earlier id refers
    · rcases refers with shows | awaits
      · exact claimed before held id (.inl shows)
      · rw [Surface.Claims.awaits_iff, Option.some.injEq] at awaits
        rw [awaits, mayAttach, Bool.and_eq_true, Arena.contains_iff_mem_keys] at allowed
        exact ⟨drawn.own .buffer id allowed.2, drawn.below .buffer id allowed.2⟩
  | committed found moved _ =>
    rcases Arena.mem_values_modify (moved ▸ listed) with earlier | ⟨before, _, rfl⟩
    · exact claimed claims earlier id refers
    · rcases refers with shows | awaits
      · rw [Surface.Claims.shows_iff] at shows
        exact claimed _ (Arena.mem_values_of_get? (claims_of_surface found)) id
          (nextContent_buffer shows)
      · cases awaits
  | destroyed _ moved _ => exact claimed claims (Arena.mem_values_erase (moved ▸ listed)) id refers

/-- A buffer that is live afterwards was live before, or has just been created. -/
theorem Settlement.source (settlement : Settlement old new operation) {id : BufferId}
    {after : Buffer} (live : new.buffers.get? id = some after) :
    (∃ before, old.buffers.get? id = some before) ∨
      id = old.fresh .buffer ∧ new.nextIndex = old.nextIndex + 1 ∧
        ∃ pool geometry, after = { pool, geometry } := by
  cases settlement with
  | quiet _ buffers => exact .inl ⟨after, buffers id after live⟩
  | bufferCreated _ buffers advanced =>
    rw [buffers, Arena.get?_insert] at live
    split at live
    · rename_i created
      cases live
      exact .inr ⟨created, advanced, _, _, rfl⟩
    · exact .inl ⟨after, live⟩
  | surfaceCreated _ buffers _ => exact .inl ⟨after, buffers ▸ live⟩
  | attached _ _ _ buffers =>
    rw [buffers, get?_buffers_reattach, Option.map_eq_some_iff] at live
    obtain ⟨before, liveBefore, _⟩ := live
    exact .inl ⟨before, liveBefore⟩
  | committed _ _ buffers | destroyed _ _ buffers =>
    rw [buffers, Option.map_eq_some_iff] at live
    obtain ⟨before, liveBefore, _⟩ := live
    exact .inl ⟨before, liveBefore⟩

/-- A buffer that nobody shows counts as handed back if it did before, or if this was the end of the
last claim and the operation a commit. -/
theorem Settlement.isReleased_iff (settlement : Settlement old new operation)
    (drawn : old.Drawn count) (room : count + old.drawnUntil new ≤ UInt32.size)
    (balanced : old.Balanced)
    {id : BufferId} {before after : Buffer} (liveBefore : old.buffers.get? id = some before)
    (liveAfter : new.buffers.get? id = some after) :
    after.isReleased = true ↔ after.currentRefs = 0 ∧
      (before.isReleased = true ∨
        0 < before.currentRefs ∧ ∃ surface, operation = .commit surface) := by
  obtain ⟨_, current, released⟩ := balanced id before liveBefore
  have quiet (flag : after.isReleased = before.isReleased)
      (refs : after.currentRefs = before.currentRefs) :
      after.isReleased = true ↔ after.currentRefs = 0 ∧
        (before.isReleased = true ∨
          0 < before.currentRefs ∧ ∃ surface, operation = .commit surface) := by
    rw [flag, refs]
    constructor
    · exact fun handedBack => ⟨released handedBack, .inl handedBack⟩
    · rintro ⟨none, handedBack | ⟨some, _⟩⟩
      · exact handedBack
      · omega
  cases settlement with
  | quiet _ buffers =>
    cases liveBefore.symm.trans (buffers id after liveAfter)
    exact quiet rfl rfl
  | bufferCreated _ buffers advanced =>
    rw [drawnUntil_of_advanced advanced] at room
    have apart : id ≠ old.fresh .buffer := fun created =>
      drawn.fresh_notMem room .buffer (created ▸ Arena.mem_keys_of_get? liveBefore)
    rw [buffers, Arena.get?_insert, if_neg apart] at liveAfter
    cases liveBefore.symm.trans liveAfter
    exact quiet rfl rfl
  | surfaceCreated _ buffers _ =>
    cases liveBefore.symm.trans (buffers ▸ liveAfter)
    exact quiet rfl rfl
  | attached _ _ _ buffers =>
    rw [buffers, get?_buffers_reattach, liveBefore] at liveAfter
    cases liveAfter
    exact quiet (by rw [reattach_frame]) (by rw [reattach_frame])
  | @committed surfaceId surface found _ buffers =>
    rw [buffers, liveBefore] at liveAfter
    cases liveAfter
    obtain ⟨_, shows⟩ := claims_le_counts (claims_of_surface found) id
    rw [settle_isReleased before released (current ▸ shows)]
    exact and_congr_right fun _ => or_congr_right ⟨fun some => ⟨some, surfaceId, rfl⟩, And.left⟩
  | destroyed _ _ buffers =>
    rw [buffers, liveBefore] at liveAfter
    cases liveAfter
    rw [abandon_isReleased, abandon_currentRefs]
    constructor
    · exact fun handedBack => ⟨by rw [released handedBack, Nat.zero_sub], .inl handedBack⟩
    · rintro ⟨_, handedBack | ⟨_, _, commit⟩⟩
      · exact handedBack
      · cases commit

/-- **What every operation preserves of a connection.** Its handles and its claims lie behind the
counter, and its buffers count the claims. -/
structure Exact (client : Connection) (count : Nat) : Prop where
  drawn : client.Drawn count
  claimed : client.ClaimsDrawn count
  balanced : client.Balanced

/-- The counts of a fresh connection are exact. -/
theorem Exact.empty (id : ConnectionId) : Exact { id } 0 where
  drawn := .empty id
  claimed _ listed := by cases listed
  balanced _ _ live := by cases live

/-- **Every operation keeps the counts of a connection exact.** -/
theorem Exact.next {server : Server} {host : Host} (exact : old.Exact count)
    (change : Change server host operation old new)
    (room : count + old.drawnUntil new ≤ UInt32.size) :
    new.Exact (count + old.drawnUntil new) := by
  have settlement := change.settlement (exact.drawn.nodup .surface)
  have claimed := settlement.claimsDrawn change.id_eq exact.drawn exact.claimed
  refine ⟨change.drawn exact.drawn room, fun claims listed id refers => ?_,
    settlement.balanced exact.drawn room exact.claimed exact.balanced⟩
  obtain ⟨own, below⟩ := claimed claims listed id refers
  exact ⟨own, Nat.lt_add_right _ below⟩

end Step

end Connection

end DisplayServer
