import DisplayServer.Proofs.Lifetimes
import DisplayServer.Proofs.References

/-! # The states of buffers

Clients are told of the state of a buffer, and the state comes from counters. After every script the
counters are the numbers of live surfaces that show the buffer and that it is attached to, and a
buffer that no surface refers to is handed back exactly if a commit ended the last claim on it.
-/

namespace DisplayServer

section Lists

variable {κ α : Type}

/-- Where all the parts but one are empty, their concatenation is that one. -/
theorem flatMap_eq_of_single {keys : List κ} (distinct : keys.Nodup) {part : κ → List α} {key : κ}
    (others : ∀ other ∈ keys, other ≠ key → part other = [])
    (absent : key ∉ keys → part key = []) : keys.flatMap part = part key := by
  induction keys with
  | nil => exact (absent List.not_mem_nil).symm
  | cons first rest ih =>
    obtain ⟨fresh, distinct⟩ := List.nodup_cons.mp distinct
    rw [List.flatMap_cons]
    by_cases here : first = key
    · subst here
      have none : rest.flatMap part = [] := by
        rw [List.flatMap_eq_nil_iff]
        intro other member
        apply others other (List.mem_cons_of_mem _ member)
        rintro rfl
        exact fresh member
      rw [none, List.append_nil]
    · rw [others first List.mem_cons_self here, List.nil_append]
      apply ih distinct
      · exact fun other member => others other (List.mem_cons_of_mem _ member)
      · intro unlisted
        apply absent
        rw [List.mem_cons]
        rintro (same | member)
        · exact here same.symm
        · exact unlisted member

end Lists

namespace Arena

variable {κ α : Type} [DecidableEq κ]

/-- Where only the parts of one object pass a test, counting those is counting them all. -/
theorem countP_flatMap_values {β : Type} {arena : Arena κ α} (distinct : arena.keys.Nodup) {key : κ}
    {value : α} (found : arena.get? key = some value) (parts : α → List β) (test : β → Bool)
    (others : ∀ other held, arena.get? other = some held → other ≠ key →
      ∀ part ∈ parts held, ¬ test part = true) :
    (arena.values.flatMap parts).countP test = (parts value).countP test := by
  let passing (entry : κ × α) : List β := (parts entry.2).filter test
  have unique : arena.entries.Nodup :=
    List.Pairwise.of_map Prod.fst (fun _ _ apart same => apart (congrArg Prod.fst same)) distinct
  have single : arena.entries.flatMap passing = passing (key, value) := by
    apply flatMap_eq_of_single unique
    · intro entry listed apart
      have held := (get?_eq_some_iff distinct).mpr listed
      apply List.filter_eq_nil_iff.mpr
      apply others entry.1 entry.2 held
      intro same
      rw [same, found] at held
      exact apart (Prod.ext same (Option.some.inj held).symm)
    · intro unlisted
      exact (unlisted ((get?_eq_some_iff distinct).mp found)).elim
  rw [List.countP_eq_length_filter, values, List.flatMap_map, List.filter_flatMap]
  exact (congrArg List.length single).trans List.countP_eq_length_filter.symm

end Arena

namespace Buffer

variable (buffer : Buffer)

private theorem state_eq_current_iff : buffer.state = .current ↔ 0 < buffer.currentRefs := by
  unfold state
  grind

private theorem state_eq_attached_iff :
    buffer.state = .attached ↔ ¬ 0 < buffer.currentRefs ∧ 0 < buffer.pendingRefs := by
  unfold state
  grind

private theorem state_eq_released_iff :
    buffer.state = .released ↔
      ¬ 0 < buffer.currentRefs ∧ ¬ 0 < buffer.pendingRefs ∧ buffer.isReleased = true := by
  unfold state
  grind

private theorem state_eq_free_iff :
    buffer.state = .free ↔
      ¬ 0 < buffer.currentRefs ∧ ¬ 0 < buffer.pendingRefs ∧ ¬ buffer.isReleased = true := by
  unfold state
  grind

end Buffer

namespace Server

/-- The live surfaces of all clients. -/
def surfaces (server : Server) : List Surface :=
  server.connections.values.flatMap fun client => client.surfaces.values

/-- The number of live surfaces that show a buffer. -/
def showing (server : Server) (id : BufferId) : Nat :=
  server.surfaces.countP fun surface => surface.current.buffer = some id

/-- The number of live surfaces that a buffer is attached to. -/
def awaiting (server : Server) (id : BufferId) : Nat :=
  server.surfaces.countP fun surface => surface.pending.attachment = some (.buffer id)

/-- Some live surface shows a buffer. -/
def Shown (server : Server) (id : BufferId) : Prop :=
  ∃ surface ∈ server.surfaces, surface.current.buffer = some id

/-- A buffer is attached to some live surface. -/
def Awaited (server : Server) (id : BufferId) : Prop :=
  ∃ surface ∈ server.surfaces, surface.pending.attachment = some (.buffer id)

/-- Whether an operation ends the last claim of a surface that shows a buffer. -/
def endsShowing (server : Server) (host : Host) (operation : Operation) (id : BufferId) : Bool :=
  match server.buffer? id, (server.next host operation).buffer? id with
  | some before, some after => decide (0 < before.currentRefs ∧ after.currentRefs = 0)
  | _, _ => false

/-- The last operation of a script that ended the last claim of a surface that shows a buffer. -/
def lastEnding (server : Server) : Script → BufferId → Option Operation
  | [], _ => none
  | (host, operation) :: rest, id =>
    ((server.next host operation).lastEnding rest id).or
      (if server.endsShowing host operation id then some operation else none)

/-- **What the counters of a buffer say.** They are the numbers of live surfaces that refer to the
buffer, so a surface that gives up its claim never finds a counter at zero, and they settle the
state of the buffer. Of a buffer that nobody refers to, `ending` is the operation that last ended
its being shown. -/
structure CountsClaims (server : Server) (ending : Option Operation) (id : BufferId)
    (buffer : Buffer) : Prop where
  current : buffer.currentRefs = server.showing id
  pending : buffer.pendingRefs = server.awaiting id
  dropCurrent : ∀ surface ∈ server.surfaces, surface.current.buffer = some id →
    buffer.dropCurrent.currentRefs + 1 = buffer.currentRefs
  dropPending : ∀ surface ∈ server.surfaces, surface.pending.attachment = some (.buffer id) →
    buffer.dropPending.pendingRefs + 1 = buffer.pendingRefs
  isCurrent : buffer.state = .current ↔ server.Shown id
  isAttached : buffer.state = .attached ↔ ¬ server.Shown id ∧ server.Awaited id
  isReleased : buffer.state = .released ↔ ¬ server.Shown id ∧ ¬ server.Awaited id ∧
    ∃ surface, ending = some (.commit surface)
  isFree : buffer.state = .free ↔ ¬ server.Shown id ∧ ¬ server.Awaited id ∧
    ¬ ∃ surface, ending = some (.commit surface)

/-- An operation ends the showing of a buffer that it leaves alive. -/
theorem endsShowing_iff {server : Server} {host : Host} {operation : Operation} {id : BufferId} :
    server.endsShowing host operation id = true ↔
      ∃ before after, server.buffer? id = some before ∧
        (server.next host operation).buffer? id = some after ∧
        0 < before.currentRefs ∧ after.currentRefs = 0 := by
  unfold endsShowing
  cases server.buffer? id <;> cases (server.next host operation).buffer? id <;> simp

/-- What ended the showing of a buffer last is in the later of two scripts, if it is in there at
all. -/
theorem lastEnding_append (server : Server) (front back : Script) (id : BufferId) :
    server.lastEnding (front ++ back) id =
      ((server.run front).lastEnding back id).or (server.lastEnding front id) := by
  induction front generalizing server with
  | nil => exact Option.or_none.symm
  | cons first rest ih =>
    simp only [List.cons_append, lastEnding, ih, Option.or_assoc]
    rfl

section Runs

variable {config : Config}

/-- The last operation counts if it ended the showing of a buffer. -/
theorem lastEnding_concat (config : Config) (script : Script) (host : Host) (operation : Operation)
    (id : BufferId) :
    (Server.start config).state.lastEnding (script ++ [(host, operation)]) id =
      if (after config script).endsShowing host operation id then some operation
      else (Server.start config).state.lastEnding script id := by
  rw [lastEnding_append, lastEnding, lastEnding, Option.none_or]
  change Option.or (if (after config script).endsShowing host operation id then _ else _) _ = _
  split <;> rfl

/-- After a script in range, the counts of all clients are exact. -/
theorem exact_after (script : Script) (range : (Server.start config).state.InRange script) :
    ∀ id client, (after config script).connection? id = some client →
      client.Exact (drawnAfter config script id) := by
  refine after_induction (motive := fun script server => ∀ id client,
    server.connection? id = some client → client.Exact (drawnAfter config script id))
    ?_ ?_ script range
  · intro id client live
    cases live
  · intro script host operation range exact id new live
    have ready := ready_after range
    rw [drawnAfter_concat]
    rcases ready.connection? ready.room live with ⟨rfl, rfl, dead, number⟩ | ⟨old, found, change⟩
    · rw [ready.untouched id (Nat.le_of_eq number.symm), drawnBy_of_notMem dead]
      exact .empty id
    · rw [drawnBy_eq found live]
      exact (exact id old found).next change (ready.client found live).2

/-- The surfaces of a client refer to no buffers but its own. -/
theorem counts_of_connection {server : Server} {accepted : Nat} {drawn : ConnectionId → Nat}
    (accounted : server.Accounted accepted drawn)
    (exact : ∀ id client, server.connection? id = some client → client.Exact (drawn id))
    {id : BufferId} {client : Connection} (live : server.connection? id.connection = some client) :
    server.showing id = client.showing id ∧ server.awaiting id = client.awaiting id := by
  have foreign (other : ConnectionId) (stranger : Connection)
      (found : server.connection? other = some stranger) (apart : other ≠ id.connection) :
      ∀ surface ∈ stranger.surfaces.values,
        ¬ (surface.claims.shows id = true ∨ surface.claims.awaits id = true) := by
    intro surface listed refers
    have claimed : surface.claims ∈ stranger.claims.values := by
      rw [stranger.values_claims]
      exact List.mem_map.mpr ⟨surface, listed, rfl⟩
    have own := ((exact other stranger found).claimed _ claimed id refers).1
    rw [accounted.named other stranger found] at own
    exact apart own.symm
  simp only [Connection.showing, Connection.awaiting, client.values_claims, List.countP_map]
  constructor
  · exact Arena.countP_flatMap_values accounted.nodup live _ _ fun other stranger found apart
      surface listed shows => foreign other stranger found apart surface listed (.inl shows)
  · exact Arena.countP_flatMap_values accounted.nodup live _ _ fun other stranger found apart
      surface listed awaits => foreign other stranger found apart surface listed (.inr awaits)

/-- Only a buffer that has lived can have lost its last claim. -/
theorem drawn_of_lastEnding (script : Script)
    (range : (Server.start config).state.InRange script) (id : BufferId) (operation : Operation)
    (ended : (Server.start config).state.lastEnding script id = some operation) :
    id.index.toNat < drawnAfter config script id.connection := by
  induction script using List.reverseRecOn with
  | nil => cases ended
  | append_singleton script entry ih =>
    rw [drawnAfter_concat]
    refine Nat.lt_add_right _ ?_
    rw [lastEnding_concat] at ended
    split at ended
    · rename_i ends
      obtain ⟨before, _, live, _⟩ := endsShowing_iff.mp ends
      obtain ⟨client, found, held⟩ := buffer?_eq_some.mp live
      have drawn := (exact_after script range.of_append _ client found).drawn
      exact drawn.below .buffer id (Arena.mem_keys_of_get? held)
    · exact ih range.of_append ended

/-- A buffer counts as handed back if nobody shows it and a commit ended the last claim on it. -/
theorem isReleased_after (script : Script) (range : (Server.start config).state.InRange script) :
    ∀ id buffer, (after config script).buffer? id = some buffer →
      (buffer.isReleased = true ↔ buffer.currentRefs = 0 ∧ ∃ surface,
        (Server.start config).state.lastEnding script id = some (.commit surface)) := by
  refine after_induction (motive := fun script server => ∀ id buffer,
    server.buffer? id = some buffer → (buffer.isReleased = true ↔ buffer.currentRefs = 0 ∧
      ∃ surface, (Server.start config).state.lastEnding script id = some (.commit surface)))
    ?_ ?_ script range
  · intro id buffer live
    obtain ⟨client, found, _⟩ := buffer?_eq_some.mp live
    cases found
  · intro script host operation range before id buffer live
    have ready := ready_after range
    obtain ⟨new, found, held⟩ := buffer?_eq_some.mp live
    rcases ready.connection? ready.room found with ⟨_, rfl, _⟩ | ⟨old, foundBefore, change⟩
    · cases held
    have room := (ready.client foundBefore found).2
    have exact := exact_after script range.of_append _ old foundBefore
    have settlement := change.settlement (exact.drawn.nodup .surface)
    rw [lastEnding_concat]
    rcases settlement.source held with ⟨held', heldBefore⟩ | ⟨created, advanced, _, _, rfl⟩
    · have liveBefore : (after config script).buffer? id = some held' :=
        buffer?_eq_some.mpr ⟨old, foundBefore, heldBefore⟩
      have ends : (after config script).endsShowing host operation id = true ↔
          0 < held'.currentRefs ∧ buffer.currentRefs = 0 := by
        simp [endsShowing, liveBefore, live]
      rw [settlement.isReleased_iff exact.drawn room exact.balanced heldBefore held,
        before id held' liveBefore]
      apply and_congr_right
      intro unshown
      by_cases shown : 0 < held'.currentRefs
      · rw [if_pos (ends.mpr ⟨shown, unshown⟩)]
        have still : held'.currentRefs ≠ 0 := by omega
        simp only [still, shown, false_and, true_and, false_or, Option.some.injEq]
      · have none : held'.currentRefs = 0 := by omega
        rw [if_neg fun ended => shown (ends.mp ended).1]
        simp only [none, Nat.lt_irrefl, true_and, false_and, or_false]
    · -- The handle was not drawn before, so the buffer cannot have lost a claim.
      rw [Connection.drawnUntil_of_advanced advanced] at room
      have absent : (after config script).buffer? id = none := by
        simp only [buffer?, foundBefore]
        exact Arena.get?_eq_none_of_notMem (created ▸ exact.drawn.fresh_notMem room .buffer)
      have index := exact.drawn.index_fresh room .buffer
      rw [← created] at index
      have unborn : (Server.start config).state.lastEnding script id = none := by
        cases ended : (Server.start config).state.lastEnding script id with
        | none => rfl
        | some ending =>
          have below := drawn_of_lastEnding script range.of_append id ending ended
          omega
      simp [endsShowing, absent, unborn]

/-- Some surface shows a buffer if more than none do. -/
theorem showing_pos_iff {server : Server} {id : BufferId} :
    0 < server.showing id ↔ server.Shown id := by
  simp only [showing, Shown, List.countP_pos_iff, decide_eq_true_eq]

/-- Some surface awaits a buffer if more than none do. -/
theorem awaiting_pos_iff {server : Server} {id : BufferId} :
    0 < server.awaiting id ↔ server.Awaited id := by
  simp only [awaiting, Awaited, List.countP_pos_iff, decide_eq_true_eq]

/-- Exact counts settle the state. -/
theorem CountsClaims.of_counts {server : Server} {ending : Option Operation} {id : BufferId}
    {buffer : Buffer} (current : buffer.currentRefs = server.showing id)
    (pending : buffer.pendingRefs = server.awaiting id)
    (released : buffer.isReleased = true ↔
      buffer.currentRefs = 0 ∧ ∃ surface, ending = some (.commit surface)) :
    server.CountsClaims ending id buffer := by
  have shown : 0 < buffer.currentRefs ↔ server.Shown id := current ▸ showing_pos_iff
  have awaited : 0 < buffer.pendingRefs ↔ server.Awaited id := pending ▸ awaiting_pos_iff
  refine ⟨current, pending, fun surface live shows => ?_, fun surface live awaits => ?_, ?_, ?_,
    ?_, ?_⟩
  · exact Nat.sub_add_cancel (shown.mpr ⟨surface, live, shows⟩)
  · exact Nat.sub_add_cancel (awaited.mpr ⟨surface, live, awaits⟩)
  · exact buffer.state_eq_current_iff.trans shown
  · rw [buffer.state_eq_attached_iff, shown, awaited]
  · rw [buffer.state_eq_released_iff, released, ← shown, ← awaited]
    exact and_congr_right fun unshown => and_congr_right fun _ =>
      and_iff_right (Nat.eq_zero_of_not_pos unshown)
  · rw [buffer.state_eq_free_iff, released, ← shown, ← awaited]
    refine and_congr_right fun unshown => and_congr_right fun _ => not_congr ?_
    exact and_iff_right (Nat.eq_zero_of_not_pos unshown)

/-- **Reference counts are exact.** After every script in range, the counters of every live buffer
count the live surfaces that refer to it, and its state says which kind of claim there is, or how
the last one ended. -/
theorem reference_counts_exact (config : Config) (script : Script)
    (range : (Server.start config).state.InRange script) (id : BufferId) (buffer : Buffer)
    (live : (after config script).buffer? id = some buffer) :
    (after config script).CountsClaims ((Server.start config).state.lastEnding script id) id
      buffer := by
  obtain ⟨client, found, held⟩ := buffer?_eq_some.mp live
  have exact := exact_after script range
  obtain ⟨pending, current, _⟩ := (exact _ client found).balanced id buffer held
  obtain ⟨showing, awaiting⟩ := counts_of_connection (accounted_after script range) exact found
  exact .of_counts (current.trans showing.symm) (pending.trans awaiting.symm)
    (isReleased_after script range id buffer live)

/-- A buffer that was shown and taken back counts as handed back. -/
theorem reference_counts_exact_takenBack :
    ((Server.start {}).state.InRange Script.takenBack ∧
      (after {} Script.takenBack).buffer? ⟨⟨0⟩, 1⟩ =
        some { pool := ⟨⟨0⟩, 0⟩, geometry := ⟨0, 2, 2, 8, .argb8888⟩, isReleased := true }) ∧
    (after {} Script.takenBack).CountsClaims
      ((Server.start {}).state.lastEnding Script.takenBack ⟨⟨0⟩, 1⟩) ⟨⟨0⟩, 1⟩
      { pool := ⟨⟨0⟩, 0⟩, geometry := ⟨0, 2, 2, 8, .argb8888⟩, isReleased := true } :=
  have range : (Server.start {}).state.InRange Script.takenBack := inRange_of_length _ (by decide)
  have live : (after {} Script.takenBack).buffer? ⟨⟨0⟩, 1⟩ =
      some { pool := ⟨⟨0⟩, 0⟩, geometry := ⟨0, 2, 2, 8, .argb8888⟩, isReleased := true } :=
    rfl
  ⟨⟨range, live⟩, reference_counts_exact {} Script.takenBack range _ _ live⟩

end Runs

end Server

end DisplayServer
