import DisplayServer.Proofs.Batches

/-! # The view

The view holds, for every live surface, the metadata of the buffer that it last came to show. A
commit enters them, and the destruction of the surface takes them out. Nothing else does: a surface
that shows nothing any more keeps its entry, so the view tells what a surface shows only as long as
the surface shows something.
-/

namespace DisplayServer

namespace Connection

variable {id : BufferId}

/-- A live buffer was there before, with the same geometry, or has just been created. -/
theorem Settlement.buffer_source {old new : Connection} {operation : Operation}
    (settlement : Settlement old new operation) {buffer : Buffer}
    (live : new.buffers.get? id = some buffer) :
    (∃ before, old.buffers.get? id = some before ∧ buffer.geometry = before.geometry) ∨
      ∃ pool, operation = .createBuffer pool buffer.geometry := by
  cases settlement with
  | quiet _ buffers => exact .inl ⟨buffer, buffers id buffer live, rfl⟩
  | bufferCreated _ buffers _ =>
    rw [buffers, Arena.get?_insert] at live
    split at live
    · cases live
      exact .inr ⟨_, rfl⟩
    · exact .inl ⟨buffer, live, rfl⟩
  | surfaceCreated _ buffers _ => exact .inl ⟨buffer, buffers ▸ live, rfl⟩
  | attached _ _ _ buffers =>
    rw [buffers, get?_buffers_reattach] at live
    obtain ⟨before, held, rfl⟩ := Option.map_eq_some_iff.mp live
    exact .inl ⟨before, held, by rw [reattach_frame]⟩
  | committed _ _ buffers =>
    rw [buffers] at live
    obtain ⟨before, held, rfl⟩ := Option.map_eq_some_iff.mp live
    exact .inl ⟨before, held, by rw [settle_frame]⟩
  | destroyed _ _ buffers =>
    rw [buffers] at live
    obtain ⟨before, held, rfl⟩ := Option.map_eq_some_iff.mp live
    exact .inl ⟨before, held, by rw [abandon_frame]⟩

end Connection

namespace Server

/-- A buffer was created with some geometry in the course of a script. -/
def CreatedWith (config : Config) (script : Script) (id : BufferId) (geometry : BufferGeometry) :
    Prop :=
  ∃ front host pool back, script = front ++ (host, .createBuffer pool geometry) :: back ∧
    ((after config front).step host (.createBuffer pool geometry)).answer = .handle id

section Buffers

private theorem CreatedWith.append {config : Config} {front : Script} {id : BufferId}
    {geometry : BufferGeometry} (created : CreatedWith config front id geometry) (back : Script) :
    CreatedWith config (front ++ back) id geometry := by
  obtain ⟨before, host, pool, rest, rfl, answered⟩ := created
  exact ⟨before, host, pool, rest ++ back, by simp, answered⟩

/-- A buffer is carved out of its pool, or nothing happens. -/
theorem createBuffer_eq (server : Server) (pool : PoolId) (geometry : BufferGeometry) :
    (∃ cause, server.createBuffer pool geometry = .refuse server cause) ∨
      ∃ client, server.connection? pool.connection = some client ∧
        server.createBuffer pool geometry =
          { answer := .ok (client.fresh .buffer),
            state := server.putBack (client.addBuffer pool geometry).2 } := by
  refine (ofAttempt_onConnection _ _ _ _ _).imp id ?_
  rintro ⟨client, answer, new, found, done, worked⟩
  refine ⟨client, found, worked.trans ?_⟩
  cases owned : client.pools.get? pool with
  | none =>
    simp only [owned] at done
    cases done
  | some owner =>
    simp only [owned] at done
    cases checked : geometry.check owner.length server.formats with
    | error cause =>
      simp only [checked] at done
      cases done
    | ok fits =>
      simp only [checked] at done
      cases done
      rfl

/-- A buffer that its creation makes live is the answer, and has the geometry asked for. -/
theorem buffer?_next_createBuffer {server : Server} {host : Host} (named : server.Named)
    {pool : PoolId} {geometry : BufferGeometry} {id : BufferId} {buffer : Buffer}
    (live : (server.next host (.createBuffer pool geometry)).buffer? id = some buffer) :
    server.buffer? id = some buffer ∨
      buffer.geometry = geometry ∧
        (server.step host (.createBuffer pool geometry)).answer = .handle id := by
  have step : server.step host (.createBuffer pool geometry) =
    (server.createBuffer pool geometry).map (.ofAttempt .pool .handle) := rfl
  rcases createBuffer_eq server pool geometry with ⟨cause, refused⟩ | ⟨client, found, worked⟩
  · rw [next, step, refused] at live
    exact .inl live
  · rw [next, step, worked] at live
    rw [step, worked]
    obtain ⟨after, reached, held⟩ := buffer?_eq_some.mp live
    have kept : (client.addBuffer pool geometry).2.id = pool.connection := named _ client found
    change (server.putBack _).connection? id.connection = _ at reached
    rw [connection?_putBack, kept] at reached
    split at reached
    · rename_i here
      rw [here, found] at reached
      cases reached
      change (client.buffers.insert (client.fresh .buffer) _).get? id = _ at held
      rw [Arena.get?_insert] at held
      split at held
      · rename_i same
        cases held
        exact .inr ⟨rfl, congrArg Answer.handle same.symm⟩
      · exact .inl (buffer?_eq_some.mpr ⟨client, here ▸ found, held⟩)
    · exact .inl (buffer?_eq_some.mpr ⟨after, reached, held⟩)

/-- Every live buffer has the geometry that it was created with. -/
theorem createdWith_after {config : Config} (script : Script)
    (range : (Server.start config).state.InRange script) {id : BufferId} {buffer : Buffer}
    (live : (after config script).buffer? id = some buffer) :
    CreatedWith config script id buffer.geometry := by
  induction script using List.reverseRecOn generalizing buffer with
  | nil => cases live
  | append_singleton script entry ih =>
    obtain ⟨host, operation⟩ := entry
    have ready := ready_after range
    rw [after_concat] at live
    by_cases creates : ∃ pool geometry, operation = .createBuffer pool geometry
    · obtain ⟨pool, geometry, rfl⟩ := creates
      rcases buffer?_next_createBuffer ready.named live with before | ⟨rfl, answered⟩
      · exact (ih range.of_append before).append _
      · exact ⟨script, host, pool, [], rfl, answered⟩
    · obtain ⟨new, reached, held⟩ := buffer?_eq_some.mp live
      rcases connection?_next ready.named reached with ⟨_, _, rfl⟩ | ⟨old, found, change⟩
      · cases held
      · have distinct := (ready.clients _ old found).nodup .surface
        rcases (change.settlement distinct).buffer_source held with
          ⟨before, heldBefore, same⟩ | ⟨pool, created⟩
        · rw [same]
          exact (ih range.of_append (buffer?_eq_some.mpr ⟨old, found, heldBefore⟩)).append _
        · exact (creates ⟨pool, _, created⟩).elim

end Buffers

section Step

variable {server : Server} {host : Host} {operation : Operation} {id : SurfaceId} {accepted : Nat}
  {drawn : ConnectionId → Nat}

/-- Unless its surface is committed, an entry stays as long as the surface is live. -/
theorem Ready.entryOf?_next (ready : server.Ready host operation accepted drawn)
    (owned : server.Owned) (uncommitted : operation ≠ .commit id)
    (absent : server.surface? id = none → server.entryOf? id = none) :
    (server.next host operation).entryOf? id =
      ((server.next host operation).surface? id).bind fun _ => server.entryOf? id := by
  have course := server.course ready.named host operation id
  have stays (kept : server.surface? id = none ∨
      operation ≠ .destroySurface id ∧ operation ≠ .disconnect id.connection) :
      (server.next host operation).entryOf? id = server.entryOf? id :=
    entryOf?_next_of_kept ready.named owned uncommitted kept
  have calmly (calm : ¬ server.Disturbs host id operation) :
      (server.next host operation).entryOf? id = server.entryOf? id :=
    entryOf?_next_of_calm ready.named owned calm
  generalize live : server.surface? id = before at course absent stays
  generalize reached : (server.next host operation).surface? id = after at course
  cases course with
  | kept kept _ undisturbed =>
    cases kept with
    | none => rw [stays (.inl rfl), absent rfl]; rfl
    | some _ _ => exact calmly (undisturbed.resolve_left nofun)
  | asked asked =>
    exact calmly (not_disturbs_of_isRequest (Operation.isRequest_of_wish? asked))
  | created creates answered =>
    subst creates
    exact stays (.inr ⟨nofun, nofun⟩)
  | committed commits _ => exact (uncommitted commits).elim
  | presented presents =>
    cases presents <;> exact stays (.inr ⟨nofun, nofun⟩)
  | destroyed destroys =>
    cases destroys with
    | alone =>
      rw [entryOf?_next_destroySurface, if_pos ⟨rfl, by rw [live]; rfl⟩]
      rfl
    | disconnect =>
      rw [entryOf?_next_disconnect owned, if_pos ⟨rfl, by rw [live]; rfl⟩]
      rfl
    | replaced replaces => exact (ready.not_replaces live replaces).elim

/-- Unless a surface is committed, it shows what it showed, and a new one shows nothing. -/
theorem shown_before (named : server.Named) (uncommitted : operation ≠ .commit id)
    {after : Surface} (live : (server.next host operation).surface? id = some after)
    {buffer : BufferId} (shows : after.current.buffer = some buffer) :
    ∃ before, server.surface? id = some before ∧ before.current.buffer = some buffer := by
  have course := server.course named host operation id
  rw [live] at course
  generalize server.surface? id = before at course
  cases course with
  | kept kept _ _ =>
    cases kept with
    | some _ _ => exact ⟨_, rfl, shows⟩
  | @asked surface wish _ => exact ⟨surface, rfl, (surface.unmoved_heed wish).current ▸ shows⟩
  | created _ _ => cases shows
  | committed commits _ => exact (uncommitted commits).elim
  | presented _ => exact ⟨_, rfl, shows⟩

private theorem comesToShow_eq_nil (uncommitted : operation ≠ .commit id) :
    server.comesToShow id host operation = [] := by
  cases operation with
  | commit surface =>
    have apart : surface ≠ id := fun same => uncommitted (congrArg Operation.commit same)
    simp only [comesToShow]
    split
    · exact if_pos (.inl apart)
    · rfl
  | _ => rfl

/-- Only a live surface comes to show something. -/
theorem live_of_comesToShow (some : server.comesToShow id host operation ≠ []) :
    ∃ surface, server.surface? id = Option.some surface := by
  cases operation with
  | commit surface =>
    simp only [comesToShow] at some
    split at some
    · exact ⟨_, by assumption⟩
    · exact (some rfl).elim
  | _ => exact (some rfl).elim

/-- A commit creates no surface. -/
theorem surface?_next_commit_of_none (named : server.Named) (dead : server.surface? id = none)
    (host : Host) (committed : SurfaceId) :
    (server.next host (.commit committed)).surface? id = none := by
  have course := server.course named host (.commit committed) id
  rw [dead] at course
  generalize (server.next host (.commit committed)).surface? id = reached at course
  cases course with
  | kept kept _ _ => cases kept; rfl
  | created creates _ => cases creates

end Step

/-- **What the view tells of a surface**, after a script. -/
structure ViewTells (config : Config) (script : Script) (id : SurfaceId) : Prop where
  /-- A live surface has an entry for the buffer that it last came to show, if it ever showed one.
  A surface that is not live has none. -/
  entry : ((after config script).entryOf? id).map Metadata.buffer =
    ((after config script).surface? id).bind fun _ =>
      (history config (comesToShow id) script).getLast?
  created : ∀ metadata, (after config script).entryOf? id = some metadata →
    metadata.surface = id ∧ CreatedWith config script metadata.buffer metadata.geometry
  /-- While a surface shows a buffer, it is that buffer. -/
  shown : ∀ surface buffer, (after config script).surface? id = some surface →
    surface.current.buffer = some buffer →
      ((after config script).entryOf? id).map Metadata.buffer = some buffer

/-- The view has an entry for exactly the surfaces that show something. -/
def ViewMirrors (server : Server) : Prop :=
  ∀ id, server.entryOf? id ≠ none ↔
    ∃ surface buffer, server.surface? id = some surface ∧ surface.current.buffer = some buffer

/-- A surface that shows nothing any more keeps its entry. -/
theorem not_viewMirrors_takenBack :
    (Server.start {}).state.InRange Script.takenBack ∧
      ¬ (after {} Script.takenBack).ViewMirrors := by
  refine ⟨inRange_of_length _ (by decide), fun mirrors => ?_⟩
  have live : (after {} Script.takenBack).surface? ⟨⟨0⟩, 2⟩ = some { version := 4 } := rfl
  obtain ⟨surface, buffer, found, shows⟩ := (mirrors ⟨⟨0⟩, 2⟩).mp nofun
  cases live.symm.trans found
  cases shows

section Runs

variable {config : Config}

/-- A surface that was just created never came to show anything. -/
theorem comesToShow_of_created {script : Script} {host : Host} {operation : Operation}
    {id : SurfaceId} {surface : Surface}
    (range : (Server.start config).state.InRange (script ++ [(host, operation)]))
    (before : (after config script).surface? id = none)
    (reached : ((after config script).next host operation).surface? id = some surface) :
    history config (comesToShow id) script = [] := by
  rw [List.eq_nil_iff_forall_not_mem]
  intro buffer shown
  obtain ⟨front, host', operation', back, rfl, showed⟩ := mem_history_iff.mp shown
  obtain ⟨earlier, live⟩ := live_of_comesToShow (List.ne_nil_of_mem showed)
  have dead := surface?_of_ceased range live before
  rw [after_concat] at dead
  cases dead.symm.trans reached

/-- A commit of the surface keeps the view up to date. -/
theorem ViewTells.commit {script : Script} {host : Host} {id : SurfaceId}
    (range : (Server.start config).state.InRange (script ++ [(host, .commit id)]))
    (tells : ViewTells config script id) :
    ViewTells config (script ++ [(host, .commit id)]) id := by
  have named := named_after config script
  have owned := owned_after config script
  have announces : ((after config script).announced id).toList.map Metadata.buffer =
      (after config script).comesToShow id host (.commit id) :=
    announced_eq_comesToShow named owned (backed_after script range.of_append)
  have entry : (after config (script ++ [(host, .commit id)])).entryOf? id =
      ((after config script).announced id).or ((after config script).entryOf? id) := by
    rw [after_concat, entryOf?_next_commit named, if_pos rfl]
  constructor
  case entry =>
    rw [entry, history_concat, ← announces, List.getLast?_append, after_concat]
    have told := tells.entry
    cases live : (after config script).surface? id with
    | none =>
      rw [live] at told
      have dead := surface?_next_commit_of_none named live host id
      rw [dead, announced_eq_none live, Option.none_or, told]
      rfl
    | some surface =>
      obtain ⟨client, _, reached⟩ := surface?_next_commit named host live
      rw [reached]
      rw [live] at told
      cases (after config script).announced id with
      | none => exact told
      | some metadata => rfl
  case created =>
    intro metadata held
    rw [entry, Option.or_eq_some_iff] at held
    rcases held with announced | ⟨_, earlier⟩
    · obtain ⟨buffer, live, geometry⟩ := buffer_of_announced announced
      rw [geometry]
      exact ⟨surface_of_announced announced,
        (createdWith_after script range.of_append live).append _⟩
    · obtain ⟨own, created⟩ := tells.created metadata earlier
      exact ⟨own, created.append _⟩
  case shown =>
    intro surface buffer reached shows
    rw [after_concat] at reached
    cases live : (after config script).surface? id with
    | none =>
      have dead := surface?_next_commit_of_none named live host id
      cases dead.symm.trans reached
    | some before =>
      obtain ⟨client, found, committed⟩ := surface?_next_commit named host live
      cases committed.symm.trans reached
      have held : client.surfaces.get? id = some before := surface?_of_connection? found ▸ live
      have shows : (client.nextContent before).buffer = some buffer := shows
      rw [comesToShow_commit named found held, shows] at announces
      rw [entry]
      cases announced : (after config script).announced id with
      | none =>
        rw [announced] at announces
        split at announces
        · rename_i same
          exact tells.shown before buffer live same.symm
        · cases announces
      | some metadata =>
        rw [announced] at announces
        split at announces
        · cases announces
        · exact congrArg List.head? announces

/-- Every other operation keeps it up to date as well. -/
theorem ViewTells.next {script : Script} {host : Host} {operation : Operation} {id : SurfaceId}
    (range : (Server.start config).state.InRange (script ++ [(host, operation)]))
    (uncommitted : operation ≠ .commit id) (tells : ViewTells config script id) :
    ViewTells config (script ++ [(host, operation)]) id := by
  have ready := ready_after range
  have absent (dead : (after config script).surface? id = none) :
      (after config script).entryOf? id = none := by
    have entry := tells.entry
    rw [dead] at entry
    exact Option.map_eq_none_iff.mp entry
  have entry := ready.entryOf?_next (owned_after config script) uncommitted absent
  have unchanged : history config (comesToShow id) (script ++ [(host, operation)]) =
      history config (comesToShow id) script := by
    rw [history_concat, comesToShow_eq_nil uncommitted, List.append_nil]
  constructor
  case entry =>
    rw [after_concat, entry, unchanged]
    cases reached : ((after config script).next host operation).surface? id with
    | none => rfl
    | some surface =>
      cases before : (after config script).surface? id with
      | none =>
        -- The surface is new: had it shown anything before, its handle would have come back.
        rw [absent before, comesToShow_of_created range before reached]
        rfl
      | some _ =>
        have told := tells.entry
        rw [before] at told
        exact told
  case created =>
    intro metadata held
    rw [after_concat, entry] at held
    obtain ⟨_, _, held⟩ := Option.bind_eq_some_iff.mp held
    obtain ⟨own, created⟩ := tells.created metadata held
    exact ⟨own, created.append _⟩
  case shown =>
    intro surface buffer live shows
    rw [after_concat] at live
    rw [after_concat, entry, live]
    obtain ⟨before, liveBefore, showed⟩ := shown_before ready.named uncommitted live shows
    exact tells.shown before buffer liveBefore showed

/-- **The view tells what every surface last came to show.** -/
theorem view_tells_last_shown (config : Config) (script : Script)
    (range : (Server.start config).state.InRange script) (id : SurfaceId) :
    ViewTells config script id := by
  induction script using List.reverseRecOn with
  | nil =>
    constructor
    · rfl
    · intro metadata held
      cases held
    · intro surface buffer live
      cases live
  | append_singleton script entry ih =>
    obtain ⟨host, operation⟩ := entry
    by_cases commits : operation = .commit id
    · subst commits
      exact (ih range.of_append).commit range
    · exact (ih range.of_append).next range commits

/-- The view still tells of the buffer that was taken back. -/
theorem view_tells_last_shown_takenBack :
    (Server.start {}).state.InRange Script.takenBack ∧
      ∃ metadata, (after {} Script.takenBack).entryOf? ⟨⟨0⟩, 2⟩ = some metadata ∧
        metadata.buffer = ⟨⟨0⟩, 1⟩ ∧
        CreatedWith {} Script.takenBack ⟨⟨0⟩, 1⟩ ⟨0, 2, 2, 8, .argb8888⟩ := by
  have range : (Server.start {}).state.InRange Script.takenBack := inRange_of_length _ (by decide)
  have tells := view_tells_last_shown {} Script.takenBack range ⟨⟨0⟩, 2⟩
  exact ⟨range, _, rfl, rfl, (tells.created _ rfl).2⟩

end Runs

end Server

end DisplayServer
