import DisplayServer.Proofs.View

/-! # What surfaces show

A surface keeps the dimensions of the buffer that it shows, and only a commit refreshes them. They
stay right nonetheless (`Server.Coherent`): handles are not given out twice, so what a buffer was
created with is settled (`Server.CreatedOn.unique`), whatever becomes of the buffer. What a commit
makes current was asked for (`Server.mem_history_of_mem_batch`), and requests are checked when they
are made.
-/

namespace DisplayServer

open Surface (Wish)

namespace Server

/-- What an operation successfully asks of a surface. -/
def asks (id : SurfaceId) (server : Server) (host : Host) (operation : Operation) : List Wish :=
  (server.wish? host operation id).toList

/-- A buffer was created with some geometry, by a client, in the course of a script. -/
def CreatedOn (config : Config) (script : Script) (client : ConnectionId) (id : BufferId)
    (geometry : BufferGeometry) : Prop :=
  ∃ front host pool back, script = front ++ (host, .createBuffer pool geometry) :: back ∧
    pool.connection = client ∧
    ((after config front).step host (.createBuffer pool geometry)).answer = .handle id

/-- An offset was asked for, and a later commit of the surface made it current. -/
def OffsetBy (config : Config) (script : Script) (id : SurfaceId) (offset : Point) : Prop :=
  ∃ front host middle host' back,
    script = front ++ (host, .setOffset id offset) :: (middle ++ (host', .commit id) :: back) ∧
      ((after config front).step host (.setOffset id offset)).answer = .done

/-- **A surface of some version shows what was asked for**, after a script. -/
structure Coherent (config : Config) (script : Script) (id : SurfaceId) (version : UInt32)
    (content : SurfaceContent) : Prop where
  hidden : content.buffer = none → content.size = .zero
  /-- The buffer may have died since, and its pool may have. -/
  shown : ∀ buffer, content.buffer = some buffer → ∃ geometry,
    CreatedOn config script id.connection buffer geometry ∧ content.size = geometry.dimensions
  scale : 1 ≤ content.scale.toInt
  /-- Before version 5 an attachment may also have brought the offset. -/
  delta : 5 ≤ version → content.delta = .zero ∨ OffsetBy config script id content.delta

section Creating

variable {config : Config} {script : Script} {client client' : ConnectionId} {id : BufferId}
  {geometry geometry' : BufferGeometry}

/-- What was created stays so whatever follows. -/
theorem CreatedOn.append (created : CreatedOn config script client id geometry) (back : Script) :
    CreatedOn config (script ++ back) client id geometry := by
  obtain ⟨before, host, pool, rest, rfl, own, answered⟩ := created
  exact ⟨before, host, pool, rest ++ back, by simp, own, answered⟩

/-- A buffer is created on the connection that its handle names. -/
theorem CreatedWith.createdOn (created : CreatedWith config script id geometry) :
    CreatedOn config script id.connection id geometry := by
  obtain ⟨front, host, pool, back, split, answered⟩ := created
  refine ⟨front, host, pool, back, split, ?_, answered⟩
  change Answer.ofAttempt .pool .handle ((after config front).createBuffer pool geometry).answer = _
    at answered
  rcases createBuffer_eq (after config front) pool geometry with
    ⟨cause, refused⟩ | ⟨client, found, worked⟩
  · rw [refused] at answered
    cases answered
  · rw [worked] at answered
    cases answered
    exact (named_after config front _ client found).symm

/-- A buffer is created once. -/
theorem CreatedOn.unique (range : (Server.start config).state.InRange script)
    (first : CreatedOn config script client id geometry)
    (second : CreatedOn config script client' id geometry') :
    client = client' ∧ geometry = geometry' := by
  obtain ⟨front, host, pool, back, split, own, answered⟩ := first
  obtain ⟨front', host', pool', back', split', own', answered'⟩ := second
  have same := (neverReused_of_inRange range).once split split' ⟨answered, nofun⟩
    ⟨answered', nofun⟩
  cases same
  exact ⟨own.symm.trans own', rfl⟩

end Creating

section Asking

variable {config : Config} {script : Script} {server : Server} {host : Host}
  {operation : Operation} {id : SurfaceId}

/-- The last operation adds to the batch, or starts a new one. -/
theorem gather_concat (batch : Surface.Batch) (script : Script) (host : Host)
    (operation : Operation) :
    server.gather id batch (script ++ [(host, operation)]) =
      (server.run script).gatherStep id (server.gather id batch script) host operation := by
  induction script generalizing server batch with
  | nil => rfl
  | cons entry rest ih => exact ih _

/-- What is in a batch was asked for. -/
theorem mem_history_of_mem_batch {wish : Wish} (listed : wish ∈ batch config script id) :
    wish ∈ history config (asks id) script := by
  induction script using List.reverseRecOn with
  | nil => cases listed
  | append_singleton script entry ih =>
    obtain ⟨host, operation⟩ := entry
    rw [batch, gather_concat, gatherStep, List.mem_append] at listed
    rw [history_concat, List.mem_append]
    refine listed.imp_left fun before => ih ?_
    split at before
    · cases before
    · exact before

/-- What is last of some sort in a batch was asked for. -/
theorem exists_asked_of_last {α : Type} {pick : Wish → Option α} {value : α}
    (last : (batch config script id).last pick = some value) :
    ∃ wish, pick wish = some value ∧ ∃ front host back,
      script = front ++ (host, (Operation.ofWish id wish).1) :: back ∧
        ((after config front).step host (Operation.ofWish id wish).1).answer =
          (Operation.ofWish id wish).2 := by
  obtain ⟨wish, listed, picked⟩ := List.mem_filterMap.mp (List.mem_of_getLast? last)
  obtain ⟨front, host, operation, back, split, shown⟩ :=
    mem_history_iff.mp (mem_history_of_mem_batch listed)
  have same := Operation.eq_ofWish (Option.mem_toList.mp shown)
  rw [Prod.ext_iff] at same
  obtain ⟨asks, answered⟩ := same
  refine ⟨wish, picked, front, host, back, ?_, ?_⟩
  · rw [← asks]
    exact split
  · rw [← asks, ← answered]

/-- A scale that is accepted is positive. -/
theorem one_le_of_setScale {scale : Int32}
    (answered : (server.step host (.setScale id scale)).answer = .done) : 1 ≤ scale.toInt := by
  have step : server.step host (.setScale id scale) =
    (server.setScale id scale).map (.ofAttempt .surface fun _ => .done) := rfl
  rcases ofAttempt_onConnection server id.connection SurfaceError.dead [] (fun client => do
      return ((), ← client.request id fun surface =>
        if scale.toInt < 1 then .error (.invalidScale scale)
        else .ok (surface.setScale scale))) with
    ⟨cause, refused⟩ | ⟨client, _, new, _, done, _⟩
  · change server.setScale id scale = _ at refused
    rw [step, refused] at answered
    cases answered
  · by_contra small
    unfold Connection.request at done
    cases found : client.surfaces.get? id with
    | none =>
      simp only [found] at done
      cases done
    | some surface =>
      simp only [found, if_pos (Int.not_le.mp small)] at done
      cases done

/-- A buffer that is attached was created by the client itself. -/
theorem createdOn_of_attach (range : (Server.start config).state.InRange script)
    {buffer : BufferId} {offset : Point}
    (answered : ((after config script).step host (.attach id (.buffer buffer) offset)).answer =
      .done) :
    ∃ geometry, CreatedOn config script id.connection buffer geometry := by
  obtain ⟨client, found, allowed⟩ := mayAttach_of_done answered
  obtain ⟨own, alive⟩ := Bool.and_eq_true_iff.mp allowed
  have own : buffer.connection = id.connection := of_decide_eq_true own
  obtain ⟨held, live⟩ := Option.isSome_iff_exists.mp alive
  have created := createdWith_after script range
    (buffer?_eq_some.mpr ⟨client, own ▸ found, live⟩)
  exact ⟨_, own ▸ created.createdOn⟩

/-- A buffer that is about to show was created by the client itself. -/
theorem createdOn_of_pending (range : (Server.start config).state.InRange script)
    {surface : Surface} (live : (after config script).surface? id = some surface)
    {buffer : BufferId} (attached : surface.pending.attachment = some (.buffer buffer)) :
    ∃ geometry, CreatedOn config script id.connection buffer geometry := by
  have pending := (recorded_after config script id surface live).pending
  rw [pending] at attached
  obtain ⟨wish, picked, front, host, back, rfl, answered⟩ := exists_asked_of_last attached
  cases wish with
  | attachment attachment offset =>
    cases picked
    obtain ⟨geometry, created⟩ := createdOn_of_attach range.of_append answered
    exact ⟨geometry, created.append _⟩
  | _ => cases picked

end Asking

section Steps

variable {config : Config} {script : Script} {host : Host} {operation : Operation} {id : SurfaceId}
  {version : UInt32} {content : SurfaceContent}

/-- The content of a surface without a buffer is coherent. -/
theorem coherent_fresh (config : Config) (script : Script) (id : SurfaceId) (version : UInt32) :
    Coherent config script id version {} where
  hidden _ := rfl
  shown buffer shows := by cases shows
  scale := by decide
  delta _ := .inl rfl

private theorem OffsetBy.append {offset : Point} (set : OffsetBy config script id offset)
    (back : Script) : OffsetBy config (script ++ back) id offset := by
  obtain ⟨front, host, middle, host', rest, rfl, answered⟩ := set
  exact ⟨front, host, middle, host', rest ++ back, by simp, answered⟩

/-- Content stays coherent whatever follows. -/
theorem Coherent.append (coherent : Coherent config script id version content) (back : Script) :
    Coherent config (script ++ back) id version content where
  hidden := coherent.hidden
  shown buffer shows := by
    obtain ⟨geometry, created, size⟩ := coherent.shown buffer shows
    exact ⟨geometry, created.append back, size⟩
  scale := coherent.scale
  delta late := (coherent.delta late).imp_right fun set => set.append back

/-- A surface shows what it showed before a commit, or nothing, or a live buffer. -/
theorem CarriesOut.cases {server : Server} {batch : Surface.Batch} {surface committed : Surface}
    (carriesOut : server.CarriesOut batch surface committed) :
    (committed.current.buffer = surface.current.buffer ∧
        committed.current.size = surface.current.size) ∨
      (committed.current.buffer = none ∧ committed.current.size = .zero) ∨
      ∃ buffer held, batch.last Wish.attachment? = some (.buffer buffer) ∧
        server.buffer? buffer = some held ∧ committed.current.buffer = some buffer ∧
        committed.current.size = held.geometry.dimensions := by
  cases last : batch.last Wish.attachment? with
  | none => exact .inl (carriesOut.unattached last)
  | some attachment =>
    refine .inr ?_
    by_cases alive : ∃ buffer held, attachment = .buffer buffer ∧ server.buffer? buffer = some held
    · obtain ⟨buffer, held, rfl, live⟩ := alive
      exact .inr ⟨buffer, held, rfl, live, carriesOut.shown buffer held last live⟩
    · refine .inl (carriesOut.hidden attachment last fun buffer same => ?_)
      exact Option.eq_none_iff_forall_ne_some.mpr fun held live => alive ⟨buffer, held, same, live⟩

/-- A commit makes current what was asked for. -/
theorem Coherent.commit (range : (Server.start config).state.InRange script)
    {surface committed : Surface} (live : (after config script).surface? id = some surface)
    (coherent : Coherent config script id surface.version surface.current)
    (carriesOut : (after config script).CarriesOut (batch config script id) surface committed)
    (host : Host) :
    Coherent config (script ++ [(host, .commit id)]) id surface.version committed.current := by
  have earlier := coherent.append [(host, .commit id)]
  constructor
  case hidden =>
    intro hides
    rcases carriesOut.cases with ⟨same, size⟩ | ⟨_, size⟩ | ⟨_, _, _, _, shows, _⟩
    · rw [size]
      exact coherent.hidden (same ▸ hides)
    · exact size
    · cases hides.symm.trans shows
  case shown =>
    intro buffer shows
    rcases carriesOut.cases with
      ⟨same, size⟩ | ⟨hides, _⟩ | ⟨attached, held, last, alive, same, size⟩
    · rw [size]
      exact earlier.shown buffer (same ▸ shows)
    · cases hides.symm.trans shows
    · cases same.symm.trans shows
      have own : buffer.connection = id.connection := by
        apply (recorded_after config script id surface live).own
        rw [(recorded_after config script id surface live).pending]
        exact last
      have created := (createdWith_after script range alive).createdOn.append [(host, .commit id)]
      exact ⟨held.geometry, own ▸ created, size⟩
  case scale =>
    rw [carriesOut.scale]
    cases last : (batch config script id).last Wish.scale? with
    | none => exact coherent.scale
    | some scale =>
      obtain ⟨wish, picked, front, host, back, -, answered⟩ := exists_asked_of_last last
      cases wish with
      | scale value =>
        cases picked
        exact one_le_of_setScale answered
      | _ => cases picked
  case delta =>
    intro late
    have carried : decide (surface.version < 5) = false :=
      decide_eq_false (UInt32.not_lt.mpr late)
    rw [carriesOut.delta, carried]
    cases last : (batch config script id).last (Wish.delta? false) with
    | none => exact earlier.delta late
    | some offset =>
      obtain ⟨wish, picked, front, host', back, split, answered⟩ := exists_asked_of_last last
      cases wish with
      | offset value =>
        cases picked
        exact .inr ⟨front, host', back, host, [], by simp [split, Operation.ofWish], answered⟩
      | _ => cases picked

/-- **An operation keeps what a surface shows coherent.** -/
theorem Coherent.next (range : (Server.start config).state.InRange script)
    (coherent : ∀ surface, (after config script).surface? id = some surface →
      Coherent config script id surface.version surface.current)
    {surface : Surface}
    (reached : ((after config script).next host operation).surface? id = some surface) :
    Coherent config (script ++ [(host, operation)]) id surface.version surface.current := by
  have course := (after config script).course (named_after config script) host operation id
  rw [reached] at course
  generalize live : (after config script).surface? id = before at course
  cases course with
  | kept kept _ _ =>
    cases kept with
    | some _ _ => exact (coherent _ live).append _
  | @asked earlier wish _ =>
    rw [(earlier.unmoved_heed wish).current, (earlier.unmoved_heed wish).version]
    exact (coherent _ live).append _
  | created _ _ => exact coherent_fresh ..
  | committed commits found =>
    subst commits
    have records := recorded_after config script id _ live
    exact (coherent _ live).commit range live (carriesOut_promote found records) host
  | presented _ => exact (coherent _ live).append _

end Steps

/-- **The dimensions of a surface are those of the buffer that it shows.** A surface that shows a
buffer has the dimensions which that buffer was created with, by the client of the surface, though
the buffer or its pool may be gone; a surface that shows none has none. A buffer that is about to
show was created by that client, too. Scales are positive, and from version 5 on an offset is zero
unless it was asked for by itself. What a buffer was created with is settled. -/
theorem contents_coherent (config : Config) (script : Script)
    (range : (Server.start config).state.InRange script) :
    (∀ id surface, (after config script).surface? id = some surface →
      Coherent config script id surface.version surface.current ∧
        ∀ buffer, surface.pending.attachment = some (.buffer buffer) →
          ∃ geometry, CreatedOn config script id.connection buffer geometry) ∧
      ∀ buffer client client' geometry geometry',
        CreatedOn config script client buffer geometry →
        CreatedOn config script client' buffer geometry' →
          client = client' ∧ geometry = geometry' := by
  refine ⟨fun id surface live => ⟨?_, fun buffer => createdOn_of_pending range live⟩,
    fun buffer client client' geometry geometry' first second => first.unique range second⟩
  induction script using List.reverseRecOn generalizing surface with
  | nil => cases live
  | append_singleton script entry ih =>
    rw [after_concat] at live
    exact .next range.of_append (fun before held => ih range.of_append before held) live

/-- A buffer and its pool are destroyed while a surface shows the buffer. -/
theorem contents_coherent_destroyed :
    let client : ConnectionId := ⟨0⟩
    let script : Script := Script.takenBack.take 6 ++
      [(.withFile, .destroyBuffer ⟨client, 1⟩), (.withFile, .destroyPool ⟨client, 0⟩)]
    (Server.start {}).state.InRange script ∧
      (after {} script).buffer? ⟨client, 1⟩ = none ∧
      ∃ surface geometry, (after {} script).surface? ⟨client, 2⟩ = some surface ∧
        CreatedOn {} script client ⟨client, 1⟩ geometry ∧
        surface.current.size = geometry.dimensions ∧ geometry.dimensions = ⟨2, 2⟩ := by
  intro client script
  have range : (Server.start {}).state.InRange script := inRange_of_length _ (by decide)
  obtain ⟨coherent, _⟩ := contents_coherent {} script range
  obtain ⟨shows, _⟩ := coherent ⟨client, 2⟩ _ rfl
  obtain ⟨geometry, created, size⟩ := shows.shown ⟨client, 1⟩ rfl
  exact ⟨range, rfl, _, geometry, rfl, created, size, size.symm⟩

end Server

end DisplayServer
