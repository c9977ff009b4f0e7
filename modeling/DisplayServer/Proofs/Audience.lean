import DisplayServer.Proofs.Blame
import DisplayServer.Proofs.Delivery

/-! # Subscribers do not disturb the server

Those who subscribe are kept apart from everything else: without them the server is a projection of
itself (`Server.unsubscribed`), and what a client does commutes with the projection
(`Server.next_unsubscribed`). A subscriber matters in one way only. While somebody wants contents, a
commit reads the buffer that it publishes, and if that read fails the client is told and the memory
of the pool becomes zeros. Runs with different subscribers are the same as long as no such read
fails, and whether it fails or not, commits answer the same and publish the same
(`Server.subscribers_do_not_disturb`).
-/

namespace DisplayServer

/-- A client shows a buffer inside of a read, which is one of another server. -/
def Script.shownWithin : Script :=
  opened ++ [(.withFile, .attach ⟨⟨0⟩, 2⟩ (.buffer ⟨⟨0⟩, 1⟩) .zero),
    ({ Host.withFile with isReading := true }, .commit ⟨⟨0⟩, 2⟩)]

/-- Somebody subscribes to broadcasts before. -/
def Script.watchedWithin : Script :=
  (.withFile, .subscribeBroadcast) :: shownWithin

/-- Nobody subscribes to broadcasts. -/
def Script.IsUnwatched (script : Script) : Prop :=
  ∀ entry ∈ script, entry.2 ≠ .subscribeBroadcast

namespace Server

/-- The server without those who subscribed. The view stays. -/
def unsubscribed (server : Server) : Server :=
  server.withPublisher { view := server.publisher.view }

/-- Something holds of every operation of a script, when its turn comes. -/
def Throughout (holds : Server → Host → Operation → Prop) (server : Server) : Script → Prop
  | [] => True
  | (host, operation) :: rest =>
    holds server host operation ∧ Throughout holds (server.next host operation) rest

/-- No read that an operation takes for a broadcast fails. -/
def Spares (server : Server) (host : Host) : Operation → Prop
  | .commit surface => ∀ id, ¬ server.Blames host (.commit surface) id
  | _ => True

/-- No read that an operation takes for a broadcast touches a byte that faults. -/
def SparesFaults (server : Server) (host : Host) : Operation → Prop
  | .commit surface => ∀ id buffer pool reading,
    server.reads? (.commit surface) = some (id, reading) → server.Lies id buffer pool →
      ¬ buffer.geometry.Faults host.files pool.mapping reading
  | _ => True

/-- What shows of an operation, unless it is one of a subscriber: its answer, and what it leaves but
for those who subscribed. -/
def plainly (server : Server) (host : Host) (operation : Operation) : List (Answer × Server) :=
  if operation.subscribes then []
  else [((server.step host operation).answer, (server.next host operation).unsubscribed)]

/-- What shows of a commit: its answer, what it publishes, and the view that it leaves. -/
def committed (server : Server) (host : Host) :
    Operation → List (Answer × List Metadata × Arena SurfaceId Metadata)
  | .commit surface =>
    [((server.step host (.commit surface)).answer, server.published host (.commit surface),
      (server.next host (.commit surface)).publisher.view)]
  | _ => []

section Step

variable {server other : Server} {host : Host} {operation : Operation} {surface : SurfaceId}

/-- Servers that agree on everything else differ in the publisher at most. -/
theorem eq_withPublisher (config : other.config = server.config)
    (formats : other.formats = server.formats)
    (connections : other.connections = server.connections)
    (counter : other.nextConnection = server.nextConnection) :
    other = server.withPublisher other.publisher := by
  cases server
  cases other
  cases config
  cases formats
  cases connections
  cases counter
  rfl

/-- A commit reads nothing if nobody wants contents. -/
theorem reads?_eq_none (unwatched : server.publisher.wantsContents = false) :
    server.reads? (.commit surface) = none :=
  if_neg (by rw [unwatched]; exact Bool.false_ne_true)

/-- Where nobody wants contents, nothing is read. -/
theorem spares_of_unwatched (unwatched : server.publisher.wantsContents = false) :
    server.Spares host operation := by
  cases operation with
  | commit surface =>
    rintro id ⟨_, _, _, reads, _⟩
    cases (reads?_eq_none unwatched).symm.trans reads
  | _ => trivial

/-- A read that does not fail leaves the server as it is. -/
theorem state_withContents_of_sound {α : Type} {id : BufferId} {reading : Reading}
    (sound : ∀ geometry mapping, server.memory? id = some (geometry, mapping) →
      ¬ geometry.FailsToRead host mapping reading) (read : BufferGeometry → Span → α) :
    (server.withContents host id reading read).state = server := by
  unfold withContents
  cases found : server.connection? id.connection with
  | none => rfl
  | some client =>
    simp only
    cases memory : client.memoryOf? id with
    | none => rfl
    | some held =>
      obtain ⟨buffer, mapping⟩ := held
      have sound := sound buffer.geometry mapping
        (memory?_eq_some.mpr ⟨client, buffer, found, memory, rfl⟩)
      simp only [BufferGeometry.FailsToRead, not_or] at sound
      obtain ⟨outermost, inside, intact⟩ := sound
      rw [BufferGeometry.Faults, ← Mapping.faults_iff] at intact
      simp only
      rw [if_neg outermost, if_neg inside, if_neg intact]

/-- A commit that reads nothing, or reads what can be read, only settles its surface. -/
theorem connections_next_commit_of_spares (named : server.Named)
    (spares : server.Spares host (.commit surface)) :
    (server.next host (.commit surface)).connections =
      (server.beforeRead (.commit surface)).connections := by
  rw [connections_next_commit named]
  cases reads : server.reads? (.commit surface) with
  | none => rfl
  | some read =>
    obtain ⟨id, reading⟩ := read
    obtain rfl := reading_of_commit reads
    refine congrArg Server.connections (state_withContents_of_sound ?_ _)
    intro geometry mapping memory fails
    rw [memory?_beforeRead named] at memory
    exact spares id ⟨.whole, geometry, mapping, reads, memory, fails⟩

private theorem beforeRead_withPublisher (server : Server) (publisher : Publisher)
    (operation : Operation) : (server.withPublisher publisher).beforeRead operation =
      (server.beforeRead operation).withPublisher publisher := by
  cases operation with
  | commit surface =>
    simp only [beforeRead, connection?_withPublisher]
    cases server.connection? surface.connection with
    | none => rfl
    | some client =>
      simp only
      cases client.commit? surface <;> rfl
  | _ => rfl

/-- The answer of a commit does not depend on who subscribed. -/
theorem answer_commit_withPublisher (server : Server) (publisher : Publisher) (host : Host)
    (surface : SurfaceId) :
    ((server.withPublisher publisher).commit host surface).answer =
      (server.commit host surface).answer := by
  simp only [Server.commit, connection?_withPublisher]
  cases server.connection? surface.connection with
  | none => rfl
  | some client =>
    simp only
    cases client.commit? surface with
    | none => rfl
    | some commit =>
      simp only
      cases commit.published <;> rfl

/-- The view after a commit has what the commit announces, whoever subscribed. -/
theorem view_next_commit (named : server.Named) :
    (server.next host (.commit surface)).publisher.view =
      match server.announced surface with
      | none => server.publisher.view
      | some metadata => server.publisher.view.insert metadata.surface metadata := by
  rw [publisher_next_commit named]
  cases server.announced surface with
  | none => rfl
  | some metadata => exact Publisher.view_announce ..

/-- Without those who subscribed, a commit just enters what it announces. -/
theorem publisher_next_commit_unsubscribed (named : server.Named) :
    (server.unsubscribed.next host (.commit surface)).publisher =
      { view := (server.next host (.commit surface)).publisher.view } := by
  have quiet : server.unsubscribed.Named := named
  have copy (id : BufferId) : server.unsubscribed.copy? host id = none := rfl
  rw [publisher_next_commit quiet, view_next_commit named]
  have announced : server.unsubscribed.announced surface = server.announced surface := rfl
  simp only [announced, copy]
  cases server.announced surface <;> rfl

/-- A commit whose read does not fail leaves what it leaves without subscribers. -/
theorem next_commit_unsubscribed (named : server.Named)
    (spares : server.Spares host (.commit surface)) :
    server.unsubscribed.next host (.commit surface) =
      (server.next host (.commit surface)).unsubscribed := by
  have quiet : server.unsubscribed.Named := named
  have unwatched : server.unsubscribed.Spares host (.commit surface) := spares_of_unwatched rfl
  have effect := effect_next named host (.commit surface) (by simp) (by simp)
  have effect' := effect_next quiet host (.commit surface) (by simp) (by simp)
  have connections : (server.unsubscribed.next host (.commit surface)).connections =
      (server.next host (.commit surface)).connections := by
    rw [connections_next_commit_of_spares quiet unwatched,
      connections_next_commit_of_spares named spares, unsubscribed, beforeRead_withPublisher]
    rfl
  have same := eq_withPublisher (effect'.config.trans effect.config.symm)
    (effect'.formats.trans effect.formats.symm) connections
    (effect'.nextConnection.trans effect.nextConnection.symm)
  rw [same, publisher_next_commit_unsubscribed named]
  rfl

/-- **What a client does commutes with leaving the subscribers out,** if no read taken for them
fails. -/
theorem next_unsubscribed (named : server.Named) (plain : operation.subscribes = false)
    (spares : server.Spares host operation) :
    server.unsubscribed.next host operation = (server.next host operation).unsubscribed ∧
      (server.unsubscribed.step host operation).answer = (server.step host operation).answer := by
  by_cases apart : operation.isPrivate = true
  · have step : server.unsubscribed.step host operation = _ :=
      step_withPublisher apart { view := server.publisher.view }
    refine ⟨?_, by rw [step]; rfl⟩
    rw [Server.next, step, unsubscribed, publisher_next_of_isPrivate apart]
    rfl
  · cases operation with
    | commit surface =>
      refine ⟨next_commit_unsubscribed named spares, ?_⟩
      exact congrArg (Answer.ofAttempt .surface fun _ => .done)
        (answer_commit_withPublisher server _ host surface)
    | disconnect gone =>
      refine ⟨?_, rfl⟩
      change (server.unsubscribed.disconnect gone).state =
        (server.disconnect gone).state.unsubscribed
      simp only [Server.disconnect, unsubscribed, connection?_withPublisher]
      cases server.connection? gone with
      | none => rfl
      | some client =>
        simp only [Publisher.foldl_forget_view]
        rfl
    | destroySurface surface =>
      simp only [Server.next, step, Server.destroySurface, unsubscribed, connection?_withPublisher]
      cases server.connection? surface.connection with
      | none => exact ⟨rfl, rfl⟩
      | some client =>
        simp only
        cases client.destroySurface? surface <;> exact ⟨rfl, rfl⟩
    | subscribeMetadata | subscribeBroadcast | unsubscribe _ | receiveMetadata _
    | receiveBroadcast _ | nextMetadata _ | nextSnapshot _ => cases plain
    | _ => exact (apart rfl).elim

/-- What a subscriber does is not seen without the subscribers. -/
theorem next_unsubscribed_of_subscribes (subscribes : operation.subscribes = true) :
    (server.next host operation).unsubscribed = server.unsubscribed := by
  cases operation with
  | subscribeMetadata | subscribeBroadcast | unsubscribe _ | receiveMetadata _
  | receiveBroadcast _ | nextMetadata _ | nextSnapshot _ => rfl
  | _ => cases subscribes

end Step

section Run

variable {server : Server} {script : Script}

/-- **A run without the subscribers** is what remains of a run with them. -/
theorem run_unsubscribed (named : server.Named) (spares : server.Throughout Spares script) :
    (server.run script).unsubscribed = server.unsubscribed.run script.unheard ∧
      server.trace plainly script = server.unsubscribed.trace plainly script.unheard := by
  induction script generalizing server with
  | nil => exact ⟨rfl, rfl⟩
  | cons entry rest ih =>
    obtain ⟨host, operation⟩ := entry
    obtain ⟨here, later⟩ := spares
    obtain ⟨ends, same⟩ := ih (named_next named host operation) later
    cases plain : operation.subscribes with
    | true =>
      -- The run without the subscribers stands still.
      have stays : (server.next host operation).unsubscribed = server.unsubscribed :=
        next_unsubscribed_of_subscribes plain
      rw [Script.unheard, List.filter_cons_of_neg (by simp [plain])]
      refine ⟨?_, ?_⟩
      · rw [← stays]
        exact ends
      · rw [trace, plainly, if_pos plain, List.nil_append, ← stays]
        exact same
    | false =>
      obtain ⟨moves, answers⟩ := next_unsubscribed named plain here
      have shows : server.plainly host operation = server.unsubscribed.plainly host operation := by
        rw [plainly, plainly, plain, moves, answers]
        rfl
      rw [Script.unheard, List.filter_cons_of_pos (by simp [plain])]
      refine ⟨?_, ?_⟩
      · change _ = (server.unsubscribed.next host operation).run (Script.unheard rest)
        rw [moves]
        exact ends
      · rw [trace, trace, shows, moves]
        exact congrArg _ same

/-- A run in which nobody subscribes to broadcasts reads nothing for anybody. -/
theorem spares_of_isUnwatched (named : server.Named)
    (nobody : server.publisher.broadcastSubscribers = []) (unwatched : script.IsUnwatched) :
    server.Throughout Spares script := by
  induction script generalizing server with
  | nil => trivial
  | cons entry rest ih =>
    obtain ⟨host, operation⟩ := entry
    have wants : server.publisher.wantsContents = false := by
      rw [Publisher.wantsContents, nobody]
      rfl
    have apart : operation ≠ .subscribeBroadcast := unwatched (host, operation) List.mem_cons_self
    refine ⟨spares_of_unwatched wants, ih (named_next named host operation) ?_ ?_⟩
    · rw [broadcastSubscribers_next named, nobody]
      cases operation with
      | subscribeBroadcast => exact (apart rfl).elim
      | commit surface =>
        simp only [snapshotStep]
        cases server.snapshotSent host (.commit surface) <;> rfl
      | _ => rfl
    · intro entry listed
      exact unwatched entry (List.mem_cons_of_mem _ listed)

/-- Something holds throughout a script exactly if it holds at each of its operations. -/
theorem throughout_iff {holds : Server → Host → Operation → Prop} :
    server.Throughout holds script ↔ ∀ front host operation back,
      script = front ++ (host, operation) :: back → holds (server.run front) host operation := by
  induction script generalizing server with
  | nil =>
    refine ⟨fun _ front _ _ _ parts => ?_, fun _ => trivial⟩
    exact (List.append_ne_nil_of_right_ne_nil front (List.cons_ne_nil _ _) parts.symm).elim
  | cons entry rest ih =>
    constructor
    · rintro ⟨here, later⟩ front host operation back parts
      cases front with
      | nil =>
        cases parts
        exact here
      | cons first front =>
        obtain ⟨rfl, same⟩ := List.cons.inj parts
        exact ih.mp later front host operation back same
    · intro all
      refine ⟨all [] entry.1 entry.2 rest rfl, ih.mpr fun front host operation back parts => ?_⟩
      exact all (entry :: front) host operation back (by rw [parts]; rfl)

end Run

section Commits

variable {server other : Server} {host : Host} {operation : Operation} {surface : SurfaceId}

/-- Servers that are alike have the same surfaces. -/
theorem Alike.surface? (alike : server.Alike other) (id : SurfaceId) :
    other.surface? id = server.surface? id := by
  unfold Server.surface?
  rcases alike.connection id.connection with ⟨gone, gone'⟩ | ⟨client, client', live, live', same⟩
  · rw [gone, gone']
  · rw [live, live']
    exact congrArg (fun surfaces => surfaces.get? id) same.surfaces

/-- A commit on a dead surface fails. -/
theorem commit_fails (dead : server.surface? surface = none) :
    (server.step host (.commit surface)).answer = .failed (.surface .dead) := by
  have refused : server.commit host surface = .refuse server .dead := by
    unfold Server.commit
    cases live : server.connection? surface.connection with
    | none => rfl
    | some client =>
      have gone : client.surfaces.get? surface = none := surface?_of_connection? live ▸ dead
      simp only [Connection.commit?, gone, Option.map_none]
  simp only [step, refused]
  rfl

/-- A commit succeeds exactly if its surface is live. -/
theorem Alike.answer_commit (alike : server.Alike other) :
    (other.step host (.commit surface)).answer = (server.step host (.commit surface)).answer := by
  have same := alike.surface? surface
  cases found : server.surface? surface with
  | none => rw [commit_fails (same.trans found), commit_fails found]
  | some held => rw [commit_succeeds (same.trans found), commit_succeeds found]

/-- Servers that are alike go on with the same view. -/
theorem Alike.view_next (alike : server.Alike other) (named : server.Named)
    (same : other.publisher.view = server.publisher.view) :
    (other.next host operation).publisher.view = (server.next host operation).publisher.view := by
  by_cases apart : operation.isPrivate = true
  · rw [publisher_next_of_isPrivate apart, publisher_next_of_isPrivate apart, same]
  · cases operation with
    | commit surface =>
      have announced : other.announced surface = server.announced surface :=
        alike.metadataSent (.commit surface)
      rw [view_next_commit (alike.named named), view_next_commit named, announced, same]
    | disconnect gone =>
      change (other.disconnect gone).state.publisher.view =
        (server.disconnect gone).state.publisher.view
      unfold Server.disconnect
      rcases alike.connection gone with ⟨dead, dead'⟩ | ⟨client, client', live, live', kept⟩
      · simp only [dead, dead', same]
      · simp only [live, live', kept.surfaces, Publisher.foldl_forget_view, same]
    | destroySurface surface =>
      change (other.destroySurface surface).state.publisher.view =
        (server.destroySurface surface).state.publisher.view
      unfold Server.destroySurface
      rcases alike.connection surface.connection with
        ⟨dead, dead'⟩ | ⟨client, client', live, live', kept⟩
      · simp only [dead, dead', same]
      · have destroyed := kept.destroySurface? surface
        simp only [live, live']
        generalize client.destroySurface? surface = left at destroyed
        generalize client'.destroySurface? surface = left' at destroyed
        cases destroyed with
        | none => exact same
        | some => exact congrArg (fun view => view.erase surface) same
    | subscribeMetadata | subscribeBroadcast | unsubscribe _ | receiveMetadata _
    | receiveBroadcast _ | nextMetadata _ | nextSnapshot _ => exact same
    | _ => exact (apart rfl).elim

/-- **Commits go the same way whoever subscribed,** also where reads fail. -/
theorem history_committed_unheard (config : Config) (script : Script) :
    history config committed script = history config committed script.unheard := by
  let related (server other : Server) : Prop :=
    server.Named ∧ server.publisher.Enrolled ∧ other.Named ∧ other.publisher.Enrolled ∧
      server.Alike other ∧ other.publisher.view = server.publisher.view
  have start : related (Server.start config).state (Server.start config).state :=
    ⟨named_after config [], enrolled_after config [], named_after config [],
      enrolled_after config [], .refl _, rfl⟩
  refine (trace_filter related committed (fun _ _ => True) Operation.subscribes ?_ ?_ script start
    fun _ _ _ _ _ => trivial).2
  · rintro server other host operation ⟨named, enrolled, named', enrolled', alike, same⟩ - -
    have view : (other.next host operation).publisher.view =
        (server.next host operation).publisher.view := alike.view_next named same
    refine ⟨⟨named_next named host operation, enrolled_next named enrolled host operation,
      named_next named' host operation, enrolled_next named' enrolled' host operation,
      alike.next named host operation, view⟩, ?_⟩
    cases operation with
    | commit surface =>
      rw [committed, committed, alike.answer_commit, published_eq named enrolled,
        published_eq named' enrolled', alike.metadataSent, view]
    | _ => rfl
  · rintro server other host operation ⟨named, enrolled, named', enrolled', alike, same⟩ -
    intro subscribes
    have kept := (alike_of_subscribes subscribes host).symm.trans alike
    have view : (server.next host operation).publisher.view = server.publisher.view :=
      congrArg (fun server => server.publisher.view) (next_unsubscribed_of_subscribes subscribes)
    refine ⟨⟨named_next named host operation, enrolled_next named enrolled host operation,
      named', enrolled', kept, same.trans view.symm⟩, ?_⟩
    cases operation <;> first | rfl | cases subscribes

/-- What is left of a commit that publishes a buffer which cannot be read: it succeeds, and the
metadata of the buffer enter the view and go to all metadata subscribers. -/
structure CommitsUnread (server : Server) (host : Host) (surface : SurfaceId) (id : BufferId) :
    Prop where
  succeeds : (server.step host (.commit surface)).answer = .done
  published : ∃ metadata : Metadata, metadata.surface = surface ∧ metadata.buffer = id ∧
    server.published host (.commit surface) = [metadata] ∧
    (server.next host (.commit surface)).publisher = server.publisher.publishMetadata metadata

/-- A reader is given nothing if the read fails. -/
theorem toOption_answer_of_fails {α : Type} {id : BufferId} {geometry : BufferGeometry}
    {mapping : Mapping} {reading : Reading} (memory : server.memory? id = some (geometry, mapping))
    (fails : geometry.FailsToRead host mapping reading) (read : BufferGeometry → Span → α) :
    (server.withContents host id reading read).answer.toOption = none := by
  obtain ⟨client, buffer, found, held, rfl⟩ := memory?_eq_some.mp memory
  simp only [withContents, found, held]
  split
  · rfl
  rename_i outermost
  split
  · rfl
  rename_i inside
  rcases fails with nested | outside | faults
  · exact (outermost nested).elim
  · exact (inside outside).elim
  · rw [if_pos ((Mapping.faults_iff ..).mpr faults)]
    rfl

/-- **A read that fails does not keep a commit from being published.** -/
theorem commitsUnread_of_blames (named : server.Named) (enrolled : server.publisher.Enrolled)
    {id : BufferId} (blames : server.Blames host (.commit surface) id) :
    server.CommitsUnread host surface id := by
  obtain ⟨reading, geometry, mapping, reads, memory, fails⟩ := blames
  simp only [reads?] at reads
  split at reads
  · rename_i wants
    obtain ⟨metadata, announced, same⟩ := Option.map_eq_some_iff.mp reads
    obtain ⟨rfl, rfl⟩ := Prod.mk.inj same
    have live : server.surface? surface ≠ none := by
      intro dead
      cases (announced_eq_none dead).symm.trans announced
    obtain ⟨held, found⟩ := Option.ne_none_iff_exists'.mp live
    have copy : server.copy? host metadata.buffer = none := by
      rw [copy?, if_pos wants]
      exact toOption_answer_of_fails memory fails _
    refine ⟨commit_succeeds found, metadata, surface_of_announced announced, rfl, ?_, ?_⟩
    · rw [published_eq named enrolled, metadataSent, announced, Option.toList_some]
    · simp only [publisher_next_commit named, announced, copy]
      rfl
  · cases reads

end Commits

/-- **What subscribers may do to a run.** -/
structure DisturbsAtMost (config : Config) (script other : Script) : Prop where
  /-- As long as no read fails that is taken for a broadcast, every step answers the same and leaves
  the same server, but for those who subscribed. -/
  steps : (script.IsUnwatched ∧ other.IsUnwatched) ∨
      ((Server.start config).state.Throughout Spares script ∧
        (Server.start config).state.Throughout Spares other) →
    history config plainly script = history config plainly other ∧
      (after config script).unsubscribed = (after config other).unsubscribed
  /-- In any case commits answer the same, publish the same, and leave the same view. -/
  commits : history config committed script = history config committed other

/-- What comes of a read that is taken for a broadcast. -/
structure ReadsForBroadcast (config : Config) (script : Script) : Prop where
  /-- As long as no handle has run out, and outside of other reads, such a read fails only because
  of a fault. -/
  faults : (Server.start config).state.InRange script →
    (∀ entry ∈ script, entry.1.isReading = false) →
    ((Server.start config).state.Throughout Spares script ↔
      (Server.start config).state.Throughout SparesFaults script)
  /-- If it fails, the commit still succeeds and is published. -/
  unread : ∀ host surface id, (after config script).Blames host (.commit surface) id →
    (after config script).CommitsUnread host surface id

section Runs

variable {config : Config} {script other : Script}

/-- Short of the end of the handles, a copy that nothing keeps from being taken can be read unless a
byte faults. -/
theorem throughout_spares_iff (range : (Server.start config).state.InRange script)
    (outermost : ∀ entry ∈ script, entry.1.isReading = false) :
    (Server.start config).state.Throughout Spares script ↔
      (Server.start config).state.Throughout SparesFaults script := by
  rw [throughout_iff, throughout_iff]
  refine forall_congr' fun front => forall_congr' fun host => forall_congr' fun operation =>
    forall_congr' fun back => forall_congr' fun parts => ?_
  have outer : host.isReading = false := outermost (host, operation) (by rw [parts]; simp)
  have early : (Server.start config).state.InRange front := by
    rw [parts] at range
    exact range.of_append
  cases operation with
  | commit surface =>
    constructor
    · intro spares id buffer pool reading reads lies faults
      exact spares id ((blames_iff_faults early outer).mpr
        ⟨reading, buffer, pool, reads, lies, faults⟩)
    · intro spares id blamed
      obtain ⟨reading, buffer, pool, reads, lies, faults⟩ :=
        (blames_iff_faults early outer).mp blamed
      exact spares id buffer pool reading reads lies faults
  | _ => exact Iff.rfl

/-- A run in which no read for a broadcast fails shows the same as one without subscribers. -/
theorem plainly_unheard (spares : (Server.start config).state.Throughout Spares script) :
    history config plainly script = history config plainly script.unheard ∧
      (after config script).unsubscribed = after config script.unheard := by
  obtain ⟨ends, same⟩ := run_unsubscribed (named_after config []) spares
  exact ⟨same, ends⟩

/-- **Subscribers do not disturb the server.** Take two scripts that differ in nothing but what
subscribers do. Where nobody listens to broadcasts, or no read fails that is taken for them, both
leave the same at every step. Commits go the same way in any case, and one that cannot be read for a
broadcast succeeds and is published all the same. -/
theorem subscribers_do_not_disturb (config : Config) {script other : Script}
    (same : script.unheard = other.unheard) :
    DisturbsAtMost config script other ∧ ReadsForBroadcast config script ∧
      ReadsForBroadcast config other := by
  have reads (script : Script) : ReadsForBroadcast config script := by
    constructor
    · intro range outermost
      exact throughout_spares_iff range outermost
    · intro host surface id blames
      exact commitsUnread_of_blames (named_after config script) (enrolled_after config script)
        blames
  refine ⟨⟨fun undisturbed => ?_, ?_⟩, reads script, reads other⟩
  · have spares : (Server.start config).state.Throughout Spares script ∧
        (Server.start config).state.Throughout Spares other := by
      rcases undisturbed with ⟨unwatched, unwatched'⟩ | spares
      · exact ⟨spares_of_isUnwatched (named_after config []) rfl unwatched,
          spares_of_isUnwatched (named_after config []) rfl unwatched'⟩
      · exact spares
    obtain ⟨shown, ends⟩ := plainly_unheard spares.1
    obtain ⟨shown', ends'⟩ := plainly_unheard spares.2
    rw [shown, shown', ends, ends', same]
    exact ⟨rfl, rfl⟩
  · rw [history_committed_unheard config script, history_committed_unheard config other, same]

/-- A buffer is shown while two subscribers come and go, as it is without them. Where the file of
the buffer was cut before, its copy fails, and the commit succeeds. -/
theorem subscribers_do_not_disturb_overheard :
    Script.unheard (Script.attended ++ Script.overheard) =
        Script.unheard (Script.takenBack.take 6) ∧
      history {} plainly (Script.attended ++ Script.overheard) =
        history {} plainly (Script.takenBack.take 6) ∧
      (after {} (Script.attended ++ Script.overheard.take 2)).CommitsUnread .withCutFile
        ⟨⟨0⟩, 2⟩ ⟨⟨0⟩, 1⟩ := by
  have same : Script.unheard (Script.attended ++ Script.overheard) =
    Script.unheard (Script.takenBack.take 6) := rfl
  obtain ⟨disturbs, _, _⟩ := subscribers_do_not_disturb {} same
  have attached : Script.unheard (Script.attended ++ Script.overheard.take 2) =
    Script.unheard (Script.takenBack.take 5) := rfl
  obtain ⟨_, reads, _⟩ := subscribers_do_not_disturb {} attached
  have unwatched : Script.IsUnwatched (Script.takenBack.take 6) := by
    simp [Script.IsUnwatched, Script.takenBack]
  have readable (id : BufferId) : ¬ (after {} (Script.attended ++ Script.overheard.take 2)).Blames
      .withFile (.commit ⟨⟨0⟩, 2⟩) id := by
    rintro ⟨reading, geometry, mapping, read, memory, fails⟩
    cases read
    cases memory
    rcases fails with nested | outside | ⟨position, touched, _, past⟩
    · cases nested
    · exact absurd outside (by decide)
    · -- The sixteen bytes of the buffer lie on the first page, and the file ends on that page.
      have inside : position < 16 := touched.1
      change 16 ≤ (0 + position) / 4096 * 4096 at past
      omega
  have cut : BufferGeometry.FailsToRead ⟨0, 2, 2, 8, .argb8888⟩ .withCutFile
      { file := 0, length := 16 } .whole :=
    .inr (.inr ⟨0, ⟨by decide, by decide⟩, rfl, Nat.le_refl 0⟩)
  refine ⟨same, (disturbs.steps (.inr ⟨?_, ?_⟩)).1, reads.unread .withCutFile _ _ ?_⟩
  · exact ⟨trivial, trivial, trivial, trivial, trivial, trivial, trivial, readable, trivial,
      trivial, trivial⟩
  · exact spares_of_isUnwatched (named_after {} []) rfl unwatched
  · exact ⟨.whole, _, _, rfl, rfl, cut⟩

/-- **A subscriber that disturbs without a fault.** Inside of another read no buffer can be read. A
client that shows a buffer there is told of a failure if somebody wants contents, and is told
nothing if nobody does; and no byte faults in either run. -/
theorem disturbed_without_fault_watchedWithin :
    Script.unheard Script.watchedWithin = Script.unheard Script.shownWithin ∧
      (Server.start {}).state.Throughout SparesFaults Script.watchedWithin ∧
      (Server.start {}).state.Throughout SparesFaults Script.shownWithin ∧
      ((after {} Script.watchedWithin).connection? ⟨0⟩).map Connection.events =
        some [.bufferAccessFailed ⟨⟨0⟩, 1⟩] ∧
      ((after {} Script.shownWithin).connection? ⟨0⟩).map Connection.events = some [] := by
  refine ⟨rfl, ?_, ?_, rfl, rfl⟩
  · refine ⟨trivial, trivial, trivial, trivial, trivial, trivial, ?_, trivial⟩
    rintro id buffer pool reading reads ⟨live, backed, _⟩ ⟨position, touched, _, past⟩
    cases reads
    cases live
    cases backed
    have inside : position < 16 := touched.1
    change 16 ≤ (0 + position) / 4096 * 4096 at past
    omega
  · refine ⟨trivial, trivial, trivial, trivial, trivial, ?_, trivial⟩
    rintro id buffer pool reading reads
    cases reads

end Runs

end Server

end DisplayServer
