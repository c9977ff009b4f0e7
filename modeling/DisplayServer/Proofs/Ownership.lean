import Mathlib.Data.List.Sort
import DisplayServer.Proofs.Blame
import DisplayServer.Proofs.Census
import DisplayServer.Proofs.Publishing

/-! # Pools and buffers own each other

Ownership is kept twice: a pool lists its buffers, and a buffer names its pool. Both always say the
same (`Connection.Orderly`), and as all kinds of objects draw from one counter and nothing is ever
moved, every list is in the order of creation. Nothing of this needs the numbers of connections to
be fresh: a client that is accepted under the number of an old one starts with nothing, and with a
counter of its own (`Server.drawnSince`). As a buffer and its pool take two of the indices, a buffer
has fewer claims than there are numbers of 32 bits (`Server.refs_lt_size`).
-/

namespace DisplayServer

namespace Connection

variable {server : Server} {host : Host} {operation : Operation} {formats : List PixelFormat}
  {client old new : Connection} {count : Nat}

/-- The live buffers of a pool, oldest first. -/
def buffersOf (client : Connection) (id : PoolId) : List BufferId :=
  client.buffers.keys.filter fun buffer => (client.buffers.get? buffer).map Buffer.pool = some id

/-- No two objects of the connection share an index, whatever their kinds. -/
def Apart (client : Connection) : Prop :=
  ∀ kind, ∀ handle ∈ client.handles kind, ∀ other, ∀ another ∈ client.handles other,
    handle.index = another.index → kind = other

/-- The connection drew `count` handles; everything on it is in the order of drawing, and its pools
and buffers name each other. -/
structure Orderly (client : Connection) (formats : List PixelFormat) (count : Nat) : Prop where
  drawn : client.Drawn count
  apart : client.Apart
  bounded : client.Bounded formats
  enlisted : client.Enlisted
  inOrder : ∀ id pool, client.pools.get? id = some pool →
    pool.buffers.Pairwise fun first second => first.index < second.index

private theorem Orderly.empty (id : ConnectionId) (formats : List PixelFormat) :
    Orderly { id } formats 0 where
  drawn := .empty id
  apart kind handle listed := by cases kind <;> cases listed
  bounded := .empty id formats
  enlisted _ _ live := by cases live
  inOrder _ _ live := by cases live

/-- A handle that is drawn has an index that nothing else has. -/
theorem Drawn.apart_fresh (drawn : old.Drawn count) (room : count < UInt32.size)
    {kind other : ObjectKind}
    {handle : Handle kind} (listed : handle ∈ old.handles kind) :
    handle.index ≠ (old.fresh other).index := by
  intro same
  have below := drawn.below kind handle listed
  have index := drawn.index_fresh room other
  rw [← same] at index
  omega

/-- Objects stay apart: what is created takes an index that nothing else has. -/
theorem Apart.next (apart : old.Apart) (drawn : old.Drawn count)
    (change : Change server host operation old new)
    (room : count + old.drawnUntil new ≤ UInt32.size) : new.Apart := by
  intro kind handle listed other another listed' same
  rcases change.handles with drew | ⟨_, drew⟩
  · exact apart kind handle ((drew.2 kind).subset listed) other another
      ((drew.2 other).subset listed') same
  rw [drawnUntil_of_advanced drew.1] at room
  obtain ⟨_, created, drew, others⟩ := drew
  -- Whoever is not of the kind that was created was there before.
  have earlier {kind : ObjectKind} {handle : Handle kind} (listed : handle ∈ new.handles kind) :
      handle ∈ old.handles kind ∨ kind = created ∧ handle = old.fresh kind := by
    by_cases here : kind = created
    · subst here
      rcases List.mem_append.mp (drew.subset listed) with before | last
      · exact .inl before
      · exact .inr ⟨rfl, List.mem_singleton.mp last⟩
    · exact .inl (others kind here ▸ listed)
  rcases earlier listed with before | ⟨rfl, rfl⟩ <;>
    rcases earlier listed' with before' | ⟨rfl, rfl⟩
  · exact apart kind handle before other another before' same
  · exact (drawn.apart_fresh room before same).elim
  · exact (drawn.apart_fresh room before' same.symm).elim
  · rfl

/-- One operation keeps the lists of the pools in order: what is carved out comes last. -/
theorem Orderly.inOrder_next (orderly : old.Orderly formats count)
    (holding : Holding operation formats old new)
    (room : count + old.drawnUntil new ≤ UInt32.size) {id : PoolId} {later : Pool}
    (live : new.pools.get? id = some later) :
    later.buffers.Pairwise fun first second => first.index < second.index := by
  rcases holding.pool_source live with ⟨_, _, bare⟩ | ⟨pool, found, stems⟩
  · rw [bare]
    exact .nil
  have before := orderly.inOrder id pool found
  rcases stems.order with fewer | ⟨advanced, order⟩
  · exact before.sublist fewer
  rw [drawnUntil_of_advanced advanced] at room
  refine List.Pairwise.sublist order (List.pairwise_append.mpr
    ⟨before, List.pairwise_singleton .., fun buffer listed last carved => ?_⟩)
  obtain ⟨_, held, _⟩ := Arena.exists_of_view (orderly.enlisted id pool found buffer listed)
  rw [List.mem_singleton.mp carved, UInt32.lt_iff_toNat_lt, orderly.drawn.index_fresh room]
  exact orderly.drawn.below .buffer buffer (Arena.mem_keys_of_get? held)

/-- **One operation keeps a connection in order.** -/
theorem Orderly.next (orderly : old.Orderly server.formats count)
    (sized : PixelFormat.AllSized server.formats) (change : Change server host operation old new)
    (room : count + old.drawnUntil new ≤ UInt32.size) :
    new.Orderly server.formats (count + old.drawnUntil new) where
  drawn := change.drawn orderly.drawn room
  apart := orderly.apart.next orderly.drawn change room
  bounded := orderly.bounded.next sized change.holding orderly.drawn room
  enlisted := change.enlisted orderly.enlisted orderly.drawn room
  inOrder _ _ live := orderly.inOrder_next change.holding room live

/-- A pool lists its live buffers, oldest first. -/
theorem Orderly.buffers_eq (orderly : client.Orderly formats count) {id : PoolId} {pool : Pool}
    (found : client.pools.get? id = some pool) : pool.buffers = client.buffersOf id := by
  have keys := orderly.drawn.ordered .buffer
  have irrefl : Std.Irrefl fun first second : BufferId => first.index < second.index :=
    ⟨fun _ => UInt32.lt_irrefl _⟩
  have antisymm : Std.Antisymm fun first second : BufferId => first.index < second.index :=
    ⟨fun _ _ before after => (UInt32.lt_asymm before after).elim⟩
  refine List.Pairwise.eq_of_mem_iff (orderly.inOrder id pool found)
    (keys.sublist List.filter_sublist) fun buffer => ?_
  constructor
  · intro listed
    obtain ⟨record, live, named⟩ :=
      Arena.exists_of_view (orderly.enlisted id pool found buffer listed)
    refine List.mem_filter.mpr ⟨Arena.mem_keys_of_get? live, decide_eq_true ?_⟩
    rw [live, Option.map_some, named]
  · intro owned
    obtain ⟨_, owned⟩ := List.mem_filter.mp owned
    obtain ⟨record, live, rfl⟩ := Option.map_eq_some_iff.mp (of_decide_eq_true owned)
    obtain ⟨owner, held, listed, _⟩ := orderly.bounded.held buffer record live
    cases found.symm.trans held
    exact listed

/-- A pool that is destroyed leaves no buffer behind. -/
theorem Orderly.pool_ne_of_destroyPool (orderly : client.Orderly formats count) {id : PoolId}
    {buffer : BufferId} {record : Buffer}
    (left : (client.destroyPool id).buffers.get? buffer = some record) : record.pool ≠ id := by
  intro named
  have seen : (client.destroyPool id).census.buffer buffer = some record.pool :=
    Arena.view_of_get? left
  have held (id : BufferId) (buffer : Buffer) (live : client.buffers.get? id = some buffer) :
      ∃ pool, client.pools.get? buffer.pool = some pool ∧ id ∈ pool.buffers := by
    obtain ⟨pool, found, listed, _⟩ := orderly.bounded.held id buffer live
    exact ⟨pool, found, listed⟩
  rw [census_destroyPool orderly.enlisted held id, named] at seen
  simp only at seen
  split at seen
  · cases seen
  · contradiction

/-- A live buffer and its pool have indices of their own, which no surface has. -/
private theorem Orderly.length_surfaces (orderly : client.Orderly formats count) {id : BufferId}
    {buffer : Buffer} (live : client.buffers.get? id = some buffer) :
    client.surfaces.keys.length + 2 ≤ count := by
  obtain ⟨pool, held, _⟩ := orderly.bounded.held id buffer live
  have carved : id ∈ client.handles .buffer := Arena.mem_keys_of_get? live
  have backed : buffer.pool ∈ client.handles .pool := Arena.mem_keys_of_get? held
  let surfaces : List Nat := client.surfaces.keys.map fun surface => surface.index.toNat
  have apart {kind : ObjectKind} (handle : Handle kind) (listed : handle ∈ client.handles kind)
      (other : kind ≠ .surface) : handle.index.toNat ∉ surfaces := by
    intro shared
    obtain ⟨surface, there, same⟩ := List.mem_map.mp shared
    exact other (orderly.apart kind handle listed .surface surface there
      (UInt32.toNat_inj.mp same.symm))
  have distinct : (buffer.pool.index.toNat :: id.index.toNat :: surfaces).Nodup := by
    refine List.nodup_cons.mpr ⟨fun listed => ?_, List.nodup_cons.mpr
      ⟨apart id carved (by simp), List.pairwise_map.mpr ?_⟩⟩
    · rcases List.mem_cons.mp listed with same | shared
      · cases orderly.apart .pool _ backed .buffer _ carved (UInt32.toNat_inj.mp same)
      · exact apart buffer.pool backed (by simp) shared
    · exact (orderly.drawn.ordered .surface).imp fun before =>
        Nat.ne_of_lt (UInt32.lt_iff_toNat_lt.mp before)
  have below : (buffer.pool.index.toNat :: id.index.toNat :: surfaces) ⊆ List.range count := by
    intro index listed
    rw [List.mem_range]
    rcases List.mem_cons.mp listed with rfl | listed
    · exact orderly.drawn.below .pool _ backed
    rcases List.mem_cons.mp listed with rfl | listed
    · exact orderly.drawn.below .buffer _ carved
    · obtain ⟨surface, there, rfl⟩ := List.mem_map.mp listed
      exact orderly.drawn.below .surface surface there
  have fits := (List.subperm_of_subset distinct below).length_le
  rwa [List.length_cons, List.length_cons, List.length_map, List.length_range] at fits

/-- A buffer has no more claims of a kind than there are surfaces. -/
theorem Counted.le_length {id : BufferId} {buffer : Buffer} (counted : client.Counted id buffer) :
    buffer.pendingRefs ≤ client.surfaces.keys.length ∧
      buffer.currentRefs ≤ client.surfaces.keys.length := by
  have claims : client.claims.values.length = client.surfaces.keys.length := by
    rw [values_claims, Arena.values, Arena.keys, List.length_map, List.length_map, List.length_map]
  rw [counted.pending, counted.current, ← claims]
  exact ⟨List.countP_le_length, List.countP_le_length⟩

end Connection

namespace Server

/-- Counts on how many handles were drawn on each connection since its client was accepted. -/
def countOn (server : Server) (host : Host) (operation : Operation) (drawn : ConnectionId → Nat)
    (id : ConnectionId) : Nat :=
  if operation.accepted = 1 ∧ id = ⟨server.nextConnection⟩ then 0
  else drawn id + server.drawnBy host operation id

/-- The number of handles drawn on each connection since its client was accepted, after a script,
if it was `drawn` before. -/
def countOver (server : Server) (drawn : ConnectionId → Nat) : Script → ConnectionId → Nat
  | [] => drawn
  | (host, operation) :: rest =>
    (server.next host operation).countOver (server.countOn host operation drawn) rest

/-- The number of handles that a script on a fresh server has drawn on a connection since its client
was accepted. -/
def drawnSince (config : Config) (script : Script) : ConnectionId → Nat :=
  (Server.start config).state.countOver (fun _ => 0) script

/-- At no time has a client drawn more handles than there are indices. -/
def Unexhausted (config : Config) (script : Script) : Prop :=
  ∀ front back, script = front ++ back → ∀ id, drawnSince config front id ≤ UInt32.size

/-- The live buffers of a pool, oldest first. -/
def buffersOf (server : Server) (id : PoolId) : List BufferId :=
  match server.connection? id.connection with
  | none => []
  | some client => client.buffersOf id

/-- Pools and buffers own each other, and everything is kept in the order of creation. -/
structure PoolsInOrder (server : Server) : Prop where
  pool_of_buffer : ∀ id buffer, server.buffer? id = some buffer →
    buffer.pool.connection = id.connection ∧
      ∃ pool, server.pool? buffer.pool = some pool ∧ id ∈ pool.buffers
  buffer_of_pool : ∀ id pool, server.pool? id = some pool → ∀ buffer ∈ pool.buffers,
    ∃ record, server.buffer? buffer = some record ∧ record.pool = id
  buffers_eq : ∀ id pool, server.pool? id = some pool → pool.buffers = server.buffersOf id
  own : ∀ id client, server.connection? id = some client → ∀ kind, ∀ handle ∈ client.handles kind,
    handle.connection = id
  ascending : ∀ id client, server.connection? id = some client → ∀ kind,
    (client.handles kind).Pairwise fun first second => first.index < second.index
  distinct : ∀ id client, server.connection? id = some client → ∀ kind,
    ∀ handle ∈ client.handles kind, ∀ other, ∀ another ∈ client.handles other,
      handle.index = another.index → (⟨kind, handle⟩ : Σ kind, Handle kind) = ⟨other, another⟩

variable {config : Config} {server : Server} {host : Host} {operation : Operation}

/-- Counts over two scripts go on from one to the other. -/
theorem countOver_append (server : Server) (drawn : ConnectionId → Nat) (front back : Script) :
    server.countOver drawn (front ++ back) =
      (server.run front).countOver (server.countOver drawn front) back := by
  induction front generalizing server drawn with
  | nil => rfl
  | cons entry rest ih => exact ih ..

/-- The last operation counts from where the script before it ended. -/
theorem drawnSince_concat (script : Script) (host : Host) (operation : Operation) :
    drawnSince config (script ++ [(host, operation)]) =
      (after config script).countOn host operation (drawnSince config script) :=
  countOver_append ..

/-- A script that exhausts no counter did not before its end. -/
theorem Unexhausted.of_append {front back : Script} (short : Unexhausted config (front ++ back)) :
    Unexhausted config front := by
  rintro early late rfl
  exact short early (late ++ back) (List.append_assoc ..)

/-- An operation adds at most one to a count. -/
theorem countOn_le (named : server.Named) (drawn : ConnectionId → Nat) (id : ConnectionId) :
    server.countOn host operation drawn id ≤ drawn id + 1 := by
  unfold countOn
  split
  · exact Nat.zero_le _
  rename_i accepted
  refine Nat.add_le_add_left ?_ _
  cases before : server.connection? id with
  | none => simp [drawnBy, before]
  | some old =>
    cases after : (server.next host operation).connection? id with
    | none => simp [drawnBy, after]
    | some new =>
      rw [drawnBy_eq before after]
      rcases connection?_next named after with ⟨rfl, rfl, _⟩ | ⟨_, found, change⟩
      · exact (accepted ⟨rfl, rfl⟩).elim
      · cases before.symm.trans found
        exact change.drawnUntil_le_one

/-- A script of no more operations than there are indices exhausts no counter. -/
theorem unexhausted_of_length (script : Script) (short : script.length ≤ UInt32.size) :
    Unexhausted config script := by
  have counted (script : Script) (id : ConnectionId) :
      drawnSince config script id ≤ script.length := by
    induction script using List.reverseRecOn with
    | nil => exact Nat.le_refl 0
    | append_singleton script entry ih =>
      rw [drawnSince_concat, List.length_append]
      exact (countOn_le (named_after config script) _ id).trans (Nat.add_le_add_right ih 1)
  rintro front back rfl id
  rw [List.length_append] at short
  exact (counted front id).trans (by omega)

/-- **Every connection stays in order** as long as no client draws more handles than there are. -/
theorem orderly_after (script : Script) (short : Unexhausted config script) :
    ∀ id client, (after config script).connection? id = some client →
      client.Orderly (after config script).formats (drawnSince config script id) := by
  induction script using List.reverseRecOn with
  | nil =>
    intro id client live
    cases live
  | append_singleton script entry ih =>
    obtain ⟨host, operation⟩ := entry
    intro id new live
    have named : (after config script).Named := named_after config script
    have room := short _ [] (List.append_nil _).symm id
    rw [drawnSince_concat, countOn] at room ⊢
    rw [after_concat] at live ⊢
    rw [formats_next named]
    by_cases accepted : operation.accepted = 1 ∧ id = ⟨(after config script).nextConnection⟩
    · rw [if_pos accepted]
      obtain ⟨accepts, rfl⟩ := accepted
      cases operation with
      | connect =>
        rw [connection?_next_connect, if_pos rfl] at live
        cases live
        exact .empty _ _
      | _ => cases accepts
    · rw [if_neg accepted] at room ⊢
      rcases connection?_next named live with ⟨rfl, rfl, _⟩ | ⟨old, found, change⟩
      · exact (accepted ⟨rfl, rfl⟩).elim
      · rw [drawnBy_eq found live] at room ⊢
        refine (ih short.of_append id old found).next ?_ change room
        rw [formats_after]
        exact allSized_start config

/-- A script in range exhausts no counter. -/
theorem Unexhausted.of_inRange {script : Script}
    (range : (Server.start config).state.InRange script) : Unexhausted config script := by
  have counted (script : Script) (id : ConnectionId) :
      drawnSince config script id ≤ drawnAfter config script id := by
    induction script using List.reverseRecOn with
    | nil => exact Nat.le_refl 0
    | append_singleton script entry ih =>
      rw [drawnSince_concat, drawnAfter_concat, countOn]
      split
      · exact Nat.zero_le _
      · exact Nat.add_le_add_right ih _
  rintro front back rfl id
  exact (counted front id).trans (range.of_append.handles id)

/-- **Reference counts fit.** As long as handles last, the counters of a buffer stay below the
largest number of 32 bits, so there is room for the claim that a commit makes before it gives up an
old one. -/
theorem refs_lt_size {script : Script} (range : (Server.start config).state.InRange script)
    {id : BufferId} {buffer : Buffer} (live : (after config script).buffer? id = some buffer) :
    buffer.pendingRefs + 1 < UInt32.size ∧ buffer.currentRefs + 1 < UInt32.size := by
  obtain ⟨client, found, held⟩ := buffer?_eq_some.mp live
  have short := Unexhausted.of_inRange range
  have room := (orderly_after script short _ client found).length_surfaces held
  have few := short script [] (List.append_nil _).symm id.connection
  obtain ⟨pending, current⟩ :=
    ((exact_after script range _ client found).balanced id buffer held).le_length
  omega

/-- Where all connections are in order, so are the pools. -/
theorem PoolsInOrder.of_orderly (named : server.Named) {drawn : ConnectionId → Nat}
    {formats : List PixelFormat} (orderly : ∀ id client, server.connection? id = some client →
      client.Orderly formats (drawn id)) : server.PoolsInOrder where
  pool_of_buffer id buffer live := by
    obtain ⟨client, found, held⟩ := buffer?_eq_some.mp live
    have order := orderly _ client found
    obtain ⟨pool, backed, listed, _⟩ := order.bounded.held id buffer held
    have own : buffer.pool.connection = id.connection :=
      (order.drawn.own .pool _ (Arena.mem_keys_of_get? backed)).trans (named _ client found)
    exact ⟨own, pool, pool?_eq_some.mpr ⟨client, own.symm ▸ found, backed⟩, listed⟩
  buffer_of_pool id pool live buffer listed := by
    obtain ⟨client, found, held⟩ := pool?_eq_some.mp live
    have order := orderly _ client found
    obtain ⟨record, carved, same⟩ :=
      Arena.exists_of_view (order.enlisted id pool held buffer listed)
    have own : buffer.connection = id.connection :=
      (order.drawn.own .buffer _ (Arena.mem_keys_of_get? carved)).trans (named _ client found)
    exact ⟨record, buffer?_eq_some.mpr ⟨client, own.symm ▸ found, carved⟩, same⟩
  buffers_eq id pool live := by
    obtain ⟨client, found, held⟩ := pool?_eq_some.mp live
    rw [buffersOf, found]
    exact (orderly _ client found).buffers_eq held
  own id client found kind handle listed :=
    ((orderly id client found).drawn.own kind handle listed).trans (named id client found)
  ascending id client found := (orderly id client found).drawn.ordered
  distinct id client found kind handle listed other another listed' same := by
    have order := orderly id client found
    obtain rfl := order.apart kind handle listed other another listed' same
    have own := (order.drawn.own kind handle listed).trans
      (order.drawn.own kind another listed').symm
    obtain ⟨_, _⟩ := handle
    obtain ⟨_, _⟩ := another
    cases own
    cases same
    rfl

/-- A connection after one of its pools, or that of another connection, is destroyed. -/
theorem connection?_destroyPool (named : server.Named) (id : PoolId) (key : ConnectionId) :
    (server.destroyPool id).state.connection? key = (server.connection? key).map fun client =>
      if key = id.connection then client.destroyPool id else client := by
  unfold Server.destroyPool
  cases live : server.connection? id.connection with
  | none =>
    by_cases here : key = id.connection
    · rw [here, live]
      rfl
    · simp [here]
  | some client =>
    simp only
    split
    · have own : (client.destroyPool id).id = id.connection := by
        rw [Connection.destroyPool_frame]
        exact named _ client live
      rw [connection?_putBack, own]
      by_cases here : key = id.connection
      · rw [if_pos here, here, live]
        simp
      · simp [here]
    · rename_i dead
      have same : client.destroyPool id = client := by
        rw [Connection.destroyPool, Option.not_isSome_iff_eq_none.mp dead]
      by_cases here : key = id.connection
      · rw [here, live]
        simp [same]
      · simp [here]

/-- **Pools and buffers own each other, and arenas are in the order of creation.** After a script in
which no client draws more handles than there are indices, what is kept twice says the same. A pool
that is destroyed leaves none of its buffers behind, and only a dead buffer is dead to a reader. -/
theorem pools_own_buffers (config : Config) (script : Script) (short : Unexhausted config script) :
    (after config script).PoolsInOrder ∧
      (∀ host id buffer record,
        ((after config script).next host (.destroyPool id)).buffer? buffer = some record →
          record.pool ≠ id) ∧
      ∀ {α : Type} (host : Host) (id : BufferId) (reading : Reading)
        (read : BufferGeometry → Span → α),
        ((after config script).withContents host id reading read).answer = .error .dead ↔
          (after config script).buffer? id = none := by
  have named := named_after config script
  have orderly := orderly_after script short
  refine ⟨.of_orderly named orderly, fun host id buffer record left => ?_,
    fun host id reading read => ?_⟩
  · obtain ⟨new, found, held⟩ := buffer?_eq_some.mp left
    change ((after config script).destroyPool id).state.connection? _ = _ at found
    rw [connection?_destroyPool named] at found
    obtain ⟨old, live, rfl⟩ := Option.map_eq_some_iff.mp found
    have order := orderly _ old live
    split at held
    · exact order.pool_ne_of_destroyPool held
    · rename_i elsewhere
      rintro rfl
      obtain ⟨pool, backed, _⟩ := order.bounded.held buffer record held
      have own := order.drawn.own .pool _ (Arena.mem_keys_of_get? backed)
      exact elsewhere ((named _ old live).symm.trans own.symm)
  · rw [answer_withContents_eq_dead_iff]
    constructor
    · intro gone
      by_contra alive
      obtain ⟨buffer, live⟩ := Option.ne_none_iff_exists'.mp alive
      obtain ⟨client, found, held⟩ := buffer?_eq_some.mp live
      obtain ⟨pool, backed, _⟩ := (orderly _ client found).bounded.held id buffer held
      have read := memory?_eq_some.mpr ⟨client, buffer, found,
        Connection.memoryOf?_eq_some.mpr ⟨held, pool, backed, rfl⟩, rfl⟩
      cases gone.symm.trans read
    · intro dead
      by_contra alive
      obtain ⟨⟨geometry, mapping⟩, memory⟩ := Option.ne_none_iff_exists'.mp alive
      obtain ⟨client, buffer, found, read, _⟩ := memory?_eq_some.mp memory
      have live := buffer?_eq_some.mpr ⟨client, found, (Connection.memoryOf?_eq_some.mp read).1⟩
      cases dead.symm.trans live

/-- A pool with a buffer, and then without. -/
theorem pools_own_buffers_takenBack :
    Unexhausted {} (Script.takenBack.take 3) ∧
      (after {} (Script.takenBack.take 3)).PoolsInOrder ∧
      ((after {} (Script.takenBack.take 3)).pool? ⟨⟨0⟩, 0⟩).map Pool.buffers = some [⟨⟨0⟩, 1⟩] ∧
      ∀ record, ((after {} (Script.takenBack.take 3)).next .withFile
        (.destroyPool ⟨⟨0⟩, 0⟩)).buffer? ⟨⟨0⟩, 1⟩ = some record → record.pool ≠ ⟨⟨0⟩, 0⟩ := by
  have short : Unexhausted {} (Script.takenBack.take 3) := unexhausted_of_length _ (by decide)
  obtain ⟨order, emptied, _⟩ := pools_own_buffers {} (Script.takenBack.take 3) short
  exact ⟨short, order, rfl, emptied .withFile ⟨⟨0⟩, 0⟩ ⟨⟨0⟩, 1⟩⟩

end Server

end DisplayServer
