import DisplayServer.Proofs.Exhaustion
import DisplayServer.Proofs.Ownership
import DisplayServer.Proofs.View

/-! # Buffers are carved out under five conditions

A geometry is checked condition by condition, and the first one that fails is reported. The
conditions are meant in exact integers (`BufferGeometry.clauses`), and computed in machine words,
where a negative offset is read as an unsigned position and the extent of an image is a product of
64 bits; nothing is ever cut off (`BufferGeometry.checkInWords_eq`). A buffer that passes comes last
on its connection and in its pool, and nothing else changes (`Server.createBuffer_exact`).
-/

namespace DisplayServer

/-- A condition is the first in a list that fails, and it has this report. -/
def FirstFailing {ε : Type} (clauses : List (Prop × ε)) (report : ε) : Prop :=
  ∃ front clause back, clauses = front ++ (clause, report) :: back ∧
    (∀ earlier ∈ front, earlier.1) ∧ ¬ clause

section FirstFailing

variable {ε : Type} {clause : Prop} {own report : ε} {rest : List (Prop × ε)}

private theorem not_firstFailing_nil : ¬ FirstFailing [] report := by
  rintro ⟨front, _, _, same, _⟩
  exact List.cons_ne_nil _ _ (List.append_eq_nil_iff.mp same.symm).2

/-- A clause that fails is reported, whatever comes after it. -/
theorem firstFailing_cons_of_not (fails : ¬ clause) :
    FirstFailing ((clause, own) :: rest) report ↔ own = report := by
  constructor
  · rintro ⟨front, failing, back, same, holds, _⟩
    cases front with
    | nil => exact congrArg (fun entry => entry.2) (List.cons.inj same).1
    | cons first front =>
      obtain ⟨rfl, _⟩ := List.cons.inj same
      exact (fails (holds _ List.mem_cons_self)).elim
  · rintro rfl
    exact ⟨[], clause, rest, rfl, fun _ listed => (List.not_mem_nil listed).elim, fails⟩

/-- A clause that holds is passed over. -/
theorem firstFailing_cons_of_holds (holds : clause) :
    FirstFailing ((clause, own) :: rest) report ↔ FirstFailing rest report := by
  constructor
  · rintro ⟨front, failing, back, same, earlier, fails⟩
    cases front with
    | nil =>
      have here : clause = failing := congrArg Prod.fst (List.cons.inj same).1
      exact (fails (here ▸ holds)).elim
    | cons first front =>
      exact ⟨front, failing, back, (List.cons.inj same).2,
        fun entry listed => earlier entry (List.mem_cons_of_mem _ listed), fails⟩
  · rintro ⟨front, failing, back, rfl, earlier, fails⟩
    refine ⟨(clause, own) :: front, failing, back, rfl, ?_, fails⟩
    intro entry listed
    rcases List.mem_cons.mp listed with rfl | later
    · exact holds
    · exact earlier entry later

end FirstFailing

namespace BufferGeometry

variable {geometry : BufferGeometry} {poolLength : Nat} {supported : List PixelFormat}

/-- **The conditions on a new buffer.** They stand in the order in which they are checked, each with
the error that reports it. All in exact integers. -/
def clauses (geometry : BufferGeometry) (poolLength : Nat) (supported : List PixelFormat) :
    List (Prop × PoolError) :=
  let extent := geometry.height.toInt * geometry.stride.toInt
  [(0 ≤ geometry.offset.toInt ∧ geometry.offset.toInt < poolLength,
      .invalidOffset geometry.offset),
    (0 < geometry.width.toInt ∧ 0 < geometry.height.toInt,
      .invalidDimensions geometry.width geometry.height),
    (geometry.width.toInt * geometry.pixelSize ≤ geometry.stride.toInt,
      .invalidStride geometry.stride geometry.width geometry.format),
    (geometry.offset.toInt + extent ≤ poolLength, .outOfBounds geometry.offset extent poolLength),
    (geometry.format ∈ supported, .unsupportedFormat geometry.format)]

/-- The check passes exactly if all conditions hold. -/
theorem check_eq_ok_iff_clauses :
    geometry.check poolLength supported = .ok () ↔
      ∀ entry ∈ geometry.clauses poolLength supported, entry.1 := by
  simp only [clauses, List.forall_mem_cons]
  constructor
  · intro passed
    simp only [check] at passed
    split at passed
    · cases passed
    split at passed
    · cases passed
    split at passed
    · cases passed
    split at passed
    · cases passed
    split at passed
    · cases passed
    rename_i offset dimensions row extent unsupported
    refine ⟨by omega, by omega, by omega, by omega, not_not.mp unsupported, ?_⟩
    exact fun _ listed => (List.not_mem_nil listed).elim
  · rintro ⟨offset, dimensions, row, extent, known, _⟩
    simp only [check]
    rw [if_neg (by omega), if_neg (by omega), if_neg (by omega), if_neg (by omega),
      if_neg (not_not.mpr known)]

/-- **The check reports the first condition that fails.** -/
theorem check_eq_error_iff {cause : PoolError} :
    geometry.check poolLength supported = .error cause ↔
      FirstFailing (geometry.clauses poolLength supported) cause := by
  simp only [check, clauses]
  split
  · rw [firstFailing_cons_of_not (by omega), Except.error.injEq]
  rw [firstFailing_cons_of_holds (by omega)]
  split
  · rw [firstFailing_cons_of_not (by omega), Except.error.injEq]
  rw [firstFailing_cons_of_holds (by omega)]
  split
  · rw [firstFailing_cons_of_not (by omega), Except.error.injEq]
  rw [firstFailing_cons_of_holds (by omega)]
  split
  · rw [firstFailing_cons_of_not (by omega), Except.error.injEq]
  rw [firstFailing_cons_of_holds (by omega)]
  split
  · rename_i unsupported
    rw [firstFailing_cons_of_not unsupported, Except.error.injEq]
  · rename_i known
    rw [firstFailing_cons_of_holds (not_not.mp known)]
    constructor
    · intro passed
      cases passed
    · intro fails
      exact (not_firstFailing_nil fails).elim

section Words

/-- The check in machine words. All numbers are widened to 64 bits with their signs, the offset is
then taken for an unsigned position, and products and sums are cut off at 64 bits. -/
def checkInWords (geometry : BufferGeometry) (poolLength : Nat) (supported : List PixelFormat) :
    Except PoolError Unit :=
  let offset := geometry.offset.toInt64
  let extent := geometry.height.toInt64 * geometry.stride.toInt64
  if geometry.offset < 0 ∨ UInt64.ofNat poolLength ≤ offset.toUInt64 then
    .error (.invalidOffset geometry.offset)
  else if geometry.width ≤ 0 ∨ geometry.height ≤ 0 then
    .error (.invalidDimensions geometry.width geometry.height)
  else if geometry.stride.toInt64 < geometry.width.toInt64 * Int64.ofNat geometry.pixelSize then
    .error (.invalidStride geometry.stride geometry.width geometry.format)
  else if Int64.ofNat poolLength < offset + extent then
    .error (.outOfBounds geometry.offset extent.toInt poolLength)
  else if geometry.format ∉ supported then
    .error (.unsupportedFormat geometry.format)
  else .ok ()

private theorem toInt_bounds (value : Int32) :
    -2147483648 ≤ value.toInt ∧ value.toInt ≤ 2147483647 := by
  have below := value.toInt_lt
  have above := value.le_toInt
  omega

/-- A product of two numbers of 32 bits stays away from the bounds of 64 bits. -/
theorem mul_bounds {first second : Int} (one : -2147483648 ≤ first ∧ first ≤ 2147483647)
    (other : -2147483648 ≤ second ∧ second ≤ 2147483647) :
    -4611686018427387904 ≤ first * second ∧ first * second ≤ 4611686018427387904 := by
  have size : (first * second).natAbs ≤ 2147483648 * 2147483648 := by
    rw [Int.natAbs_mul]
    exact Nat.mul_le_mul (by omega) (by omega)
  omega

/-- A product of two 32-bit numbers fits 64 bits. -/
theorem toInt_mul_toInt64 (first second : Int32) :
    (first.toInt64 * second.toInt64).toInt = first.toInt * second.toInt := by
  have bounds := mul_bounds (toInt_bounds first) (toInt_bounds second)
  rw [Int64.toInt_mul, Int32.toInt_toInt64, Int32.toInt_toInt64]
  exact Int.bmod_eq_of_le (by omega) (by omega)

/-- No pixel takes more than eight bytes. -/
theorem pixelSize_le (geometry : BufferGeometry) : geometry.pixelSize ≤ 8 := by
  unfold pixelSize PixelFormat.bytesPerPixel? PixelFormat.pixelSize?
  split_ifs <;> decide

/-- The length of a row of pixels fits 64 bits. -/
theorem toInt_row (geometry : BufferGeometry) :
    (geometry.width.toInt64 * Int64.ofNat geometry.pixelSize).toInt =
      geometry.width.toInt * geometry.pixelSize := by
  have small := geometry.pixelSize_le
  have pixel : -2147483648 ≤ (geometry.pixelSize : Int) ∧
      (geometry.pixelSize : Int) ≤ 2147483647 := by omega
  have bounds := mul_bounds (toInt_bounds geometry.width) pixel
  rw [Int64.toInt_mul, Int32.toInt_toInt64, Int64.toInt_ofNat_of_lt (by omega)]
  exact Int.bmod_eq_of_le (by omega) (by omega)

/-- The end of a buffer fits 64 bits. -/
theorem toInt_end (geometry : BufferGeometry) :
    (geometry.offset.toInt64 + geometry.height.toInt64 * geometry.stride.toInt64).toInt =
      geometry.offset.toInt + geometry.height.toInt * geometry.stride.toInt := by
  have bounds := mul_bounds (toInt_bounds geometry.height) (toInt_bounds geometry.stride)
  have offset := toInt_bounds geometry.offset
  rw [Int64.toInt_add, Int32.toInt_toInt64, toInt_mul_toInt64]
  exact Int.bmod_eq_of_le (by omega) (by omega)

/-- A negative offset becomes a position behind every pool, but it has been found out before. -/
theorem misplaced_iff (geometry : BufferGeometry) (short : poolLength < 9223372036854775808) :
    (geometry.offset < 0 ∨
        UInt64.ofNat poolLength ≤ geometry.offset.toInt64.toUInt64) ↔
      (geometry.offset.toInt < 0 ∨ (poolLength : Int) ≤ geometry.offset.toInt) := by
  have negative : geometry.offset < 0 ↔ geometry.offset.toInt < 0 := Int32.lt_iff_toInt_lt
  rw [negative]
  by_cases sign : geometry.offset.toInt < 0
  · exact ⟨fun _ => .inl sign, fun _ => .inl sign⟩
  have nonneg : (0 : Int64) ≤ geometry.offset.toInt64 := by
    rw [Int64.le_iff_toInt_le, Int32.toInt_toInt64]
    exact Int.not_lt.mp sign
  have position : geometry.offset.toInt64.toUInt64.toNat = geometry.offset.toInt.toNat := by
    rw [Int64.toNat_toUInt64_of_le nonneg, Int64.toNatClampNeg, Int32.toInt_toInt64]
  have whole : (UInt64.ofNat poolLength).toNat = poolLength :=
    UInt64.toNat_ofNat_of_lt' (Nat.lt_trans short (by decide))
  rw [UInt64.le_iff_toNat_le, whole, position]
  omega

/-- **Nothing is cut off.** In machine words the check decides as in exact integers, and reports the
same numbers. -/
theorem checkInWords_eq (geometry : BufferGeometry) (short : poolLength < 9223372036854775808)
    (supported : List PixelFormat) :
    geometry.checkInWords poolLength supported = geometry.check poolLength supported := by
  have misplaced := geometry.misplaced_iff short
  have flat : (geometry.width ≤ 0 ∨ geometry.height ≤ 0) ↔
      (geometry.width.toInt ≤ 0 ∨ geometry.height.toInt ≤ 0) :=
    or_congr Int32.le_iff_toInt_le Int32.le_iff_toInt_le
  have narrow : geometry.stride.toInt64 < geometry.width.toInt64 * Int64.ofNat geometry.pixelSize ↔
      geometry.stride.toInt < geometry.width.toInt * geometry.pixelSize := by
    rw [Int64.lt_iff_toInt_lt, toInt_row, Int32.toInt_toInt64]
  have long : Int64.ofNat poolLength <
        geometry.offset.toInt64 + geometry.height.toInt64 * geometry.stride.toInt64 ↔
      (poolLength : Int) < geometry.offset.toInt +
        geometry.height.toInt * geometry.stride.toInt := by
    rw [Int64.lt_iff_toInt_lt, toInt_end, Int64.toInt_ofNat_of_lt short]
  simp only [checkInWords, check, misplaced, flat, narrow, long, toInt_mul_toInt64]

end Words

end BufferGeometry

/-- No live buffer has a handle, and no pool lists it. -/
structure Connection.IsUnused (client : Connection) (id : BufferId) : Prop where
  dead : id ∉ client.buffers.keys
  unlisted : ∀ owner ∈ client.pools.values, id ∉ owner.buffers

namespace Server

/-- A new buffer comes last on its connection and in its pool. -/
def CarvedLast (server after : Server) (client : Connection) (pool : PoolId) (id : BufferId)
    (geometry : BufferGeometry) : Prop :=
  after = server.putBack { client with
    nextIndex := client.nextIndex + 1
    buffers := ⟨client.buffers.entries ++ [(id, { pool, geometry })]⟩
    pools := client.pools.modify pool fun owner => { owner with buffers := owner.buffers ++ [id] } }

/-- **What a new buffer changes.** Its handle is the next one of the connection; the buffer has the
geometry asked for and no surface refers to it; and nothing changes but that it is there and that
its pool lists it. It comes last unless its handle is in use. -/
structure Carved (server after : Server) (client : Connection) (pool : PoolId) (id : BufferId)
    (geometry : BufferGeometry) : Prop where
  drawn : id = ⟨pool.connection, client.nextIndex⟩
  held : after.buffer? id = some { pool, geometry }
  free : Buffer.state { pool, geometry } = .free
  others : ∀ other ≠ id, after.buffer? other = server.buffer? other
  left : after = server.putBack { client with
    nextIndex := client.nextIndex + 1
    buffers := client.buffers.insert id { pool, geometry }
    pools := client.pools.modify pool fun owner => owner.enlist id }
  last : client.IsUnused id → server.CarvedLast after client pool id geometry

/-- **How the creation of a buffer is decided.** It succeeds exactly if all conditions hold, and
otherwise it reports the first that fails and changes nothing. No number is cut off on the way. -/
structure DecidesCarving (server : Server) (client : Connection) (pool : PoolId) (owner : Pool)
    (geometry : BufferGeometry) : Prop where
  ok_iff : (∃ id, (server.createBuffer pool geometry).answer = .ok id) ↔
    ∀ entry ∈ geometry.clauses owner.length server.formats, entry.1
  error_iff : ∀ cause, (server.createBuffer pool geometry).answer = .error cause ↔
    FirstFailing (geometry.clauses owner.length server.formats) cause
  words : geometry.checkInWords owner.length server.formats =
    geometry.check owner.length server.formats
  refused : ∀ cause, (server.createBuffer pool geometry).answer = .error cause →
    (server.createBuffer pool geometry).state = server
  carved : ∀ id, (server.createBuffer pool geometry).answer = .ok id →
    server.Carved (server.createBuffer pool geometry).state client pool id geometry

section Creation

variable {server : Server} {client : Connection} {pool : PoolId} {owner : Pool}
  {geometry : BufferGeometry}

/-- All that the creation of a buffer in a live pool depends on is the check of its geometry. -/
theorem createBuffer_of_live (found : server.connection? pool.connection = some client)
    (held : client.pools.get? pool = some owner) :
    server.createBuffer pool geometry =
      match geometry.check owner.length server.formats with
      | .error cause => .refuse server cause
      | .ok () =>
        { answer := .ok (client.fresh .buffer)
          state := server.putBack (client.addBuffer pool geometry).2 } := by
  unfold createBuffer onConnection
  simp only [found, held]
  cases geometry.check owner.length server.formats <;> rfl

/-- A buffer with a new handle comes last wherever it is listed. -/
theorem carvedLast_addBuffer (own : client.id = pool.connection) (geometry : BufferGeometry)
    (unused : client.IsUnused ⟨pool.connection, client.nextIndex⟩) :
    server.CarvedLast (server.putBack (client.addBuffer pool geometry).2) client pool
      ⟨pool.connection, client.nextIndex⟩ geometry := by
  rw [← own] at unused ⊢
  have buffers (buffer : Buffer) : client.buffers.insert (client.fresh .buffer) buffer =
      ⟨client.buffers.entries ++ [(client.fresh .buffer, buffer)]⟩ :=
    congrArg Arena.mk (Arena.entries_insert_of_notMem unused.dead buffer)
  have pools : (client.pools.modify pool fun owner => owner.enlist (client.fresh .buffer)) =
      client.pools.modify pool fun owner =>
        { owner with buffers := owner.buffers ++ [client.fresh .buffer] } := by
    refine congrArg Arena.mk (List.map_congr_left fun entry listed => ?_)
    have unlisted := unused.unlisted entry.2 (List.mem_map.mpr ⟨entry, listed, rfl⟩)
    have last : entry.2.enlist (client.fresh .buffer) =
        { entry.2 with buffers := entry.2.buffers ++ [client.fresh .buffer] } :=
      if_neg unlisted
    simp only [last]
  change server.putBack { client with
    nextIndex := client.nextIndex + 1
    buffers := client.buffers.insert (client.fresh .buffer) { pool, geometry }
    pools := client.pools.modify pool fun owner => owner.enlist (client.fresh .buffer) } = _
  rw [buffers, pools]
  rfl

/-- A buffer that is added is carved out. -/
theorem carved_addBuffer (named : server.Named)
    (found : server.connection? pool.connection = some client) (geometry : BufferGeometry) :
    server.Carved (server.putBack (client.addBuffer pool geometry).2) client pool
      (client.fresh .buffer) geometry := by
  have own : client.id = pool.connection := named _ client found
  have buffer (id : BufferId) :
      (server.putBack (client.addBuffer pool geometry).2).buffer? id =
        if id = client.fresh .buffer then some { pool, geometry } else server.buffer? id := by
    unfold buffer?
    rw [connection?_putBack]
    change (if id.connection = client.id then _ else _ : Option Connection).bind _ = _
    by_cases here : id.connection = client.id
    · rw [if_pos here, here, own, found, Option.map_some, Option.bind_some]
      exact Arena.get?_insert ..
    · have apart : id ≠ client.fresh .buffer := fun same =>
        here (congrArg Handle.connection same)
      rw [if_neg here, if_neg apart]
      rfl
  refine ⟨?_, ?_, rfl, fun other apart => ?_, rfl, ?_⟩
  · rw [Connection.fresh, own]
  · rw [buffer, if_pos rfl]
  · rw [buffer, if_neg apart]
  · rw [Connection.fresh, own]
    exact carvedLast_addBuffer own geometry

/-- **Creation is decided by the conditions alone,** on a live pool whose length fits 32 bits. -/
theorem decidesCarving (named : server.Named)
    (found : server.connection? pool.connection = some client)
    (held : client.pools.get? pool = some owner) (short : owner.length ≤ 2147483647)
    (geometry : BufferGeometry) : server.DecidesCarving client pool owner geometry := by
  have words := geometry.checkInWords_eq (Nat.lt_of_le_of_lt short (by decide)) server.formats
  have created : server.createBuffer pool geometry = _ := createBuffer_of_live found held
  cases checked : geometry.check owner.length server.formats with
  | error cause =>
    simp only [checked] at created
    have fails : ¬ ∀ entry ∈ geometry.clauses owner.length server.formats, entry.1 := by
      intro holds
      cases checked.symm.trans (BufferGeometry.check_eq_ok_iff_clauses.mpr holds)
    refine ⟨⟨?_, fun holds => (fails holds).elim⟩, fun other => ?_, words, fun _ _ => ?_, ?_⟩
    · rintro ⟨id, answered⟩
      rw [created] at answered
      cases answered
    · rw [created, ← BufferGeometry.check_eq_error_iff, checked, Outcome.refuse,
        Except.error.injEq, Except.error.injEq]
    · rw [created]
      rfl
    · intro id answered
      rw [created] at answered
      cases answered
  | ok passed =>
    simp only [checked] at created
    have holds := BufferGeometry.check_eq_ok_iff_clauses.mp checked
    have answer : (server.createBuffer pool geometry).answer = .ok (client.fresh .buffer) := by
      rw [created]
    refine ⟨⟨fun _ => holds, fun _ => ⟨_, answer⟩⟩, fun cause => ?_, words, fun cause failed => ?_,
      fun id answered => ?_⟩
    · rw [answer, ← BufferGeometry.check_eq_error_iff, checked]
      constructor <;> intro impossible <;> cases impossible
    · cases answer.symm.trans failed
    · cases answer.symm.trans answered
      rw [created]
      exact carved_addBuffer named found geometry

end Creation

section Runs

variable {config : Config} {script : Script} {client : Connection} {pool : PoolId} {owner : Pool}
  {geometry : BufferGeometry} {host : Host} {id : BufferId}

/-- A client that is given a buffer had a handle left. -/
theorem drawnSince_lt_of_carved
    (short : Unexhausted config (script ++ [(host, .createBuffer pool geometry)]))
    (found : (after config script).connection? pool.connection = some client)
    (carved : (after config script).Carved
      ((after config script).createBuffer pool geometry).state client pool id geometry) :
    drawnSince config script pool.connection < UInt32.size := by
  have own : client.id = pool.connection := named_after config script _ client found
  have counted := short _ [] (List.append_nil _).symm pool.connection
  rw [drawnSince_concat, countOn, if_neg (fun accepted => Nat.zero_ne_one accepted.1)] at counted
  have reached : ((after config script).next host (.createBuffer pool geometry)).connection?
      pool.connection = some { client with
        nextIndex := client.nextIndex + 1
        buffers := client.buffers.insert id { pool, geometry }
        pools := client.pools.modify pool fun owner => owner.enlist id } := by
    change ((after config script).createBuffer pool geometry).state.connection? _ = _
    rw [carved.left, connection?_putBack, if_pos own.symm, found]
    rfl
  rw [drawnBy_eq found reached, Connection.drawnUntil_of_advanced rfl] at counted
  exact counted

/-- As long as handles last, the handle of a new buffer was not in use. -/
theorem isUnused_of_unexhausted
    (short : Unexhausted config (script ++ [(host, .createBuffer pool geometry)]))
    (found : (after config script).connection? pool.connection = some client)
    (carved : (after config script).Carved
      ((after config script).createBuffer pool geometry).state client pool id geometry) :
    client.IsUnused id := by
  have own : client.id = pool.connection := named_after config script _ client found
  have orderly := orderly_after script short.of_append _ client found
  have dead : id ∉ client.buffers.keys := by
    rw [carved.drawn, ← own]
    exact orderly.drawn.fresh_notMem (drawnSince_lt_of_carved short found carved) .buffer
  refine ⟨dead, fun owner held listed => ?_⟩
  obtain ⟨keeper, live⟩ := Arena.exists_get?_of_mem_values (orderly.drawn.nodup .pool) held
  obtain ⟨_, found, _⟩ := Arena.exists_of_view (orderly.enlisted keeper owner live id listed)
  exact dead (Arena.mem_keys_of_get? found)

/-- **A buffer is created exactly under its conditions.** After every script, in every live pool,
whatever the numbers of the geometry are: the buffer is created if all conditions hold, and else the
first that fails is reported and nothing changes. What is created has the geometry asked for, and
comes last on its connection and in its pool, unless the handle drawn for it is still in use. That
does not happen before the client runs out of handles. -/
theorem createBuffer_exact (config : Config) (script : Script) {pool : PoolId} {owner : Pool}
    (live : (after config script).pool? pool = some owner) (geometry : BufferGeometry) :
    ∃ client, (after config script).connection? pool.connection = some client ∧
      (after config script).DecidesCarving client pool owner geometry ∧
      ∀ host id, Unexhausted config (script ++ [(host, .createBuffer pool geometry)]) →
        ((after config script).createBuffer pool geometry).answer = .ok id →
        client.IsUnused id ∧ (after config script).CarvedLast
          ((after config script).createBuffer pool geometry).state client pool id geometry := by
  obtain ⟨client, found, held⟩ := pool?_eq_some.mp live
  have short := ((contained_after config script).2 _ client found).short pool owner held
  have decides := decidesCarving (named_after config script) found held short geometry
  refine ⟨client, found, decides, fun host id few answered => ?_⟩
  have carved := decides.carved id answered
  have unused := isUnused_of_unexhausted few found carved
  exact ⟨unused, carved.last unused⟩

/-- A product far above the range of 32 bits is out of bounds and reported in full; what fits is
carved out, behind the buffer that is there. -/
theorem createBuffer_exact_takenBack :
    ∃ owner, (after {} Script.takenBack).pool? ⟨⟨0⟩, 0⟩ = some owner ∧
      ((after {} Script.takenBack).createBuffer ⟨⟨0⟩, 0⟩
        ⟨0, 1, 2147483647, 2147483647, .argb8888⟩).answer =
          .error (.outOfBounds 0 4611686014132420609 16) ∧
      ∃ client, (after {} Script.takenBack).CarvedLast
        ((after {} Script.takenBack).createBuffer ⟨⟨0⟩, 0⟩ ⟨8, 2, 1, 8, .xrgb8888⟩).state client
        ⟨⟨0⟩, 0⟩ ⟨⟨0⟩, 3⟩ ⟨8, 2, 1, 8, .xrgb8888⟩ := by
  have live : (after {} Script.takenBack).pool? ⟨⟨0⟩, 0⟩ = some
      { mapping := { file := 0, length := 16 }, buffers := [⟨⟨0⟩, 1⟩] } := rfl
  obtain ⟨_, _, large, _⟩ :=
    createBuffer_exact {} Script.takenBack live ⟨0, 1, 2147483647, 2147483647, .argb8888⟩
  obtain ⟨client, _, _, last⟩ :=
    createBuffer_exact {} Script.takenBack live ⟨8, 2, 1, 8, .xrgb8888⟩
  refine ⟨_, live, ?_, client, (last .withFile _ ?_ rfl).2⟩
  · exact (large.error_iff _).mpr (BufferGeometry.check_eq_error_iff.mp rfl)
  · exact unexhausted_of_length _ (by decide)

end Runs

end Server

/-- A client has two buffers in a pool and gave up a surface. -/
def Script.carvedTwice : Script :=
  let client : ConnectionId := ⟨0⟩
  [.connect, .createPool client (.regular 0 .readWrite) 16,
    .createBuffer ⟨client, 0⟩ ⟨0, 2, 1, 8, .argb8888⟩,
    .createBuffer ⟨client, 0⟩ ⟨8, 2, 1, 8, .argb8888⟩, .createSurface client 4,
    .destroySurface ⟨client, 3⟩].map fun operation => (.withFile, operation)

/-- The client turns its counter to the handle of the first buffer. -/
def Script.carvedAround : Script :=
  carvedTwice.turning ⟨⟨0⟩, 3⟩ (UInt32.size - 3) []

/-- **A buffer in the place of another one.** Once the counter has gone around, the handle that is
drawn for a buffer is that of a live buffer. The new buffer replaces that one and comes first, on
its connection and in its pool. -/
theorem Server.createBuffer_replaces_carvedAround :
    ((after {} Script.carvedAround).createBuffer ⟨⟨0⟩, 0⟩ ⟨0, 1, 1, 4, .xrgb8888⟩).answer =
        .ok ⟨⟨0⟩, 1⟩ ∧
      (after {} Script.carvedAround).buffer? ⟨⟨0⟩, 1⟩ =
        some { pool := ⟨⟨0⟩, 0⟩, geometry := ⟨0, 2, 1, 8, .argb8888⟩ } ∧
      ((after {} Script.carvedAround).createBuffer ⟨⟨0⟩, 0⟩ ⟨0, 1, 1, 4, .xrgb8888⟩).state.buffer?
        ⟨⟨0⟩, 1⟩ = some { pool := ⟨⟨0⟩, 0⟩, geometry := ⟨0, 1, 1, 4, .xrgb8888⟩ } ∧
      ((after {} Script.carvedAround).createBuffer ⟨⟨0⟩, 0⟩ ⟨0, 1, 1, 4, .xrgb8888⟩).state.buffersOf
        ⟨⟨0⟩, 0⟩ = [⟨⟨0⟩, 1⟩, ⟨⟨0⟩, 2⟩] ∧
      (((after {} Script.carvedAround).createBuffer ⟨⟨0⟩, 0⟩ ⟨0, 1, 1, 4, .xrgb8888⟩).state.pool?
        ⟨⟨0⟩, 0⟩).map Pool.buffers = some [⟨⟨0⟩, 1⟩, ⟨⟨0⟩, 2⟩] := by
  have around : after {} Script.carvedAround =
      ((after {} Script.carvedTwice).turnedTo ⟨0⟩ 1).run [] :=
    after_turning {} (by decide) rfl rfl (by decide) []
  rw [around]
  exact ⟨rfl, rfl, rfl, rfl, rfl⟩

end DisplayServer
