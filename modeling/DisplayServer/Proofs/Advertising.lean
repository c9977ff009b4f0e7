import DisplayServer.Proofs.Carving
import DisplayServer.Proofs.Draining

/-! # Formats are advertised as they are accepted

The supported formats are fixed when the server is started (`Config.Yields`). A binding of the
shared-memory capability is told all of them, and nobody else is told anything
(`Server.Advertises`); and a buffer whose geometry is valid but for its format is created just if
the format is one of them (`Server.AcceptsOnly`).
-/

namespace DisplayServer

/-- The formats asked for: those of every server, and behind them the configured ones, without those
whose pixel size is unknown. -/
def Config.wanted (config : Config) : List PixelFormat :=
  [.argb8888, .xrgb8888] ++ config.formats.filter (·.bytesPerPixel?.isSome)

/-- Five bits of red, six of green and five of blue. -/
def PixelFormat.rgb565 : PixelFormat := ⟨fourCC 'R' 'G' '1' '6', by decide⟩

/-- A planar format, whose pixels have no size of their own. -/
def PixelFormat.nv12 : PixelFormat := ⟨fourCC 'N' 'V' '1' '2', by decide⟩

/-- A format given twice, one of every server, and one of unknown pixel size. -/
def Config.mixed : Config := { formats := [.rgb565, .argb8888, .nv12, .rgb565] }

/-- **The formats that a configuration leads to.** -/
structure Config.Yields (config : Config) (formats : List PixelFormat) : Prop where
  /-- Each stands where it was asked for first. -/
  eq : formats = config.wanted.eraseDups
  mandatory : [.argb8888, .xrgb8888] <+: formats
  nodup : formats.Nodup
  mem_iff : ∀ format, format ∈ formats ↔ format = .argb8888 ∨ format = .xrgb8888 ∨
    format ∈ config.formats ∧ ∃ bytes, format.bytesPerPixel? = some bytes

/-- A geometry that is valid in a pool of some length, whether or not its format is supported. -/
structure BufferGeometry.IsPlaced (geometry : BufferGeometry) (length : Nat) : Prop where
  offset : 0 ≤ geometry.offset.toInt ∧ geometry.offset.toInt < length
  dimensions : 0 < geometry.width.toInt ∧ 0 < geometry.height.toInt
  row : geometry.width.toInt * geometry.pixelSize ≤ geometry.stride.toInt
  extent : geometry.offset.toInt + geometry.height.toInt * geometry.stride.toInt ≤ length

namespace Server

/-- **A fresh binding is told the formats.** The shared-memory capability is bound just if the
client is connected and asks for its only version. The formats are queued in their order for the new
binding; nothing is queued for another client. -/
structure Advertises (server : Server) (formats : List PixelFormat) (connection : ConnectionId)
    (version : UInt32) : Prop where
  ok_iff : (∃ id, (server.bind connection "wl_shm" version).answer = .ok id) ↔
    server.isConnected connection = true ∧ version = 1
  bound : ∀ id, (server.bind connection "wl_shm" version).answer = .ok id →
    (server.bind connection "wl_shm" version).state.binding? id = some ⟨.sharedMemory, version⟩
  told : ∀ id, (server.bind connection "wl_shm" version).answer = .ok id →
    (server.bind connection "wl_shm" version).state.eventsOf connection =
      server.eventsOf connection ++ formats.map (.format id)
  others : ∀ other ≠ connection,
    (server.bind connection "wl_shm" version).state.eventsOf other = server.eventsOf other

/-- **A format decides over a geometry that is valid otherwise.** -/
structure AcceptsOnly (server : Server) (formats : List PixelFormat) (pool : PoolId)
    (geometry : BufferGeometry) : Prop where
  ok_iff : (∃ id, (server.createBuffer pool geometry).answer = .ok id) ↔
    geometry.format ∈ formats
  refused : geometry.format ∉ formats →
    server.createBuffer pool geometry = .refuse server (.unsupportedFormat geometry.format)

/-! ### The supported formats -/

section Formats

variable {config : Config} {supported formats : List PixelFormat}

/-- A format that is supported is not supported twice. -/
theorem eraseDups_append_cons_of_mem {format : PixelFormat} (known : format ∈ supported)
    (formats : List PixelFormat) :
    (supported ++ format :: formats).eraseDups = (supported ++ formats).eraseDups := by
  rw [List.eraseDups_append, List.eraseDups_append, List.removeAll, List.removeAll,
    List.filter_cons_of_neg (by simpa using known)]

/-- A format that is new comes last. -/
theorem eraseDups_concat_of_notMem {format : PixelFormat}
    (distinct : supported.eraseDups = supported) (fresh : format ∉ supported) :
    (supported ++ [format]).eraseDups = supported ++ [format] := by
  rw [List.eraseDups_append, distinct, List.removeAll,
    List.filter_cons_of_pos (by simpa using fresh)]
  rfl

/-- **Formats are supported in the order in which they are asked for first.** -/
theorem supportFormats_eq (formats : List PixelFormat)
    (distinct : supported.eraseDups = supported) :
    (supportFormats supported formats).1 =
      (supported ++ formats.filter (·.bytesPerPixel?.isSome)).eraseDups := by
  -- What is supported so far has no repetitions; that is kept from format to format.
  induction formats generalizing supported with
  | nil => rw [List.filter_nil, List.append_nil, distinct, supportFormats]
  | cons format rest ih =>
    change (supportFormats (supportFormat supported format).1 rest).1 = _
    by_cases known : format ∈ supported
    · have same : (supportFormat supported format).1 = supported := by
        rw [supportFormat, if_pos known]
      rw [same, ih distinct, List.filter_cons]
      split
      · rw [eraseDups_append_cons_of_mem known]
      · rfl
    cases sized : format.bytesPerPixel? with
    | none =>
      have same : (supportFormat supported format).1 = supported := by
        rw [supportFormat, if_neg known, if_pos (by rw [sized]; rfl)]
      rw [same, ih distinct, List.filter_cons_of_neg (by rw [sized]; exact Bool.false_ne_true)]
    | some bytes =>
      have added : (supportFormat supported format).1 = supported ++ [format] := by
        rw [supportFormat, if_neg known, if_neg (by rw [sized]; exact Bool.false_ne_true)]
      rw [added, ih (eraseDups_concat_of_notMem distinct known), List.append_assoc,
        List.filter_cons_of_pos (by rw [sized]; rfl)]
      rfl

/-- No format is supported twice. -/
theorem nodup_supportFormats (formats : List PixelFormat) (distinct : supported.Nodup) :
    (supportFormats supported formats).1.Nodup := by
  induction formats generalizing supported with
  | nil => exact distinct
  | cons format rest ih =>
    have kept : (supportFormat supported format).1.Nodup := by
      unfold supportFormat
      split
      · exact distinct
      split
      · exact distinct
      · rename_i fresh _
        exact List.nodup_append.mpr ⟨distinct, List.nodup_singleton format,
          fun one listed other last same => fresh (List.mem_singleton.mp last ▸ same ▸ listed)⟩
    exact ih kept

/-- **Every configuration leads to its formats.** -/
theorem yields_start (config : Config) : config.Yields (Server.start config).state.formats := by
  have eq : (Server.start config).state.formats = config.wanted.eraseDups :=
    supportFormats_eq config.formats (by decide)
  have mandatory : [.argb8888, .xrgb8888] <+: config.wanted.eraseDups := by
    rw [Config.wanted, List.eraseDups_append]
    exact List.prefix_append _ _
  refine ⟨eq, eq ▸ mandatory, nodup_supportFormats _ (by decide), fun format => ?_⟩
  rw [eq, List.mem_eraseDups, Config.wanted, List.mem_append, List.mem_filter, List.mem_cons,
    List.mem_singleton, or_assoc, Option.isSome_iff_exists]

end Formats

/-! ### What a binding is told -/

section Bindings

variable {server : Server}

/-- A connected client gets the shared-memory capability in its only version. -/
theorem bind_of_live {connection : ConnectionId} {client : Connection}
    (live : server.connection? connection = some client) :
    server.bind connection "wl_shm" 1 =
      { answer := .ok (client.fresh .binding)
        state := server.putBack (client.bind .sharedMemory 1 server.formats).2
        log := [.capabilityBound] } := by
  have attempt : server.bind connection "wl_shm" 1 = .ofAttempt server [.capabilityBound]
      (server.onConnection connection .dead fun client =>
        .ok (client.bind .sharedMemory 1 server.formats)) := rfl
  rw [attempt, onConnection, live]
  rfl

/-- Shared memory is bound in version 1 only, and on a live connection. -/
theorem bind_of_refused {connection : ConnectionId} {version : UInt32}
    (refused : ¬ (server.isConnected connection = true ∧ version = 1)) :
    ∃ cause, server.bind connection "wl_shm" version = .refuse server cause := by
  have known : Capability.ofName? "wl_shm" = some ⟨"wl_shm", 1, .sharedMemory⟩ := rfl
  unfold bind
  simp only [known]
  split
  · exact ⟨_, rfl⟩
  · rename_i offered
    have only : version = 1 := by
      rw [← UInt32.toNat_inj, UInt32.lt_iff_toNat_lt, UInt32.toNat_zero, UInt32.toNat_one]
        at offered
      rw [← UInt32.toNat_inj, UInt32.toNat_one]
      omega
    have gone : server.connection? connection = none := by
      cases live : server.connection? connection with
      | none => rfl
      | some client => exact (refused ⟨isConnected_of_connection? live, only⟩).elim
    rw [onConnection, gone]
    exact ⟨_, rfl⟩

/-- A binding shows in the connection of its client. -/
theorem connection?_bind (named : server.Named) {connection : ConnectionId} {client : Connection}
    (live : server.connection? connection = some client) (id : ConnectionId) :
    (server.bind connection "wl_shm" 1).state.connection? id =
      if id = connection then some (client.bind .sharedMemory 1 server.formats).2
      else server.connection? id := by
  have own : client.id = connection := named _ client live
  rw [bind_of_live live, connection?_putBack]
  change (if id = client.id then _ else _) = _
  rw [own]
  split
  · rename_i same
    rw [same, live, Option.map_some]
  · rfl

/-- **Every binding of the shared-memory capability is told the supported formats.** -/
theorem advertises (named : server.Named) (connection : ConnectionId) (version : UInt32) :
    server.Advertises server.formats connection version := by
  by_cases granted : server.isConnected connection = true ∧ version = 1
  · obtain ⟨client, live⟩ : ∃ client, server.connection? connection = some client :=
      Option.isSome_iff_exists.mp granted.1
    have bound := congrArg Outcome.answer (bind_of_live live)
    have given (id : BindingId) (answered : (server.bind connection "wl_shm" 1).answer = .ok id) :
        id = ⟨connection, client.nextIndex⟩ := by
      rw [bound, Connection.fresh, named _ client live] at answered
      exact (Except.ok.inj answered).symm
    have reached := connection?_bind named live
    rw [granted.2]
    refine ⟨iff_of_true ⟨_, bound⟩ ⟨granted.1, rfl⟩, fun id answered => ?_,
      fun id answered => ?_, fun other apart => ?_⟩
    · rw [given id answered, binding?, reached, if_pos rfl]
      exact (Arena.get?_insert ..).trans (if_pos (by rw [named _ client live]))
    · rw [given id answered, eventsOf, eventsOf, reached, if_pos rfl, live, ← named _ client live]
      rfl
    · rw [eventsOf, eventsOf, reached, if_neg apart]
  · obtain ⟨cause, refused⟩ := bind_of_refused granted
    have failed (id : BindingId) :
        (server.bind connection "wl_shm" version).answer ≠ .ok id := by
      rw [refused]
      intro answered
      cases answered
    exact ⟨iff_of_false (not_exists.mpr failed) granted,
      fun id answered => (failed id answered).elim, fun id answered => (failed id answered).elim,
      fun other _ => by rw [refused]; rfl⟩

end Bindings

/-! ### What a buffer may have -/

section Creation

variable {server : Server} {client : Connection} {pool : PoolId} {owner : Pool}
  {geometry : BufferGeometry}

/-- A buffer that fits its pool is accepted if its format is supported. -/
theorem acceptsOnly (found : server.connection? pool.connection = some client)
    (held : client.pools.get? pool = some owner) (placed : geometry.IsPlaced owner.length) :
    server.AcceptsOnly server.formats pool geometry := by
  have created : server.createBuffer pool geometry = _ := createBuffer_of_live found held
  have checked : geometry.check owner.length server.formats =
      if geometry.format ∉ server.formats then .error (.unsupportedFormat geometry.format)
      else .ok () := by
    obtain ⟨⟨_, _⟩, ⟨_, _⟩, _, _⟩ := placed
    simp only [BufferGeometry.check]
    rw [if_neg (by omega), if_neg (by omega), if_neg (by omega), if_neg (by omega)]
  rw [checked] at created
  by_cases supported : geometry.format ∈ server.formats
  · rw [if_neg (not_not.mpr supported)] at created
    exact ⟨iff_of_true ⟨_, congrArg Outcome.answer created⟩ supported,
      fun unsupported => (unsupported supported).elim⟩
  · rw [if_pos supported] at created
    refine ⟨iff_of_false ?_ supported, fun _ => created⟩
    rintro ⟨id, answered⟩
    rw [created] at answered
    cases answered

end Creation

/-- **Advertised formats are exactly the accepted ones.** After every script the supported formats
are those that the configuration leads to, each binding of the shared-memory capability is told them
in their order, and a buffer with a geometry that is valid otherwise is created just if its format
is one of them. -/
theorem advertised_formats_accepted (config : Config) (script : Script) :
    config.Yields (after config script).formats ∧
    (∀ connection version,
      (after config script).Advertises (after config script).formats connection version) ∧
    ∀ pool owner geometry, (after config script).pool? pool = some owner →
      geometry.IsPlaced owner.length →
      (after config script).AcceptsOnly (after config script).formats pool geometry := by
  refine ⟨?_, advertises (named_after config script), fun pool owner geometry live placed => ?_⟩
  · rw [formats_after]
    exact yields_start config
  · obtain ⟨client, found, held⟩ := pool?_eq_some.mp live
    exact acceptsOnly found held placed

/-- Of a configuration with a format of every server, a format given twice and one of unknown pixel
size, one format is added. It is told to a binding, and accepted; the unknown one is not. -/
theorem advertised_formats_accepted_mixed :
    (after .mixed Script.takenBack).formats = [.argb8888, .xrgb8888, .rgb565] ∧
    ((after .mixed Script.takenBack).bind ⟨0⟩ "wl_shm" 1).state.eventsOf ⟨0⟩ =
      [.bufferReleased ⟨⟨0⟩, 1⟩, .format ⟨⟨0⟩, 3⟩ .argb8888, .format ⟨⟨0⟩, 3⟩ .xrgb8888,
        .format ⟨⟨0⟩, 3⟩ .rgb565] ∧
    (∃ id, ((after .mixed Script.takenBack).createBuffer ⟨⟨0⟩, 0⟩
      ⟨0, 4, 2, 8, .rgb565⟩).answer = .ok id) ∧
    (after .mixed Script.takenBack).createBuffer ⟨⟨0⟩, 0⟩ ⟨0, 4, 2, 8, .nv12⟩ =
      .refuse (after .mixed Script.takenBack) (.unsupportedFormat .nv12) := by
  obtain ⟨yields, advertises, accepts⟩ := advertised_formats_accepted .mixed Script.takenBack
  have live : (after .mixed Script.takenBack).pool? ⟨⟨0⟩, 0⟩ =
      some { mapping := { file := 0, length := 16 }, buffers := [⟨⟨0⟩, 1⟩] } := rfl
  have formats : (after .mixed Script.takenBack).formats = [.argb8888, .xrgb8888, .rgb565] :=
    yields.eq.trans (by decide)
  rw [formats] at advertises accepts
  refine ⟨formats, ?_, ?_, ?_⟩
  · exact (advertises ⟨0⟩ 1).told ⟨⟨0⟩, 3⟩ rfl
  · exact (accepts _ _ ⟨0, 4, 2, 8, .rgb565⟩ live
      ⟨by decide, by decide, by decide, by decide⟩).ok_iff.mpr (by decide)
  · exact (accepts _ _ ⟨0, 4, 2, 8, .nv12⟩ live
      ⟨by decide, by decide, by decide, by decide⟩).refused (by decide)

end Server

end DisplayServer
