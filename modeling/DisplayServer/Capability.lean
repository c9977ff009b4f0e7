/-! # Capabilities

A capability is a named factory with a highest version. The server advertises three of them, to
every client and in a fixed order; a client binds one by its name, in a version of at least 1 and at
most the advertised one.
-/

namespace DisplayServer

/-- What a capability is good for. -/
inductive CapabilityKind where
  /-- Creates surfaces. -/
  | compositor
  /-- Creates shared-memory pools. -/
  | sharedMemory
  /-- Makes surfaces windows. -/
  | windowShell
deriving DecidableEq, Repr

def CapabilityKind.name : CapabilityKind → String
  | compositor => "compositor"
  | sharedMemory => "shm"
  | windowShell => "window_shell"

/-- A named factory with a highest version. -/
structure Capability where
  /-- The name that clients bind it by. -/
  name : String
  version : UInt32
  /-- What it is good for. -/
  kind : CapabilityKind
deriving DecidableEq, Repr

namespace Capability

/-- The advertised capabilities, in the order of advertisement. -/
def advertised : List Capability :=
  [⟨"wl_compositor", 6, .compositor⟩, ⟨"wl_shm", 1, .sharedMemory⟩,
    ⟨"xdg_wm_base", 3, .windowShell⟩]

/-- The capability of a name. -/
def ofName? (name : String) : Option Capability :=
  advertised.find? fun capability => capability.name == name

/-- The capability of a kind. -/
def ofKind? (kind : CapabilityKind) : Option Capability :=
  advertised.find? fun capability => decide (capability.kind = kind)

end Capability

/-- A capability as a client bound it. -/
structure Binding where
  kind : CapabilityKind
  version : UInt32
deriving DecidableEq, Repr

/-- Why a capability cannot be bound. -/
inductive BindError where
  | unknownCapability (name : String)
  /-- The capability does not have this version. -/
  | unsupportedVersion (name : String) (requested max : UInt32)
  | dead
deriving DecidableEq, Repr

end DisplayServer
