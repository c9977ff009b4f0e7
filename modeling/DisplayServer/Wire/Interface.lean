/-! # Interfaces and their requests

An object on the wire has an interface and a version. The interface lists the requests that the
object takes: for each its name, the version from which on it exists, whether it destroys the
object, and the arguments it carries (`Interface.requests`).
-/

namespace DisplayServer.Wire

/-- The interfaces of objects on the wire. -/
inductive Interface where
  | compositor
  | surface
  | region
  | sharedMemory
  | pool
  | buffer
  | callback
  | windowShell
  | positioner
  | windowSurface
  | toplevel
  | popup
  /-- An interface of which the server has no objects: seats and outputs. -/
  | absent
deriving DecidableEq, Repr

/-- What an argument of a request is. -/
inductive ArgumentKind where
  /-- A signed integer. -/
  | integer
  /-- An unsigned integer. -/
  | word
  | text
  | descriptor
  | newObject (interface : Interface)
  | object (interface : Interface)
  | objectOrNone (interface : Interface)
deriving DecidableEq, Repr

/-- The shape of a request. -/
structure Signature where
  name : String
  arguments : List ArgumentKind := []
  /-- The version from which on the request exists. -/
  since : UInt32 := 1
  /-- Whether the object is destroyed by the request. -/
  isDestructor : Bool := false
deriving DecidableEq, Repr

/-- The interface of the object that a request creates, if it creates one. -/
def Signature.created? (signature : Signature) : Option Interface :=
  signature.arguments.findSome? fun
    | .newObject interface => some interface
    | _ => none

namespace Interface

/-- The request by which most objects are destroyed. -/
def destroy : Signature := { name := "destroy", isDestructor := true }

/-- The requests that objects of an interface take. -/
def requests : Interface → List Signature
  | compositor =>
    [{ name := "create_surface", arguments := [.newObject surface] },
     { name := "create_region", arguments := [.newObject region] }]
  | surface =>
    [destroy,
     { name := "attach", arguments := [.objectOrNone buffer, .integer, .integer] },
     { name := "damage", arguments := [.integer, .integer, .integer, .integer] },
     { name := "frame", arguments := [.newObject callback] },
     { name := "set_opaque_region", arguments := [.objectOrNone region] },
     { name := "set_input_region", arguments := [.objectOrNone region] },
     { name := "commit" },
     { name := "set_buffer_transform", arguments := [.integer], since := 2 },
     { name := "set_buffer_scale", arguments := [.integer], since := 3 },
     { name := "damage_buffer", arguments := [.integer, .integer, .integer, .integer], since := 4 },
     { name := "offset", arguments := [.integer, .integer], since := 5 }]
  | region =>
    [destroy,
     { name := "add", arguments := [.integer, .integer, .integer, .integer] },
     { name := "subtract", arguments := [.integer, .integer, .integer, .integer] }]
  | sharedMemory =>
    [{ name := "create_pool", arguments := [.newObject pool, .descriptor, .integer] },
     { name := "release", since := 2, isDestructor := true }]
  | pool =>
    [{ name := "create_buffer",
       arguments := [.newObject buffer, .integer, .integer, .integer, .integer, .word] },
     destroy,
     { name := "resize", arguments := [.integer] }]
  | buffer => [destroy]
  | callback => []
  | windowShell =>
    [destroy,
     { name := "create_positioner", arguments := [.newObject positioner] },
     { name := "get_xdg_surface", arguments := [.newObject windowSurface, .object surface] },
     { name := "pong", arguments := [.word] }]
  | positioner =>
    [destroy,
     { name := "set_size", arguments := [.integer, .integer] },
     { name := "set_anchor_rect", arguments := [.integer, .integer, .integer, .integer] },
     { name := "set_anchor", arguments := [.word] },
     { name := "set_gravity", arguments := [.word] },
     { name := "set_constraint_adjustment", arguments := [.word] },
     { name := "set_offset", arguments := [.integer, .integer] },
     { name := "set_reactive", since := 3 },
     { name := "set_parent_size", arguments := [.integer, .integer], since := 3 },
     { name := "set_parent_configure", arguments := [.word], since := 3 }]
  | windowSurface =>
    [destroy,
     { name := "get_toplevel", arguments := [.newObject toplevel] },
     { name := "get_popup",
       arguments := [.newObject popup, .objectOrNone windowSurface, .object positioner] },
     { name := "set_window_geometry", arguments := [.integer, .integer, .integer, .integer] },
     { name := "ack_configure", arguments := [.word] }]
  | toplevel =>
    [destroy,
     { name := "set_parent", arguments := [.objectOrNone toplevel] },
     { name := "set_title", arguments := [.text] },
     { name := "set_app_id", arguments := [.text] },
     { name := "show_window_menu", arguments := [.object absent, .word, .integer, .integer] },
     { name := "move", arguments := [.object absent, .word] },
     { name := "resize", arguments := [.object absent, .word, .word] },
     { name := "set_max_size", arguments := [.integer, .integer] },
     { name := "set_min_size", arguments := [.integer, .integer] },
     { name := "set_maximized" },
     { name := "unset_maximized" },
     { name := "set_fullscreen", arguments := [.objectOrNone absent] },
     { name := "unset_fullscreen" },
     { name := "set_minimized" }]
  | popup =>
    [destroy,
     { name := "grab", arguments := [.object absent, .word] },
     { name := "reposition", arguments := [.object positioner, .word], since := 3 }]
  | absent => []

def signature? (interface : Interface) (name : String) : Option Signature :=
  interface.requests.find? fun signature => signature.name == name

end Interface

end DisplayServer.Wire
