import DisplayServer.Geometry
import DisplayServer.Wire.Argument
import DisplayServer.Wire.Interface

/-! # Requests

The requests that have an effect, with their arguments by name. Regions, positioners and popups, and
the hints that clients give for their windows, are accepted and mean nothing here.
-/

namespace DisplayServer.Wire

/-- A request that a client makes of one of its objects. -/
inductive Request where
  | createSurface
  | createRegion
  | createPool (descriptor : Descriptor) (size : Int32)
  | createBuffer (offset width height stride : Int32) (format : UInt32)
  | resizePool (size : Int32)
  | attach (buffer : Option ObjectIndex) (offset : Point)
  | setOffset (offset : Point)
  | damage (rect : Rectangle)
  | damageBuffer (rect : Rectangle)
  | frame
  | commit
  | setTransform (value : Int32)
  | setScale (scale : Int32)
  | createPositioner
  | getWindowSurface (surface : ObjectIndex)
  | getToplevel
  | getPopup
  | setGeometry (rect : Rectangle)
  | ackConfigure (serial : UInt32)
  | setTitle (title : String)
  | setAppId (appId : String)
  /-- A request without an effect of its own. -/
  | ignored
deriving DecidableEq, Repr

namespace Request

/-- The request of a name and arguments, made of an object of some interface. -/
def ofArguments (interface : Interface) (name : String) (arguments : List Argument) : Request :=
  match interface, name, arguments with
  | .compositor, "create_surface", _ => createSurface
  | .compositor, "create_region", _ => createRegion
  | .sharedMemory, "create_pool", [_, .descriptor descriptor, .integer size] =>
    createPool descriptor size
  | .pool, "create_buffer",
      [_, .integer start, .integer width, .integer height, .integer stride, .word format] =>
    createBuffer start width height stride format
  | .pool, "resize", [.integer size] => resizePool size
  | .surface, "attach", [.object buffer, .integer x, .integer y] => attach (some buffer) ⟨x, y⟩
  | .surface, "attach", [.none, .integer x, .integer y] => attach none ⟨x, y⟩
  | .surface, "offset", [.integer x, .integer y] => setOffset ⟨x, y⟩
  | .surface, "damage", [.integer x, .integer y, .integer w, .integer h] =>
    damage (.ofEdges x y w h)
  | .surface, "damage_buffer", [.integer x, .integer y, .integer w, .integer h] =>
    damageBuffer (.ofEdges x y w h)
  | .surface, "frame", _ => frame
  | .surface, "commit", _ => commit
  | .surface, "set_buffer_transform", [.integer value] => setTransform value
  | .surface, "set_buffer_scale", [.integer scale] => setScale scale
  | .windowShell, "create_positioner", _ => createPositioner
  | .windowShell, "get_xdg_surface", [_, .object surface] => getWindowSurface surface
  | .windowSurface, "get_toplevel", _ => getToplevel
  | .windowSurface, "get_popup", _ => getPopup
  | .windowSurface, "set_window_geometry", [.integer x, .integer y, .integer w, .integer h] =>
    setGeometry (.ofEdges x y w h)
  | .windowSurface, "ack_configure", [.word serial] => ackConfigure serial
  | .toplevel, "set_title", [.text title] => setTitle title
  | .toplevel, "set_app_id", [.text appId] => setAppId appId
  | _, _, _ => ignored

end Request

end DisplayServer.Wire
