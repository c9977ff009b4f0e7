import DisplayServer.Connection.Surfaces

/-! # The windows of a connection

A surface and its window surface name each other, and so do a window surface and its toplevel.
Destroying a window object clears the name in the object above it, and takes the object below it
along; the role of the surface stays.
-/

namespace DisplayServer.Connection

def modifyWindow (client : Connection) (id : WindowSurfaceId)
    (change : WindowSurface → WindowSurface) : Connection :=
  { client with windowSurfaces := client.windowSurfaces.modify id change }

def modifyToplevel (client : Connection) (id : ToplevelId) (change : Toplevel → Toplevel) :
    Connection :=
  { client with toplevels := client.toplevels.modify id change }

def windowSurfaceOf? (client : Connection) (id : SurfaceId) : Option WindowSurfaceId := do
  let surface ← client.surfaces.get? id
  surface.windowSurface.filter client.windowSurfaces.contains

/-- What asking for a window surface did. -/
structure WindowGrant where
  id : WindowSurfaceId
  client : Connection
  isNew : Bool
deriving Repr

/-- Gives a surface the window role and answers its window surface, a new one if it has none. -/
def getWindowSurface (client : Connection) (id : SurfaceId) : Except WindowError WindowGrant :=
  match client.surfaces.get? id with
  | none => .error .invalidSurface
  | some surface =>
    match surface.assumeRole .window with
    | .error (.alreadyHasRole current) => .error (.alreadyHasRole current)
    | .error _ => .error .invalidSurface
    | .ok surface =>
      let client := client.modifySurface id fun _ => surface
      match client.windowSurfaceOf? id with
      | some window => .ok { id := window, client, isNew := false }
      | none =>
        let (window, client) := client.draw .windowSurface
        let client := client.modifySurface id fun surface =>
          { surface with windowSurface := some window }
        .ok
          { id := window
            client := { client with
              windowSurfaces := client.windowSurfaces.insert window { surface := id } }
            isNew := true }

/-- Suggests a size to a toplevel; the answer is the serial to acknowledge. -/
def configure (client : Connection) (id : ToplevelId) (size : Size) :
    Except WindowError (Serial × Connection) :=
  match client.toplevels.get? id with
  | none => .error .dead
  | some toplevel =>
    match client.windowSurfaces.get? toplevel.windowSurface with
    | none => .error .dead
    | some window =>
      let (serial, window) := window.configure
      let client := client.modifyToplevel id fun toplevel => { toplevel with size }
      let client := client.modifyWindow toplevel.windowSurface fun _ => window
      .ok (serial, client.emit [.configure toplevel.windowSurface id size serial])

/-- Suggests a size to a toplevel, as `configure` does. The size is entered before the window
surface is looked up, and stays entered when there is none. -/
def suggest (client : Connection) (id : ToplevelId) (size : Size) :
    Except WindowError Serial × Connection :=
  match client.configure id size with
  | .ok (serial, client) => (.ok serial, client)
  | .error cause =>
    (.error cause, client.modifyToplevel id fun toplevel => { toplevel with size })

/-- Gives a window surface its toplevel, and suggests a size to it. -/
def getToplevel (client : Connection) (id : WindowSurfaceId) (size : Size) :
    Except WindowError (ToplevelId × Connection) :=
  match client.windowSurfaces.get? id with
  | none => .error .dead
  | some window =>
    if window.toplevel.isSome then .error .alreadyConstructed
    else do
      let (toplevel, client) := client.draw .toplevel
      let record : Toplevel := { windowSurface := id, surface := window.surface, size }
      let client := { client with toplevels := client.toplevels.insert toplevel record }
      let client := client.modifyWindow id fun window => { window with toplevel := some toplevel }
      let (_, client) ← client.configure toplevel size
      return (toplevel, client)

/-- Destroys a window surface and its toplevel. The surface loses its window object and keeps its
role. -/
def destroyWindowSurface? (client : Connection) (id : WindowSurfaceId) : Option Connection :=
  (client.windowSurfaces.get? id).map fun window =>
    (client.removeWindow id).modifySurface window.surface fun surface =>
      if surface.windowSurface = some id then { surface with windowSurface := none } else surface

/-- Destroys a toplevel; its window surface may get a new one. -/
def destroyToplevel? (client : Connection) (id : ToplevelId) : Option Connection :=
  (client.toplevels.get? id).map fun toplevel =>
    ({ client with toplevels := client.toplevels.erase id }).modifyWindow toplevel.windowSurface
      fun window => { window with toplevel := none }

end DisplayServer.Connection
