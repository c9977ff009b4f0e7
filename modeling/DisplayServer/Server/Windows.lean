import DisplayServer.Server.Surfaces

/-! # Windows on the server

The requests of clients on their windows.
-/

namespace DisplayServer.Server

def windowSurface? (server : Server) (id : WindowSurfaceId) : Option WindowSurface := do
  (← server.connection? id.connection).windowSurfaces.get? id

def toplevel? (server : Server) (id : ToplevelId) : Option Toplevel := do
  (← server.connection? id.connection).toplevels.get? id

def windowSurfaceOf? (server : Server) (id : SurfaceId) : Option WindowSurfaceId := do
  (← server.connection? id.connection).windowSurfaceOf? id

def toplevelOf? (server : Server) (id : WindowSurfaceId) : Option ToplevelId := do
  (← server.windowSurface? id).toplevel

/-- Gives a surface the window role and answers its window surface. -/
def getWindowSurface (server : Server) (id : SurfaceId) :
    Outcome Server (Except WindowError WindowSurfaceId) :=
  match server.connection? id.connection with
  | none => .refuse server .invalidSurface
  | some client =>
    match client.getWindowSurface id with
    | .error cause => .refuse server cause
    | .ok grant =>
      { answer := .ok grant.id
        state := server.putBack grant.client
        log := if grant.isNew then [.windowSurfaceCreated] else [] }

/-- Gives a window surface its toplevel, and suggests the default size to it. -/
def getToplevel (server : Server) (id : WindowSurfaceId) :
    Outcome Server (Except WindowError ToplevelId) :=
  .ofAttempt server [.toplevelCreated] <|
    server.onConnection id.connection .dead fun client =>
      client.getToplevel id server.config.defaultWindowSize

/-- Suggests a size to a toplevel; the answer is the serial to acknowledge. -/
def sendConfigure (server : Server) (id : ToplevelId) (size : Size) :
    Outcome Server (Except WindowError Serial) :=
  match server.connection? id.connection with
  | none => .refuse server .dead
  | some client =>
    let (answer, client) := client.suggest id size
    { answer, state := server.putBack client }

/-- Takes the acknowledgement of a serial, whatever the serial. -/
def ackConfigure (server : Server) (id : WindowSurfaceId) (serial : Serial) :
    Outcome Server (Except WindowError Unit) :=
  match server.connection? id.connection with
  | none => .refuse server .dead
  | some client =>
    match client.windowSurfaces.get? id with
    | none => .refuse server .dead
    | some window =>
      { answer := .ok ()
        state := server.putBack (client.modifyWindow id fun window => window.acknowledge serial)
        log :=
          (if window.mayHaveSent serial then [] else [.unknownAcknowledgement]) ++
            if window.isLate serial then [.lateAcknowledgement] else [] }

/-- Carries out a request on a live window surface. -/
def onWindowSurface (server : Server) (id : WindowSurfaceId)
    (change : WindowSurface → Except WindowError WindowSurface) :
    Outcome Server (Except WindowError Unit) :=
  .ofAttempt server [] <|
    server.onConnection id.connection .dead fun client =>
      match client.windowSurfaces.get? id with
      | none => .error .dead
      | some window => do
        let window ← change window
        return ((), client.modifyWindow id fun _ => window)

/-- Sets the part of a surface that makes up the window; it must not be empty. -/
def setWindowGeometry (server : Server) (id : WindowSurfaceId) (rect : Rectangle) :
    Outcome Server (Except WindowError Unit) :=
  server.onWindowSurface id fun window =>
    if rect.size.isPositive then .ok { window with geometry := some rect }
    else .error (.invalidGeometry rect)

/-- Carries out a request on a live toplevel. -/
def onToplevel (server : Server) (id : ToplevelId) (change : Toplevel → Toplevel) :
    Outcome Server (Except WindowError Unit) :=
  .ofAttempt server [] <|
    server.onConnection id.connection .dead fun client =>
      match client.toplevels.get? id with
      | none => .error .dead
      | some _ => .ok ((), client.modifyToplevel id change)

def setTitle (server : Server) (id : ToplevelId) (title : String) :
    Outcome Server (Except WindowError Unit) :=
  server.onToplevel id fun toplevel => { toplevel with title := some title }

/-- Sets the application that a toplevel belongs to. -/
def setAppId (server : Server) (id : ToplevelId) (appId : String) :
    Outcome Server (Except WindowError Unit) :=
  server.onToplevel id fun toplevel => { toplevel with appId := some appId }

/-- Destroys a window surface and its toplevel. -/
def destroyWindowSurface (server : Server) (id : WindowSurfaceId) : Outcome Server Unit :=
  match server.connection? id.connection with
  | none => { answer := (), state := server }
  | some client =>
    match client.destroyWindowSurface? id with
    | none => { answer := (), state := server }
    | some client =>
      { answer := (), state := server.putBack client, log := [.windowSurfaceDestroyed] }

def destroyToplevel (server : Server) (id : ToplevelId) : Outcome Server Unit :=
  match server.connection? id.connection with
  | none => { answer := (), state := server }
  | some client =>
    match client.destroyToplevel? id with
    | none => { answer := (), state := server }
    | some client => { answer := (), state := server.putBack client, log := [.toplevelDestroyed] }

end DisplayServer.Server
