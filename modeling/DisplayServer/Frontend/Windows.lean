import DisplayServer.Frontend.Delivery
import DisplayServer.Wire.Request

/-! # Requests on windows

Window surfaces are created through the window shell, and toplevels through window surfaces. Popups
are accepted and dismissed at once. A client is disconnected for asking for what a surface cannot
become; other requests that fail are only logged.
-/

namespace DisplayServer.Turn

open Wire

/-- Creates the window surface of a surface. -/
def createWindowSurface (turn : Turn) (id created : ObjectId) (surface : ObjectIndex) : Turn :=
  match (turn.frontend.object? ⟨id.client, surface⟩).map ProtocolObject.resource with
  | some (.surface surface) =>
    if (turn.frontend.server.windowSurfaceOf? surface).isSome then
      turn.postError id .role "Surface already has an xdg_surface."
    else
      let outcome := turn.frontend.server.getWindowSurface surface
      let turn := turn.absorb outcome
      match outcome.answer with
      | .ok windowSurface => turn.establish created (.windowSurface windowSurface id.index)
      | .error (.alreadyHasRole _) => turn.postError id .role "Surface already has a role."
      | .error _ => turn.note .windowSurfaceFailed
  | _ => turn

/-- Creates the toplevel of a window surface. Its first configuration is delivered at once. -/
def createToplevel (turn : Turn) (id created : ObjectId) (windowSurface : WindowSurfaceId)
    (shell : ObjectIndex) : Turn :=
  let outcome := turn.frontend.server.getToplevel windowSurface
  let turn := turn.absorb outcome
  match outcome.answer with
  | .ok toplevel =>
    let objects : ToplevelObjects := { toplevel := created, windowSurface := id }
    (((turn.establish created (.toplevel toplevel)).modify fun frontend =>
      { frontend with toplevels := frontend.toplevels.insert toplevel objects }).notify
        (.newToplevel toplevel)).flush
  | .error .alreadyConstructed =>
    turn.postError id .alreadyConstructed "xdg_surface already has a role object."
  | .error (.alreadyHasRole _) =>
    turn.postError ⟨id.client, shell⟩ .role "Surface already has a role."
  | .error cause => turn.postError id .notConstructed cause.message

/-- Takes over what a request on a window did, and logs that it failed if it did. -/
def settleOnWindow (turn : Turn) (failure : LogMessage)
    (outcome : Outcome Server (Except WindowError Unit)) : Turn :=
  let turn := turn.absorb outcome
  match outcome.answer with
  | .ok () => turn
  | .error _ => turn.note failure

/-- Carries out a request on a window surface. -/
def onWindowSurface (turn : Turn) (id created : ObjectId) (windowSurface : WindowSurfaceId)
    (shell : ObjectIndex) : Request → Turn
  | .getToplevel => turn.createToplevel id created windowSurface shell
  | .getPopup => ((turn.note .popupDismissed).establish created .popup).send created .popupDone
  | .setGeometry rect =>
    turn.settleOnWindow .windowGeometryIgnored
      (turn.frontend.server.setWindowGeometry windowSurface rect)
  | .ackConfigure serial =>
    turn.settleOnWindow .acknowledgementFailed
      (turn.frontend.server.ackConfigure windowSurface ⟨serial⟩)
  | _ => turn

/-- Carries out a request on a toplevel. -/
def onToplevel (turn : Turn) (toplevel : ToplevelId) : Request → Turn
  | .setTitle title =>
    turn.settleOnWindow .toplevelRequestFailed (turn.frontend.server.setTitle toplevel title)
  | .setAppId appId =>
    turn.settleOnWindow .toplevelRequestFailed (turn.frontend.server.setAppId toplevel appId)
  | _ => turn

end DisplayServer.Turn
