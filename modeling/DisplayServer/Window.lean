import DisplayServer.Serial
import DisplayServer.Surface

/-! # Windows

A surface becomes a window by getting a *window surface*, and the window surface gets a *toplevel*.
The toplevel is asked to take a size by a configure event, whose serial the client acknowledges.
Serials count up for each window surface on its own, across all toplevels it ever has.
Acknowledgements are taken as they come: one that is late, repeated or unknown is only logged.
-/

namespace DisplayServer

/-- The window object of a surface. -/
structure WindowSurface where
  surface : SurfaceId
  toplevel : Option ToplevelId := none
  serials : SerialCounter := {}
  lastSent : Option Serial := none
  lastAcked : Option Serial := none
  /-- The part of the surface that makes up the window. -/
  geometry : Option Rectangle := none
deriving DecidableEq, Repr

/-- The toplevel of a window surface. -/
structure Toplevel where
  windowSurface : WindowSurfaceId
  surface : SurfaceId
  title : Option String := none
  appId : Option String := none
  /-- The size suggested last. -/
  size : Size
deriving DecidableEq, Repr

/-- Why a request on a window is refused. -/
inductive WindowError where
  /-- The surface is gone. -/
  | invalidSurface
  | alreadyHasRole (current : Role)
  /-- The window surface has a toplevel. -/
  | alreadyConstructed
  /-- The window geometry is empty. -/
  | invalidGeometry (rect : Rectangle)
  /-- The connection or the window object is gone. -/
  | dead
deriving DecidableEq, Repr

def WindowError.message : WindowError → String
  | invalidSurface => "the surface is not alive"
  | alreadyHasRole current => alreadyHasRoleText current
  | alreadyConstructed => "window surface already constructed"
  | invalidGeometry rect => "invalid window geometry " ++ rect.diagnostic
  | dead => deadText

namespace WindowSurface

/-- Draws the serial of the next configure event. -/
def configure (window : WindowSurface) : Serial × WindowSurface :=
  let (serial, serials) := window.serials.draw
  (serial, { window with serials, lastSent := some serial })

/-- Whether a serial may have been sent: one that is not newer than the last one sent. -/
def mayHaveSent (window : WindowSurface) (serial : Serial) : Bool :=
  match window.lastSent with
  | some sent => sent.isNoOlderThan serial
  | none => false

/-- Whether a serial is older than the one acknowledged last. -/
def isLate (window : WindowSurface) (serial : Serial) : Bool :=
  match window.lastAcked with
  | some acked => !serial.isNoOlderThan acked
  | none => false

def acknowledge (window : WindowSurface) (serial : Serial) : WindowSurface :=
  { window with lastAcked := some serial }

end WindowSurface

end DisplayServer
