import DisplayServer.Frontend.Delivery
import DisplayServer.Wire.Request

/-! # Requests on surfaces

Surfaces are created through the compositor. A client is disconnected for an offset, a scale or a
transform that no surface can have; whatever else goes wrong with a request on a surface is only
logged.
-/

namespace DisplayServer.Turn

open Wire

def createSurface (turn : Turn) (id created : ObjectId) (version : UInt32) : Turn :=
  match (turn.frontend.clients.get? id.client).bind Client.connection with
  | none => turn
  | some connection =>
    let outcome := turn.frontend.server.createSurface connection version
    let turn := turn.absorb outcome
    match outcome.answer with
    | .ok surface => turn.establish created (.surface surface)
    | .error _ => turn.postError id .connectionGone "client connection is gone"

/-- Answers a failed request on a surface. -/
def refuseOnSurface (turn : Turn) (id : ObjectId) : SurfaceError → Turn
  | .invalidOffset _ _ =>
    turn.postError id .invalidOffset "Attaching with an offset is not allowed from version 5 on."
  | .invalidScale scale =>
    turn.postError id .invalidScale
      ("Buffer scale " ++ toString scale ++ " must be at least 1.")
  | .invalidBuffer _ | .alreadyHasRole _ | .dead => turn.note .surfaceRequestIgnored

/-- Takes over what a request on a surface did, and answers it if it failed. -/
def settleOnSurface (turn : Turn) (id : ObjectId)
    (outcome : Outcome Server (Except SurfaceError Unit)) : Turn :=
  let turn := turn.absorb outcome
  match outcome.answer with
  | .ok () => turn
  | .error cause => turn.refuseOnSurface id cause

/-- Attaches a buffer, or none. An object that stands for no buffer is not attached. -/
def attach (turn : Turn) (id : ObjectId) (surface : SurfaceId) (buffer : Option ObjectIndex)
    (offset : Point) : Turn :=
  match buffer with
  | none => turn.settleOnSurface id (turn.frontend.server.attach surface .removed offset)
  | some index =>
    match (turn.frontend.object? ⟨id.client, index⟩).map ProtocolObject.resource with
    | some (.buffer buffer _) =>
      turn.settleOnSurface id (turn.frontend.server.attach surface (.buffer buffer) offset)
    | _ => turn.note .foreignBufferIgnored

/-- Asks to be told of the next presentation, through a new callback. -/
def frame (turn : Turn) (id created : ObjectId) (surface : SurfaceId) : Turn :=
  let outcome := turn.frontend.server.frame surface
  let turn := turn.absorb outcome
  match outcome.answer with
  | .ok callback =>
    (turn.establish created .callback).modify fun frontend =>
      { frontend with callbacks := frontend.callbacks.insert callback created }
  | .error cause => turn.refuseOnSurface id cause

/-- Commits a surface, and delivers what came of it. -/
def commit (turn : Turn) (host : Host) (id : ObjectId) (surface : SurfaceId) : Turn :=
  let outcome := turn.frontend.server.commit host surface
  let turn := turn.absorb outcome
  match outcome.answer with
  | .ok () => (turn.notify (.commit surface)).flush
  | .error cause => turn.refuseOnSurface id cause

/-- Asks for a transform, by its number. -/
def setTransform (turn : Turn) (id : ObjectId) (surface : SurfaceId) (value : Int32) : Turn :=
  match Transform.ofWire? value.toInt with
  | some transform =>
    turn.settleOnSurface id (turn.frontend.server.setTransform surface transform)
  | none =>
    turn.postError id .invalidTransform
      ("Unknown buffer transform " ++ toString value.toUInt32 ++ ".")

/-- Carries out a request on a surface. -/
def onSurface (turn : Turn) (host : Host) (id created : ObjectId) (surface : SurfaceId) :
    Request → Turn
  | .attach buffer offset => turn.attach id surface buffer offset
  | .setOffset offset => turn.settleOnSurface id (turn.frontend.server.setOffset surface offset)
  | .damage rect =>
    turn.settleOnSurface id (turn.frontend.server.addDamage surface (.surface rect))
  | .damageBuffer rect =>
    turn.settleOnSurface id (turn.frontend.server.addDamage surface (.buffer rect))
  | .frame => turn.frame id created surface
  | .commit => turn.commit host id surface
  | .setTransform value => turn.setTransform id surface value
  | .setScale scale => turn.settleOnSurface id (turn.frontend.server.setScale surface scale)
  | _ => turn

end DisplayServer.Turn
