import DisplayServer.Frontend.Turn
import DisplayServer.Wire.Format

/-! # Delivery of events

Events wait on the server until the frontend delivers them: each is said through the object that it
concerns (`Turn.deliver`), in the order in which it was queued. A fired callback is spent: its
object is dead from then on.
-/

namespace DisplayServer.Turn

open Wire

/-- Says an event through the object that it concerns. An event for which there is no object is
dropped. -/
def deliver (turn : Turn) : Event → Turn
  | .format binding format =>
    match turn.frontend.formatListeners.get? binding with
    | none => turn
    | some listener =>
      match numberOf? format with
      | some number => turn.send listener (.format number)
      | none => turn.note .formatNotOnWire
  | .bufferReleased buffer =>
    match turn.frontend.buffers.get? buffer with
    | none => turn
    | some object => turn.send object .release
  | .configure _ toplevel size serial =>
    match turn.frontend.toplevels.get? toplevel with
    | none => turn
    | some objects =>
      (turn.send objects.toplevel (.configureToplevel size)).send objects.windowSurface
        (.configureSurface serial.value)
  | .frameDone callback time =>
    match turn.frontend.callbacks.get? callback with
    | none => turn
    | some object =>
      let turn := turn.modify fun frontend =>
        { frontend with callbacks := frontend.callbacks.erase callback }
      (turn.send object (.done time)).expire object
  | .bufferAccessFailed buffer =>
    match turn.frontend.buffers.get? buffer with
    | none => turn
    | some object =>
      turn.postError object .invalidDescriptor "Error accessing the buffer contents."

/-- Delivers all events that wait on the server. -/
def flush (turn : Turn) : Turn :=
  let (events, server) := turn.frontend.server.drainEvents
  events.foldl (fun turn (_, event) => turn.deliver event)
    (turn.modify fun frontend => { frontend with server })

/-- All surfaces were presented: the callbacks fire and everything is delivered. -/
def present (turn : Turn) (time : UInt32) : Turn :=
  (turn.modify fun frontend =>
    { frontend with server := frontend.server.presentAll time }).flush

end DisplayServer.Turn
