import DisplayServer.Buffer

/-! # Surfaces

What a client asks of a surface is gathered in the *pending* state and shows nowhere until the
client commits. A commit makes the pending state current, all at once: a value that was asked for
replaces the current one (`SurfaceContent.update`), the damage is replaced, and the frame callbacks
join those still waiting for a presentation.
-/

namespace DisplayServer

/-- A part of a surface that has to be drawn again. -/
inductive Damage where
  /-- A rectangle in surface coordinates. -/
  | surface (rect : Rectangle)
  /-- A rectangle in buffer coordinates. -/
  | buffer (rect : Rectangle)
deriving DecidableEq, Repr

/-- What a client attached to a surface since its last commit. -/
inductive Attachment where
  /-- Nothing: the surface is to have no buffer. -/
  | removed
  | buffer (buffer : BufferId)
deriving DecidableEq, Repr

/-- What a surface can be used as, settled once and for all. -/
inductive Role where
  | window
  | cursor
deriving DecidableEq, Repr

/-- The word for a role in messages. -/
def Role.title : Role → String
  | window => "Window"
  | cursor => "Cursor"

/-- What a client asked for since its last commit. -/
structure PendingState where
  /-- The attachment, if there was one. -/
  attachment : Option Attachment := none
  /-- The offset of the next buffer from the current one. -/
  delta : Option Point := none
  scale : Option Int32 := none
  transform : Option Transform := none
  /-- The damage, oldest first. -/
  damage : List Damage := []
  /-- The frame callbacks, oldest first. -/
  callbacks : List CallbackId := []
deriving DecidableEq, Repr

/-- What a surface shows. -/
structure SurfaceContent where
  /-- The committed buffer; its handle may have stopped resolving since. -/
  buffer : Option BufferId := none
  /-- The dimensions of the committed buffer, zero without one. -/
  size : Size := .zero
  /-- The last committed offset. -/
  delta : Point := .zero
  scale : Int32 := 1
  transform : Transform := .normal
deriving DecidableEq, Repr

/-- Whether a surface has a buffer, or is about to get one. -/
inductive SurfaceStatus where
  /-- Nothing attached, and no live buffer committed. -/
  | unattached
  /-- A buffer is attached. -/
  | hasPendingBuffer
  /-- A live buffer is committed, and none is attached. -/
  | hasCommittedBuffer
deriving DecidableEq, Repr

def SurfaceStatus.name : SurfaceStatus → String
  | unattached => "unattached"
  | hasPendingBuffer => "has_pending_buffer"
  | hasCommittedBuffer => "has_committed_buffer"

/-- Something a client draws on. -/
structure Surface where
  /-- The version of the capability that the surface was created through. -/
  version : UInt32
  /-- What was asked for since the last commit. -/
  pending : PendingState := {}
  current : SurfaceContent := {}
  /-- The damage of the last commit, until it is presented. -/
  damage : List Damage := []
  /-- The committed frame callbacks that did not fire yet, oldest first. -/
  callbacks : List CallbackId := []
  role : Option Role := none
  windowSurface : Option WindowSurfaceId := none
deriving DecidableEq, Repr

/-- Why a request on a surface is refused. -/
inductive SurfaceError where
  /-- From version 5 on an attachment carries no offset. -/
  | invalidOffset (x y : Int32)
  /-- The buffer is dead or belongs to another client. -/
  | invalidBuffer (buffer : BufferId)
  /-- A scale is at least 1. -/
  | invalidScale (scale : Int32)
  | alreadyHasRole (current : Role)
  /-- The connection or the surface is gone. -/
  | dead
deriving DecidableEq, Repr

/-- What is said of a surface that has another role. -/
def alreadyHasRoleText (current : Role) : String :=
  "surface already has the " ++ current.title ++ " role"

def SurfaceError.message : SurfaceError → String
  | invalidOffset x y =>
    "non-zero attach offset (" ++ toString x ++ ", " ++ toString y ++ ") on a version 5 surface"
  | invalidBuffer buffer => buffer.text ++ " cannot be attached"
  | invalidScale scale => "invalid buffer scale " ++ toString scale
  | alreadyHasRole current => alreadyHasRoleText current
  | dead => deadText

namespace SurfaceContent

/-- Takes over the offset, the scale and the transform that were asked for. -/
def update (content : SurfaceContent) (pending : PendingState) : SurfaceContent :=
  { content with
    delta := pending.delta.getD content.delta
    scale := pending.scale.getD content.scale
    transform := pending.transform.getD content.transform }

/-- Shows a buffer of some dimensions, or none. -/
def showBuffer (content : SurfaceContent) (buffer : Option BufferId) (size : Size) :
    SurfaceContent :=
  { content with buffer, size }

end SurfaceContent

namespace Surface

/-- Whether attachments to this surface carry an offset. -/
def attachesWithOffset (surface : Surface) : Bool :=
  decide (surface.version < 5)

def mapPending (surface : Surface) (change : PendingState → PendingState) : Surface :=
  { surface with pending := change surface.pending }

/-- Records an attachment. Before version 5 it carries the offset along. -/
def attach (surface : Surface) (attachment : Attachment) (offset : Point) : Surface :=
  surface.mapPending fun pending =>
    { pending with
      attachment := some attachment
      delta := if surface.attachesWithOffset then some offset else pending.delta }

def setOffset (surface : Surface) (offset : Point) : Surface :=
  surface.mapPending fun pending => { pending with delta := some offset }

def setScale (surface : Surface) (scale : Int32) : Surface :=
  surface.mapPending fun pending => { pending with scale := some scale }

def setTransform (surface : Surface) (transform : Transform) : Surface :=
  surface.mapPending fun pending => { pending with transform := some transform }

def addDamage (surface : Surface) (damage : Damage) : Surface :=
  surface.mapPending fun pending => { pending with damage := pending.damage ++ [damage] }

def addCallback (surface : Surface) (callback : CallbackId) : Surface :=
  surface.mapPending fun pending => { pending with callbacks := pending.callbacks ++ [callback] }

/-- Makes the pending state current, with `content` for the buffer and its dimensions. -/
def promote (surface : Surface) (content : SurfaceContent) : Surface :=
  { surface with
    pending := {}
    current := content.update surface.pending
    damage := surface.pending.damage
    callbacks := surface.callbacks ++ surface.pending.callbacks }

/-- The content was presented: the damage is done with and the callbacks have fired. -/
def presented (surface : Surface) : Surface :=
  { surface with damage := [], callbacks := [] }

/-- Takes on a role. A surface keeps the role it has, and may be given it again. -/
def assumeRole (surface : Surface) (role : Role) : Except SurfaceError Surface :=
  match surface.role with
  | none => .ok { surface with role := some role }
  | some current => if current = role then .ok surface else .error (.alreadyHasRole current)

/-- All frame callbacks that did not fire: the committed ones, then the pending ones. -/
def waitingCallbacks (surface : Surface) : List CallbackId :=
  surface.callbacks ++ surface.pending.callbacks

end Surface

end DisplayServer
