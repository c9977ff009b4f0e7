import DisplayServer.Outcome
import DisplayServer.Snapshot

/-! # Handing committed buffers on

Others follow what the clients commit without touching the state of the server. Whenever a surface
newly shows a buffer, the *metadata* of that buffer is entered into a view, under the surface, and
sent to every metadata subscriber; a *snapshot* of its contents is sent to every broadcast
subscriber. The queue of a broadcast subscriber is bounded: what does not fit is dropped for that
subscriber. A subscriber receives one message after another, at its own pace; a message that it did
not receive yet keeps its place. A subscriber that stopped listening is forgotten at the next
publication.
-/

namespace DisplayServer

/-- What is known of a buffer that a surface shows. -/
structure Metadata where
  surface : SurfaceId
  buffer : BufferId
  /-- Where and how the image lies in its storage. -/
  geometry : BufferGeometry
  /-- The file that backs the storage. -/
  file : FileId
  /-- What kind of storage it is. -/
  kind : BufferKind := .sharedMemory
deriving DecidableEq, Repr

/-- The name of a subscription. -/
abbrev SubscriberId := Nat

/-- One subscriber and what it did not receive yet. -/
structure Subscription (α : Type) where
  id : SubscriberId
  /-- What was sent and not received, oldest first. -/
  queue : List α := []
  /-- Whether the receiving end is still there. -/
  isListening : Bool := true
deriving DecidableEq, Repr

namespace Subscription

variable {α : Type}

/-- Queues an item, unless the queue is full. -/
def send (capacity : Option Nat) (item : α) (subscription : Subscription α) : Subscription α :=
  if capacity.any fun bound => decide (bound ≤ subscription.queue.length) then subscription
  else { subscription with queue := subscription.queue ++ [item] }

/-- Sends an item to all subscribers that still listen, and forgets the others. -/
def broadcast (capacity : Option Nat) (item : α) (subscriptions : List (Subscription α)) :
    List (Subscription α) :=
  (subscriptions.filter Subscription.isListening).map (send capacity item)

/-- The number of subscribers that stopped listening. -/
def gone (subscriptions : List (Subscription α)) : Nat :=
  subscriptions.countP fun subscription => !subscription.isListening

/-- What waits for a subscriber. -/
def waiting (subscriptions : List (Subscription α)) (id : SubscriberId) : List α :=
  match subscriptions.find? fun subscription => decide (subscription.id = id) with
  | some subscription => subscription.queue
  | none => []

/-- A subscriber receives what has waited longest for it, if anything waits. -/
def receive (subscriptions : List (Subscription α)) (id : SubscriberId) :
    Option α × List (Subscription α) :=
  ((waiting subscriptions id).head?,
    subscriptions.map fun subscription =>
      if subscription.id = id then { subscription with queue := subscription.queue.tail }
      else subscription)

/-- A subscriber receives one item after another, so many times. -/
def receiveTimes (subscriptions : List (Subscription α)) (id : SubscriberId) :
    Nat → List α × List (Subscription α)
  | 0 => ([], subscriptions)
  | count + 1 =>
    let (first, left) := receive subscriptions id
    let (rest, left) := receiveTimes left id count
    (first.toList ++ rest, left)

/-- A subscriber receives one item after another, until nothing waits for it. -/
def drain (subscriptions : List (Subscription α)) (id : SubscriberId) :
    List α × List (Subscription α) :=
  receiveTimes subscriptions id (waiting subscriptions id).length

/-- A subscriber stops listening. -/
def leave (subscriptions : List (Subscription α)) (id : SubscriberId) : List (Subscription α) :=
  subscriptions.map fun subscription =>
    if subscription.id = id then { subscription with queue := [], isListening := false }
    else subscription

end Subscription

/-- The number of snapshots that may wait for a broadcast subscriber. -/
def broadcastBacklog : Nat := 4

/-- What is known outside of the server. -/
structure Publisher where
  /-- The metadata of the buffer that each surface came to show last. -/
  view : Arena SurfaceId Metadata := .empty
  /-- The metadata subscribers, oldest first. -/
  metadataSubscribers : List (Subscription Metadata) := []
  /-- The broadcast subscribers, oldest first. -/
  broadcastSubscribers : List (Subscription Snapshot) := []
  nextSubscriber : SubscriberId := 0
deriving Repr

namespace Publisher

/-- Everything in the view, ordered by surface. -/
def sortedView (publisher : Publisher) : List Metadata :=
  publisher.view.values.mergeSort fun first second => first.surface.le second.surface

/-- Whether somebody subscribed to contents. -/
def wantsContents (publisher : Publisher) : Bool :=
  !publisher.broadcastSubscribers.isEmpty

def subscribeMetadata (publisher : Publisher) : SubscriberId × Publisher :=
  (publisher.nextSubscriber,
    { publisher with
      metadataSubscribers := publisher.metadataSubscribers ++ [{ id := publisher.nextSubscriber }]
      nextSubscriber := publisher.nextSubscriber + 1 })

def subscribeBroadcast (publisher : Publisher) : SubscriberId × Publisher :=
  (publisher.nextSubscriber,
    { publisher with
      broadcastSubscribers := publisher.broadcastSubscribers ++ [{ id := publisher.nextSubscriber }]
      nextSubscriber := publisher.nextSubscriber + 1 })

/-- A metadata subscriber receives the next message, if there is one. -/
def nextMetadata (publisher : Publisher) (id : SubscriberId) : Option Metadata × Publisher :=
  let (received, metadataSubscribers) := Subscription.receive publisher.metadataSubscribers id
  (received, { publisher with metadataSubscribers })

/-- A broadcast subscriber receives the next message, if there is one. -/
def nextSnapshot (publisher : Publisher) (id : SubscriberId) : Option Snapshot × Publisher :=
  let (received, broadcastSubscribers) := Subscription.receive publisher.broadcastSubscribers id
  (received, { publisher with broadcastSubscribers })

/-- A metadata subscriber receives everything that waits for it. -/
def receiveMetadata (publisher : Publisher) (id : SubscriberId) : List Metadata × Publisher :=
  let (received, metadataSubscribers) := Subscription.drain publisher.metadataSubscribers id
  (received, { publisher with metadataSubscribers })

/-- A broadcast subscriber receives everything that waits for it. -/
def receiveBroadcast (publisher : Publisher) (id : SubscriberId) : List Snapshot × Publisher :=
  let (received, broadcastSubscribers) := Subscription.drain publisher.broadcastSubscribers id
  (received, { publisher with broadcastSubscribers })

/-- A subscriber of either kind stops listening. -/
def unsubscribe (publisher : Publisher) (id : SubscriberId) : Publisher :=
  { publisher with
    metadataSubscribers := Subscription.leave publisher.metadataSubscribers id
    broadcastSubscribers := Subscription.leave publisher.broadcastSubscribers id }

/-- Enters metadata into the view and sends it out. -/
def publishMetadata (publisher : Publisher) (metadata : Metadata) : Publisher :=
  { publisher with
    view := publisher.view.insert metadata.surface metadata
    metadataSubscribers := Subscription.broadcast none metadata publisher.metadataSubscribers }

def publishSnapshot (publisher : Publisher) (snapshot : Snapshot) : Outcome Publisher Unit where
  answer := ()
  state :=
    { publisher with
      broadcastSubscribers :=
        Subscription.broadcast (some broadcastBacklog) snapshot publisher.broadcastSubscribers }
  log := List.replicate (Subscription.gone publisher.broadcastSubscribers) .broadcastUnsubscribed

/-- Takes a surface out of the view. -/
def forget (publisher : Publisher) (surface : SurfaceId) : Publisher :=
  { publisher with view := publisher.view.erase surface }

end Publisher

end DisplayServer
