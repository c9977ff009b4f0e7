import DisplayServer.Proofs.Publishing

/-! # Subscriptions

What is sent goes to the end of the queue of every subscriber that listens, unless the queue is
full, and a subscriber takes from the front of its queue, one item at a time or until the queue is
empty (`Subscription.Step.queue?_next`). What it received, followed by what waits for it, is therefore
everything that was sent to it, in order, but for what found no room (`Server.Feed.trace_balance`).

There are two kinds of subscriptions, to metadata and to snapshots. Both are a `Server.Feed`, and
what is true of every feed is said of feeds.
-/

namespace DisplayServer

namespace Subscription

variable {α : Type} {subscriptions : List (Subscription α)} {id : SubscriberId} {queue : List α}

/-- The queue of a subscriber that listens. -/
def queue? (subscriptions : List (Subscription α)) (id : SubscriberId) : Option (List α) :=
  ((subscriptions.find? fun subscription => decide (subscription.id = id)).filter
    Subscription.isListening).map Subscription.queue

/-- The first subscription under a number is the one that is looked up. -/
theorem queue?_cons (first : Subscription α) (rest : List (Subscription α)) :
    queue? (first :: rest) id =
      if first.id = id then if first.isListening then some first.queue else none
      else queue? rest id := by
  unfold queue?
  rw [List.find?_cons]
  by_cases here : first.id = id
  · simp only [here, decide_true, if_true, Option.filter_some]
    split <;> rfl
  · simp only [here, decide_false, if_false]

/-- What waits for somebody who listens is the whole queue. -/
theorem waiting_of_queue? (heard : queue? subscriptions id = some queue) :
    waiting subscriptions id = queue := by
  unfold queue? at heard
  unfold waiting
  cases found : subscriptions.find? fun subscription => decide (subscription.id = id) with
  | none =>
    rw [found] at heard
    cases heard
  | some subscription =>
    rw [found, Option.map_eq_some_iff] at heard
    obtain ⟨_, listening, rfl⟩ := heard
    rw [Option.filter_eq_some_iff] at listening
    cases listening.1
    rfl

/-- A subscriber that listens gets what is sent, unless its queue is full. -/
theorem queue?_broadcast (capacity : Option Nat) (item : α)
    (heard : queue? subscriptions id = some queue) :
    queue? (broadcast capacity item subscriptions) id =
      some (if capacity.any fun bound => decide (bound ≤ queue.length) then queue
        else queue ++ [item]) := by
  induction subscriptions with
  | nil => cases heard
  | cons first rest ih =>
    rw [queue?_cons] at heard
    by_cases here : first.id = id
    · rw [if_pos here] at heard
      split at heard
      · rename_i listening
        cases heard
        have sent : (send capacity item first).id = id ∧
            (send capacity item first).isListening = true := by
          unfold send
          split <;> exact ⟨here, listening⟩
        simp only [broadcast, List.filter_cons, listening, if_true, List.map_cons, queue?_cons,
          sent.1, sent.2]
        unfold send
        split <;> rfl
      · cases heard
    · rw [if_neg here] at heard
      have later := ih heard
      simp only [broadcast, List.filter_cons] at later ⊢
      split
      · have apart : (send capacity item first).id ≠ id := by
          unfold send
          split <;> exact here
        rw [List.map_cons, queue?_cons, if_neg apart]
        exact later
      · exact later

/-- Every change that leaves the names alone changes each subscription on its own. -/
theorem queue?_map {change : Subscription α → Subscription α}
    (named : ∀ subscription, (change subscription).id = subscription.id) (view : List α → List α)
    (changed : ∀ subscription, subscription.id = id →
      (change subscription).isListening = subscription.isListening ∧
        (change subscription).queue = view subscription.queue) :
    queue? (subscriptions.map change) id = (queue? subscriptions id).map view := by
  induction subscriptions with
  | nil => rfl
  | cons first rest ih =>
    rw [List.map_cons, queue?_cons, queue?_cons, named]
    by_cases here : first.id = id
    · obtain ⟨listening, queue⟩ := changed first here
      rw [if_pos here, if_pos here, listening, queue]
      split <;> rfl
    · rw [if_neg here, if_neg here, ih]

/-- A subscriber takes the front of its own queue, and of no other. -/
theorem queue?_receive (other : SubscriberId) :
    queue? (receive subscriptions other).2 id =
      (queue? subscriptions id).map fun queue => if id = other then queue.tail else queue := by
  apply queue?_map
  · intro subscription
    split <;> rfl
  · rintro subscription rfl
    split <;> exact ⟨rfl, rfl⟩

/-- What waits for a subscriber that received something is all but the front of what waited. -/
theorem waiting_receive : waiting (receive subscriptions id).2 id =
    (waiting subscriptions id).tail := by
  unfold waiting receive
  induction subscriptions with
  | nil => rfl
  | cons first rest ih =>
    rw [List.map_cons, List.find?_cons, List.find?_cons]
    by_cases here : first.id = id
    · simp only [here, if_true, decide_true]
    · simp only [here, if_false, decide_false]
      exact ih

private theorem receiveTimes_succ (count : Nat) : receiveTimes subscriptions id (count + 1) =
    ((receive subscriptions id).1.toList ++
        (receiveTimes (receive subscriptions id).2 id count).1,
      (receiveTimes (receive subscriptions id).2 id count).2) := rfl

/-- To receive so many times is to take so many items from the front of the queue. -/
theorem received_receiveTimes (count : Nat) :
    (receiveTimes subscriptions id count).1 = (waiting subscriptions id).take count := by
  induction count generalizing subscriptions with
  | zero => rfl
  | succ count ih =>
    rw [receiveTimes_succ, ih, waiting_receive, receive]
    cases waiting subscriptions id <;> simp

/-- To receive so many items takes as many from the queue, and leaves those of others alone. -/
theorem queue?_receiveTimes (other : SubscriberId) (count : Nat) :
    queue? (receiveTimes subscriptions other count).2 id =
      (queue? subscriptions id).map fun queue =>
        if id = other then queue.drop count else queue := by
  induction count generalizing subscriptions with
  | zero => simp [receiveTimes]
  | succ count ih =>
    rw [receiveTimes_succ, ih, queue?_receive, Option.map_map]
    refine congrArg (Option.map · _) (funext fun queue => ?_)
    by_cases own : id = other <;> simp [own]

/-- Who drains its queue receives all that waits. -/
theorem received_drain : (drain subscriptions id).1 = waiting subscriptions id := by
  rw [drain, received_receiveTimes, List.take_length]

/-- **A drained queue is empty,** and no other queue is touched. -/
theorem queue?_drain (other : SubscriberId) (heard : queue? subscriptions id = some queue) :
    queue? (drain subscriptions other).2 id = some (if id = other then [] else queue) := by
  rw [drain, queue?_receiveTimes, heard, Option.map_some]
  by_cases own : id = other
  · rw [if_pos own, if_pos own, ← own, waiting_of_queue? heard, List.drop_length]
  · rw [if_neg own, if_neg own]

/-- Another subscriber that stops listening leaves alone what waits for this one. -/
theorem queue?_leave {other : SubscriberId} (apart : other ≠ id) :
    queue? (leave subscriptions other) id = queue? subscriptions id := by
  refine Eq.trans (queue?_map ?_ (fun queue => queue) ?_) Option.map_id'
  · intro subscription
    split <;> rfl
  · rintro subscription rfl
    rw [if_neg fun same => apart same.symm]
    exact ⟨rfl, rfl⟩

/-- Another subscriber comes last. -/
theorem queue?_append (heard : queue? subscriptions id = some queue) (new : Subscription α) :
    queue? (subscriptions ++ [new]) id = some queue := by
  induction subscriptions with
  | nil => cases heard
  | cons first rest ih =>
    rw [queue?_cons] at heard
    rw [List.cons_append, queue?_cons]
    split at heard
    · rename_i here
      rw [if_pos here, heard]
    · rename_i apart
      rw [if_neg apart, ih heard]

/-- Nothing waits for a new subscriber. -/
theorem queue?_subscribe (fresh : id ∉ subscriptions.map Subscription.id) :
    queue? (subscriptions ++ [({ id } : Subscription α)]) id = some [] := by
  induction subscriptions with
  | nil => rw [List.nil_append, queue?_cons, if_pos rfl]; rfl
  | cons first rest ih =>
    rw [List.map_cons, List.mem_cons, not_or] at fresh
    rw [List.cons_append, queue?_cons, if_neg fun same => fresh.1 same.symm]
    exact ih fresh.2

/-- Nothing waits for a subscriber that stopped listening. -/
theorem waiting_leave : waiting (leave subscriptions id) id = [] := by
  induction subscriptions with
  | nil => rfl
  | cons first rest ih =>
    unfold waiting leave at ih ⊢
    rw [List.map_cons, List.find?_cons]
    by_cases here : first.id = id
    · simp only [here, if_true, decide_true]
    · simp only [here, if_false, decide_false]
      exact ih

private theorem map_id_broadcast (capacity : Option Nat) (item : α) :
    ((broadcast capacity item subscriptions).map Subscription.id).Sublist
      (subscriptions.map Subscription.id) := by
  have sent (subscription : Subscription α) :
      (send capacity item subscription).id = subscription.id := by
    unfold send
    split <;> rfl
  unfold broadcast
  rw [List.map_map, show Subscription.id ∘ send capacity item = Subscription.id from funext sent]
  exact List.filter_sublist.map _

/-- Nobody comes or goes when an item is received. -/
theorem map_id_receive (other : SubscriberId) :
    (receive subscriptions other).2.map Subscription.id = subscriptions.map Subscription.id := by
  unfold receive
  rw [List.map_map]
  refine List.map_congr_left fun subscription _ => ?_
  simp only [Function.comp_apply]
  split <;> rfl

/-- Nobody stops listening when an item is received. -/
theorem isListening_receive (other : SubscriberId)
    (attended : ∀ subscription ∈ subscriptions, subscription.isListening = true) :
    ∀ subscription ∈ (receive subscriptions other).2, subscription.isListening = true := by
  intro subscription listed
  obtain ⟨before, present, rfl⟩ := List.mem_map.mp listed
  split <;> exact attended before present

/-- Whoever receives, the same subscribers are there afterwards, and those who listened do so
still. -/
theorem map_id_drain (other : SubscriberId) :
    (drain subscriptions other).2.map Subscription.id = subscriptions.map Subscription.id := by
  unfold drain
  generalize (waiting subscriptions other).length = count
  induction count generalizing subscriptions with
  | zero => rfl
  | succ count ih =>
    rw [receiveTimes_succ]
    exact ih.trans (map_id_receive other)

/-- Nobody stops listening when everything is received. -/
theorem isListening_drain (other : SubscriberId)
    (attended : ∀ subscription ∈ subscriptions, subscription.isListening = true) :
    ∀ subscription ∈ (drain subscriptions other).2, subscription.isListening = true := by
  unfold drain
  generalize (waiting subscriptions other).length = count
  induction count generalizing subscriptions with
  | zero => exact attended
  | succ count ih =>
    rw [receiveTimes_succ]
    exact ih (isListening_receive other attended)

private theorem map_id_leave (other : SubscriberId) :
    (leave subscriptions other).map Subscription.id = subscriptions.map Subscription.id := by
  unfold leave
  rw [List.map_map]
  refine List.map_congr_left fun subscription _ => ?_
  simp only [Function.comp_apply]
  split <;> rfl

/-- What an operation does to the subscriptions of one kind. -/
inductive Step (α : Type)
  /-- Something is sent, or nothing at all. -/
  | send (item : Option α)
  | enroll (id : SubscriberId)
  | leave (id : SubscriberId)
  | receive (id : SubscriberId)
  | drain (id : SubscriberId)

namespace Step

/-- What the step makes of the subscriptions. -/
def next (capacity : Option Nat) (subscriptions : List (Subscription α)) :
    Step α → List (Subscription α)
  | send none => subscriptions
  | send (some item) => broadcast capacity item subscriptions
  | enroll id => subscriptions ++ [{ id }]
  | leave id => Subscription.leave subscriptions id
  | receive id => (Subscription.receive subscriptions id).2
  | drain id => (Subscription.drain subscriptions id).2

/-- What the step sends. -/
def sent : Step α → Option α
  | send item => item
  | _ => none

/-- What a subscriber gets of its queue. -/
def received (id : SubscriberId) (queue : List α) : Step α → List α
  | receive other => if other = id then queue.head?.toList else []
  | drain other => if other = id then queue else []
  | _ => []

/-- What goes to the end of a queue. -/
def admitted (capacity : Option Nat) (queue : List α) (step : Step α) : List α :=
  if capacity.any fun bound => decide (bound ≤ queue.length) then [] else step.sent.toList

private theorem received_nil (step : Step α) : step.received id [] = [] := by
  cases step with
  | receive other | drain other => exact ite_self _
  | _ => rfl

/-- Where nothing is sent, no queue admits anything. -/
theorem admitted_of_sent_none {capacity : Option Nat} {step : Step α} (silent : step.sent = none) :
    step.admitted capacity queue = [] := by
  rw [admitted, silent, Option.toList_none, ite_self]

/-- **What becomes of a queue.** What is sent goes to its end, unless it is full, and the subscriber
takes from its front. -/
theorem queue?_next (capacity : Option Nat) (heard : queue? subscriptions id = some queue)
    {step : Step α} (stays : step ≠ .leave id) :
    ∃ rest, queue? (step.next capacity subscriptions) id = some rest ∧
      step.received id queue ++ rest = queue ++ step.admitted capacity queue := by
  have idle {step : Step α} (silent : step.sent = none) :
      queue = queue ++ step.admitted capacity queue := by
    rw [admitted_of_sent_none silent, List.append_nil]
  cases step with
  | send item =>
    cases item with
    | none => exact ⟨queue, heard, idle rfl⟩
    | some item =>
      refine ⟨_, queue?_broadcast capacity item heard, ?_⟩
      simp only [received, admitted, sent, Option.toList_some, List.nil_append]
      split
      · exact (List.append_nil queue).symm
      · rfl
  | enroll other => exact ⟨queue, queue?_append heard _, idle rfl⟩
  | leave other =>
    have apart : other ≠ id := fun same => stays (congrArg leave same)
    exact ⟨queue, (queue?_leave apart).trans heard, idle rfl⟩
  | receive other =>
    refine ⟨if id = other then queue.tail else queue,
      (queue?_receive other).trans (congrArg _ heard), Eq.trans ?_ (idle rfl)⟩
    by_cases own : id = other
    · rw [received, if_pos own.symm, if_pos own]
      cases queue <;> rfl
    · rw [received, if_neg fun same => own same.symm, if_neg own, List.nil_append]
  | drain other =>
    refine ⟨if id = other then [] else queue, queue?_drain other heard, Eq.trans ?_ (idle rfl)⟩
    by_cases own : id = other
    · rw [received, if_pos own.symm, if_pos own, List.append_nil]
    · rw [received, if_neg fun same => own same.symm, if_neg own, List.nil_append]

/-- A subscriber whose queue is full misses what is sent, and no more once it received something. -/
example :
    let full : List (Subscription Nat) := [{ id := 0, queue := [1, 2, 3, 4] }]
    let left := (receive 0).next (some 4) full
    waiting ((send (some 5)).next (some 4) full) 0 = [1, 2, 3, 4] ∧
      waiting ((send (some 5)).next (some 4) left) 0 = [2, 3, 4, 5] := by
  decide

/-- Nobody is subscribed who did not enroll. -/
theorem mem_map_id_next {capacity : Option Nat} {step : Step α}
    (listed : id ∈ (step.next capacity subscriptions).map Subscription.id) :
    id ∈ subscriptions.map Subscription.id ∨ step = .enroll id := by
  cases step with
  | send item =>
    cases item with
    | none => exact .inl listed
    | some item => exact .inl ((map_id_broadcast capacity item).subset listed)
  | enroll other =>
    rw [next, List.map_append, List.mem_append] at listed
    rcases listed with earlier | last
    · exact .inl earlier
    · cases List.mem_singleton.mp last
      exact .inr rfl
  | leave other => exact .inl (map_id_leave other ▸ listed)
  | receive other => exact .inl (map_id_receive other ▸ listed)
  | drain other => exact .inl (map_id_drain other ▸ listed)

/-- What a subscriber gets of a step that comes just after it subscribed. -/
theorem waiting_next_subscribe (capacity : Option Nat)
    (fresh : id ∉ subscriptions.map Subscription.id) (step : Step α) :
    waiting (step.next capacity (subscriptions ++ [({ id } : Subscription α)])) id =
      step.admitted capacity [] := by
  by_cases leaves : step = .leave id
  -- A step may name a subscriber before it is there.
  · subst leaves
    rw [admitted_of_sent_none rfl]
    exact waiting_leave
  · obtain ⟨rest, reached, balance⟩ := queue?_next capacity (queue?_subscribe fresh) leaves
    rw [received_nil, List.nil_append, List.nil_append] at balance
    rw [waiting_of_queue? reached, balance]

end Step

end Subscription

/-- The number of subscribers that an operation enrolls. -/
def Operation.enrolled : Operation → Nat
  | subscribeMetadata | subscribeBroadcast => 1
  | _ => 0

namespace Publisher

/-- Surfaces that are forgotten leave the view, and nothing else changes. -/
theorem foldl_forget_view (publisher : Publisher) (surfaces : List SurfaceId) :
    surfaces.foldl forget publisher =
      { publisher with view := surfaces.foldl Arena.erase publisher.view } := by
  induction surfaces generalizing publisher with
  | nil => rfl
  | cons first rest ih => exact ih (publisher.forget first)

/-- No subscription bears the name of a later one. -/
structure Enrolled (publisher : Publisher) : Prop where
  metadata : ∀ id ∈ publisher.metadataSubscribers.map Subscription.id, id < publisher.nextSubscriber
  broadcast : ∀ id ∈ publisher.broadcastSubscribers.map Subscription.id,
    id < publisher.nextSubscriber

end Publisher

namespace Server

variable {server : Server} {host : Host} {operation : Operation} {id : SubscriberId}

/-- What an operation makes of what is published, but for the view. -/
def nextPublisher (server : Server) (host : Host) : Operation → Publisher
  | .commit id =>
    match server.announced id with
    | none => server.publisher
    | some metadata => server.publisher.announce metadata (server.copy? host metadata.buffer)
  | .subscribeMetadata => server.publisher.subscribeMetadata.2
  | .subscribeBroadcast => server.publisher.subscribeBroadcast.2
  | .unsubscribe id => server.publisher.unsubscribe id
  | .nextMetadata id => (server.publisher.nextMetadata id).2
  | .nextSnapshot id => (server.publisher.nextSnapshot id).2
  | .receiveMetadata id => (server.publisher.receiveMetadata id).2
  | .receiveBroadcast id => (server.publisher.receiveBroadcast id).2
  | _ => server.publisher

/-- Every operation does to the subscriptions what its step says, whatever happens to the view. -/
theorem publisher_next (named : server.Named) (host : Host) (operation : Operation) :
    ∃ view, (server.next host operation).publisher =
      { server.nextPublisher host operation with view } := by
  cases operation with
  | commit id => exact ⟨_, publisher_next_commit named⟩
  | disconnect id =>
    change ∃ view, (server.disconnect id).state.publisher = _
    unfold Server.disconnect
    cases server.connection? id with
    | none => exact ⟨_, rfl⟩
    | some client => exact ⟨_, Publisher.foldl_forget_view ..⟩
  | destroySurface id =>
    change ∃ view, (server.destroySurface id).state.publisher = _
    unfold Server.destroySurface
    cases server.connection? id.connection with
    | none => exact ⟨_, rfl⟩
    | some client =>
      simp only
      cases client.destroySurface? id <;> exact ⟨_, rfl⟩
  | subscribeMetadata | subscribeBroadcast | unsubscribe _ | receiveMetadata _
  | receiveBroadcast _ | nextMetadata _ | nextSnapshot _ => exact ⟨_, rfl⟩
  | _ => exact ⟨_, publisher_next_of_isPrivate rfl⟩

/-- The metadata that an operation sends out. -/
def metadataSent (server : Server) : Operation → Option Metadata
  | .commit id => server.announced id
  | _ => none

/-- The copy that an operation sends to those who want it. -/
def snapshotSent (server : Server) (host : Host) (operation : Operation) : Option Snapshot :=
  (server.metadataSent operation).bind fun metadata =>
    (server.snapshot host metadata.buffer).answer.toOption

/-- What an operation does to the metadata subscriptions. -/
def metadataStep (server : Server) : Operation → Subscription.Step Metadata
  | .subscribeMetadata => .enroll server.publisher.nextSubscriber
  | .unsubscribe id => .leave id
  | .nextMetadata id => .receive id
  | .receiveMetadata id => .drain id
  | operation => .send (server.metadataSent operation)

/-- What an operation does to the broadcast subscriptions. -/
def snapshotStep (server : Server) (host : Host) : Operation → Subscription.Step Snapshot
  | .subscribeBroadcast => .enroll server.publisher.nextSubscriber
  | .unsubscribe id => .leave id
  | .nextSnapshot id => .receive id
  | .receiveBroadcast id => .drain id
  | operation => .send (server.snapshotSent host operation)

/-- The metadata that is sent does not depend on who subscribed. -/
theorem metadataSent_withPublisher (publisher : Publisher) :
    (server.withPublisher publisher).metadataSent operation = server.metadataSent operation := by
  cases operation <;> rfl

/-- A step for metadata sends what the operation announces. -/
theorem sent_metadataStep (server : Server) (operation : Operation) :
    (server.metadataStep operation).sent = server.metadataSent operation := by
  cases operation <;> rfl

/-- What an operation does to the subscriptions to metadata. -/
theorem metadataSubscribers_next (named : server.Named) (host : Host) (operation : Operation) :
    (server.next host operation).publisher.metadataSubscribers =
      (server.metadataStep operation).next none server.publisher.metadataSubscribers := by
  obtain ⟨view, after⟩ := publisher_next named host operation
  rw [after]
  cases operation with
  | commit surface =>
    simp only [nextPublisher, metadataStep, metadataSent]
    cases server.announced surface with
    | none => rfl
    | some metadata => exact Publisher.metadataSubscribers_announce ..
  | _ => rfl

/-- A copy is made only if somebody subscribed. Where nobody did, nobody misses it. -/
theorem broadcastSubscribers_next (named : server.Named) (host : Host) (operation : Operation) :
    (server.next host operation).publisher.broadcastSubscribers =
      (server.snapshotStep host operation).next (some broadcastBacklog)
        server.publisher.broadcastSubscribers := by
  obtain ⟨view, after⟩ := publisher_next named host operation
  rw [after]
  cases operation with
  | commit surface =>
    simp only [nextPublisher, snapshotStep, snapshotSent, metadataSent]
    cases server.announced surface with
    | none => rfl
    | some metadata =>
      simp only [copy?, Option.bind_some]
      cases wants : server.publisher.wantsContents with
      | true =>
        rw [if_pos rfl]
        cases (server.snapshot host metadata.buffer).answer.toOption <;> rfl
      | false =>
        -- The copy that is not made would have gone to nobody.
        rw [if_neg Bool.false_ne_true]
        obtain nobody : server.publisher.broadcastSubscribers = [] := by
          simpa [Publisher.wantsContents] using wants
        change server.publisher.broadcastSubscribers = _
        rw [nobody]
        cases (server.snapshot host metadata.buffer).answer.toOption <;> rfl
  | _ => rfl

section Enrolled

/-- Every subscriber takes the next name. -/
theorem nextSubscriber_next (named : server.Named) (host : Host) (operation : Operation) :
    (server.next host operation).publisher.nextSubscriber =
      server.publisher.nextSubscriber + operation.enrolled := by
  obtain ⟨view, after⟩ := publisher_next named host operation
  rw [after]
  cases operation with
  | commit surface =>
    simp only [nextPublisher]
    cases server.announced surface with
    | none => rfl
    | some metadata => exact Publisher.nextSubscriber_announce ..
  | _ => rfl

/-- Those who subscribed stay enrolled. -/
theorem enrolled_next (named : server.Named) (enrolled : server.publisher.Enrolled) (host : Host)
    (operation : Operation) : (server.next host operation).publisher.Enrolled := by
  have grows : server.publisher.nextSubscriber ≤
      (server.next host operation).publisher.nextSubscriber :=
    nextSubscriber_next named host operation ▸ Nat.le_add_right ..
  constructor
  case metadata =>
    intro id listed
    rw [metadataSubscribers_next named] at listed
    rcases Subscription.Step.mem_map_id_next listed with earlier | enrolls
    · exact Nat.lt_of_lt_of_le (enrolled.metadata id earlier) grows
    · cases operation with
      | subscribeMetadata => cases enrolls; exact Nat.lt_succ_self _
      | _ => cases enrolls
  case broadcast =>
    intro id listed
    rw [broadcastSubscribers_next named] at listed
    rcases Subscription.Step.mem_map_id_next listed with earlier | enrolls
    · exact Nat.lt_of_lt_of_le (enrolled.broadcast id earlier) grows
    · cases operation with
      | subscribeBroadcast => cases enrolls; exact Nat.lt_succ_self _
      | _ => cases enrolls

/-- After every script, those who subscribed are enrolled. -/
theorem enrolled_after (config : Config) (script : Script) :
    (after config script).publisher.Enrolled := by
  induction script using List.reverseRecOn with
  | nil => exact ⟨nofun, nofun⟩
  | append_singleton script entry ih =>
    rw [after_concat]
    exact enrolled_next (named_after config script) ih entry.1 entry.2

end Enrolled

section Publications

/-- What a metadata subscriber receives in an operation. -/
def metadataReceived (id : SubscriberId) (server : Server) (_ : Host) : Operation → List Metadata
  | .nextMetadata subscriber => if subscriber = id then (server.nextMetadata id).1.toList else []
  | .receiveMetadata subscriber => if subscriber = id then (server.receiveMetadata id).1 else []
  | _ => []

/-- What a broadcast subscriber receives in an operation. -/
def snapshotsReceived (id : SubscriberId) (server : Server) (_ : Host) :
    Operation → List Snapshot
  | .nextSnapshot subscriber => if subscriber = id then (server.nextSnapshot id).1.toList else []
  | .receiveBroadcast subscriber => if subscriber = id then (server.receiveBroadcast id).1 else []
  | _ => []

/-- The metadata that an operation publishes: what a subscriber gets that came just before. -/
def published (server : Server) (host : Host) (operation : Operation) : List Metadata :=
  let subscribed := server.subscribeMetadata
  ((subscribed.state.next host operation).receiveMetadata subscribed.answer).1

/-- The snapshots that an operation publishes: what a subscriber gets that came just before. -/
def snapshots (server : Server) (host : Host) (operation : Operation) : List Snapshot :=
  let subscribed := server.subscribeBroadcast
  ((subscribed.state.next host operation).receiveBroadcast subscribed.answer).1

/-- An operation publishes what it announces, once. -/
theorem published_eq (named : server.Named) (enrolled : server.publisher.Enrolled) :
    server.published host operation = (server.metadataSent operation).toList := by
  let probed := server.subscribeMetadata.state
  have kept : probed.Named := named
  have same : probed.metadataSent operation = server.metadataSent operation :=
    metadataSent_withPublisher server.publisher.subscribeMetadata.2
  change (Subscription.drain (probed.next host operation).publisher.metadataSubscribers _).1 = _
  rw [Subscription.received_drain, metadataSubscribers_next kept]
  refine (Subscription.Step.waiting_next_subscribe none ?_ _).trans ?_
  · exact fun listed => Nat.lt_irrefl _ (enrolled.metadata _ listed)
  · rw [Subscription.Step.admitted, sent_metadataStep, same]
    rfl

end Publications

/-- A kind of subscription: what is sent to the subscribers, and how much may wait for one. -/
structure Feed (α : Type) where
  capacity : Option Nat
  subscriptions : Server → List (Subscription α)
  step : Server → Host → Operation → Subscription.Step α
  subscriptions_next : ∀ {server : Server}, server.Named → ∀ host operation,
    subscriptions (server.next host operation) =
      (step server host operation).next capacity (subscriptions server)
  /-- A subscriber leaves when it unsubscribes. -/
  leaves : ∀ {server host operation id},
    step server host operation = .leave id → operation = .unsubscribe id

/-- The snapshots. -/
def snapshotFeed : Feed Snapshot where
  capacity := some broadcastBacklog
  subscriptions server := server.publisher.broadcastSubscribers
  step server host operation := server.snapshotStep host operation
  subscriptions_next := broadcastSubscribers_next
  leaves {_ _ operation _} left := by
    cases operation with
    | unsubscribe other => cases left; rfl
    | _ => cases left

namespace Feed

variable {α : Type} (feed : Feed α)

/-- What waits for a subscriber that listens. -/
def queue? (id : SubscriberId) (server : Server) : Option (List α) :=
  Subscription.queue? (feed.subscriptions server) id

/-- What waits for a subscriber. -/
def waiting (id : SubscriberId) (server : Server) : List α :=
  Subscription.waiting (feed.subscriptions server) id

/-- What a subscriber receives in an operation. -/
def received (id : SubscriberId) (server : Server) (host : Host) (operation : Operation) : List α :=
  (feed.step server host operation).received id (feed.waiting id server)

/-- What an operation adds to what waits for a subscriber. -/
def admitted (id : SubscriberId) (server : Server) (host : Host) (operation : Operation) : List α :=
  (feed.step server host operation).admitted feed.capacity (feed.waiting id server)

variable {feed} {queue : List α}

/-- What waits for somebody who listens is the whole queue of the feed. -/
theorem waiting_eq (heard : feed.queue? id server = some queue) : feed.waiting id server = queue :=
  Subscription.waiting_of_queue? heard

/-- What was queued and what an operation adds is received by it or stays queued. -/
theorem queue?_next (named : server.Named) (host : Host)
    (heard : feed.queue? id server = some queue) (listens : operation ≠ .unsubscribe id) :
    ∃ rest, feed.queue? id (server.next host operation) = some rest ∧
      feed.received id server host operation ++ rest =
        queue ++ feed.admitted id server host operation := by
  have stays : feed.step server host operation ≠ .leave id := fun same => listens (feed.leaves same)
  rw [queue?, feed.subscriptions_next named, received, admitted, waiting_eq heard]
  exact Subscription.Step.queue?_next feed.capacity heard stays

end Feed

end Server

end DisplayServer
