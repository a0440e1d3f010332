import Eventhub.Hub.History
import Eventhub.Hub.Publish

set_option autoImplicit false

namespace Eventhub.Hub

open Transition

-- Where a call on a connection stands between two critical sections. It holds
-- the connection's own lock to its end, so a connection has one at a time. rest
-- is what the loop of unsubscribeAll has still to visit.
inductive CallPc where
  | idle
  | visiting (topics : List Bytes)
  | counting (topicPattern : Bytes) (topic : Nat) (rest : List Bytes)
  | deleting (topicPattern : Bytes) (rest : List Bytes)
deriving DecidableEq

def CallPc.remaining : CallPc → List Bytes
  | .idle => []
  | .visiting topics => topics
  | .counting topicPattern _ rest => topicPattern :: rest
  | .deleting topicPattern rest => topicPattern :: rest

def CallPc.removing : CallPc → Option Bytes
  | .counting topicPattern _ _ => some topicPattern
  | .deleting topicPattern _ => some topicPattern
  | _ => none

theorem removing_remains (pc : CallPc) (pattern : Bytes) (removing : pc.removing = some pattern) : pattern ∈ pc.remaining := by
  cases pc with
  | idle => cases removing
  | visiting topics => cases removing
  | counting topicPattern topic rest =>
      cases removing
      exact List.mem_cons_self
  | deleting topicPattern rest =>
      cases removing
      exact List.mem_cons_self

-- expired: the destructor has begun, and no weak_ptr can be locked any more.
structure Call where
  pc : CallPc
  expired : Bool
deriving DecidableEq

structure WorkerState where
  registry : Registry
  calls : Nat → Call

def WorkerState.empty : WorkerState := ⟨Registry.empty, fun _ => ⟨.idle, false⟩⟩

-- advance is the next critical section of a call under way.
inductive CriticalSection where
  | start (op : Op)
  | advance (connection : Nat)
deriving DecidableEq

def CriticalSection.Cancels (connection : Nat) (pattern : Bytes) : CriticalSection → Prop
  | .start op => op.Cancels connection pattern
  | .advance _ => False

-- The members that take the lock of the connection's map. No other member is
-- called once the destructor runs.
def Member.locks : Member → Bool
  | .setState _ => false
  | .shutdown => false
  | _ => true

def Registry.forget (registry : Registry) (connection : Nat) (self : Connection) (topicPattern : Bytes) : Registry :=
  registry.setConnection connection { self with subscribedTopics := self.subscribedTopics.erase topicPattern }

namespace WorkerState

def move (worker : WorkerState) (connection : Nat) (registry : Registry) (call : Call) : WorkerState :=
  ⟨registry, Function.update worker.calls connection call⟩

def eraseSubscriber (worker : WorkerState) (connection : Nat) (topicPattern : Bytes) (subscription : TopicSubscription)
    (rest : List Bytes) : Option WorkerState :=
  (worker.registry.deleteSubscriberByIterator subscription.topic subscription.node).toOption.map (fun erased =>
    worker.move connection erased ⟨.counting topicPattern subscription.topic rest, (worker.calls connection).expired⟩)

def startCall (worker : WorkerState) (connection : Nat) (self : Connection) : Member → Option WorkerState
  | .setState state =>
      some (worker.move connection (worker.registry.setConnection connection { self with state := state }) (worker.calls connection))
  | .shutdown =>
      some (worker.move connection (worker.registry.setConnection connection { self with isShutdown := true })
        (worker.calls connection))
  | .subscribe topicPattern requestId =>
      some (worker.move connection (worker.registry.subscribe connection self topicPattern requestId) (worker.calls connection))
  | .unsubscribe topicPattern =>
      match self.subscribedTopics.lookup topicPattern with
      | none => some worker
      | some subscription => worker.eraseSubscriber connection topicPattern subscription []
  | .unsubscribeAll order => some (worker.move connection worker.registry ⟨.visiting order, false⟩)
  | .destroy order => some (worker.move connection worker.registry ⟨.visiting order, true⟩)

-- deleteTopic only logs that a topic is missing.
def advanceCall (worker : WorkerState) (connection : Nat) (self : Connection) (expired : Bool) : CallPc → Option WorkerState
  | .idle => none
  | .visiting [] =>
      some (worker.move connection
        (if expired then { worker.registry with connections := Function.update worker.registry.connections connection none }
          else worker.registry) ⟨.idle, false⟩)
  | .visiting (topicPattern :: rest) =>
      match self.subscribedTopics.lookup topicPattern with
      | none => some (worker.move connection worker.registry ⟨.visiting rest, expired⟩)
      | some subscription => worker.eraseSubscriber connection topicPattern subscription rest
  | .counting topicPattern topic rest =>
      if worker.registry.getSubscriberCount topic = 0 then
        some (worker.move connection worker.registry ⟨.deleting topicPattern rest, expired⟩)
      else some (worker.move connection (worker.registry.forget connection self topicPattern) ⟨.visiting rest, expired⟩)
  | .deleting topicPattern rest =>
      some (worker.move connection
        (((worker.registry.deleteTopic topicPattern).toOption.getD worker.registry).forget connection self topicPattern)
        ⟨.visiting rest, expired⟩)

def step (worker : WorkerState) : CriticalSection → Option WorkerState
  | .start (.connect connection) =>
      match worker.registry.connections connection with
      | none => some (worker.move connection (worker.registry.setConnection connection ⟨.http, false, ∅⟩) ⟨.idle, false⟩)
      | some _ => none
  | .start (.call connection member) =>
      match worker.registry.connections connection with
      | none => none
      | some self =>
          if (worker.calls connection).expired = false ∧ (member.locks = true → (worker.calls connection).pc = .idle) ∧
              member.Enumerates self then
            worker.startCall connection self member
          else none
  | .advance connection =>
      match worker.registry.connections connection with
      | none => none
      | some self => worker.advanceCall connection self (worker.calls connection).expired (worker.calls connection).pc

def Steps (before : WorkerState) (event : CriticalSection) (after : WorkerState) : Prop := before.step event = some after

-- A publish sees no connection whose destructor has begun.
def publish (worker : WorkerState) (order : List Bytes) (job : Job) : List Sent :=
  { worker.registry with
      connections := fun connection =>
        if (worker.calls connection).expired then none else worker.registry.connections connection }.publish order job

end WorkerState

section

variable (worker : WorkerState) (connection : Nat) (registry : Registry) (call : Call)

@[simp] theorem move_registry : (worker.move connection registry call).registry = registry := rfl

@[simp] theorem move_call : (worker.move connection registry call).calls connection = call := Function.update_self _ _ _

theorem move_others (other : Nat) (different : other ≠ connection) :
    (worker.move connection registry call).calls other = worker.calls other := Function.update_of_ne different _ _

theorem move_same : (worker.move connection registry (worker.calls connection)).calls = worker.calls := Function.update_eq_self _ _

end

-- Nothing is allocated and no subscription is added. A call keeps what it has
-- still to remove until the map has lost it, and takes on only what it is asked.
structure Steady (before : WorkerState) (event : CriticalSection) (after : WorkerState) : Prop where
  nextTopic : after.registry.nextTopic = before.registry.nextTopic
  nextNode : after.registry.nextNode = before.registry.nextNode
  records : ∀ connection pattern subscription, after.registry.subscription connection pattern = some subscription →
    before.registry.subscription connection pattern = some subscription ∧
      (pattern ∈ (before.calls connection).pc.remaining → pattern ∈ (after.calls connection).pc.remaining) ∧
      ((before.calls connection).pc.removing = some pattern → (after.calls connection).pc.removing = some pattern)
  held : ∀ connection pattern subscription, ¬ event.Cancels connection pattern →
    before.registry.subscription connection pattern = some subscription → pattern ∉ (before.calls connection).pc.remaining →
      (before.calls connection).expired = false →
      after.registry.subscription connection pattern = some subscription ∧ pattern ∉ (after.calls connection).pc.remaining ∧
        (after.calls connection).expired = false

inductive SectionTaken (before : WorkerState) (event : CriticalSection) (after : WorkerState) : Prop where
  | subscribed (connection : Nat) (self : Connection) (pattern : Bytes) (requestId : RpcId)
      (asked : event = .start (.call connection (.subscribe pattern requestId)))
      (present : before.registry.connections connection = some self) (absent : pattern ∉ self.subscribedTopics)
      (idle : (before.calls connection).pc = .idle)
      (done : after = before.move connection (before.registry.subscribe connection self pattern requestId) (before.calls connection))
  | quiet (steady : Steady before event after) (heap : after.registry.heap = before.registry.heap)
      (topics : after.registry.topicList = before.registry.topicList)
  | erased (steady : Steady before event after) (topics : after.registry.topicList = before.registry.topicList)
      (connection : Nat) (pattern : Bytes) (subscription : TopicSubscription)
      (record : before.registry.subscription connection pattern = some subscription)
      (removing : (after.calls connection).pc.removing = some pattern)
      (heap : after.registry.heap = Function.update before.registry.heap subscription.topic
        ((before.registry.heap subscription.topic).filter (fun subscriber => subscriber.node ≠ subscription.node)))
  | deleted (steady : Steady before event after) (heap : after.registry.heap = before.registry.heap)
      (connection : Nat) (pattern : Bytes) (rest : List Bytes) (asked : event = .advance connection)
      (deleting : (before.calls connection).pc = .deleting pattern rest)
      (topics : after.registry.topicList = before.registry.topicList.erase pattern)

theorem subscription_same (registry other : Registry) (connection : Nat) (pattern : Bytes)
    (same : registry.connections connection = other.connections connection) :
    registry.subscription connection pattern = other.subscription connection pattern := by
  rw [Registry.subscription, same, ← Registry.subscription]

theorem steady_move (worker : WorkerState) (event : CriticalSection) (connection : Nat) (registry : Registry) (call : Call)
    (nextTopic : registry.nextTopic = worker.registry.nextTopic) (nextNode : registry.nextNode = worker.registry.nextNode)
    (others : ∀ other, other ≠ connection → registry.connections other = worker.registry.connections other)
    (records : ∀ pattern subscription, registry.subscription connection pattern = some subscription →
      worker.registry.subscription connection pattern = some subscription ∧
        (pattern ∈ (worker.calls connection).pc.remaining → pattern ∈ call.pc.remaining) ∧
        ((worker.calls connection).pc.removing = some pattern → call.pc.removing = some pattern))
    (held : ∀ pattern subscription, ¬ event.Cancels connection pattern →
      worker.registry.subscription connection pattern = some subscription → pattern ∉ (worker.calls connection).pc.remaining →
        (worker.calls connection).expired = false →
        registry.subscription connection pattern = some subscription ∧ pattern ∉ call.pc.remaining ∧ call.expired = false) :
    Steady worker event (worker.move connection registry call) := by
  have same := fun other different pattern => subscription_same registry worker.registry other pattern (others other different)
  refine ⟨nextTopic, nextNode, ?_, ?_⟩
  · intro other pattern subscription record
    by_cases own : other = connection
    · rw [own] at record ⊢
      rw [move_call]
      exact records pattern subscription record
    · rw [move_registry, same other own] at record
      rw [move_others _ _ _ _ _ own]
      exact ⟨record, id, id⟩
  · intro other pattern subscription lasting record free live
    by_cases own : other = connection
    · rw [own] at lasting record free live ⊢
      rw [move_call]
      exact held pattern subscription lasting record free live
    · rw [move_registry, same other own, move_others _ _ _ _ _ own]
      exact ⟨record, free, live⟩

section

variable (worker : WorkerState) (event : CriticalSection) (connection : Nat) (self : Connection)

theorem steady_called (registry : Registry) (call : Call) (nextTopic : registry.nextTopic = worker.registry.nextTopic)
    (nextNode : registry.nextNode = worker.registry.nextNode) (connections : registry.connections = worker.registry.connections)
    (kept : ∀ pattern subscription, worker.registry.subscription connection pattern = some subscription →
      (pattern ∈ (worker.calls connection).pc.remaining → pattern ∈ call.pc.remaining) ∧
        ((worker.calls connection).pc.removing = some pattern → call.pc.removing = some pattern))
    (asked : ∀ pattern, ¬ event.Cancels connection pattern → pattern ∉ (worker.calls connection).pc.remaining →
      (worker.calls connection).expired = false → pattern ∉ call.pc.remaining ∧ call.expired = false) :
    Steady worker event (worker.move connection registry call) := by
  have same := fun pattern => subscription_same registry worker.registry connection pattern (by rw [connections])
  refine steady_move worker event connection registry call nextTopic nextNode (fun other _ => by rw [connections]) ?_ ?_
  · intro pattern subscription record
    rw [same] at record
    exact ⟨record, kept pattern subscription record⟩
  · intro pattern subscription lasting record free live
    rw [same]
    exact ⟨record, asked pattern lasting free live⟩

theorem steady_relabelled (label : Connection) (present : worker.registry.connections connection = some self)
    (topics : label.subscribedTopics = self.subscribedTopics) :
    Steady worker event (worker.move connection (worker.registry.setConnection connection label) (worker.calls connection)) := by
  have same := relabelled_subscription worker.registry connection self label present topics connection
  refine steady_move worker event connection _ _ rfl rfl (fun other different => Function.update_of_ne different _ _) ?_ ?_
  · intro pattern subscription record
    rw [same] at record
    exact ⟨record, id, id⟩
  · intro pattern subscription _ record free live
    rw [same]
    exact ⟨record, free, live⟩

theorem steady_connected (absent : worker.registry.connections connection = none) :
    Steady worker event
      (worker.move connection (worker.registry.setConnection connection ⟨.http, false, ∅⟩) ⟨.idle, false⟩) := by
  refine steady_move worker event connection _ _ rfl rfl (fun other different => Function.update_of_ne different _ _) ?_ ?_
  · intro pattern subscription record
    rw [set_connection_subscription, if_pos rfl, AList.lookup_empty] at record
    cases record
  · intro pattern subscription _ record
    rw [Registry.subscription, absent] at record
    cases record

theorem forget_subscription (registry : Registry) (topicPattern pattern : Bytes)
    (present : registry.connections connection = some self) :
    (registry.forget connection self topicPattern).subscription connection pattern =
      if pattern = topicPattern then none else registry.subscription connection pattern := by
  rw [Registry.forget, set_connection_subscription, if_pos rfl]
  by_cases same : pattern = topicPattern
  · rw [if_pos same, same]
    exact AList.lookup_erase _ _
  · rw [if_neg same, subscription_of registry connection self pattern present]
    exact AList.lookup_erase_ne same

theorem steady_forgotten (registry : Registry) (topicPattern : Bytes) (rest : List Bytes)
    (nextTopic : registry.nextTopic = worker.registry.nextTopic) (nextNode : registry.nextNode = worker.registry.nextNode)
    (connections : registry.connections = worker.registry.connections)
    (present : worker.registry.connections connection = some self)
    (turn : (worker.calls connection).pc.remaining = topicPattern :: rest)
    (removing : (worker.calls connection).pc.removing = some topicPattern) :
    Steady worker event (worker.move connection (registry.forget connection self topicPattern)
      ⟨.visiting rest, (worker.calls connection).expired⟩) := by
  have same := fun pattern => subscription_same registry worker.registry connection pattern (by rw [connections])
  have forgotten := fun pattern => forget_subscription connection self registry topicPattern pattern (by rw [connections, present])
  refine steady_move worker event connection _ _ nextTopic nextNode ?_ ?_ ?_
  · intro other different
    rw [Registry.forget, Registry.setConnection, connections]
    exact Function.update_of_ne different _ _
  · intro pattern subscription record
    rw [forgotten] at record
    by_cases gone : pattern = topicPattern
    · rw [if_pos gone] at record
      cases record
    · rw [if_neg gone, same] at record
      rw [turn, removing]
      refine ⟨record, fun inside => (List.mem_cons.mp inside).resolve_left gone, fun equal => ?_⟩
      exact absurd (Option.some.inj equal).symm gone
  · intro pattern subscription _ record free live
    rw [turn, List.mem_cons, not_or] at free
    rw [forgotten, if_neg free.1, same]
    exact ⟨record, free.2, live⟩

theorem erase_taken (topicPattern : Bytes) (subscription : TopicSubscription) (rest : List Bytes) (after : WorkerState)
    (record : worker.registry.subscription connection topicPattern = some subscription)
    (kept : ∀ pattern ∈ (worker.calls connection).pc.remaining, pattern ∈ topicPattern :: rest)
    (unerased : (worker.calls connection).pc.removing = none)
    (asked : ∀ pattern, ¬ event.Cancels connection pattern → pattern ∉ (worker.calls connection).pc.remaining →
      pattern ∉ topicPattern :: rest)
    (taken : worker.eraseSubscriber connection topicPattern subscription rest = some after) : SectionTaken worker event after := by
  rw [WorkerState.eraseSubscriber, Registry.deleteSubscriberByIterator] at taken
  split at taken
  · cases taken
    refine .erased ?_ rfl connection topicPattern subscription record (by rw [move_call]; rfl) rfl
    refine steady_called worker event connection _ _ rfl rfl rfl ?_ ?_
    · intro pattern _ _
      refine ⟨kept pattern, fun removing => ?_⟩
      rw [unerased] at removing
      cases removing
    · intro pattern lasting free live
      exact ⟨asked pattern lasting free, live⟩
  · cases taken

theorem start_taken (member : Member) (after : WorkerState) (present : worker.registry.connections connection = some self)
    (idle : member.locks = true → (worker.calls connection).pc = .idle)
    (taken : worker.startCall connection self member = some after) :
    SectionTaken worker (.start (.call connection member)) after := by
  have began : ∀ order expired, (worker.calls connection).pc = .idle →
      (∀ pattern, CriticalSection.Cancels connection pattern (.start (.call connection member))) →
      Steady worker (.start (.call connection member)) (worker.move connection worker.registry ⟨.visiting order, expired⟩) := by
    intro order expired free cancels
    refine steady_called worker _ connection worker.registry ⟨.visiting order, expired⟩ rfl rfl rfl ?_ ?_
    · intro pattern _ _
      rw [free]
      exact ⟨(fun inside => nomatch inside), (fun removing => nomatch removing)⟩
    · intro pattern lasting
      exact absurd (cancels pattern) lasting
  cases member with
  | setState state =>
      cases taken
      exact .quiet (steady_relabelled worker _ connection self _ present rfl) rfl rfl
  | shutdown =>
      cases taken
      exact .quiet (steady_relabelled worker _ connection self _ present rfl) rfl rfl
  | subscribe pattern requestId =>
      cases taken
      by_cases known : pattern ∈ self.subscribedTopics
      · rw [subscribe_known worker.registry connection self pattern requestId known]
        refine .quiet (steady_called worker _ connection _ _ rfl rfl rfl ?_ ?_) rfl rfl
        · exact fun _ _ _ => ⟨id, id⟩
        · exact fun _ _ free live => ⟨free, live⟩
      · exact .subscribed connection self pattern requestId rfl present known (idle rfl) rfl
  | unsubscribe pattern =>
      rw [WorkerState.startCall] at taken
      cases record : self.subscribedTopics.lookup pattern with
      | none =>
          rw [record] at taken
          cases taken
          exact .quiet ⟨rfl, rfl, fun _ _ _ record => ⟨record, id, id⟩, fun _ _ _ _ record free live => ⟨record, free, live⟩⟩ rfl rfl
      | some subscription =>
          rw [record] at taken
          rw [← subscription_of worker.registry connection self pattern present] at record
          refine erase_taken worker _ connection pattern subscription [] after record ?_ ?_ ?_ taken
          · rw [idle rfl]
            exact fun _ inside => nomatch inside
          · rw [idle rfl]
            rfl
          · intro other lasting _ inside
            exact lasting ⟨rfl, (List.mem_singleton.mp inside).symm⟩
  | unsubscribeAll order =>
      cases taken
      exact .quiet (began order false (idle rfl) (fun _ => rfl)) rfl rfl
  | destroy order =>
      cases taken
      exact .quiet (began order true (idle rfl) (fun _ => rfl)) rfl rfl

theorem delete_topic_effect (registry : Registry) (topicPattern : Bytes) :
    (registry.deleteTopic topicPattern).toOption.getD registry =
      { registry with topicList := registry.topicList.erase topicPattern } := by
  by_cases listed : topicPattern ∈ registry.topicList
  · rw [Registry.deleteTopic, if_pos listed]
    rfl
  · rw [Registry.deleteTopic, if_neg listed]
    have same : registry.topicList.erase topicPattern = registry.topicList := AList.ext (List.kerase_of_notMem_keys listed)
    rw [same]
    rfl

theorem return_taken (after : WorkerState) (stands : (worker.calls connection).pc = .visiting [])
    (taken : worker.advanceCall connection self (worker.calls connection).expired (.visiting []) = some after) :
    SectionTaken worker (.advance connection) after := by
  cases taken
  by_cases dying : (worker.calls connection).expired = true
  · rw [if_pos dying]
    refine .quiet (steady_move worker _ connection _ _ rfl rfl (fun other different => Function.update_of_ne different _ _) ?_ ?_) rfl rfl
    · intro pattern subscription record
      simp [Registry.subscription] at record
    · intro pattern subscription _ _ _ live
      rw [dying] at live
      cases live
  · rw [if_neg dying]
    refine .quiet (steady_called worker _ connection _ _ rfl rfl rfl ?_ ?_) rfl rfl
    · intro _ _ _
      rw [stands]
      refine ⟨id, ?_⟩
      intro removing
      cases removing
    · intro _ _ _ _
      refine ⟨?_, rfl⟩
      intro inside
      cases inside

theorem visit_taken (after : WorkerState) (pattern : Bytes) (rest : List Bytes)
    (present : worker.registry.connections connection = some self) (stands : (worker.calls connection).pc = .visiting (pattern :: rest))
    (taken : worker.advanceCall connection self (worker.calls connection).expired (.visiting (pattern :: rest)) = some after) :
    SectionTaken worker (.advance connection) after := by
  rw [WorkerState.advanceCall] at taken
  cases record : self.subscribedTopics.lookup pattern with
  | none =>
      rw [record] at taken
      cases taken
      rw [← subscription_of worker.registry connection self pattern present] at record
      refine .quiet (steady_called worker _ connection _ _ rfl rfl rfl ?_ ?_) rfl rfl
      · intro other subscription recorded
        rw [stands]
        refine ⟨fun inside => (List.mem_cons.mp inside).resolve_left ?_, fun removing => nomatch removing⟩
        intro same
        rw [same, record] at recorded
        cases recorded
      · intro other _ free live
        rw [stands] at free
        exact ⟨fun inside => free (List.mem_cons_of_mem _ inside), live⟩
  | some subscription =>
      rw [record] at taken
      rw [← subscription_of worker.registry connection self pattern present] at record
      refine erase_taken worker _ connection pattern subscription rest after record ?_ ?_ ?_ taken
      · rw [stands]
        exact fun _ => id
      · rw [stands]
        rfl
      · rw [stands]
        exact fun _ _ => id

theorem advance_taken (after : WorkerState) (present : worker.registry.connections connection = some self)
    (taken : worker.advanceCall connection self (worker.calls connection).expired (worker.calls connection).pc = some after) :
    SectionTaken worker (.advance connection) after := by
  cases stands : (worker.calls connection).pc with
  | idle =>
      rw [stands] at taken
      cases taken
  | visiting topics =>
      rw [stands] at taken
      cases topics with
      | nil => exact return_taken worker connection self after stands taken
      | cons pattern rest => exact visit_taken worker connection self after pattern rest present stands taken
  | counting pattern topic rest =>
      rw [stands, WorkerState.advanceCall] at taken
      split at taken
      · cases taken
        refine .quiet (steady_called worker _ connection _ _ rfl rfl rfl ?_ ?_) rfl rfl
        · rw [stands]
          exact fun _ _ _ => ⟨id, id⟩
        · rw [stands]
          exact fun _ _ free live => ⟨free, live⟩
      · cases taken
        exact .quiet (steady_forgotten worker _ connection self _ pattern rest rfl rfl rfl present (by rw [stands]; rfl)
          (by rw [stands]; rfl)) rfl rfl
  | deleting pattern rest =>
      rw [stands, WorkerState.advanceCall, delete_topic_effect] at taken
      cases taken
      exact .deleted (steady_forgotten worker _ connection self _ pattern rest rfl rfl rfl present (by rw [stands]; rfl)
        (by rw [stands]; rfl)) rfl connection pattern rest rfl stands rfl

end

theorem call_started (worker after : WorkerState) (connection : Nat) (member : Member)
    (taken : worker.step (.start (.call connection member)) = some after) :
    ∃ self, worker.registry.connections connection = some self ∧ (worker.calls connection).expired = false ∧
      (member.locks = true → (worker.calls connection).pc = .idle) ∧ worker.startCall connection self member = some after := by
  cases present : worker.registry.connections connection with
  | none => simp [WorkerState.step, present] at taken
  | some self =>
      simp only [WorkerState.step, present] at taken
      split at taken
      · rename_i allowed
        exact ⟨self, rfl, allowed.1, allowed.2.1, taken⟩
      · cases taken

theorem section_taken (worker after : WorkerState) (event : CriticalSection) (taken : worker.step event = some after) :
    SectionTaken worker event after := by
  cases event with
  | start op =>
      cases op with
      | connect connection =>
          cases present : worker.registry.connections connection with
          | some self => simp [WorkerState.step, present] at taken
          | none =>
              simp only [WorkerState.step, present] at taken
              cases taken
              exact .quiet (steady_connected worker _ connection present) rfl rfl
      | call connection member =>
          obtain ⟨self, present, _, idle, started⟩ := call_started worker after connection member taken
          exact start_taken worker connection self member after present idle started
  | advance connection =>
      cases present : worker.registry.connections connection with
      | none => simp [WorkerState.step, present] at taken
      | some self =>
          simp only [WorkerState.step, present] at taken
          exact advance_taken worker connection self after present taken

end Eventhub.Hub
