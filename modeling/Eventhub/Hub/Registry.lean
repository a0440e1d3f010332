import Eventhub.TopicFilter
import Eventhub.Lib.Transition

set_option autoImplicit false

namespace Eventhub.Hub

inductive RpcId where
  | null
  | string (text : Bytes)
  | integer (value : Int)
deriving DecidableEq

inductive ConnectionState where
  | http
  | websocket
  | sse
deriving DecidableEq

-- A node of a topic's subscriber list. Its address is what an iterator holds.
structure Subscriber where
  node : Nat
  connection : Nat
  requestId : RpcId
deriving DecidableEq

structure TopicSubscription where
  topic : Nat
  node : Nat
  requestId : RpcId
deriving DecidableEq

structure Connection where
  state : ConnectionState
  isShutdown : Bool
  subscribedTopics : AList (fun _ : Bytes => TopicSubscription)

-- One worker: the subscriber lists of all Topic objects by address, the
-- TopicManager's map from filters to addresses, and the live connections.
structure Registry where
  heap : Nat → List Subscriber
  nextTopic : Nat
  nextNode : Nat
  topicList : AList (fun _ : Bytes => Nat)
  connections : Nat → Option Connection

def Registry.empty : Registry := ⟨fun _ => [], 0, 0, ∅, fun _ => none⟩

-- Erasing an iterator that is not in the list is undefined behaviour; deleting
-- a topic that is not in the map is logged as an error.
inductive Fault where
  | badIterator
  | missingTopic
deriving DecidableEq

namespace Registry

def subscription (registry : Registry) (connection : Nat) (topicPattern : Bytes) : Option TopicSubscription :=
  (registry.connections connection).bind (fun self => self.subscribedTopics.lookup topicPattern)

def findTopic (registry : Registry) (topicFilter : Bytes) : Registry × Nat :=
  match registry.topicList.lookup topicFilter with
  | some topic => (registry, topic)
  | none =>
      ({ registry with
          heap := Function.update registry.heap registry.nextTopic []
          nextTopic := registry.nextTopic + 1
          topicList := registry.topicList.insert topicFilter registry.nextTopic },
        registry.nextTopic)

def members (registry : Registry) (topicFilter : Bytes) : List Subscriber :=
  match registry.topicList.lookup topicFilter with
  | none => []
  | some topic => registry.heap topic

def setSubscribers (registry : Registry) (topic : Nat) (subscribers : List Subscriber) : Registry :=
  { registry with heap := Function.update registry.heap topic subscribers }

def addSubscriber (registry : Registry) (topic connection : Nat) (requestId : RpcId) : Registry × Nat :=
  ({ registry.setSubscribers topic (⟨registry.nextNode, connection, requestId⟩ :: registry.heap topic) with
      nextNode := registry.nextNode + 1 },
    registry.nextNode)

def subscribeConnection (registry : Registry) (connection : Nat) (topicFilter : Bytes) (requestId : RpcId) : Registry × Nat × Nat :=
  let found := registry.findTopic topicFilter
  let added := found.1.addSubscriber found.2 connection requestId
  (added.1, found.2, added.2)

def setConnection (registry : Registry) (connection : Nat) (self : Connection) : Registry :=
  { registry with connections := Function.update registry.connections connection (some self) }

def subscribe (registry : Registry) (connection : Nat) (self : Connection) (topicPattern : Bytes) (requestId : RpcId) : Registry :=
  if topicPattern ∈ self.subscribedTopics then registry
  else
    let subscribed := registry.subscribeConnection connection topicPattern requestId
    subscribed.1.setConnection connection
      { self with subscribedTopics := self.subscribedTopics.insert topicPattern ⟨subscribed.2.1, subscribed.2.2, requestId⟩ }

def deleteSubscriberByIterator (registry : Registry) (topic node : Nat) : Except Fault Registry :=
  if ∃ subscriber ∈ registry.heap topic, subscriber.node = node then
    .ok (registry.setSubscribers topic ((registry.heap topic).filter (fun subscriber => subscriber.node ≠ node)))
  else .error .badIterator

def getSubscriberCount (registry : Registry) (topic : Nat) : Nat := (registry.heap topic).length

def deleteTopic (registry : Registry) (topicFilter : Bytes) : Except Fault Registry :=
  if topicFilter ∈ registry.topicList then .ok { registry with topicList := registry.topicList.erase topicFilter }
  else .error .missingTopic

def deleteIfUnused (registry : Registry) (topic : Nat) (topicPattern : Bytes) : Except Fault Registry :=
  if registry.getSubscriberCount topic = 0 then registry.deleteTopic topicPattern else .ok registry

-- What unsubscribe and each turn of unsubscribeAll's loop do with one element
-- of the connection's map.
def dropSubscription (registry : Registry) (connection : Nat) (self : Connection) (topicPattern : Bytes)
    (subscription : TopicSubscription) : Except Fault Registry := do
  let erased ← registry.deleteSubscriberByIterator subscription.topic subscription.node
  let pruned ← erased.deleteIfUnused subscription.topic topicPattern
  return pruned.setConnection connection { self with subscribedTopics := self.subscribedTopics.erase topicPattern }

def unsubscribe (registry : Registry) (connection : Nat) (self : Connection) (topicPattern : Bytes) : Except Fault (Bool × Registry) :=
  match self.subscribedTopics.lookup topicPattern with
  | none => .ok (false, registry)
  | some subscription => (registry.dropSubscription connection self topicPattern subscription).map (Prod.mk true)

-- The loop visits the map in the order of the given keys.
def unsubscribeLoop (connection : Nat) : List Bytes → Registry → Except Fault Registry
  | [], registry => .ok registry
  | topicPattern :: rest, registry =>
      match registry.connections connection, registry.subscription connection topicPattern with
      | some self, some subscription =>
          (registry.dropSubscription connection self topicPattern subscription).bind (unsubscribeLoop connection rest)
      | _, _ => unsubscribeLoop connection rest registry

def unsubscribeAll (registry : Registry) (connection : Nat) (order : List Bytes) : Except Fault (Nat × Registry) :=
  (registry.unsubscribeLoop connection order).map (Prod.mk order.length)

end Registry

-- The member functions of Connection that touch what a publish reads; destroy
-- is the destructor. An order is the one in which a loop visits the map.
inductive Member where
  | setState (state : ConnectionState)
  | shutdown
  | subscribe (topicPattern : Bytes) (requestId : RpcId)
  | unsubscribe (topicPattern : Bytes)
  | unsubscribeAll (order : List Bytes)
  | destroy (order : List Bytes)
deriving DecidableEq

def Member.run (registry : Registry) (connection : Nat) (self : Connection) : Member → Except Fault Registry
  | .setState state => .ok (registry.setConnection connection { self with state := state })
  | .shutdown => .ok (registry.setConnection connection { self with isShutdown := true })
  | .subscribe topicPattern requestId => .ok (registry.subscribe connection self topicPattern requestId)
  | .unsubscribe topicPattern => (registry.unsubscribe connection self topicPattern).map Prod.snd
  | .unsubscribeAll order => (registry.unsubscribeAll connection order).map Prod.snd
  | .destroy order =>
      (registry.unsubscribeAll connection order).map (fun done =>
        { done.2 with connections := Function.update done.2.connections connection none })

def Member.Enumerates (self : Connection) : Member → Prop
  | .unsubscribeAll order => order.Perm self.subscribedTopics.keys
  | .destroy order => order.Perm self.subscribedTopics.keys
  | _ => True

instance (self : Connection) (member : Member) : Decidable (member.Enumerates self) :=
  match member with
  | .unsubscribeAll order => inferInstanceAs (Decidable (order.Perm self.subscribedTopics.keys))
  | .destroy order => inferInstanceAs (Decidable (order.Perm self.subscribedTopics.keys))
  | .setState _ => isTrue trivial
  | .shutdown => isTrue trivial
  | .subscribe _ _ => isTrue trivial
  | .unsubscribe _ => isTrue trivial

inductive Op where
  | connect (connection : Nat)
  | call (connection : Nat) (member : Member)
deriving DecidableEq

def Op.connection : Op → Nat
  | .connect connection => connection
  | .call connection _ => connection

-- A connection is created once and called only while it lives.
def Registry.step (registry : Registry) : Op → Option (Except Fault Registry)
  | .connect connection =>
      match registry.connections connection with
      | none => some (.ok (registry.setConnection connection ⟨.http, false, ∅⟩))
      | some _ => none
  | .call connection member =>
      match registry.connections connection with
      | none => none
      | some self => if member.Enumerates self then some (member.run registry connection self) else none

def Registry.next (registry : Registry) (op : Op) : Option Registry := (registry.step op).bind Except.toOption

def Registry.Steps (before : Registry) (op : Op) (after : Registry) : Prop := before.next op = some after

end Eventhub.Hub
