import Eventhub.Hub.Registry
import Eventhub.Lib.ListLemmas

set_option autoImplicit false

namespace Eventhub.Hub

-- The three records of the subscriptions to one pattern agree.
structure PatternCoherent (registry : Registry) (pattern : Bytes) : Prop where
  allocated : ∀ topic, registry.topicList.lookup pattern = some topic → topic < registry.nextTopic
  occupied : ∀ topic, registry.topicList.lookup pattern = some topic → registry.heap topic ≠ []
  nodes : ∀ topic, registry.topicList.lookup pattern = some topic → ((registry.heap topic).map Subscriber.node).Nodup
  fresh : ∀ topic, registry.topicList.lookup pattern = some topic → ∀ entry ∈ registry.heap topic, entry.node < registry.nextNode
  recorded : ∀ topic, registry.topicList.lookup pattern = some topic → ∀ entry ∈ registry.heap topic,
    registry.subscription entry.connection pattern = some ⟨topic, entry.node, entry.requestId⟩
  linked : ∀ connection subscription, registry.subscription connection pattern = some subscription →
    registry.topicList.lookup pattern = some subscription.topic ∧
      ⟨subscription.node, connection, subscription.requestId⟩ ∈ registry.heap subscription.topic

structure Coherent (registry : Registry) : Prop where
  patterns : ∀ pattern, PatternCoherent registry pattern
  separate : ∀ left right topic, registry.topicList.lookup left = some topic → registry.topicList.lookup right = some topic →
    left = right

structure Elsewhere (before after : Registry) (pattern : Bytes) : Prop where
  topics : ∀ other, other ≠ pattern → after.topicList.lookup other = before.topicList.lookup other
  heaps : ∀ other, other ≠ pattern → ∀ topic, before.topicList.lookup other = some topic → after.heap topic = before.heap topic
  subscriptions : ∀ other, other ≠ pattern → ∀ connection, after.subscription connection other = before.subscription connection other
  topicsGrow : before.nextTopic ≤ after.nextTopic
  nodesGrow : before.nextNode ≤ after.nextNode

theorem subscription_of (registry : Registry) (connection : Nat) (self : Connection) (pattern : Bytes)
    (present : registry.connections connection = some self) :
    registry.subscription connection pattern = self.subscribedTopics.lookup pattern := by
  rw [Registry.subscription, present, Option.bind_some]

def Remapped (before after : Registry) (connection : Nat) (self : Connection) (pattern : Bytes)
    (map : AList (fun _ : Bytes => TopicSubscription)) : Prop :=
  after.connections = Function.update before.connections connection (some { self with subscribedTopics := map }) ∧
    ∀ other, other ≠ pattern → map.lookup other = self.subscribedTopics.lookup other

theorem remapped_here (before after : Registry) (connection : Nat) (self : Connection) (pattern : Bytes)
    (map : AList (fun _ : Bytes => TopicSubscription)) (remapped : Remapped before after connection self pattern map) :
    after.subscription connection pattern = map.lookup pattern := by
  rw [Registry.subscription, remapped.1, Function.update_self, Option.bind_some]

theorem remapped_elsewhere (before after : Registry) (connection other : Nat) (self : Connection) (pattern key : Bytes)
    (map : AList (fun _ : Bytes => TopicSubscription)) (remapped : Remapped before after connection self pattern map)
    (present : before.connections connection = some self) (different : (other, key) ≠ (connection, pattern)) :
    after.subscription other key = before.subscription other key := by
  by_cases same : other = connection
  · have keys : key ≠ pattern := fun equal => different (by rw [same, equal])
    rw [same, subscription_of before connection self key present, ← remapped.2 key keys, Registry.subscription, remapped.1,
      Function.update_self, Option.bind_some]
  · rw [Registry.subscription, remapped.1, Function.update_of_ne same, ← Registry.subscription]

theorem pattern_coherent_kept (before after : Registry) (pattern other : Bytes) (elsewhere : Elsewhere before after pattern)
    (different : other ≠ pattern) (coherent : PatternCoherent before other) : PatternCoherent after other := by
  have topics := elsewhere.topics other different
  have heaps := elsewhere.heaps other different
  have subscriptions := elsewhere.subscriptions other different
  constructor
  · intro topic found
    rw [topics] at found
    exact Nat.lt_of_lt_of_le (coherent.allocated topic found) elsewhere.topicsGrow
  · intro topic found
    rw [topics] at found
    rw [heaps topic found]
    exact coherent.occupied topic found
  · intro topic found
    rw [topics] at found
    rw [heaps topic found]
    exact coherent.nodes topic found
  · intro topic found entry inside
    rw [topics] at found
    rw [heaps topic found] at inside
    exact Nat.lt_of_lt_of_le (coherent.fresh topic found entry inside) elsewhere.nodesGrow
  · intro topic found entry inside
    rw [topics] at found
    rw [heaps topic found] at inside
    rw [subscriptions]
    exact coherent.recorded topic found entry inside
  · intro connection subscription found
    rw [subscriptions] at found
    obtain ⟨listed, entry⟩ := coherent.linked connection subscription found
    rw [topics, heaps _ listed]
    exact ⟨listed, entry⟩

theorem coherent_updated (before after : Registry) (pattern : Bytes) (coherent : Coherent before)
    (elsewhere : Elsewhere before after pattern) (here : PatternCoherent after pattern)
    (apart : ∀ other, other ≠ pattern → ∀ topic, before.topicList.lookup other = some topic →
      after.topicList.lookup pattern ≠ some topic) : Coherent after := by
  constructor
  · intro other
    by_cases same : other = pattern
    · rw [same]
      exact here
    · exact pattern_coherent_kept before after pattern other elsewhere same (coherent.patterns other)
  · intro left right topic first second
    by_cases sameLeft : left = pattern
    · by_cases sameRight : right = pattern
      · rw [sameLeft, sameRight]
      · rw [elsewhere.topics right sameRight] at second
        rw [sameLeft] at first
        exact absurd first (apart right sameRight topic second)
    · rw [elsewhere.topics left sameLeft] at first
      by_cases sameRight : right = pattern
      · rw [sameRight] at second
        exact absurd second (apart left sameLeft topic first)
      · rw [elsewhere.topics right sameRight] at second
        exact coherent.separate left right topic first second

-- The members of the pattern's topic have changed, and their records with
-- them. The topic is listed while it has members.
structure Relisted (before after : Registry) (pattern : Bytes) (topic : Nat) (members : List Subscriber) : Prop where
  listed : after.topicList.lookup pattern = if members = [] then none else some topic
  others : ∀ other, other ≠ pattern → after.topicList.lookup other = before.topicList.lookup other
  apart : ∀ other, other ≠ pattern → before.topicList.lookup other ≠ some topic
  stored : after.heap topic = members
  heaps : ∀ other, other ≠ topic → after.heap other = before.heap other
  allocated : topic < after.nextTopic
  topicsGrow : before.nextTopic ≤ after.nextTopic
  nodesGrow : before.nextNode ≤ after.nextNode
  subscriptions : ∀ other, other ≠ pattern → ∀ connection, after.subscription connection other = before.subscription connection other
  nodes : (members.map Subscriber.node).Nodup
  fresh : ∀ entry ∈ members, entry.node < after.nextNode
  recorded : ∀ entry ∈ members, after.subscription entry.connection pattern = some ⟨topic, entry.node, entry.requestId⟩
  linked : ∀ connection subscription, after.subscription connection pattern = some subscription →
    subscription.topic = topic ∧ ⟨subscription.node, connection, subscription.requestId⟩ ∈ members

theorem relisted_coherent (before after : Registry) (pattern : Bytes) (topic : Nat) (members : List Subscriber)
    (coherent : Coherent before) (relisted : Relisted before after pattern topic members) : Coherent after := by
  have kept : ∀ holder, after.topicList.lookup pattern = some holder → members ≠ [] ∧ holder = topic := by
    intro holder found
    rw [relisted.listed] at found
    split at found
    · cases found
    · rename_i nonempty
      exact ⟨nonempty, (Option.some.inj found).symm⟩
  refine coherent_updated before after pattern coherent ?_ ?_ ?_
  · refine ⟨relisted.others, ?_, relisted.subscriptions, relisted.topicsGrow, relisted.nodesGrow⟩
    intro other different holder held
    exact relisted.heaps holder (fun equal => relisted.apart other different (equal ▸ held))
  · constructor
    · intro holder found
      rw [(kept holder found).2]
      exact relisted.allocated
    · intro holder found
      rw [(kept holder found).2, relisted.stored]
      exact (kept holder found).1
    · intro holder found
      rw [(kept holder found).2, relisted.stored]
      exact relisted.nodes
    · intro holder found entry inside
      rw [(kept holder found).2, relisted.stored] at inside
      exact relisted.fresh entry inside
    · intro holder found entry inside
      rw [(kept holder found).2, relisted.stored] at inside
      rw [(kept holder found).2]
      exact relisted.recorded entry inside
    · intro connection subscription record
      obtain ⟨same, inside⟩ := relisted.linked connection subscription record
      rw [same, relisted.stored, relisted.listed, if_neg (List.ne_nil_of_mem inside)]
      exact ⟨rfl, inside⟩
  · intro other different holder held equal
    rw [(kept holder equal).2] at held
    exact relisted.apart other different held

structure TopicFound (registry : Registry) (pattern : Bytes) (found : Registry) (topic : Nat) : Prop where
  listed : found.topicList.lookup pattern = some topic
  known : ∀ holder, registry.topicList.lookup pattern = some holder → holder = topic
  others : ∀ other, other ≠ pattern → found.topicList.lookup other = registry.topicList.lookup other
  apart : ∀ other, other ≠ pattern → registry.topicList.lookup other ≠ some topic
  heaps : ∀ other, other ≠ topic → found.heap other = registry.heap other
  members : found.heap topic = registry.members pattern
  allocated : topic < found.nextTopic
  topicsGrow : registry.nextTopic ≤ found.nextTopic
  nextNode : found.nextNode = registry.nextNode
  connections : found.connections = registry.connections

theorem find_topic_found (registry : Registry) (pattern : Bytes) (coherent : Coherent registry) :
    TopicFound registry pattern (registry.findTopic pattern).1 (registry.findTopic pattern).2 := by
  cases known : registry.topicList.lookup pattern with
  | some topic =>
      simp only [Registry.findTopic, known]
      constructor
      · exact known
      · intro holder held
        exact Option.some.inj (held.symm.trans known)
      · intro other _
        rfl
      · intro other different same
        exact different (coherent.separate other pattern topic same known)
      · intro other _
        rfl
      · simp only [Registry.members, known]
      · exact (coherent.patterns pattern).allocated topic known
      · exact Nat.le_refl _
      · rfl
      · rfl
  | none =>
      simp only [Registry.findTopic, known]
      constructor
      · exact AList.lookup_insert _
      · intro holder held
        rw [known] at held
        cases held
      · intro other different
        exact AList.lookup_insert_ne different
      · intro other _ same
        exact Nat.lt_irrefl _ ((coherent.patterns other).allocated _ same)
      · intro other different
        exact Function.update_of_ne different _ _
      · simp only [Registry.members, known, Function.update_self]
      · exact Nat.lt_succ_self _
      · exact Nat.le_succ _
      · rfl
      · rfl

theorem mem_members (registry : Registry) (pattern : Bytes) (coherent : Coherent registry) (entry : Subscriber) :
    entry ∈ registry.members pattern ↔ ∃ topic, registry.subscription entry.connection pattern =
      some ⟨topic, entry.node, entry.requestId⟩ := by
  constructor
  · intro inside
    cases known : registry.topicList.lookup pattern with
    | none => simp [Registry.members, known] at inside
    | some topic =>
        simp only [Registry.members, known] at inside
        exact ⟨topic, (coherent.patterns pattern).recorded topic known entry inside⟩
  · rintro ⟨topic, found⟩
    obtain ⟨listed, inside⟩ := (coherent.patterns pattern).linked entry.connection _ found
    simp only [Registry.members, listed]
    exact inside

theorem members_nodup (registry : Registry) (pattern : Bytes) (coherent : Coherent registry) :
    ((registry.members pattern).map Subscriber.node).Nodup := by
  cases known : registry.topicList.lookup pattern with
  | none => simp [Registry.members, known]
  | some topic =>
      simp only [Registry.members, known]
      exact (coherent.patterns pattern).nodes topic known

theorem coherent_entry (registry : Registry) (connection : Nat) (pattern : Bytes) (subscription : TopicSubscription)
    (coherent : Coherent registry) (record : registry.subscription connection pattern = some subscription) :
    registry.topicList.lookup pattern = some subscription.topic ∧
      (registry.heap subscription.topic).filter (fun entry => entry.connection = connection) =
        [⟨subscription.node, connection, subscription.requestId⟩] ∧
      (registry.heap subscription.topic).filter (fun entry => entry.node = subscription.node) =
        [⟨subscription.node, connection, subscription.requestId⟩] := by
  obtain ⟨listed, inside⟩ := (coherent.patterns pattern).linked connection subscription record
  have nodup : (registry.heap subscription.topic).Nodup := ((coherent.patterns pattern).nodes _ listed).of_map
  refine ⟨listed, ListLemmas.filter_single _ _ _ nodup inside ?_, ListLemmas.filter_single _ _ _ nodup inside ?_⟩
  · intro entry among
    rw [decide_eq_true_eq]
    constructor
    · intro same
      have recorded := (coherent.patterns pattern).recorded _ listed entry among
      rw [same, record, Option.some.injEq] at recorded
      cases entry
      rw [recorded, ← same]
    · rintro rfl
      rfl
  · intro entry among
    rw [decide_eq_true_eq]
    constructor
    · intro same
      exact List.inj_on_of_nodup_map ((coherent.patterns pattern).nodes _ listed) among inside same
    · rintro rfl
      rfl

theorem members_of (registry : Registry) (connection : Nat) (pattern : Bytes) (coherent : Coherent registry) :
    (registry.members pattern).filter (fun entry => entry.connection = connection) =
      match registry.subscription connection pattern with
      | none => []
      | some subscription => [⟨subscription.node, connection, subscription.requestId⟩] := by
  cases record : registry.subscription connection pattern with
  | none =>
      rw [List.filter_eq_nil_iff]
      intro entry inside own
      obtain ⟨topic, found⟩ := (mem_members registry pattern coherent entry).mp inside
      rw [of_decide_eq_true own, record] at found
      cases found
  | some subscription =>
      obtain ⟨listed, single, _⟩ := coherent_entry registry connection pattern subscription coherent record
      simp only [Registry.members, listed]
      exact single

theorem subscribe_known (registry : Registry) (connection : Nat) (self : Connection) (pattern : Bytes) (requestId : RpcId)
    (known : pattern ∈ self.subscribedTopics) : registry.subscribe connection self pattern requestId = registry :=
  if_pos known

theorem members_known (registry : Registry) (connection topic : Nat) (pattern : Bytes) (coherent : Coherent registry)
    (known : ∀ holder, registry.topicList.lookup pattern = some holder → holder = topic)
    (missing : registry.subscription connection pattern = none) (entry : Subscriber) (inside : entry ∈ registry.members pattern) :
    entry.connection ≠ connection ∧ entry.node < registry.nextNode ∧
      registry.subscription entry.connection pattern = some ⟨topic, entry.node, entry.requestId⟩ := by
  obtain ⟨holder, record⟩ := (mem_members registry pattern coherent entry).mp inside
  obtain ⟨listed, member⟩ := (coherent.patterns pattern).linked _ _ record
  have address : holder = topic := known holder listed
  rw [address] at record
  refine ⟨fun equal => ?_, (coherent.patterns pattern).fresh _ listed entry member, record⟩
  rw [equal, missing] at record
  cases record

theorem subscribed_coherent (registry middle : Registry) (connection topic : Nat) (self : Connection) (pattern : Bytes)
    (requestId : RpcId) (coherent : Coherent registry) (found : TopicFound registry pattern middle topic)
    (missing : registry.subscription connection pattern = none)
    (present : registry.connections connection = some self) :
    Coherent ((middle.addSubscriber topic connection requestId).1.setConnection connection
      { self with subscribedTopics := self.subscribedTopics.insert pattern ⟨topic, registry.nextNode, requestId⟩ }) := by
  generalize outcome : (middle.addSubscriber topic connection requestId).1.setConnection connection
    { self with subscribedTopics := self.subscribedTopics.insert pattern ⟨topic, registry.nextNode, requestId⟩ } = after
  have topics : after.topicList = middle.topicList := by rw [← outcome]; rfl
  have heap : after.heap = Function.update middle.heap topic (⟨registry.nextNode, connection, requestId⟩ :: registry.members pattern) := by
    rw [← outcome, ← found.members, ← found.nextNode]
    rfl
  have nextNode : after.nextNode = registry.nextNode + 1 := by rw [← outcome, ← found.nextNode]; rfl
  have nextTopic : after.nextTopic = middle.nextTopic := by rw [← outcome]; rfl
  have remapped : Remapped registry after connection self pattern
      (self.subscribedTopics.insert pattern ⟨topic, registry.nextNode, requestId⟩) := by
    refine ⟨?_, fun other different => AList.lookup_insert_ne different⟩
    rw [← outcome, ← found.connections]
    rfl
  have here : after.subscription connection pattern = some ⟨topic, registry.nextNode, requestId⟩ :=
    (remapped_here _ _ _ _ _ _ remapped).trans (AList.lookup_insert _)
  have same := fun other key => remapped_elsewhere registry after connection other self pattern key _ remapped present
  have old := members_known registry connection topic pattern coherent found.known missing
  apply relisted_coherent registry after pattern topic (⟨registry.nextNode, connection, requestId⟩ :: registry.members pattern) coherent
  constructor
  case listed => rw [topics, found.listed, if_neg (List.cons_ne_nil _ _)]
  case others =>
    rw [topics]
    exact found.others
  case apart => exact found.apart
  case stored => rw [heap, Function.update_self]
  case heaps =>
    intro other different
    rw [heap, Function.update_of_ne different]
    exact found.heaps other different
  case allocated =>
    rw [nextTopic]
    exact found.allocated
  case topicsGrow =>
    rw [nextTopic]
    exact found.topicsGrow
  case nodesGrow =>
    rw [nextNode]
    exact Nat.le_succ _
  case subscriptions =>
    intro other different any
    exact same any other (fun equal => different (congrArg Prod.snd equal))
  case nodes =>
    rw [List.map_cons, List.nodup_cons]
    refine ⟨fun inside => ?_, members_nodup registry pattern coherent⟩
    obtain ⟨entry, among, node⟩ := List.mem_map.mp inside
    exact absurd node (Nat.ne_of_lt (old entry among).2.1)
  case fresh =>
    intro entry inside
    rw [nextNode]
    rcases List.mem_cons.mp inside with rfl | among
    · exact Nat.lt_succ_self _
    · exact Nat.lt_succ_of_lt (old entry among).2.1
  case recorded =>
    intro entry inside
    rcases List.mem_cons.mp inside with rfl | among
    · exact here
    · rw [same entry.connection pattern (fun equal => (old entry among).1 (congrArg Prod.fst equal))]
      exact (old entry among).2.2
  case linked =>
    intro other subscription record
    by_cases own : other = connection
    · rw [own, here] at record
      cases record
      rw [own]
      exact ⟨rfl, List.mem_cons_self⟩
    · rw [same other pattern (fun equal => own (congrArg Prod.fst equal))] at record
      have among := (mem_members registry pattern coherent ⟨subscription.node, other, subscription.requestId⟩).mpr ⟨_, record⟩
      exact ⟨found.known _ ((coherent.patterns pattern).linked other subscription record).1, List.mem_cons_of_mem _ among⟩

theorem subscribe_coherent (registry : Registry) (connection : Nat) (self : Connection) (pattern : Bytes) (requestId : RpcId)
    (coherent : Coherent registry) (present : registry.connections connection = some self)
    (absent : pattern ∉ self.subscribedTopics) :
    ∃ topic, Coherent (registry.subscribe connection self pattern requestId) ∧
      Remapped registry (registry.subscribe connection self pattern requestId) connection self pattern
        (self.subscribedTopics.insert pattern ⟨topic, registry.nextNode, requestId⟩) := by
  have found := find_topic_found registry pattern coherent
  have missing : registry.subscription connection pattern = none := by
    rw [subscription_of registry connection self pattern present]
    exact AList.lookup_eq_none.mpr absent
  have outcome : registry.subscribe connection self pattern requestId =
      ((registry.findTopic pattern).1.addSubscriber (registry.findTopic pattern).2 connection requestId).1.setConnection connection
        { self with subscribedTopics :=
            self.subscribedTopics.insert pattern ⟨(registry.findTopic pattern).2, registry.nextNode, requestId⟩ } := by
    rw [← found.nextNode]
    exact if_neg absent
  refine ⟨(registry.findTopic pattern).2, ?_, ?_⟩
  · rw [outcome]
    exact subscribed_coherent registry _ connection _ self pattern requestId coherent found missing present
  · refine ⟨?_, fun other different => AList.lookup_insert_ne different⟩
    rw [outcome, ← found.connections]
    rfl

structure EntryErased (registry : Registry) (pattern : Bytes) (topic node : Nat) (erased : Registry) : Prop where
  listed : erased.topicList.lookup pattern =
    if (registry.heap topic).filter (fun entry => entry.node ≠ node) = [] then none else some topic
  others : ∀ other, other ≠ pattern → erased.topicList.lookup other = registry.topicList.lookup other
  heap : erased.heap = Function.update registry.heap topic ((registry.heap topic).filter (fun entry => entry.node ≠ node))
  nextTopic : erased.nextTopic = registry.nextTopic
  nextNode : erased.nextNode = registry.nextNode
  connections : erased.connections = registry.connections

theorem drop_erases (registry : Registry) (connection : Nat) (self : Connection) (pattern : Bytes) (subscription : TopicSubscription)
    (listed : registry.topicList.lookup pattern = some subscription.topic)
    (inside : ∃ entry ∈ registry.heap subscription.topic, entry.node = subscription.node) :
    ∃ erased, EntryErased registry pattern subscription.topic subscription.node erased ∧
      registry.dropSubscription connection self pattern subscription =
        .ok (erased.setConnection connection { self with subscribedTopics := self.subscribedTopics.erase pattern }) := by
  generalize rest : (registry.heap subscription.topic).filter (fun entry => entry.node ≠ subscription.node) = remaining
  have erases : registry.deleteSubscriberByIterator subscription.topic subscription.node =
      .ok (registry.setSubscribers subscription.topic remaining) := by
    rw [Registry.deleteSubscriberByIterator, if_pos inside, rest]
  have count : (registry.setSubscribers subscription.topic remaining).getSubscriberCount subscription.topic = remaining.length :=
    congrArg List.length (Function.update_self _ _ _)
  by_cases unused : remaining = []
  · have deletes : (registry.setSubscribers subscription.topic remaining).deleteIfUnused subscription.topic pattern =
        .ok { registry.setSubscribers subscription.topic remaining with topicList := registry.topicList.erase pattern } := by
      have known : pattern ∈ registry.topicList := AList.lookup_isSome.mp (by rw [listed]; rfl)
      rw [Registry.deleteIfUnused, count, if_pos (by rw [unused]; rfl)]
      exact if_pos known
    refine ⟨{ registry.setSubscribers subscription.topic remaining with topicList := registry.topicList.erase pattern },
      ⟨?_, ?_, ?_, rfl, rfl, rfl⟩, ?_⟩
    · rw [rest, if_pos unused]
      exact AList.lookup_erase _ _
    · intro other different
      exact AList.lookup_erase_ne different
    · rw [rest]
      rfl
    · simp only [Registry.dropSubscription, erases, bind, Except.bind, deletes]
      rfl
  · have keeps : (registry.setSubscribers subscription.topic remaining).deleteIfUnused subscription.topic pattern =
        .ok (registry.setSubscribers subscription.topic remaining) := by
      rw [Registry.deleteIfUnused, count, if_neg (by rw [List.length_eq_zero_iff]; exact unused)]
    refine ⟨registry.setSubscribers subscription.topic remaining, ⟨?_, ?_, ?_, rfl, rfl, rfl⟩, ?_⟩
    · rw [rest, if_neg unused]
      exact listed
    · intro other _
      rfl
    · rw [rest]
      rfl
    · simp only [Registry.dropSubscription, erases, bind, Except.bind, keeps]
      rfl

theorem remaining_others (registry : Registry) (connection : Nat) (pattern : Bytes) (subscription : TopicSubscription)
    (coherent : Coherent registry) (record : registry.subscription connection pattern = some subscription)
    (held : registry.topicList.lookup pattern = some subscription.topic) (entry : Subscriber)
    (inside : entry ∈ (registry.heap subscription.topic).filter (fun entry => entry.node ≠ subscription.node)) :
    entry ∈ registry.heap subscription.topic ∧ entry.connection ≠ connection := by
  obtain ⟨among, node⟩ := List.mem_filter.mp inside
  refine ⟨among, fun equal => ?_⟩
  have recorded := (coherent.patterns pattern).recorded _ held entry among
  rw [equal, record] at recorded
  exact absurd (congrArg TopicSubscription.node (Option.some.inj recorded)).symm (of_decide_eq_true node)

theorem erased_coherent (registry erased : Registry) (connection : Nat) (self : Connection) (pattern : Bytes)
    (subscription : TopicSubscription) (coherent : Coherent registry) (present : registry.connections connection = some self)
    (record : registry.subscription connection pattern = some subscription)
    (erasing : EntryErased registry pattern subscription.topic subscription.node erased) :
    Coherent (erased.setConnection connection { self with subscribedTopics := self.subscribedTopics.erase pattern }) := by
  obtain ⟨held, own⟩ := (coherent.patterns pattern).linked connection subscription record
  generalize outcome : erased.setConnection connection { self with subscribedTopics := self.subscribedTopics.erase pattern } = after
  generalize rest : (registry.heap subscription.topic).filter (fun entry => entry.node ≠ subscription.node) = remaining
  have listed : after.topicList.lookup pattern = if remaining = [] then none else some subscription.topic := by
    rw [← outcome, ← rest]
    exact erasing.listed
  have heap : after.heap = Function.update registry.heap subscription.topic remaining := by
    rw [← outcome, ← rest]
    exact erasing.heap
  have remapped : Remapped registry after connection self pattern (self.subscribedTopics.erase pattern) := by
    refine ⟨?_, fun other different => AList.lookup_erase_ne different⟩
    rw [← outcome, ← erasing.connections]
    rfl
  have here : after.subscription connection pattern = none := (remapped_here _ _ _ _ _ _ remapped).trans (AList.lookup_erase _ _)
  have same := fun other key => remapped_elsewhere registry after connection other self pattern key _ remapped present
  have former : ∀ entry ∈ remaining, entry ∈ registry.heap subscription.topic ∧ entry.connection ≠ connection := by
    rw [← rest]
    exact remaining_others registry connection pattern subscription coherent record held
  apply relisted_coherent registry after pattern subscription.topic remaining coherent
  constructor
  case listed => exact listed
  case others =>
    rw [← outcome]
    exact erasing.others
  case apart =>
    intro other different found
    exact different (coherent.separate other pattern _ found held)
  case stored => rw [heap, Function.update_self]
  case heaps =>
    intro other different
    rw [heap, Function.update_of_ne different]
  case allocated =>
    rw [← outcome]
    exact erasing.nextTopic ▸ (coherent.patterns pattern).allocated _ held
  case topicsGrow =>
    rw [← outcome]
    exact Nat.le_of_eq erasing.nextTopic.symm
  case nodesGrow =>
    rw [← outcome]
    exact Nat.le_of_eq erasing.nextNode.symm
  case subscriptions =>
    intro other different any
    exact same any other (fun equal => different (congrArg Prod.snd equal))
  case nodes =>
    rw [← rest]
    exact ((coherent.patterns pattern).nodes _ held).sublist (List.filter_sublist.map _)
  case fresh =>
    intro entry inside
    rw [← outcome]
    exact erasing.nextNode ▸ (coherent.patterns pattern).fresh _ held entry (former entry inside).1
  case recorded =>
    intro entry inside
    rw [same entry.connection pattern (fun equal => (former entry inside).2 (congrArg Prod.fst equal))]
    exact (coherent.patterns pattern).recorded _ held entry (former entry inside).1
  case linked =>
    intro other found recordedOther
    have different : other ≠ connection := by
      rintro rfl
      rw [here] at recordedOther
      cases recordedOther
    rw [same other pattern (fun equal => different (congrArg Prod.fst equal))] at recordedOther
    obtain ⟨sameTopic, inside⟩ := (coherent.patterns pattern).linked other found recordedOther
    have topic : found.topic = subscription.topic := Option.some.inj (sameTopic.symm.trans held)
    rw [topic] at inside
    refine ⟨topic, ?_⟩
    rw [← rest]
    refine List.mem_filter.mpr ⟨inside, decide_eq_true (fun equal => different ?_)⟩
    exact congrArg Subscriber.connection (List.inj_on_of_nodup_map ((coherent.patterns pattern).nodes _ held) inside own equal)

theorem drop_coherent (registry : Registry) (connection : Nat) (self : Connection) (pattern : Bytes)
    (subscription : TopicSubscription) (coherent : Coherent registry) (present : registry.connections connection = some self)
    (record : registry.subscription connection pattern = some subscription) :
    ∃ after, registry.dropSubscription connection self pattern subscription = .ok after ∧ Coherent after ∧
      Remapped registry after connection self pattern (self.subscribedTopics.erase pattern) := by
  obtain ⟨held, own⟩ := (coherent.patterns pattern).linked connection subscription record
  obtain ⟨erased, erasing, outcome⟩ := drop_erases registry connection self pattern subscription held ⟨_, own, rfl⟩
  refine ⟨_, outcome, erased_coherent registry erased connection self pattern subscription coherent present record erasing, ?_,
    fun other different => AList.lookup_erase_ne different⟩
  rw [← erasing.connections]
  rfl

end Eventhub.Hub
