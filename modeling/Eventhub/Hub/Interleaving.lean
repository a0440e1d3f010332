import Eventhub.Hub.Calls

set_option autoImplicit false

namespace Eventhub.Hub

open Transition

-- What every interleaving keeps: a subscription that no call has begun to erase
-- has its own entry in the list of the topic it was added to.
structure Entered (worker : WorkerState) : Prop where
  topics : ∀ pattern topic, worker.registry.topicList.lookup pattern = some topic → topic < worker.registry.nextTopic
  records : ∀ connection pattern subscription, worker.registry.subscription connection pattern = some subscription →
    subscription.topic < worker.registry.nextTopic ∧ subscription.node < worker.registry.nextNode
  nodes : ∀ first second left right one other, worker.registry.subscription first left = some one →
    worker.registry.subscription second right = some other → one.node = other.node → (first, left) = (second, right)
  entries : ∀ connection pattern subscription, worker.registry.subscription connection pattern = some subscription →
    (worker.calls connection).pc.removing ≠ some pattern →
      ⟨subscription.node, connection, subscription.requestId⟩ ∈ worker.registry.heap subscription.topic

def Listed (worker : WorkerState) : Prop :=
  ∀ connection pattern subscription, worker.registry.subscription connection pattern = some subscription →
    pattern ∉ (worker.calls connection).pc.remaining → worker.registry.topicList.lookup pattern = some subscription.topic

def Unclaimed (worker : WorkerState) : CriticalSection → Prop
  | .start _ => True
  | .advance connection =>
      match (worker.calls connection).pc with
      | .deleting pattern _ => ∀ entry ∈ worker.registry.members pattern, pattern ∈ (worker.calls entry.connection).pc.remaining
      | _ => True

instance (worker : WorkerState) (event : CriticalSection) : Decidable (Unclaimed worker event) :=
  match event with
  | .start _ => isTrue trivial
  | .advance connection =>
      match stands : (worker.calls connection).pc with
      | .deleting pattern _ =>
          decidable_of_iff (∀ entry ∈ worker.registry.members pattern, pattern ∈ (worker.calls entry.connection).pc.remaining)
            (by rw [Unclaimed, stands])
      | .idle => isTrue (by rw [Unclaimed, stands]; trivial)
      | .visiting _ => isTrue (by rw [Unclaimed, stands]; trivial)
      | .counting _ _ _ => isTrue (by rw [Unclaimed, stands]; trivial)

structure Located (before middle : Registry) (pattern : Bytes) (topic : Nat) : Prop where
  known : ∀ holder, before.topicList.lookup pattern = some holder → topic = holder
  listed : middle.topicList.lookup pattern = some topic
  others : ∀ other, other ≠ pattern → middle.topicList.lookup other = before.topicList.lookup other
  allocated : topic < middle.nextTopic
  topicsGrow : before.nextTopic ≤ middle.nextTopic
  heaps : ∀ place, place < before.nextTopic → middle.heap place = before.heap place
  nextNode : middle.nextNode = before.nextNode
  connections : middle.connections = before.connections

theorem find_topic_located (registry : Registry) (pattern : Bytes)
    (allocated : ∀ topic, registry.topicList.lookup pattern = some topic → topic < registry.nextTopic) :
    Located registry (registry.findTopic pattern).1 pattern (registry.findTopic pattern).2 := by
  cases known : registry.topicList.lookup pattern with
  | some topic =>
      have found : registry.findTopic pattern = (registry, topic) := by rw [Registry.findTopic, known]
      rw [found]
      exact ⟨fun _ same => Option.some.inj (known.symm.trans same), known, fun _ _ => rfl, allocated topic known, Nat.le_refl _,
        fun _ _ => rfl, rfl, rfl⟩
  | none =>
      rw [Registry.findTopic, known]
      refine ⟨?_, AList.lookup_insert _, fun _ different => AList.lookup_insert_ne different, Nat.lt_succ_self _, Nat.le_succ _, ?_,
        rfl, rfl⟩
      · intro holder listed
        rw [known] at listed
        cases listed
      · intro place old
        exact Function.update_of_ne (Nat.ne_of_lt old) _ _

structure Added (before after : Registry) (connection : Nat) (pattern : Bytes) (requestId : RpcId) (topic : Nat) : Prop where
  known : ∀ holder, before.topicList.lookup pattern = some holder → topic = holder
  listed : after.topicList.lookup pattern = some topic
  others : ∀ other, other ≠ pattern → after.topicList.lookup other = before.topicList.lookup other
  allocated : topic < after.nextTopic
  topicsGrow : before.nextTopic ≤ after.nextTopic
  nextNode : after.nextNode = before.nextNode + 1
  record : after.subscription connection pattern = some ⟨topic, before.nextNode, requestId⟩
  same : ∀ other key, (other, key) ≠ (connection, pattern) → after.subscription other key = before.subscription other key
  entry : ⟨before.nextNode, connection, requestId⟩ ∈ after.heap topic
  heaps : ∀ place, place < before.nextTopic → ∀ entry ∈ before.heap place, entry ∈ after.heap place

theorem subscribe_added (registry : Registry) (connection : Nat) (self : Connection) (pattern : Bytes) (requestId : RpcId)
    (present : registry.connections connection = some self) (absent : pattern ∉ self.subscribedTopics)
    (allocated : ∀ topic, registry.topicList.lookup pattern = some topic → topic < registry.nextTopic) :
    ∃ topic, Added registry (registry.subscribe connection self pattern requestId) connection pattern requestId topic := by
  have located := find_topic_located registry pattern allocated
  rw [Registry.subscribe, if_neg absent, Registry.subscribeConnection]
  generalize (registry.findTopic pattern).1 = middle at located ⊢
  generalize (registry.findTopic pattern).2 = topic at located ⊢
  have remapped : Remapped registry ((middle.addSubscriber topic connection requestId).1.setConnection connection
      { self with subscribedTopics := self.subscribedTopics.insert pattern ⟨topic, middle.nextNode, requestId⟩ }) connection self pattern
      (self.subscribedTopics.insert pattern ⟨topic, middle.nextNode, requestId⟩) := by
    refine ⟨?_, fun other different => AList.lookup_insert_ne different⟩
    rw [← located.connections]
    rfl
  refine ⟨topic, located.known, located.listed, located.others, located.allocated, located.topicsGrow, ?_, ?_, ?_, ?_, ?_⟩
  · rw [← located.nextNode]
    rfl
  · rw [← located.nextNode]
    exact (remapped_here _ _ _ _ _ _ remapped).trans (AList.lookup_insert _)
  · exact fun other key => remapped_elsewhere registry _ connection other self pattern key _ remapped present
  · rw [← located.nextNode]
    exact (congrArg (_ ∈ ·) (Function.update_self topic _ middle.heap)).mpr List.mem_cons_self
  · intro place old entry inside
    rw [← located.heaps place old] at inside
    by_cases here : place = topic
    · rw [here] at inside ⊢
      exact (congrArg (entry ∈ ·) (Function.update_self topic _ middle.heap)).mpr (List.mem_cons_of_mem _ inside)
    · exact (congrArg (entry ∈ ·) (Function.update_of_ne here _ middle.heap)).mpr inside

theorem added_record (before after : Registry) (connection other : Nat) (pattern key : Bytes) (requestId : RpcId) (topic : Nat)
    (subscription : TopicSubscription) (added : Added before after connection pattern requestId topic)
    (record : after.subscription other key = some subscription) :
    ((other, key) = (connection, pattern) ∧ subscription = ⟨topic, before.nextNode, requestId⟩) ∨
      ((other, key) ≠ (connection, pattern) ∧ before.subscription other key = some subscription) := by
  by_cases here : (other, key) = (connection, pattern)
  · cases here
    rw [added.record] at record
    exact .inl ⟨rfl, (Option.some.inj record).symm⟩
  · rw [added.same other key here] at record
    exact .inr ⟨here, record⟩

section

variable (before after : WorkerState) (event : CriticalSection)

theorem entered_subscribed (connection : Nat) (pattern : Bytes) (requestId : RpcId) (topic : Nat) (registry : Registry)
    (entered : Entered before) (added : Added before.registry registry connection pattern requestId topic) :
    Entered (before.move connection registry (before.calls connection)) := by
  constructor
  · intro other holder listed
    by_cases here : other = pattern
    · rw [here, move_registry, added.listed] at listed
      cases listed
      exact added.allocated
    · rw [move_registry, added.others other here] at listed
      exact Nat.lt_of_lt_of_le (entered.topics other holder listed) added.topicsGrow
  · intro other key subscription record
    rw [move_registry, added.nextNode]
    rcases added_record _ _ _ _ _ _ _ _ _ added record with ⟨_, rfl⟩ | ⟨_, old⟩
    · exact ⟨added.allocated, Nat.lt_succ_self _⟩
    · obtain ⟨placed, numbered⟩ := entered.records other key subscription old
      exact ⟨Nat.lt_of_lt_of_le placed added.topicsGrow, Nat.lt_succ_of_lt numbered⟩
  · intro first second left right one other firstRecord secondRecord same
    rcases added_record _ _ _ _ _ _ _ _ _ added firstRecord with ⟨here, rfl⟩ | ⟨_, old⟩
    · rcases added_record _ _ _ _ _ _ _ _ _ added secondRecord with ⟨there, _⟩ | ⟨_, older⟩
      · rw [here, there]
      · exact absurd same.symm (Nat.ne_of_lt (entered.records second right other older).2)
    · rcases added_record _ _ _ _ _ _ _ _ _ added secondRecord with ⟨_, rfl⟩ | ⟨_, older⟩
      · exact absurd same (Nat.ne_of_lt (entered.records first left one old).2)
      · exact entered.nodes first second left right one other old older same
  · intro other key subscription record standing
    rw [move_same] at standing
    rcases added_record _ _ _ _ _ _ _ _ _ added record with ⟨here, rfl⟩ | ⟨_, old⟩
    · cases here
      exact added.entry
    · exact added.heaps _ (entered.records other key subscription old).1 _ (entered.entries other key subscription old standing)

theorem entered_steady (entered : Entered before) (steady : Steady before event after)
    (topics : ∀ pattern topic, after.registry.topicList.lookup pattern = some topic →
      before.registry.topicList.lookup pattern = some topic)
    (heaps : ∀ connection pattern subscription, after.registry.subscription connection pattern = some subscription →
      (after.calls connection).pc.removing ≠ some pattern →
      ⟨subscription.node, connection, subscription.requestId⟩ ∈ before.registry.heap subscription.topic →
      ⟨subscription.node, connection, subscription.requestId⟩ ∈ after.registry.heap subscription.topic) : Entered after := by
  constructor
  · intro pattern topic listed
    rw [steady.nextTopic]
    exact entered.topics pattern topic (topics pattern topic listed)
  · intro connection pattern subscription record
    rw [steady.nextTopic, steady.nextNode]
    exact entered.records connection pattern subscription (steady.records connection pattern subscription record).1
  · intro first second left right one other firstRecord secondRecord
    exact entered.nodes first second left right one other (steady.records _ _ _ firstRecord).1 (steady.records _ _ _ secondRecord).1
  · intro connection pattern subscription record standing
    obtain ⟨old, _, removing⟩ := steady.records connection pattern subscription record
    exact heaps connection pattern subscription record standing
      (entered.entries connection pattern subscription old (fun erasing => standing (removing erasing)))

theorem entered_section (entered : Entered before) (taken : SectionTaken before event after) : Entered after := by
  cases taken with
  | subscribed connection self pattern requestId _ present absent _ done =>
      obtain ⟨topic, added⟩ := subscribe_added before.registry connection self pattern requestId present absent (entered.topics pattern)
      rw [done]
      exact entered_subscribed before connection pattern requestId topic _ entered added
  | quiet steady heap topics =>
      refine entered_steady before after event entered steady (fun _ _ listed => by rwa [topics] at listed) ?_
      intro connection pattern subscription _ _ inside
      rwa [heap]
  | erased steady topics connection pattern subscription record removing heap =>
      refine entered_steady before after event entered steady (fun _ _ listed => by rwa [topics] at listed) ?_
      intro other key kept recorded standing inside
      rw [heap]
      by_cases here : kept.topic = subscription.topic
      · rw [here] at inside ⊢
        rw [Function.update_self, List.mem_filter, decide_eq_true_eq]
        refine ⟨inside, fun same => ?_⟩
        cases entered.nodes other connection key pattern kept subscription (steady.records other key kept recorded).1 record same
        exact standing removing
      · rw [Function.update_of_ne here]
        exact inside
  | deleted steady heap connection pattern _ _ _ topics =>
      refine entered_steady before after event entered steady ?_ ?_
      · intro other topic listed
        rw [topics] at listed
        by_cases here : other = pattern
        · rw [here, AList.lookup_erase] at listed
          cases listed
        · rwa [AList.lookup_erase_ne here] at listed
      · intro other key subscription _ _ inside
        rwa [heap]

theorem listed_steady (listed : Listed before) (steady : Steady before event after)
    (topics : ∀ connection pattern subscription, before.registry.subscription connection pattern = some subscription →
      pattern ∉ (before.calls connection).pc.remaining → before.registry.topicList.lookup pattern = some subscription.topic →
      after.registry.topicList.lookup pattern = some subscription.topic) : Listed after := by
  intro connection pattern subscription record free
  obtain ⟨old, remaining, _⟩ := steady.records connection pattern subscription record
  have before := fun inside => free (remaining inside)
  exact topics connection pattern subscription old before (listed connection pattern subscription old before)

theorem listed_section (entered : Entered before) (listed : Listed before) (unclaimed : Unclaimed before event)
    (taken : SectionTaken before event after) : Listed after := by
  cases taken with
  | subscribed connection self pattern requestId _ present absent _ done =>
      obtain ⟨topic, added⟩ := subscribe_added before.registry connection self pattern requestId present absent (entered.topics pattern)
      have calls : after.calls = before.calls := by rw [done, move_same]
      have registry : after.registry = before.registry.subscribe connection self pattern requestId := by rw [done, move_registry]
      rw [← registry] at added
      intro other key subscription record free
      rw [calls] at free
      rcases added_record _ _ _ _ _ _ _ _ _ added record with ⟨here, rfl⟩ | ⟨_, old⟩
      · cases here
        exact added.listed
      · have known := listed other key subscription old free
        by_cases same : key = pattern
        · rw [same] at known ⊢
          rw [added.listed, added.known _ known]
        · rw [added.others key same, known]
  | quiet steady _ topics => exact listed_steady before after event listed steady (fun _ _ _ _ _ known => by rw [topics, known])
  | erased steady topics => exact listed_steady before after event listed steady (fun _ _ _ _ _ known => by rw [topics, known])
  | deleted steady _ connection pattern rest asked deleting topics =>
      refine listed_steady before after event listed steady ?_
      intro other key subscription record free known
      rw [topics]
      by_cases same : key = pattern
      · -- The subscriber would be in the list that is deleted.
        rw [asked, Unclaimed, deleting] at unclaimed
        have inside := entered.entries other key subscription record (fun removing => free (removing_remains _ _ removing))
        rw [same] at free known
        exact absurd (unclaimed _ (by rw [Registry.members, known]; exact inside)) free
      · rw [AList.lookup_erase_ne same]
        exact known

end

def Held (history : List CriticalSection) (connection : Nat) (pattern : Bytes) : Prop :=
  ∃ earlier requestId later, history = earlier ++ .start (.call connection (.subscribe pattern requestId)) :: later ∧
    ∀ event ∈ later, ¬ event.Cancels connection pattern

structure Shown (worker : WorkerState) (connection : Nat) (pattern : Bytes) : Prop where
  record : ∃ subscription, worker.registry.subscription connection pattern = some subscription
  free : pattern ∉ (worker.calls connection).pc.remaining
  live : (worker.calls connection).expired = false

theorem subscribe_shown (worker after : WorkerState) (connection : Nat) (pattern : Bytes) (requestId : RpcId) (entered : Entered worker)
    (taken : worker.step (.start (.call connection (.subscribe pattern requestId))) = some after) : Shown after connection pattern := by
  obtain ⟨self, present, live, idle, started⟩ := call_started worker after connection _ taken
  cases started
  refine ⟨?_, ?_, ?_⟩
  · by_cases known : pattern ∈ self.subscribedTopics
    · rw [subscribe_known worker.registry connection self pattern requestId known, move_registry,
        subscription_of worker.registry connection self pattern present]
      exact Option.isSome_iff_exists.mp (AList.lookup_isSome.mpr known)
    · obtain ⟨topic, added⟩ := subscribe_added worker.registry connection self pattern requestId present known (entered.topics pattern)
      exact ⟨_, added.record⟩
  · rw [move_call, idle rfl]
    exact fun inside => nomatch inside
  · rw [move_call]
    exact live

theorem shown_section (before after : WorkerState) (event : CriticalSection) (connection : Nat) (pattern : Bytes)
    (entered : Entered before) (shown : Shown before connection pattern) (lasting : ¬ event.Cancels connection pattern)
    (taken : SectionTaken before event after) : Shown after connection pattern := by
  obtain ⟨⟨subscription, record⟩, free, live⟩ := shown
  have steadily : Steady before event after → Shown after connection pattern := by
    intro steady
    obtain ⟨kept, clear, alive⟩ := steady.held connection pattern subscription lasting record free live
    exact ⟨⟨subscription, kept⟩, clear, alive⟩
  cases taken with
  | subscribed caller self key requestId _ present absent _ done =>
      obtain ⟨topic, added⟩ := subscribe_added before.registry caller self key requestId present absent (entered.topics key)
      have calls : after.calls = before.calls := by rw [done, move_same]
      refine ⟨?_, by rwa [calls], by rwa [calls]⟩
      rw [done, move_registry]
      by_cases here : (connection, pattern) = (caller, key)
      · cases here
        exact ⟨_, added.record⟩
      · exact ⟨subscription, (added.same connection pattern here).trans record⟩
  | quiet steady => exact steadily steady
  | erased steady => exact steadily steady
  | deleted steady => exact steadily steady

theorem held_snoc (history : List CriticalSection) (event : CriticalSection) (connection : Nat) (pattern : Bytes)
    (held : Held (history ++ [event]) connection pattern) :
    (∃ requestId, event = .start (.call connection (.subscribe pattern requestId))) ∨
      (Held history connection pattern ∧ ¬ event.Cancels connection pattern) := by
  obtain ⟨earlier, requestId, later, split, lasting⟩ := held
  rcases ListLemmas.snoc_split _ _ _ _ _ split with ⟨last, _⟩ | ⟨between, rfl, before⟩
  · exact .inl ⟨requestId, last.symm⟩
  · refine .inr ⟨⟨earlier, requestId, between, before, fun other inside => lasting other (List.mem_append_left _ inside)⟩, ?_⟩
    exact lasting event (List.mem_append_right _ List.mem_cons_self)

theorem held_shown (history : List CriticalSection) (worker : WorkerState)
    (run : Run WorkerState.Steps WorkerState.empty history worker) :
    Entered worker ∧ ∀ connection pattern, Held history connection pattern → Shown worker connection pattern := by
  refine run_invariant WorkerState.Steps (fun history worker =>
    Entered worker ∧ ∀ connection pattern, Held history connection pattern → Shown worker connection pattern) WorkerState.empty ?_ ?_
    history worker run
  · refine ⟨⟨(fun _ _ found => nomatch found), (fun _ _ _ found => nomatch found), (fun _ _ _ _ _ _ found => nomatch found),
      (fun _ _ _ found => nomatch found)⟩, ?_⟩
    rintro connection pattern ⟨earlier, requestId, later, split, _⟩
    cases earlier <;> cases split
  · rintro history event before after ⟨entered, shown⟩ step
    have taken := section_taken before after event step
    refine ⟨entered_section before after event entered taken, ?_⟩
    intro connection pattern held
    rcases held_snoc history event connection pattern held with ⟨requestId, rfl⟩ | ⟨earlier, lasting⟩
    · exact subscribe_shown before after connection pattern requestId entered step
    · exact shown_section before after event connection pattern entered (shown connection pattern earlier) lasting taken

theorem call_advances (history : List CriticalSection) (worker : WorkerState)
    (run : Run WorkerState.Steps WorkerState.empty history worker) (connection : Nat) (self : Connection)
    (present : worker.registry.connections connection = some self) (underWay : (worker.calls connection).pc ≠ .idle) :
    ∃ after, worker.step (.advance connection) = some after := by
  have entered := (held_shown history worker run).1
  simp only [WorkerState.step, present]
  cases stands : (worker.calls connection).pc with
  | idle => exact absurd stands underWay
  | visiting topics =>
      cases topics with
      | nil => exact ⟨_, rfl⟩
      | cons pattern rest =>
          rw [WorkerState.advanceCall]
          cases record : self.subscribedTopics.lookup pattern with
          | none => exact ⟨_, rfl⟩
          | some subscription =>
              rw [← subscription_of worker.registry connection self pattern present] at record
              have inside := entered.entries connection pattern subscription record (by rw [stands]; intro removing; cases removing)
              simp only [WorkerState.eraseSubscriber, Registry.deleteSubscriberByIterator]
              rw [if_pos ⟨_, inside, rfl⟩]
              exact ⟨_, rfl⟩
  | counting pattern topic rest =>
      rw [WorkerState.advanceCall]
      split
      · exact ⟨_, rfl⟩
      · exact ⟨_, rfl⟩
  | deleting pattern rest => exact ⟨_, rfl⟩

abbrev UnclaimedStep (before : WorkerState) (event : CriticalSection) (after : WorkerState) : Prop :=
  Unclaimed before event ∧ before.step event = some after

theorem unclaimed_listed (history : List CriticalSection) (worker : WorkerState)
    (run : Run UnclaimedStep WorkerState.empty history worker) : Entered worker ∧ Listed worker := by
  refine run_invariant UnclaimedStep (fun _ worker => Entered worker ∧ Listed worker) WorkerState.empty ?_ ?_ history worker run
  · exact ⟨(held_shown [] _ .nil).1, (fun _ _ _ found => nomatch found)⟩
  · rintro history event before after ⟨entered, listed⟩ ⟨unclaimed, step⟩
    have taken := section_taken before after event step
    exact ⟨entered_section before after event entered taken, listed_section before after event entered listed unclaimed taken⟩

theorem mem_sent_to (connection : Nat) (sent : List Sent) (output : Output) :
    output ∈ sentTo connection sent ↔ ⟨connection, output⟩ ∈ sent := by
  rw [sentTo, List.mem_map]
  constructor
  · rintro ⟨⟨receiver, other⟩, inside, rfl⟩
    rw [List.mem_filter, decide_eq_true_eq] at inside
    rw [← inside.2]
    exact inside.1
  · intro inside
    exact ⟨⟨connection, output⟩, List.mem_filter.mpr ⟨inside, decide_eq_true rfl⟩, rfl⟩

-- A publish of a message with both fields gives the connection what the
-- subscription is due, which is something while it is open.
def Reached (worker : WorkerState) (connection : Nat) (self : Connection) (pattern : Bytes) (requestId : RpcId) : Prop :=
  ∀ order job jsonData id message, order.Perm worker.registry.topicList.keys → job.data = some jsonData →
    jsonData.stringAt (str "id") = some id → jsonData.stringAt (str "message") = some message →
    isFilterMatched pattern job.topicName →
      (∀ output ∈ self.answer jsonData requestId, output ∈ sentTo connection (worker.publish order job)) ∧
      (self.isShutdown = false → self.state ≠ .http → sentTo connection (worker.publish order job) ≠ [])

theorem answer_open (self : Connection) (jsonData : Json) (requestId : RpcId) (id message : Bytes)
    (idField : jsonData.stringAt (str "id") = some id) (messageField : jsonData.stringAt (str "message") = some message)
    (running : self.isShutdown = false) (upgraded : self.state ≠ .http) : ∃ output, output ∈ self.answer jsonData requestId := by
  cases state : self.state with
  | http => exact absurd state upgraded
  | websocket => exact ⟨.text requestId jsonData, by simp [Connection.answer, running, state]⟩
  | sse => exact ⟨.event id message, by simp [Connection.answer, running, state, idField, messageField]⟩

theorem listed_reached (worker : WorkerState) (connection : Nat) (self : Connection) (pattern : Bytes) (subscription : TopicSubscription)
    (present : worker.registry.connections connection = some self) (live : (worker.calls connection).expired = false)
    (listed : worker.registry.topicList.lookup pattern = some subscription.topic)
    (entry : ⟨subscription.node, connection, subscription.requestId⟩ ∈ worker.registry.heap subscription.topic) :
    Reached worker connection self pattern subscription.requestId := by
  intro order job jsonData id message whole data idField messageField matched
  have given : ∀ output ∈ self.answer jsonData subscription.requestId, output ∈ sentTo connection (worker.publish order job) := by
    intro output due
    rw [mem_sent_to, WorkerState.publish, Registry.publish, List.mem_flatMap]
    refine ⟨pattern, ?_, ?_⟩
    · rw [whole.mem_iff]
      exact AList.mem_keys.mp (AList.lookup_isSome.mp (by rw [listed]; rfl))
    · rw [if_pos matched, data, publishTopic, ← mem_sent_to,
        publish_loop_answers _ jsonData id message idField messageField, List.mem_flatMap]
      refine ⟨⟨subscription.node, connection, subscription.requestId⟩, List.mem_filter.mpr ⟨?_, decide_eq_true rfl⟩, ?_⟩
      · simp only [Registry.members, listed]
        exact entry
      · simpa [answerTo, live, present] using due
  refine ⟨given, fun running upgraded => ?_⟩
  obtain ⟨output, due⟩ := answer_open self jsonData subscription.requestId id message idField messageField running upgraded
  exact List.ne_nil_of_mem (given output due)

theorem concurrent_subscription_reached (history : List CriticalSection) (worker : WorkerState)
    (run : Run UnclaimedStep WorkerState.empty history worker) (connection : Nat) (pattern : Bytes)
    (held : Held history connection pattern) :
    ∃ self subscription, worker.registry.connections connection = some self ∧
      self.subscribedTopics.lookup pattern = some subscription ∧ Reached worker connection self pattern subscription.requestId := by
  obtain ⟨entered, listed⟩ := unclaimed_listed history worker run
  have steps := run_mono UnclaimedStep WorkerState.Steps _ _ _ (fun _ _ _ taken => taken.2) run
  obtain ⟨⟨subscription, record⟩, free, live⟩ := (held_shown history worker steps).2 connection pattern held
  obtain ⟨self, present, found⟩ := Option.bind_eq_some_iff.mp record
  refine ⟨self, subscription, present, found, ?_⟩
  exact listed_reached worker connection self pattern subscription present live (listed connection pattern subscription record free)
    (entered.entries connection pattern subscription record (fun removing => free (removing_remains _ _ removing)))

-- Connection 2 gives the pattern up twice. The first time nobody else has it;
-- the second time connection 1 subscribes before the count is taken.
def politeSections : List CriticalSection :=
  [.start (.connect 1), .start (.connect 2), .start (.call 1 (.setState .websocket)),
    .start (.call 2 (.subscribe (str "news") .null)), .start (.call 2 (.unsubscribe (str "news"))), .advance 2, .advance 2, .advance 2,
    .start (.call 2 (.subscribe (str "news") .null)), .start (.call 2 (.unsubscribeAll [str "news"])), .advance 2,
    .start (.call 1 (.subscribe (str "news") (.integer 7))), .advance 2, .advance 2]

theorem subscribed_before_count_reached :
    ∃ worker, Run UnclaimedStep WorkerState.empty politeSections worker ∧ Held politeSections 1 (str "news") ∧
      ∃ self subscription, worker.registry.connections 1 = some self ∧ self.subscribedTopics.lookup (str "news") = some subscription ∧
        Reached worker 1 self (str "news") subscription.requestId := by
  have possible : ((perform (guardedStep WorkerState.step Unclaimed) WorkerState.empty politeSections).map
      (fun worker => worker.registry.topicList.keys)) = some [str "news"] := by decide +kernel
  obtain ⟨worker, done, _⟩ := Option.map_eq_some_iff.mp possible
  have run := perform_guarded WorkerState.step Unclaimed WorkerState.empty worker politeSections done
  have held : Held politeSections 1 (str "news") :=
    ⟨politeSections.take 11, .integer 7, [.advance 2, .advance 2], rfl, by simp [CriticalSection.Cancels]⟩
  exact ⟨worker, run, held, concurrent_subscription_reached politeSections worker run 1 (str "news") held⟩

-- Connection 1 subscribes after connection 2 has read a count of 0 and before
-- it deletes the topic.
def racingSections : List CriticalSection :=
  [.start (.connect 1), .start (.connect 2), .start (.call 1 (.setState .websocket)),
    .start (.call 2 (.subscribe (str "news") .null)), .start (.call 2 (.unsubscribe (str "news"))), .advance 2,
    .start (.call 1 (.subscribe (str "news") (.integer 7))), .advance 2, .advance 2]

theorem subscription_lost_in_race :
    ∃ worker, Run WorkerState.Steps WorkerState.empty racingSections worker ∧ Held racingSections 1 (str "news") ∧
      (worker.calls 1).pc = .idle ∧ (worker.calls 2).pc = .idle ∧
      (∃ self, worker.registry.connections 1 = some self ∧ self.state = .websocket ∧ self.isShutdown = false ∧
        str "news" ∈ self.subscribedTopics) ∧
      ∀ order job, order.Perm worker.registry.topicList.keys → worker.publish order job = [] := by
  have outcome : ((perform WorkerState.step WorkerState.empty racingSections).map (fun worker =>
      (decide ((worker.calls 1).pc = .idle ∧ (worker.calls 2).pc = .idle), worker.registry.topicList.keys,
        (worker.registry.connections 1).map (fun self => (self.state, self.isShutdown, decide (str "news" ∈ self.subscribedTopics)))))) =
      some (true, [], some (.websocket, false, true)) := by decide +kernel
  obtain ⟨worker, done, shown⟩ := Option.map_eq_some_iff.mp outcome
  simp only [Prod.mk.injEq, Option.map_eq_some_iff, decide_eq_true_eq] at shown
  obtain ⟨⟨first, second⟩, unlisted, self, present, state, running, inside⟩ := shown
  refine ⟨worker, perform_run WorkerState.step WorkerState.empty worker racingSections done,
    ⟨racingSections.take 6, .integer 7, [.advance 2, .advance 2], rfl, by simp [CriticalSection.Cancels]⟩, first, second,
    ⟨self, present, state, running, inside⟩, ?_⟩
  intro order job whole
  rw [unlisted, List.perm_nil] at whole
  rw [whole]
  rfl

end Eventhub.Hub
