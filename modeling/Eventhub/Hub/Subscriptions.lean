import Eventhub.Hub.Coherence

set_option autoImplicit false

namespace Eventhub.Hub

open Transition

theorem coherent_reconnected (registry : Registry) (connections : Nat → Option Connection) (coherent : Coherent registry)
    (same : ∀ connection pattern, ({ registry with connections := connections } : Registry).subscription connection pattern =
      registry.subscription connection pattern) : Coherent { registry with connections := connections } := by
  constructor
  · intro pattern
    have part := coherent.patterns pattern
    constructor
    · exact part.allocated
    · exact part.occupied
    · exact part.nodes
    · exact part.fresh
    · intro topic found entry inside
      rw [same]
      exact part.recorded topic found entry inside
    · intro connection subscription record
      rw [same] at record
      exact part.linked connection subscription record
  · exact coherent.separate

theorem set_connection_subscription (registry : Registry) (connection other : Nat) (self : Connection) (pattern : Bytes) :
    (registry.setConnection connection self).subscription other pattern =
      if other = connection then self.subscribedTopics.lookup pattern else registry.subscription other pattern := by
  by_cases same : other = connection
  · rw [if_pos same, same]
    exact subscription_of _ connection self pattern (Function.update_self _ _ _)
  · simp only [if_neg same, Registry.subscription, Registry.setConnection, Function.update_of_ne same]

structure Reduced (before after : Registry) (connection : Nat) (former rest : Connection) (order : List Bytes) : Prop where
  connections : after.connections = Function.update before.connections connection (some rest)
  state : rest.state = former.state
  isShutdown : rest.isShutdown = former.isShutdown
  topics : ∀ pattern, rest.subscribedTopics.lookup pattern =
    if pattern ∈ order then none else former.subscribedTopics.lookup pattern

theorem unsubscribe_loop_reduces (connection : Nat) (order : List Bytes) (registry : Registry) (self : Connection)
    (coherent : Coherent registry) (present : registry.connections connection = some self) :
    ∃ after rest, registry.unsubscribeLoop connection order = .ok after ∧ Coherent after ∧
      Reduced registry after connection self rest order := by
  induction order generalizing registry self with
  | nil =>
      refine ⟨registry, self, rfl, coherent, ?_, rfl, rfl, by simp⟩
      rw [← present, Function.update_eq_self]
  | cons pattern order ih =>
      cases record : registry.subscription connection pattern with
      | none =>
          obtain ⟨after, rest, outcome, kept, reduced⟩ := ih registry self coherent present
          refine ⟨after, rest, ?_, kept, reduced.connections, reduced.state, reduced.isShutdown, ?_⟩
          · simp only [Registry.unsubscribeLoop, present, record]
            exact outcome
          · intro key
            rw [reduced.topics key]
            by_cases same : key = pattern
            · rw [subscription_of registry connection self pattern present] at record
              rw [same]
              simp [record]
            · simp [same]
      | some subscription =>
          obtain ⟨middle, dropped, kept, remapped⟩ :=
            drop_coherent registry connection self pattern subscription coherent present record
          have here : middle.connections connection = some { self with subscribedTopics := self.subscribedTopics.erase pattern } := by
            rw [remapped.1, Function.update_self]
          obtain ⟨after, rest, outcome, coherentAfter, reduced⟩ := ih middle _ kept here
          refine ⟨after, rest, ?_, coherentAfter, ?_, reduced.state, reduced.isShutdown, ?_⟩
          · simp only [Registry.unsubscribeLoop, present, record, dropped, Except.bind]
            exact outcome
          · rw [reduced.connections, remapped.1, Function.update_idem]
          · intro key
            rw [reduced.topics key]
            by_cases same : key = pattern
            · rw [same]
              simp
            · simp [same, AList.lookup_erase_ne same]

def Op.Cancels (connection : Nat) (pattern : Bytes) : Op → Prop
  | .call other (.unsubscribe topicPattern) => other = connection ∧ topicPattern = pattern
  | .call other (.unsubscribeAll _) => other = connection
  | .call other (.destroy _) => other = connection
  | _ => False

def OthersKept (before after : Registry) (connection : Nat) : Prop :=
  ∀ other, other ≠ connection → after.connections other = before.connections other

theorem others_kept_update (before after : Registry) (connection : Nat) (self : Option Connection)
    (updated : after.connections = Function.update before.connections connection self) : OthersKept before after connection := by
  intro other different
  rw [updated, Function.update_of_ne different]

inductive Effect (op : Op) (connection : Nat) (pattern : Bytes) (before after : Option TopicSubscription) : Prop where
  | cancelled (cancels : op.Cancels connection pattern) (gone : after = none)
  | subscribed (requestId : RpcId) (asked : op = .call connection (.subscribe pattern requestId)) (absent : before = none)
      (topic node : Nat) (record : after = some ⟨topic, node, requestId⟩)
  | kept (lasting : ¬ op.Cancels connection pattern)
      (repeated : ∀ requestId, op = .call connection (.subscribe pattern requestId) → before ≠ none) (same : after = before)

section

variable (registry : Registry) (connection : Nat) (self : Connection)

theorem subscribe_effect (pattern : Bytes) (requestId : RpcId) (coherent : Coherent registry)
    (present : registry.connections connection = some self) :
    Coherent (registry.subscribe connection self pattern requestId) ∧
      OthersKept registry (registry.subscribe connection self pattern requestId) connection ∧ ∀ other key,
      Effect (.call connection (.subscribe pattern requestId)) other key (registry.subscription other key)
        ((registry.subscribe connection self pattern requestId).subscription other key) := by
  by_cases known : pattern ∈ self.subscribedTopics
  · rw [subscribe_known registry connection self pattern requestId known]
    refine ⟨coherent, fun _ _ => rfl, fun other key => .kept (fun cancels => cancels) ?_ rfl⟩
    intro asked same absent
    cases same
    rw [subscription_of registry connection self pattern present, AList.lookup_eq_none] at absent
    exact absent known
  · obtain ⟨topic, kept, remapped⟩ := subscribe_coherent registry connection self pattern requestId coherent present known
    refine ⟨kept, others_kept_update _ _ _ _ remapped.1, fun other key => ?_⟩
    by_cases same : (other, key) = (connection, pattern)
    · cases same
      refine .subscribed requestId rfl ?_ topic registry.nextNode ?_
      · rw [subscription_of registry connection self pattern present]
        exact AList.lookup_eq_none.mpr known
      · exact (remapped_here _ _ _ _ _ _ remapped).trans (AList.lookup_insert _)
    · refine .kept (fun cancels => cancels) ?_ (remapped_elsewhere _ _ _ _ _ _ _ _ remapped present same)
      intro asked equal
      cases equal
      exact absurd rfl same

theorem unsubscribe_effect (pattern : Bytes) (coherent : Coherent registry)
    (present : registry.connections connection = some self) :
    ∃ removed after, registry.unsubscribe connection self pattern = .ok (removed, after) ∧ Coherent after ∧
      OthersKept registry after connection ∧ ∀ other key,
      Effect (.call connection (.unsubscribe pattern)) other key (registry.subscription other key)
        (after.subscription other key) := by
  cases record : self.subscribedTopics.lookup pattern with
  | none =>
      refine ⟨false, registry, by simp only [Registry.unsubscribe, record], coherent, fun _ _ => rfl, fun other key => ?_⟩
      by_cases cancels : (Op.call connection (.unsubscribe pattern)).Cancels other key
      · refine .cancelled cancels ?_
        rw [← cancels.1, ← cancels.2, subscription_of registry connection self pattern present]
        exact record
      · exact .kept cancels (fun _ equal => by cases equal) rfl
  | some subscription =>
      have held : registry.subscription connection pattern = some subscription := by
        rw [subscription_of registry connection self pattern present]
        exact record
      obtain ⟨after, dropped, kept, remapped⟩ := drop_coherent registry connection self pattern subscription coherent present held
      refine ⟨true, after, ?_, kept, others_kept_update _ _ _ _ remapped.1, fun other key => ?_⟩
      · simp only [Registry.unsubscribe, record, dropped]
        rfl
      · by_cases cancels : (Op.call connection (.unsubscribe pattern)).Cancels other key
        · refine .cancelled cancels ?_
          rw [← cancels.1, ← cancels.2]
          exact (remapped_here _ _ _ _ _ _ remapped).trans (AList.lookup_erase _ _)
        · refine .kept cancels (fun _ equal => by cases equal) (remapped_elsewhere _ _ _ _ _ _ _ _ remapped present ?_)
          intro same
          cases same
          exact cancels ⟨rfl, rfl⟩

theorem unsubscribe_all_reduces (order : List Bytes) (coherent : Coherent registry)
    (present : registry.connections connection = some self) (whole : order.Perm self.subscribedTopics.keys) :
    ∃ after rest, registry.unsubscribeAll connection order = .ok (order.length, after) ∧ Coherent after ∧
      Reduced registry after connection self rest order ∧ ∀ pattern, rest.subscribedTopics.lookup pattern = none := by
  obtain ⟨after, rest, outcome, kept, reduced⟩ := unsubscribe_loop_reduces connection order registry self coherent present
  refine ⟨after, rest, by rw [Registry.unsubscribeAll, outcome]; rfl, kept, reduced, fun pattern => ?_⟩
  rw [reduced.topics pattern]
  split
  · rfl
  · rename_i absent
    rw [whole.mem_iff] at absent
    exact AList.lookup_eq_none.mpr (fun inside => absent (AList.mem_keys.mp inside))

theorem reduced_subscription (after : Registry) (rest : Connection) (order : List Bytes) (other : Nat) (key : Bytes)
    (reduced : Reduced registry after connection self rest order) (cleared : ∀ pattern, rest.subscribedTopics.lookup pattern = none) :
    after.subscription other key = if other = connection then none else registry.subscription other key := by
  by_cases same : other = connection
  · rw [if_pos same, same, Registry.subscription, reduced.connections, Function.update_self]
    exact cleared key
  · rw [if_neg same, Registry.subscription, reduced.connections, Function.update_of_ne same, ← Registry.subscription]

theorem relabelled_subscription (label : Connection) (present : registry.connections connection = some self)
    (topics : label.subscribedTopics = self.subscribedTopics) (other : Nat) (key : Bytes) :
    (registry.setConnection connection label).subscription other key = registry.subscription other key := by
  rw [set_connection_subscription]
  split
  · rename_i equal
    rw [equal, subscription_of registry connection self key present, topics]
  · rfl

theorem member_effect (member : Member) (coherent : Coherent registry) (present : registry.connections connection = some self)
    (enumerates : member.Enumerates self) :
    ∃ after, member.run registry connection self = .ok after ∧ Coherent after ∧ OthersKept registry after connection ∧
      ∀ other key, Effect (.call connection member) other key (registry.subscription other key) (after.subscription other key) := by
  cases member with
  | setState state =>
      have same := relabelled_subscription registry connection self { self with state := state } present rfl
      exact ⟨_, rfl, coherent_reconnected registry _ coherent same, others_kept_update _ _ _ _ rfl,
        fun other key => .kept (fun cancels => cancels) (fun _ equal => by cases equal) (same other key)⟩
  | shutdown =>
      have same := relabelled_subscription registry connection self { self with isShutdown := true } present rfl
      exact ⟨_, rfl, coherent_reconnected registry _ coherent same, others_kept_update _ _ _ _ rfl,
        fun other key => .kept (fun cancels => cancels) (fun _ equal => by cases equal) (same other key)⟩
  | subscribe pattern requestId =>
      exact ⟨_, rfl, subscribe_effect registry connection self pattern requestId coherent present⟩
  | unsubscribe pattern =>
      obtain ⟨removed, after, outcome, effect⟩ := unsubscribe_effect registry connection self pattern coherent present
      exact ⟨after, by simp only [Member.run, outcome]; rfl, effect⟩
  | unsubscribeAll order =>
      obtain ⟨after, rest, outcome, kept, reduced, cleared⟩ :=
        unsubscribe_all_reduces registry connection self order coherent present enumerates
      refine ⟨after, by simp only [Member.run, outcome]; rfl, kept, others_kept_update _ _ _ _ reduced.connections,
        fun other key => ?_⟩
      rw [reduced_subscription registry connection self after rest order other key reduced cleared]
      by_cases same : other = connection
      · exact .cancelled same.symm (if_pos same)
      · exact .kept (fun cancels => same cancels.symm) (fun _ equal => by cases equal) (if_neg same)
  | destroy order =>
      obtain ⟨after, rest, outcome, kept, reduced, cleared⟩ :=
        unsubscribe_all_reduces registry connection self order coherent present enumerates
      have gone : ∀ other key, ({ after with connections := Function.update after.connections connection none } : Registry).subscription
          other key = after.subscription other key := by
        intro other key
        rw [reduced_subscription registry connection self after rest order other key reduced cleared]
        by_cases same : other = connection
        · rw [same]
          simp only [Registry.subscription, Function.update_self, Option.bind_none, if_true]
        · simp only [Registry.subscription, Function.update_of_ne same, reduced.connections, if_neg same]
      have updated : Function.update after.connections connection none = Function.update registry.connections connection none := by
        rw [reduced.connections, Function.update_idem]
      refine ⟨_, by simp only [Member.run, outcome]; rfl, coherent_reconnected after _ kept gone,
        others_kept_update _ _ _ _ updated, fun other key => ?_⟩
      rw [gone, reduced_subscription registry connection self after rest order other key reduced cleared]
      by_cases same : other = connection
      · exact .cancelled same.symm (if_pos same)
      · exact .kept (fun cancels => same cancels.symm) (fun _ equal => by cases equal) (if_neg same)

end

theorem step_effect (registry : Registry) (op : Op) (result : Except Fault Registry) (coherent : Coherent registry)
    (possible : registry.step op = some result) :
    ∃ after, result = .ok after ∧ Coherent after ∧ OthersKept registry after op.connection ∧ ∀ connection pattern,
      Effect op connection pattern (registry.subscription connection pattern) (after.subscription connection pattern) := by
  cases op with
  | connect connection =>
      cases present : registry.connections connection with
      | some self => simp [Registry.step, present] at possible
      | none =>
          have same : ∀ other key, (registry.setConnection connection ⟨.http, false, ∅⟩).subscription other key =
              registry.subscription other key := by
            intro other key
            rw [set_connection_subscription]
            split
            · rename_i equal
              rw [equal, Registry.subscription, present]
              rfl
            · rfl
          simp only [Registry.step, present, Option.some.injEq] at possible
          exact ⟨_, possible.symm, coherent_reconnected registry _ coherent same, others_kept_update _ _ _ _ rfl,
            fun other key => .kept (fun cancels => cancels) (fun _ equal => by cases equal) (same other key)⟩
  | call connection member =>
      cases present : registry.connections connection with
      | none => simp [Registry.step, present] at possible
      | some self =>
          by_cases enumerates : member.Enumerates self
          · obtain ⟨after, outcome, effect⟩ := member_effect registry connection self member coherent present enumerates
            simp only [Registry.step, present, if_pos enumerates, Option.some.injEq, outcome] at possible
            exact ⟨after, possible.symm, effect⟩
          · simp [Registry.step, present, enumerates] at possible

end Eventhub.Hub
