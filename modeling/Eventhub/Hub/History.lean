import Eventhub.Hub.Subscriptions

set_option autoImplicit false

namespace Eventhub.Hub

open Transition

def Settled (history : List Op) (connection : Nat) (pattern : Bytes) : Prop :=
  ∀ earlier requestId later, history = earlier ++ .call connection (.subscribe pattern requestId) :: later →
    ∃ op ∈ later, op.Cancels connection pattern

-- The earliest subscribe to the pattern not followed by an unsubscribe of it.
def Earliest (history : List Op) (connection : Nat) (pattern : Bytes) (requestId : RpcId) : Prop :=
  ∃ earlier later, history = earlier ++ .call connection (.subscribe pattern requestId) :: later ∧
    (∀ op ∈ later, ¬ op.Cancels connection pattern) ∧ Settled earlier connection pattern

structure Tracked (history : List Op) (registry : Registry) : Prop where
  absent : ∀ connection pattern, registry.subscription connection pattern = none → Settled history connection pattern
  present : ∀ connection pattern subscription, registry.subscription connection pattern = some subscription →
    Earliest history connection pattern subscription.requestId

theorem settled_cancelled (history : List Op) (op : Op) (connection : Nat) (pattern : Bytes)
    (cancels : op.Cancels connection pattern) : Settled (history ++ [op]) connection pattern := by
  intro earlier requestId later split
  rcases ListLemmas.snoc_split _ _ _ _ _ split with ⟨same, _⟩ | ⟨between, rfl, _⟩
  · rw [← same] at cancels
    exact cancels.elim
  · exact ⟨op, by simp, cancels⟩

theorem settled_kept (history : List Op) (op : Op) (connection : Nat) (pattern : Bytes)
    (settled : Settled history connection pattern)
    (other : ∀ requestId, op ≠ .call connection (.subscribe pattern requestId)) : Settled (history ++ [op]) connection pattern := by
  intro earlier requestId later split
  rcases ListLemmas.snoc_split _ _ _ _ _ split with ⟨same, _⟩ | ⟨between, rfl, before⟩
  · exact absurd same.symm (other requestId)
  · obtain ⟨cancel, inside, cancels⟩ := settled earlier requestId between before
    exact ⟨cancel, by simp [inside], cancels⟩

theorem earliest_kept (history : List Op) (op : Op) (connection : Nat) (pattern : Bytes) (requestId : RpcId)
    (earliest : Earliest history connection pattern requestId) (lasting : ¬ op.Cancels connection pattern) :
    Earliest (history ++ [op]) connection pattern requestId := by
  obtain ⟨earlier, later, rfl, uncancelled, settled⟩ := earliest
  refine ⟨earlier, later ++ [op], by simp, ?_, settled⟩
  intro other inside
  rcases List.mem_append.mp inside with among | last
  · exact uncancelled other among
  · rw [List.mem_singleton.mp last]
    exact lasting

theorem tracked_step (history : List Op) (op : Op) (before after : Registry) (tracked : Tracked history before)
    (effect : ∀ connection pattern, Effect op connection pattern (before.subscription connection pattern)
      (after.subscription connection pattern)) : Tracked (history ++ [op]) after where
  absent connection pattern missing := by
    cases effect connection pattern with
    | cancelled cancels _ => exact settled_cancelled history op connection pattern cancels
    | subscribed requestId _ _ topic node record =>
        rw [missing] at record
        cases record
    | kept _ repeated same =>
        have before := same.symm.trans missing
        refine settled_kept history op connection pattern (tracked.absent connection pattern before) ?_
        intro requestId asked
        exact repeated requestId asked before
  present connection pattern subscription record := by
    cases effect connection pattern with
    | cancelled _ gone =>
        rw [gone] at record
        cases record
    | subscribed requestId asked missing topic node recorded =>
        cases recorded.symm.trans record
        refine ⟨history, [], by rw [asked], by simp, tracked.absent connection pattern missing⟩
    | kept lasting _ same =>
        exact earliest_kept history op connection pattern _ (tracked.present connection pattern subscription (same.symm.trans record))
          lasting

theorem steps_effect (before after : Registry) (op : Op) (coherent : Coherent before) (step : before.Steps op after) :
    Coherent after ∧ OthersKept before after op.connection ∧ ∀ connection pattern,
      Effect op connection pattern (before.subscription connection pattern) (after.subscription connection pattern) := by
  obtain ⟨result, possible, outcome⟩ := Option.bind_eq_some_iff.mp step
  obtain ⟨reached, rfl, effect⟩ := step_effect before op result coherent possible
  cases outcome
  exact effect

theorem empty_coherent : Coherent Registry.empty := by
  constructor
  · intro pattern
    constructor
    · intro topic found
      cases found
    · intro topic found
      cases found
    · intro topic found
      cases found
    · intro topic found
      cases found
    · intro topic found
      cases found
    · intro connection subscription record
      cases record
  · intro left right topic found
    cases found

theorem run_coherent (history : List Op) (registry : Registry) (run : Run Registry.Steps Registry.empty history registry) :
    Coherent registry ∧ Tracked history registry := by
  refine run_invariant Registry.Steps (fun history registry => Coherent registry ∧ Tracked history registry) Registry.empty ?_ ?_
    history registry run
  · refine ⟨empty_coherent, ?_, ?_⟩
    · intro connection pattern _ earlier requestId later split
      simp at split
    · intro connection pattern subscription record
      cases record
  · rintro history op before after ⟨coherent, tracked⟩ step
    obtain ⟨kept, _, effect⟩ := steps_effect before after op coherent step
    exact ⟨kept, tracked_step history op before after tracked effect⟩

structure RegistryCoherent (history : List Op) (registry : Registry) : Prop where
  listed : ∀ connection self pattern, registry.connections connection = some self →
    (pattern ∈ self.subscribedTopics ↔ ∃ topic, registry.topicList.lookup pattern = some topic ∧
      ((registry.heap topic).filter (fun entry => entry.connection = connection)).length = 1)
  entry : ∀ connection self pattern subscription, registry.connections connection = some self →
    self.subscribedTopics.lookup pattern = some subscription →
    registry.topicList.lookup pattern = some subscription.topic ∧
      (registry.heap subscription.topic).filter (fun entry => entry.connection = connection) =
        [⟨subscription.node, connection, subscription.requestId⟩] ∧
      (registry.heap subscription.topic).filter (fun entry => entry.node = subscription.node) =
        [⟨subscription.node, connection, subscription.requestId⟩] ∧
      Earliest history connection pattern subscription.requestId
  topics : ∀ pattern, pattern ∈ registry.topicList ↔
    ∃ connection self, registry.connections connection = some self ∧ pattern ∈ self.subscribedTopics
  faultless : ∀ op result, registry.step op = some result → ∃ after, result = .ok after

theorem registry_coherent (history : List Op) (registry : Registry) (run : Run Registry.Steps Registry.empty history registry) :
    RegistryCoherent history registry := by
  obtain ⟨coherent, tracked⟩ := run_coherent history registry run
  constructor
  · intro connection self pattern present
    constructor
    · intro inside
      obtain ⟨subscription, found⟩ := Option.isSome_iff_exists.mp (AList.lookup_isSome.mpr inside)
      rw [← subscription_of registry connection self pattern present] at found
      obtain ⟨listed, single, _⟩ := coherent_entry registry connection pattern subscription coherent found
      exact ⟨subscription.topic, listed, by rw [single]; rfl⟩
    · rintro ⟨topic, listed, one⟩
      obtain ⟨entry, single⟩ := List.length_eq_one_iff.mp one
      obtain ⟨inside, own⟩ := List.mem_filter.mp (by rw [single]; exact List.mem_singleton_self entry)
      have recorded := (coherent.patterns pattern).recorded topic listed entry inside
      rw [of_decide_eq_true own, subscription_of registry connection self pattern present] at recorded
      exact AList.lookup_isSome.mp (by rw [recorded]; rfl)
  · intro connection self pattern subscription present found
    rw [← subscription_of registry connection self pattern present] at found
    obtain ⟨listed, byConnection, byNode⟩ := coherent_entry registry connection pattern subscription coherent found
    exact ⟨listed, byConnection, byNode, tracked.present connection pattern subscription found⟩
  · intro pattern
    constructor
    · intro inside
      obtain ⟨topic, listed⟩ := Option.isSome_iff_exists.mp (AList.lookup_isSome.mpr inside)
      obtain ⟨entry, among⟩ := List.exists_mem_of_ne_nil _ ((coherent.patterns pattern).occupied topic listed)
      have recorded := (coherent.patterns pattern).recorded topic listed entry among
      obtain ⟨self, present, held⟩ := Option.bind_eq_some_iff.mp recorded
      exact ⟨entry.connection, self, present, AList.lookup_isSome.mp (by rw [held]; rfl)⟩
    · rintro ⟨connection, self, present, inside⟩
      obtain ⟨subscription, found⟩ := Option.isSome_iff_exists.mp (AList.lookup_isSome.mpr inside)
      rw [← subscription_of registry connection self pattern present] at found
      have listed := ((coherent.patterns pattern).linked connection subscription found).1
      exact AList.lookup_isSome.mp (by rw [listed]; rfl)
  · intro op result possible
    obtain ⟨after, outcome, _⟩ := step_effect registry op result coherent possible
    exact ⟨after, outcome⟩

def sharedTopic : List Op :=
  [.connect 0, .connect 1, .call 0 (.subscribe (str "a/+") (.integer 7)), .call 1 (.subscribe (str "a/+") (.string (str "x"))),
    .call 0 (.subscribe (str "a/+") (.integer 8)), .call 1 (.destroy [str "a/+"])]

theorem shared_topic_coherent :
    ∃ registry, perform Registry.next Registry.empty sharedTopic = some registry ∧
      registry.subscription 0 (str "a/+") = some ⟨0, 0, .integer 7⟩ ∧ RegistryCoherent sharedTopic registry := by
  have held : (perform Registry.next Registry.empty sharedTopic).bind (fun registry => registry.subscription 0 (str "a/+")) =
      some ⟨0, 0, .integer 7⟩ := by decide
  obtain ⟨registry, done, record⟩ := Option.bind_eq_some_iff.mp held
  exact ⟨registry, done, record, registry_coherent sharedTopic registry (perform_run Registry.next _ _ _ done)⟩

end Eventhub.Hub
