import Eventhub.Hub.Calls

set_option autoImplicit false

namespace Eventhub.Hub

open Transition

def Interleaves (before after : WorkerState) : Prop := ∃ events, Run WorkerState.Steps before events after

theorem interleaves_step (before after : WorkerState) (event : CriticalSection) (taken : before.step event = some after) :
    Interleaves before after := ⟨[event], .snoc [] event before after .nil taken⟩

theorem interleaves_trans (before middle after : WorkerState) (first : Interleaves before middle) (second : Interleaves middle after) :
    Interleaves before after := by
  obtain ⟨earlier, start⟩ := first
  obtain ⟨later, finish⟩ := second
  exact ⟨earlier ++ later, run_append _ _ _ _ _ _ start finish⟩

section

variable (worker : WorkerState) (connection : Nat) (registry after : Registry) (self : Connection) (expired : Bool)

theorem move_move (middle : Registry) (earlier later : Call) :
    (worker.move connection middle earlier).move connection registry later = worker.move connection registry later := by
  rw [WorkerState.move, WorkerState.move, Function.update_idem, ← WorkerState.move]

theorem step_advance (pc : CallPc) (present : registry.connections connection = some self) :
    (worker.move connection registry ⟨pc, expired⟩).step (.advance connection) =
      (worker.move connection registry ⟨pc, expired⟩).advanceCall connection self expired pc := by
  simp only [WorkerState.step, move_registry, move_call, present]

theorem turn_interleaves (topicPattern : Bytes) (topic : Nat) (rest : List Bytes)
    (present : registry.connections connection = some self) (prunes : registry.deleteIfUnused topic topicPattern = .ok after) :
    Interleaves (worker.move connection registry ⟨.counting topicPattern topic rest, expired⟩)
      (worker.move connection (after.forget connection self topicPattern) ⟨.visiting rest, expired⟩) := by
  have count := step_advance worker connection registry self expired (.counting topicPattern topic rest) present
  by_cases unused : registry.getSubscriberCount topic = 0
  · rw [Registry.deleteIfUnused, if_pos unused] at prunes
    have delete := step_advance worker connection registry self expired (.deleting topicPattern rest) present
    rw [WorkerState.advanceCall, move_registry, if_pos unused, move_move] at count
    rw [WorkerState.advanceCall, move_registry, prunes, move_move] at delete
    exact interleaves_trans _ _ _ (interleaves_step _ _ _ count) (interleaves_step _ _ _ delete)
  · rw [Registry.deleteIfUnused, if_neg unused] at prunes
    cases prunes
    rw [WorkerState.advanceCall, move_registry, if_neg unused, move_move] at count
    exact interleaves_step _ _ _ count

theorem drop_parts (topicPattern : Bytes) (subscription : TopicSubscription)
    (drops : registry.dropSubscription connection self topicPattern subscription = .ok after) :
    ∃ erased pruned, registry.deleteSubscriberByIterator subscription.topic subscription.node = .ok erased ∧
      erased.connections = registry.connections ∧ erased.deleteIfUnused subscription.topic topicPattern = .ok pruned ∧
      after = pruned.forget connection self topicPattern := by
  rw [Registry.dropSubscription] at drops
  cases erases : registry.deleteSubscriberByIterator subscription.topic subscription.node with
  | error fault =>
      rw [erases] at drops
      cases drops
  | ok erased =>
      rw [erases] at drops
      simp only [bind, Except.bind] at drops
      cases prunes : erased.deleteIfUnused subscription.topic topicPattern with
      | error fault =>
          rw [prunes] at drops
          cases drops
      | ok pruned =>
          rw [prunes] at drops
          cases drops
          refine ⟨erased, pruned, rfl, ?_, prunes, rfl⟩
          rw [Registry.deleteSubscriberByIterator] at erases
          split at erases
          · cases erases
            rfl
          · cases erases

theorem drop_interleaves (call : Call) (topicPattern : Bytes) (subscription : TopicSubscription) (rest : List Bytes)
    (present : registry.connections connection = some self)
    (drops : registry.dropSubscription connection self topicPattern subscription = .ok after) :
    ∃ middle, (worker.move connection registry call).eraseSubscriber connection topicPattern subscription rest = some middle ∧
      Interleaves middle (worker.move connection after ⟨.visiting rest, call.expired⟩) := by
  obtain ⟨erased, pruned, erases, same, prunes, rfl⟩ := drop_parts connection registry after self topicPattern subscription drops
  refine ⟨worker.move connection erased ⟨.counting topicPattern subscription.topic rest, call.expired⟩, ?_, ?_⟩
  · rw [WorkerState.eraseSubscriber, move_registry, erases, move_call]
    exact congrArg some (move_move _ _ _ _ _ _)
  · exact turn_interleaves worker connection erased pruned self call.expired topicPattern subscription.topic rest
      (by rw [same, present]) prunes

end

theorem loop_interleaves (worker : WorkerState) (connection : Nat) (expired : Bool) (order : List Bytes) (registry after : Registry)
    (self : Connection) (present : registry.connections connection = some self)
    (outcome : registry.unsubscribeLoop connection order = .ok after) :
    Interleaves (worker.move connection registry ⟨.visiting order, expired⟩) (worker.move connection after ⟨.visiting [], expired⟩) ∧
      ∃ rest, after.connections connection = some rest := by
  induction order generalizing registry self with
  | nil =>
      cases outcome
      exact ⟨⟨[], .nil⟩, self, present⟩
  | cons pattern order ih =>
      have visit := step_advance worker connection registry self expired (.visiting (pattern :: order)) present
      rw [WorkerState.advanceCall] at visit
      rw [Registry.unsubscribeLoop, subscription_of registry connection self pattern present, present] at outcome
      cases record : self.subscribedTopics.lookup pattern with
      | none =>
          rw [record] at outcome visit
          rw [move_registry, move_move] at visit
          obtain ⟨rest, left⟩ := ih registry self present outcome
          exact ⟨interleaves_trans _ _ _ (interleaves_step _ _ _ visit) rest, left⟩
      | some subscription =>
          rw [record] at outcome visit
          cases drops : registry.dropSubscription connection self pattern subscription with
          | error fault =>
              simp only [drops, Except.bind] at outcome
              cases outcome
          | ok dropped =>
              simp only [drops, Except.bind] at outcome
              obtain ⟨middle, erased, turn⟩ := drop_interleaves worker connection registry dropped self _ pattern subscription order
                present drops
              obtain ⟨_, pruned, _, _, _, final⟩ := drop_parts connection registry dropped self pattern subscription drops
              obtain ⟨rest, left⟩ := ih dropped _ (by rw [final]; exact Function.update_self _ _ _) outcome
              exact ⟨interleaves_trans _ _ _ (interleaves_trans _ _ _ (interleaves_step _ _ _ (visit.trans erased)) turn) rest, left⟩

def Registry.resting (registry : Registry) : WorkerState := ⟨registry, fun _ => ⟨.idle, false⟩⟩

theorem move_resting (registry after : Registry) (connection : Nat) :
    registry.resting.move connection after ⟨.idle, false⟩ = after.resting := by
  rw [WorkerState.move, Registry.resting, Function.update_eq_self_iff.mpr rfl, ← Registry.resting]

section

variable (registry : Registry) (connection : Nat) (self : Connection)

theorem step_start (member : Member) (present : registry.connections connection = some self) (enumerates : member.Enumerates self) :
    registry.resting.step (.start (.call connection member)) = registry.resting.startCall connection self member := by
  simp [WorkerState.step, Registry.resting, present, enumerates]

theorem return_interleaves (after : Registry) (rest : Connection) (expired : Bool) (present : after.connections connection = some rest) :
    Interleaves (registry.resting.move connection after ⟨.visiting [], expired⟩)
      (if expired then { after with connections := Function.update after.connections connection none } else after).resting := by
  refine interleaves_step _ _ (.advance connection) ?_
  rw [step_advance registry.resting connection after rest expired (.visiting []) present, WorkerState.advanceCall, move_registry,
    move_move, move_resting]

theorem all_looped {Result : Type} (order : List Bytes) (finish : Nat × Registry → Result) (after : Result)
    (outcome : (registry.unsubscribeAll connection order).map finish = .ok after) :
    ∃ left, registry.unsubscribeLoop connection order = .ok left ∧ after = finish (order.length, left) := by
  rw [Registry.unsubscribeAll] at outcome
  cases loop : registry.unsubscribeLoop connection order with
  | error fault =>
      rw [loop] at outcome
      cases outcome
  | ok left =>
      rw [loop] at outcome
      cases outcome
      exact ⟨left, rfl, rfl⟩

theorem all_interleaves (member : Member) (order : List Bytes) (expired : Bool) (after : Registry)
    (present : registry.connections connection = some self) (enumerates : member.Enumerates self)
    (begins : registry.resting.startCall connection self member =
      some (registry.resting.move connection registry ⟨.visiting order, expired⟩))
    (outcome : registry.unsubscribeLoop connection order = .ok after) :
    Interleaves registry.resting
      (if expired then { after with connections := Function.update after.connections connection none } else after).resting := by
  obtain ⟨loop, rest, left⟩ := loop_interleaves registry.resting connection expired order registry after self present outcome
  have began := interleaves_step _ _ _ ((step_start registry connection self member present enumerates).trans begins)
  exact interleaves_trans _ _ _ began (interleaves_trans _ _ _ loop (return_interleaves registry connection after rest expired left))

theorem unsubscribe_interleaves (pattern : Bytes) (after : Registry) (present : registry.connections connection = some self)
    (outcome : Member.run registry connection self (.unsubscribe pattern) = .ok after) : Interleaves registry.resting after.resting := by
  have begins := step_start registry connection self (.unsubscribe pattern) present trivial
  cases record : self.subscribedTopics.lookup pattern with
  | none =>
      simp only [Member.run, Registry.unsubscribe, record] at outcome
      simp only [WorkerState.startCall, record] at begins
      cases outcome
      exact interleaves_step _ _ _ begins
  | some subscription =>
      simp only [Member.run, Registry.unsubscribe, record] at outcome
      simp only [WorkerState.startCall, record] at begins
      cases drops : registry.dropSubscription connection self pattern subscription with
      | error fault =>
          rw [drops] at outcome
          cases outcome
      | ok dropped =>
          rw [drops] at outcome
          cases outcome
          obtain ⟨middle, erased, turn⟩ := drop_interleaves registry.resting connection registry dropped self ⟨.idle, false⟩ pattern
            subscription [] present drops
          obtain ⟨_, pruned, _, _, _, final⟩ := drop_parts connection registry dropped self pattern subscription drops
          rw [move_resting] at erased
          refine interleaves_trans _ _ _ (interleaves_step _ _ _ (begins.trans erased)) (interleaves_trans _ _ _ turn ?_)
          exact return_interleaves registry connection dropped _ false (by rw [final]; exact Function.update_self _ _ _)

theorem member_interleaves (member : Member) (after : Registry) (present : registry.connections connection = some self)
    (enumerates : member.Enumerates self) (outcome : member.run registry connection self = .ok after) :
    Interleaves registry.resting after.resting := by
  have begins := step_start registry connection self member present enumerates
  have single : ∀ final, registry.resting.startCall connection self member =
      some (registry.resting.move connection final (registry.resting.calls connection)) → Interleaves registry.resting final.resting := by
    intro final taken
    rw [show registry.resting.calls connection = ⟨.idle, false⟩ from rfl, move_resting] at taken
    exact interleaves_step _ _ _ (begins.trans taken)
  cases member with
  | setState state =>
      cases outcome
      exact single _ rfl
  | shutdown =>
      cases outcome
      exact single _ rfl
  | subscribe pattern requestId =>
      cases outcome
      exact single _ rfl
  | unsubscribe pattern => exact unsubscribe_interleaves registry connection self pattern after present outcome
  | unsubscribeAll order =>
      obtain ⟨left, loop, same⟩ := all_looped registry connection order Prod.snd after outcome
      rw [same]
      exact all_interleaves registry connection self (.unsubscribeAll order) order false left present enumerates rfl loop
  | destroy order =>
      obtain ⟨left, loop, same⟩ := all_looped registry connection order _ after outcome
      rw [same]
      exact all_interleaves registry connection self (.destroy order) order true left present enumerates rfl loop

end

theorem operation_interleaves (registry after : Registry) (op : Op) (taken : registry.next op = some after) :
    Interleaves registry.resting after.resting := by
  cases op with
  | connect connection =>
      cases present : registry.connections connection with
      | some self => simp [Registry.next, Registry.step, present] at taken
      | none =>
          simp only [Registry.next, Registry.step, present] at taken
          cases taken
          refine interleaves_step _ _ (.start (.connect connection)) ?_
          simp only [WorkerState.step, show registry.resting.registry = registry from rfl, present, move_resting]
  | call connection member =>
      cases present : registry.connections connection with
      | none => simp [Registry.next, Registry.step, present] at taken
      | some self =>
          simp only [Registry.next, Registry.step, present] at taken
          split at taken
          · rename_i enumerates
            cases outcome : member.run registry connection self with
            | error fault =>
                rw [outcome] at taken
                cases taken
            | ok final =>
                rw [outcome] at taken
                cases taken
                exact member_interleaves registry connection self member after present enumerates outcome
          · cases taken

theorem operations_interleave (ops : List Op) (registry : Registry) (run : Run Registry.Steps Registry.empty ops registry) :
    Interleaves WorkerState.empty registry.resting := by
  refine run_invariant Registry.Steps (fun _ registry => Interleaves WorkerState.empty registry.resting) Registry.empty ⟨[], .nil⟩ ?_
    ops registry run
  intro _ op before after reached taken
  exact interleaves_trans _ _ _ reached (operation_interleaves before after op taken)

end Eventhub.Hub
