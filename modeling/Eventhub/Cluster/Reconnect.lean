import Eventhub.Cluster.Tenants

set_option autoImplicit false

namespace Eventhub.Cluster

open Transition
open Hub (Json Failure)

def ConsumerEvent.setsUp : ConsumerEvent → Bool
  | .reset => true
  | .create _ => true
  | .subscribe _ => true
  | _ => false

def setups (index : Nat) (events : List Event) : List ConsumerEvent := (events.filterMap (Event.call index)).filter ConsumerEvent.setsUp

def Link.silent (alive : Bool) : Link := ⟨none, alive, [], none, []⟩

-- Where the thread is, by the last of these calls and the number of resets.
inductive Standing (keyspace : Bytes) : Option ConsumerEvent → Nat → Consumer → Prop where
  | starting (count : Nat) : Standing keyspace none count ⟨.creating true, false, count, none⟩
  | resetting (count : Nat) : Standing keyspace (some .reset) count ⟨.creating false, false, count, none⟩
  | created (starting alive : Bool) (count : Nat) :
      Standing keyspace (some (.create none)) count ⟨.subscribing starting, false, count, some (Link.silent alive)⟩
  | lost (count : Nat) : Standing keyspace (some (.create (some .timeout))) count ⟨.looping, false, count, none⟩
  | undefined (count : Nat) : Standing keyspace (some (.create (some .timeout))) count ⟨.undefined, false, count, none⟩
  | refused (count : Nat) : Standing keyspace (some (.create (some .error))) count ⟨.looping, true, count, none⟩
  | uncreated (thrown : Thrown) (count : Nat) : Standing keyspace (some (.create (some thrown))) count ⟨.exited, false, count, none⟩
  | deaf (thrown : Thrown) (reconnect alive : Bool) (count : Nat) (noticed : thrown = .error → reconnect = true) :
      Standing keyspace (some (.subscribe (some thrown))) count ⟨.looping, reconnect, count, some (Link.silent alive)⟩
  | unsubscribed (thrown : Thrown) (alive : Bool) (count : Nat) :
      Standing keyspace (some (.subscribe (some thrown))) count ⟨.exited, false, count, some (Link.silent alive)⟩
  | listening (reconnect : Bool) (count : Nat) (link : Link) (sent : link.pattern = some (ownPattern keyspace)) :
      Standing keyspace (some (.subscribe none)) count ⟨.looping, reconnect, count, some link⟩

def latest (last : Option ConsumerEvent) (event : ConsumerEvent) : Option ConsumerEvent := if event.setsUp then some event else last

def ConsumerEvent.resets : ConsumerEvent → Nat
  | .reset => 1
  | _ => 0

section

variable {keyspace : Bytes} {last : Option ConsumerEvent} {resets : Nat}

theorem standing_relinked {consumer : Consumer} {link other : Link} (standing : Standing keyspace last resets consumer)
    (linked : consumer.subscriber = some link) (sent : link.pattern.isSome) (same : other.pattern = link.pattern) :
    Standing keyspace last resets { consumer with subscriber := some other } := by
  cases standing with
  | listening reconnect count own pattern =>
      cases linked
      exact .listening reconnect _ other (same.trans pattern)
  | created => cases linked; cases sent
  | deaf => cases linked; cases sent
  | unsubscribed => cases linked; cases sent
  | _ => cases linked

theorem step_standing (size : Nat) (before after : Consumer) (event : ConsumerEvent) (standing : Standing keyspace last resets before)
    (step : before.step keyspace size event = some after) :
    Standing keyspace (latest last event) (resets + event.resets) after := by
  cases event with
  | reset =>
      obtain ⟨_, outcome⟩ := Option.ite_none_right_eq_some.mp step
      cases outcome
      cases standing <;> exact .resetting _
  | create thrown =>
      cases standing with
      | starting count =>
          cases thrown with
          | none =>
              cases step
              exact .created true true _
          | some thrown =>
              cases step
              exact .uncreated thrown _
      | resetting count =>
          cases thrown with
          | none =>
              cases step
              exact .created false true _
          | some thrown =>
              cases step
              cases thrown with
              | timeout => exact .lost _
              | error => exact .refused _
      | _ => cases step
  | subscribe thrown =>
      cases standing with
      | created starting alive count =>
          cases thrown with
          | none =>
              cases step
              exact .listening false _ _ rfl
          | some thrown =>
              cases step
              cases starting with
              | true => exact .unsubscribed thrown alive _
              | false =>
                  cases thrown with
                  | timeout => exact .deaf .timeout false alive _ (fun never => by cases never)
                  | error => exact .deaf .error true alive _ (fun _ => rfl)
      | _ => cases step
  | consume =>
      obtain ⟨⟨looping, _, null⟩, outcome⟩ := Option.ite_none_right_eq_some.mp step
      cases outcome
      cases standing with
      | lost count => exact .undefined _
      | refused count => contradiction
      | deaf thrown reconnect alive count noticed => cases null
      | listening reconnect count link sent => cases null
      | _ => cases looping
  | fail thrown =>
      obtain ⟨⟨looping, quiet, present⟩, outcome⟩ := Option.ite_none_right_eq_some.mp step
      cases outcome
      cases standing with
      | lost count => cases present
      | refused count => cases present
      | deaf earlier reconnect alive count noticed =>
          cases thrown with
          | timeout => exact .deaf earlier reconnect alive _ noticed
          | error => exact .deaf earlier true alive _ (fun _ => rfl)
      | listening reconnect count link sent =>
          cases thrown with
          | timeout => exact .listening reconnect _ link sent
          | error => exact .listening true _ link sent
      | _ => cases looping
  | register =>
      obtain ⟨link, linked, rest⟩ := Option.bind_eq_some_iff.mp step
      obtain ⟨⟨_, sent, _⟩, outcome⟩ := Option.ite_none_right_eq_some.mp rest
      cases outcome
      exact standing_relinked standing linked sent rfl
  | close =>
      obtain ⟨link, linked, outcome⟩ := Option.bind_eq_some_iff.mp step
      cases outcome
      cases standing with
      | listening reconnect count own pattern =>
          cases linked
          exact .listening reconnect _ _ pattern
      | created starting alive count =>
          cases linked
          exact .created starting false _
      | deaf thrown reconnect alive count noticed =>
          cases linked
          exact .deaf thrown reconnect false _ noticed
      | unsubscribed thrown alive count =>
          cases linked
          exact .unsubscribed thrown false _
      | _ => cases linked

theorem standing_queued {consumer : Consumer} {link : Link} (standing : Standing keyspace last resets consumer)
    (linked : consumer.subscriber = some link) (queued : link.queued ≠ []) : link.pattern.isSome := by
  cases standing with
  | listening reconnect count own sent =>
      cases linked
      rw [sent]
      rfl
  | created => cases linked; exact absurd rfl queued
  | deaf => cases linked; exact absurd rfl queued
  | unsubscribed => cases linked; exact absurd rfl queued
  | _ => cases linked

end

theorem made_resets (event : ConsumerEvent) : ([event].filter ConsumerEvent.setsUp).count .reset = event.resets := by
  cases event <;> rfl

theorem made_latest (earlier : List ConsumerEvent) (event : ConsumerEvent) :
    (earlier ++ [event].filter ConsumerEvent.setsUp).getLast? = latest earlier.getLast? event := by
  cases event <;> simp [latest, ConsumerEvent.setsUp]

theorem setups_snoc (index : Nat) (events : List Event) (event : Event) :
    setups index (events ++ [event]) = setups index events ++ (event.call index).toList.filter ConsumerEvent.setsUp := by
  rw [setups, List.filterMap_append, List.filter_append, setups]
  cases call : event.call index <;> simp [call]

section

variable (matching : Matching) (parse : Bytes → Except Failure Json) (dump : Json → Except Failure Bytes)

theorem deliver_standing {last : Option ConsumerEvent} {resets : Nat} (self : Instance) (message : Publication)
    (standing : Standing self.keyspace last resets self.consumer) :
    Standing self.keyspace last resets (self.deliver matching message).consumer := by
  unfold Instance.deliver
  split
  · rename_i link linked
    split
    · rename_i sent
      obtain ⟨_, _, hit⟩ := sent
      have known : link.pattern.isSome := by
        cases pattern : link.pattern with
        | none => simp [pattern] at hit
        | some text => rfl
      exact standing_relinked standing linked known rfl
    · exact standing
  · exact standing

theorem turn_standing {last : Option ConsumerEvent} {resets : Nat} (size : Nat) (before after : Instance) (call : Option ConsumerEvent)
    (standing : Standing before.keyspace last resets before.consumer) (turn : Turn parse size before call after) :
    Standing after.keyspace (call.elim last (latest last)) (resets + call.elim 0 ConsumerEvent.resets) after.consumer := by
  cases turn with
  | read message link queued hub linked next listening handed =>
      exact standing_relinked standing linked (standing_queued standing linked (by rw [next]; simp)) rfl
  | called event consumer step => exact step_standing size before.consumer consumer event standing step
  | worked event hub other step => exact standing

def Stands (index : Nat) (events : List Event) (self : Instance) : Prop :=
  Standing self.keyspace (setups index events).getLast? ((setups index events).count .reset) self.consumer

theorem stands_snoc (index : Nat) (events : List Event) (event : Event) (self : Instance)
    (standing : Standing self.keyspace ((event.call index).elim (setups index events).getLast? (latest (setups index events).getLast?))
      ((setups index events).count .reset + (event.call index).elim 0 ConsumerEvent.resets) self.consumer) :
    Stands index (events ++ [event]) self := by
  unfold Stands
  rw [setups_snoc, List.count_append]
  cases call : event.call index with
  | none =>
      rw [call] at standing
      simpa using standing
  | some made =>
      rw [call] at standing
      rw [Option.toList_some, made_resets, made_latest]
      exact standing

theorem run_stands (keyspaces : List Bytes) (workers : Nat) (events : List Event) (state : State)
    (run : Run (State.Steps matching parse dump) (State.start keyspaces workers) events state) :
    ∀ index self, state.instances[index]? = some self → Stands index events self := by
  refine run_invariant (State.Steps matching parse dump)
    (fun events state => ∀ index self, state.instances[index]? = some self → Stands index events self) _ ?_ ?_ events state run
  · intro index self present
    obtain ⟨keyspace, _, rfl⟩ := List.mem_map.mp (List.mem_of_getElem? present)
    exact .starting 0
  · intro events event before after stands taken index self present
    apply stands_snoc
    cases state_moves matching parse dump before after event taken with
    | refused => exact stands index self present
    | published place publisher message found mine dumped =>
        obtain ⟨old, earlier, rfl⟩ := Option.map_eq_some_iff.mp (List.getElem?_map.symm.trans present)
        rw [deliver_keyspace]
        exact deliver_standing matching old message (stands index old earlier)
    | turned _ place old moved found others turn =>
        rcases set_lookup _ _ _ _ _ present with ⟨rfl, rfl⟩ | ⟨different, kept⟩
        · exact turn_standing parse _ old self _ (stands index old found) turn
        · rw [others index different]
          exact stands index self kept

-- How the subscriber stands, by the last call that set it up. lost and deaf are
-- the two ways in which a TimeoutError goes unnoticed.
structure SetUp (last : Option ConsumerEvent) (resets : Nat) (server : Instance) : Prop where
  lost : server.consumer.pc = .looping → server.consumer.reconnect = false →
    (server.consumer.subscriber = none ↔ last = some (.create (some .timeout)))
  deaf : server.consumer.pc = .looping → server.consumer.reconnect = false →
    ((∃ alive, server.consumer.subscriber = some (Link.silent alive)) ↔ last = some (.subscribe (some .timeout)))
  listening : server.consumer.pc = .looping → server.consumer.reconnect = false →
    ((∃ link, server.consumer.subscriber = some link ∧ link.pattern = some (ownPattern server.keyspace)) ↔ last = some (.subscribe none))
  undefined : server.consumer.pc = .undefined → last = some (.create (some .timeout))
  doomed : last = some (.create (some .timeout)) → server.consumer.pc ≠ .exited → ∀ size event after, event.byRedis = false →
    server.consumer.step server.keyspace size event = some after → after.pc = .undefined
  failures : server.consumer.redisConnectionFailCount = resets

theorem lost_undefined (keyspace : Bytes) (size count : Nat) (pc : ConsumerPc) (after : Consumer) (event : ConsumerEvent)
    (here : pc = .looping ∨ pc = .undefined) (own : event.byRedis = false)
    (step : Consumer.step keyspace size ⟨pc, false, count, none⟩ event = some after) : after.pc = .undefined := by
  cases event with
  | consume =>
      obtain ⟨_, outcome⟩ := Option.ite_none_right_eq_some.mp step
      cases outcome
      rfl
  | reset => simp [Consumer.step] at step
  | create thrown => rcases here with rfl | rfl <;> cases step
  | subscribe thrown => rcases here with rfl | rfl <;> cases step
  | fail thrown => simp [Consumer.step] at step
  | register => cases own
  | close => cases own

theorem standing_set_up (last : Option ConsumerEvent) (resets : Nat) (self : Instance)
    (standing : Standing self.keyspace last resets self.consumer) : SetUp last resets self := by
  obtain ⟨keyspace, consumer, hub, taken⟩ := self
  dsimp only at standing
  constructor
  case lost =>
    intro looping quiet
    cases standing <;> simp_all
  case deaf =>
    intro looping quiet
    cases standing with
    | deaf thrown reconnect alive _ noticed =>
        cases thrown with
        | timeout => exact ⟨fun _ => rfl, fun _ => ⟨alive, rfl⟩⟩
        | error =>
            rw [noticed rfl] at quiet
            cases quiet
    | listening reconnect _ link sent =>
        refine ⟨fun ⟨alive, same⟩ => ?_, fun never => by cases never⟩
        cases same
        cases sent
    | _ => simp_all
  case listening =>
    intro looping quiet
    cases standing <;> simp_all [Link.silent]
  case undefined =>
    intro crashed
    cases standing <;> simp_all
  case doomed =>
    intro timedOut running size event after own step
    cases standing with
    | lost => exact lost_undefined keyspace size _ _ after event (.inl rfl) own step
    | undefined => exact lost_undefined keyspace size _ _ after event (.inr rfl) own step
    | uncreated => exact absurd rfl running
    | _ => cases timedOut
  case failures => cases standing <;> rfl

theorem subscriber_set_up (keyspaces : List Bytes) (workers : Nat) (events : List Event) (state : State)
    (run : Run (State.Steps matching parse dump) (State.start keyspaces workers) events state) (index : Nat) (self : Instance)
    (present : state.instances[index]? = some self) :
    SetUp (setups index events).getLast? ((setups index events).count .reset) self :=
  standing_set_up _ _ self (run_stands matching parse dump keyspaces workers events state run index self present)

end

-- Redis accepts the connection of a second attempt and does not answer.
def sampleOutage : List Event :=
  [.consumer 0 (.create none), .consumer 0 (.subscribe none), .consumer 0 (.fail .error), .consumer 0 .reset,
    .consumer 0 (.create (some .timeout))]

theorem sample_outage_set_up :
    ∃ state self, perform (State.step sampleMatching sampleParse sampleDump) (State.start [str "e"] 1) sampleOutage = some state ∧
      state.instances[0]? = some self ∧ (self.consumer.pc = .looping ∧ self.consumer.reconnect = false) ∧
      SetUp (some (.create (some .timeout))) 1 self := by
  have looping : (perform (State.step sampleMatching sampleParse sampleDump) (State.start [str "e"] 1) sampleOutage).bind
      (fun state => state.instances[0]?.map (fun self => (self.consumer.pc, self.consumer.reconnect))) = some (.looping, false) := by
    decide +kernel
  obtain ⟨state, done, first⟩ := Option.bind_eq_some_iff.mp looping
  obtain ⟨self, present, both⟩ := Option.map_eq_some_iff.mp first
  exact ⟨state, self, done, present, Prod.ext_iff.mp both,
    subscriber_set_up sampleMatching sampleParse sampleDump [str "e"] 1 sampleOutage state (perform_run _ _ _ _ done) 0 self present⟩

end Eventhub.Cluster
