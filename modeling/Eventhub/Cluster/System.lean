import Eventhub.Hub.Fanout
import Eventhub.Hub.Probe

set_option autoImplicit false

namespace Eventhub.Cluster

open Transition
open Redis (redisPrefix)
open Hub (Json Failure Server ServerEvent Job publishMessage published actualTopic delayTopic)

-- What an instance has given to PUBLISH, with the arguments of publishMessage
-- from which it has made it.
structure Publication where
  keyspace : Bytes
  topic : Bytes
  id : Bytes
  payload : Bytes
  origin : Bytes
  jsonData : Bytes

def Publication.channel (publication : Publication) : Bytes := redisPrefix publication.keyspace publication.topic

-- The bytes that stand for themselves in a pattern of PSUBSCRIBE.
def PlainText (text : Bytes) : Prop := ∀ byte ∈ text, byte ∉ str "*?[\\"

structure Matching where
  hit : Bytes → Bytes → Bool
  literal : ∀ text channel, PlainText text → (hit (text ++ str "*") channel = true ↔ text <+: channel)

-- The connection of an sw::redis::Subscriber. pattern is what psubscribe has
-- sent, alive whether Redis still sends to the connection, queued what it has
-- sent and consume has not read. Ghost state: since is how many messages had
-- been published when Redis registered the pattern, read what consume has read.
structure Link where
  pattern : Option Bytes
  alive : Bool
  queued : List Publication
  since : Option Nat
  read : List Publication

def Link.fresh : Link := ⟨none, true, [], none, []⟩

-- TimeoutError, or another Error of sw::redis.
inductive Thrown where
  | timeout
  | error
deriving DecidableEq

-- starting tells the psubscribe before the loop from the one inside, whose
-- exceptions are caught. undefined is a call through the null pointer.
inductive ConsumerPc where
  | creating (starting : Bool)
  | subscribing (starting : Bool)
  | looping
  | exited
  | undefined
deriving DecidableEq

structure Consumer where
  pc : ConsumerPc
  reconnect : Bool
  redisConnectionFailCount : Nat
  subscriber : Option Link

def Consumer.start : Consumer := ⟨.creating true, false, 0, none⟩

-- The calls that the thread makes, each with what it throws; register and
-- close are done by Redis or the network.
inductive ConsumerEvent where
  | reset
  | create (thrown : Option Thrown)
  | subscribe (thrown : Option Thrown)
  | consume
  | fail (thrown : Thrown)
  | register
  | close
deriving DecidableEq

def Consumer.catching (consumer : Consumer) (starting : Bool) (thrown : Thrown) : Consumer :=
  if starting then { consumer with pc := .exited }
  else
    match thrown with
    | .timeout => { consumer with pc := .looping }
    | .error => { consumer with pc := .looping, reconnect := true }

-- A step that takes no message; consume without one waits.
def Consumer.step (keyspace : Bytes) (count : Nat) (consumer : Consumer) : ConsumerEvent → Option Consumer
  | .reset =>
      if consumer.pc = .looping ∧ consumer.reconnect = true then
        some ⟨.creating false, false, consumer.redisConnectionFailCount + 1, none⟩
      else none
  | .create thrown =>
      match consumer.pc, thrown with
      | .creating starting, none => some { consumer with pc := .subscribing starting, subscriber := some Link.fresh }
      | .creating starting, some thrown => some (consumer.catching starting thrown)
      | _, _ => none
  | .subscribe thrown =>
      match consumer.pc, thrown with
      | .subscribing _, none =>
          some { consumer with
            pc := .looping
            subscriber := consumer.subscriber.map (fun link => { link with pattern := some (redisPrefix keyspace (str "*")) }) }
      | .subscribing starting, some thrown => some (consumer.catching starting thrown)
      | _, _ => none
  | .consume =>
      if consumer.pc = .looping ∧ consumer.reconnect = false ∧ consumer.subscriber.isNone then some { consumer with pc := .undefined }
      else none
  | .fail thrown =>
      if consumer.pc = .looping ∧ consumer.reconnect = false ∧ consumer.subscriber.isSome then some (consumer.catching false thrown)
      else none
  | .register => do
      let link ← consumer.subscriber
      if link.alive = true ∧ link.pattern.isSome ∧ link.since = none then
        some { consumer with subscriber := some { link with since := some count } }
      else none
  | .close => do
      let link ← consumer.subscriber
      some { consumer with subscriber := some { link with alive := false } }

def Consumer.next (consumer : Consumer) : Option (Publication × Consumer) :=
  if consumer.pc = .looping ∧ consumer.reconnect = false then
    match consumer.subscriber with
    | none => none
    | some link =>
        match link.queued with
        | [] => none
        | message :: queued =>
            some (message, { consumer with subscriber := some { link with queued := queued, read := link.read ++ [message] } })
  else none

section

variable (matching : Matching) (parse : Bytes → Except Failure Json) (dump : Json → Except Failure Bytes)

-- taken is ghost state: all messages that consume has read.
structure Instance where
  keyspace : Bytes
  consumer : Consumer
  hub : Server
  taken : List Publication

def Instance.start (keyspace : Bytes) (workers : Nat) : Instance := ⟨keyspace, Consumer.start, Server.start workers, []⟩

def Instance.job (self : Instance) (message : Publication) : Job := ⟨actualTopic self.keyspace message.channel, (parse message.jsonData).toOption⟩

-- The callback of Server::start, which calls Server::publish; it is not called
-- again before that has returned.
def Instance.callback (self : Instance) (job : Job) : Option Server :=
  if self.hub.publishing.isSome then none
  else if job.topicName = delayTopic then some self.hub
  else self.hub.step (.receive job)

def Instance.read (self : Instance) : Option Instance := do
  let (message, consumer) ← self.consumer.next
  let hub ← self.callback (self.job parse message)
  some { self with consumer := consumer, hub := hub, taken := self.taken ++ [message] }

def Instance.deliver (self : Instance) (message : Publication) : Instance :=
  match self.consumer.subscriber with
  | some link =>
      if link.alive = true ∧ link.since.isSome ∧ (link.pattern.any (matching.hit · message.channel)) = true then
        { self with consumer := { self.consumer with subscriber := some { link with queued := link.queued ++ [message] } } }
      else self
  | none => self

structure State where
  log : List Publication
  instances : List Instance

def State.start (keyspaces : List Bytes) (workers : Nat) : State := ⟨[], keyspaces.map (Instance.start · workers)⟩

inductive Event where
  | publish (index : Nat) (topic id payload origin : Bytes)
  | read (index : Nat)
  | consumer (index : Nat) (event : ConsumerEvent)
  | hub (index : Nat) (event : ServerEvent)

def receives : ServerEvent → Bool
  | .receive _ => true
  | _ => false

def ConsumerEvent.byRedis : ConsumerEvent → Bool
  | .register => true
  | .close => true
  | _ => false

def Instance.step (count : Nat) (self : Instance) (event : ConsumerEvent) : Option Instance :=
  if self.hub.publishing.isSome ∧ event.byRedis = false then none
  else (self.consumer.step self.keyspace count event).map (fun consumer => { self with consumer := consumer })

def State.step (state : State) : Event → Option State
  | .publish index topic id payload origin => do
      let self ← state.instances[index]?
      match published dump self.keyspace topic id payload origin with
      | .error _ => some state
      | .ok (_, jsonData) =>
          let message := ⟨self.keyspace, topic, id, payload, origin, jsonData⟩
          some ⟨state.log ++ [message], state.instances.map (fun other => other.deliver matching message)⟩
  | .read index => do
      let self ← state.instances[index]?
      let moved ← self.read parse
      some { state with instances := state.instances.set index moved }
  | .consumer index event => do
      let self ← state.instances[index]?
      let moved ← self.step state.log.length event
      some { state with instances := state.instances.set index moved }
  | .hub index event => do
      let self ← state.instances[index]?
      if receives event then none
      else
        let hub ← self.hub.step event
        some { state with instances := state.instances.set index { self with hub := hub } }

def Event.call (index : Nat) : Event → Option ConsumerEvent
  | .consumer place event => if place = index then some event else none
  | _ => none

def State.Steps (before : State) (event : Event) (after : State) : Prop := before.step matching parse dump event = some after

inductive Turn (count : Nat) (before : Instance) : Option ConsumerEvent → Instance → Prop where
  | read (message : Publication) (link : Link) (queued : List Publication) (hub : Server)
      (linked : before.consumer.subscriber = some link) (next : link.queued = message :: queued)
      (listening : before.consumer.pc = .looping ∧ before.consumer.reconnect = false)
      (handed : hub = before.hub ∧ (before.job parse message).topicName = delayTopic ∨
        before.hub.Steps (.receive (before.job parse message)) hub ∧ (before.job parse message).topicName ≠ delayTopic) :
      Turn count before none
        { before with
          consumer := { before.consumer with subscriber := some { link with queued := queued, read := link.read ++ [message] } }
          hub := hub
          taken := before.taken ++ [message] }
  | called (event : ConsumerEvent) (consumer : Consumer) (step : before.consumer.step before.keyspace count event = some consumer) :
      Turn count before (some event) { before with consumer := consumer }
  | worked (event : ServerEvent) (hub : Server) (other : receives event = false) (step : before.hub.Steps event hub) :
      Turn count before none { before with hub := hub }

inductive Move (before : State) : Event → State → Prop where
  | refused (index : Nat) (topic id payload origin : Bytes) : Move before (.publish index topic id payload origin) before
  | published (index : Nat) (self : Instance) (message : Publication) (present : before.instances[index]? = some self)
      (mine : message.keyspace = self.keyspace)
      (dumped : dump (publishMessage message.topic message.id message.payload message.origin) = .ok message.jsonData) :
      Move before (.publish index message.topic message.id message.payload message.origin)
        ⟨before.log ++ [message], before.instances.map (fun other => other.deliver matching message)⟩
  | turned (event : Event) (index : Nat) (self moved : Instance) (present : before.instances[index]? = some self)
      (others : ∀ place, place ≠ index → event.call place = none) (turn : Turn parse before.log.length self (event.call index) moved) :
      Move before event { before with instances := before.instances.set index moved }

theorem next_reads (consumer after : Consumer) (message : Publication) (taken : consumer.next = some (message, after)) :
    (consumer.pc = .looping ∧ consumer.reconnect = false) ∧ ∃ link queued, consumer.subscriber = some link ∧ link.queued = message :: queued ∧
      after = { consumer with subscriber := some { link with queued := queued, read := link.read ++ [message] } } := by
  obtain ⟨listening, rest⟩ := Option.ite_none_right_eq_some.mp taken
  refine ⟨listening, ?_⟩
  cases linked : consumer.subscriber with
  | none => simp [linked] at rest
  | some link =>
      cases next : link.queued with
      | nil => simp [linked, next] at rest
      | cons first queued =>
          simp only [linked, next, Option.some.injEq, Prod.mk.injEq] at rest
          obtain ⟨rfl, rfl⟩ := rest
          exact ⟨link, queued, rfl, next, rfl⟩

theorem read_turns (count : Nat) (self moved : Instance) (taken : self.read parse = some moved) : Turn parse count self none moved := by
  obtain ⟨⟨message, consumer⟩, next, rest⟩ := Option.bind_eq_some_iff.mp taken
  obtain ⟨hub, handed, outcome⟩ := Option.bind_eq_some_iff.mp rest
  obtain ⟨listening, link, queued, linked, head, rfl⟩ := next_reads self.consumer consumer message next
  cases outcome
  refine .read message link queued hub linked head listening ?_
  unfold Instance.callback at handed
  split at handed
  · cases handed
  · split at handed
    · rename_i delay
      cases handed
      exact .inl ⟨rfl, delay⟩
    · rename_i other
      exact .inr ⟨handed, other⟩

theorem state_moves (before after : State) (event : Event) (taken : before.Steps matching parse dump event after) :
    Move matching parse dump before event after := by
  cases event with
  | publish index topic id payload origin =>
      obtain ⟨self, present, rest⟩ := Option.bind_eq_some_iff.mp taken
      cases made : dump (publishMessage topic id payload origin) with
      | error failure =>
          simp only [published, made] at rest
          cases rest
          exact .refused index topic id payload origin
      | ok jsonData =>
          simp only [published, made] at rest
          cases rest
          exact .published index self ⟨self.keyspace, topic, id, payload, origin, jsonData⟩ present rfl made
  | read index =>
      obtain ⟨self, present, rest⟩ := Option.bind_eq_some_iff.mp taken
      obtain ⟨moved, read, outcome⟩ := Option.bind_eq_some_iff.mp rest
      cases outcome
      exact .turned _ index self moved present (fun _ _ => rfl) (read_turns parse _ self moved read)
  | consumer index event =>
      obtain ⟨self, present, rest⟩ := Option.bind_eq_some_iff.mp taken
      obtain ⟨moved, step, outcome⟩ := Option.bind_eq_some_iff.mp rest
      cases outcome
      refine .turned _ index self moved present (fun place other => if_neg (Ne.symm other)) ?_
      unfold Instance.step at step
      split at step
      · cases step
      · obtain ⟨consumer, called, rfl⟩ := Option.map_eq_some_iff.mp step
        rw [Event.call, if_pos rfl]
        exact .called event consumer called
  | hub index event =>
      obtain ⟨self, present, rest⟩ := Option.bind_eq_some_iff.mp taken
      split at rest
      · cases rest
      · rename_i other
        obtain ⟨hub, step, outcome⟩ := Option.bind_eq_some_iff.mp rest
        cases outcome
        exact .turned _ index self _ present (fun _ _ => rfl) (.worked event hub (by simpa using other) step)

end

end Eventhub.Cluster
