import Eventhub.Hub.Subscriptions
import Eventhub.Json

set_option autoImplicit false

namespace Eventhub.Hub

-- j[name] converted to std::string, where none stands for the exception. A
-- missing field is created as null, which does not convert.
def Json.stringAt (name : Bytes) : Json → Option Bytes
  | .object fields =>
      match fields.find? (fun field => field.1 = name) with
      | some (_, .string text) => some text
      | _ => none
  | _ => none

-- nlohmann::json keeps the fields in the order of their names.
def publishMessage (topic id payload origin : Bytes) : Json :=
  .object ([(str "id", .string id), (str "message", .string payload)] ++
    (if origin = [] then [] else [(str "origin", .string origin)]) ++ [(str "topic", .string topic)])

def idJson : RpcId → Json
  | .null => .null
  | .string text => .string text
  | .integer value => .integer value

-- One call of websocket::Response::sendData with a TEXT_FRAME that carries
-- jsonrpcpp::Response(requestId, result), or one of sse::Response::sendEvent.
inductive Output where
  | text (requestId : RpcId) (result : Json)
  | event (id message : Bytes)

structure Sent where
  connection : Nat
  output : Output

-- A message as TopicManager::publish gets it; data is what json::parse makes
-- of the text, none if it throws.
structure Job where
  topicName : Bytes
  data : Option Json

-- What Topic::publish does for one subscriber; none is an exception.
def sendTo (connections : Nat → Option Connection) (jsonData : Json) (subscriber : Subscriber) : Option (List Sent) :=
  match connections subscriber.connection with
  | none => some []
  | some c =>
      if c.isShutdown then some []
      else
        match c.state with
        | .websocket => some [⟨subscriber.connection, .text subscriber.requestId jsonData⟩]
        | .sse => do
            let id ← jsonData.stringAt (str "id")
            let message ← jsonData.stringAt (str "message")
            return [⟨subscriber.connection, .event id message⟩]
        | .http => some []

def publishLoop (connections : Nat → Option Connection) (jsonData : Json) : List Subscriber → List Sent
  | [] => []
  | subscriber :: rest =>
      match sendTo connections jsonData subscriber with
      | none => []
      | some sent => sent ++ publishLoop connections jsonData rest

def publishTopic (connections : Nat → Option Connection) (data : Option Json) (subscribers : List Subscriber) : List Sent :=
  match data with
  | none => []
  | some jsonData => publishLoop connections jsonData subscribers

-- TopicManager::publish, which visits its map in the order of the given keys.
def Registry.publish (registry : Registry) (order : List Bytes) (job : Job) : List Sent :=
  order.flatMap (fun topicFilter =>
    if isFilterMatched topicFilter job.topicName then publishTopic registry.connections job.data (registry.members topicFilter)
    else [])

def sentTo (connection : Nat) (sent : List Sent) : List Output :=
  (sent.filter (fun send => send.connection = connection)).map Sent.output

-- Built by Redis::publishMessage.
def Job.Published (job : Job) : Prop := ∃ id payload origin, job.data = some (publishMessage job.topicName id payload origin)

def Connection.answer (self : Connection) (jsonData : Json) (requestId : RpcId) : List Output :=
  if self.isShutdown then []
  else
    match self.state with
    | .websocket => [.text requestId jsonData]
    | .sse =>
        match jsonData.stringAt (str "id"), jsonData.stringAt (str "message") with
        | some id, some message => [.event id message]
        | _, _ => []
    | .http => []

-- What a connection is due: one answer for each of its subscriptions whose
-- pattern matches.
def Registry.due (registry : Registry) (connection : Nat) (job : Job) : List Output :=
  match registry.connections connection, job.data with
  | some self, some jsonData =>
      self.subscribedTopics.entries.flatMap (fun entry =>
        if isFilterMatched entry.1 job.topicName then self.answer jsonData entry.2.requestId else [])
  | _, _ => []

theorem sent_to_append (connection : Nat) (first second : List Sent) :
    sentTo connection (first ++ second) = sentTo connection first ++ sentTo connection second := by
  simp [sentTo]

theorem publish_message_id (topic id payload origin : Bytes) :
    (publishMessage topic id payload origin).stringAt (str "id") = some id := by
  simp [publishMessage, Json.stringAt]

theorem publish_message_payload (topic id payload origin : Bytes) :
    (publishMessage topic id payload origin).stringAt (str "message") = some payload := by
  have different : ¬ str "id" = str "message" := by decide
  simp [publishMessage, Json.stringAt, different]

def answerTo (connections : Nat → Option Connection) (jsonData : Json) (connection : Nat) (requestId : RpcId) : List Output :=
  match connections connection with
  | none => []
  | some self => self.answer jsonData requestId

section

variable (connections : Nat → Option Connection) (jsonData : Json) (id message : Bytes)
  (idField : jsonData.stringAt (str "id") = some id) (messageField : jsonData.stringAt (str "message") = some message)

include idField messageField

theorem send_to_answers (subscriber : Subscriber) :
    sendTo connections jsonData subscriber =
      some ((answerTo connections jsonData subscriber.connection subscriber.requestId).map (Sent.mk subscriber.connection)) := by
  cases present : connections subscriber.connection with
  | none => simp [sendTo, answerTo, present]
  | some self =>
      by_cases closed : self.isShutdown = true
      · simp [sendTo, answerTo, Connection.answer, present, closed]
      · cases state : self.state with
        | http => simp [sendTo, answerTo, Connection.answer, present, closed, state]
        | websocket => simp [sendTo, answerTo, Connection.answer, present, closed, state]
        | sse => simp [sendTo, answerTo, Connection.answer, present, closed, state, idField, messageField]

theorem publish_loop_answers (subscribers : List Subscriber) (connection : Nat) :
    sentTo connection (publishLoop connections jsonData subscribers) =
      (subscribers.filter (fun entry => entry.connection = connection)).flatMap
        (fun entry => answerTo connections jsonData connection entry.requestId) := by
  induction subscribers with
  | nil => rfl
  | cons entry rest ih =>
      simp only [publishLoop, send_to_answers connections jsonData id message idField messageField entry]
      rw [sent_to_append, ih]
      by_cases own : entry.connection = connection
      · simp [sentTo, own, List.filter_map, Function.comp_def]
      · simp [sentTo, own, List.filter_map, Function.comp_def]

end

theorem publish_answers (registry : Registry) (order : List Bytes) (job : Job) (jsonData : Json) (connection : Nat)
    (coherent : Coherent registry) (data : job.data = some jsonData) (published : job.Published) :
    sentTo connection (registry.publish order job) = order.flatMap (fun pattern =>
      if isFilterMatched pattern job.topicName then
        match registry.subscription connection pattern with
        | none => []
        | some subscription => answerTo registry.connections jsonData connection subscription.requestId
      else []) := by
  obtain ⟨id, payload, origin, built⟩ := published
  have fields : jsonData = publishMessage job.topicName id payload origin := Option.some.inj (data.symm.trans built)
  induction order with
  | nil => rfl
  | cons pattern order ih =>
      rw [Registry.publish, List.flatMap_cons, sent_to_append, ← Registry.publish, ih, List.flatMap_cons]
      congr 1
      split
      · rw [data, publishTopic, publish_loop_answers registry.connections jsonData id payload
          (by rw [fields]; exact publish_message_id _ _ _ _) (by rw [fields]; exact publish_message_payload _ _ _ _),
          members_of registry connection pattern coherent]
        cases registry.subscription connection pattern with
        | none => rfl
        | some subscription => simp
      · rfl

theorem subscribed_order (registry : Registry) (order : List Bytes) (connection : Nat) (self : Connection) (coherent : Coherent registry)
    (whole : order.Perm registry.topicList.keys) (present : registry.connections connection = some self) :
    (order.filter (fun pattern => pattern ∈ self.subscribedTopics)).Perm self.subscribedTopics.keys := by
  refine (List.perm_ext_iff_of_nodup ((whole.nodup_iff.mpr registry.topicList.keys_nodup).filter _)
    self.subscribedTopics.keys_nodup).mpr (fun pattern => ?_)
  rw [List.mem_filter, decide_eq_true_eq, whole.mem_iff]
  constructor
  · intro both
    exact AList.mem_keys.mp both.2
  · intro inside
    refine ⟨?_, AList.mem_keys.mpr inside⟩
    obtain ⟨subscription, found⟩ := Option.isSome_iff_exists.mp (AList.lookup_isSome.mpr (AList.mem_keys.mpr inside))
    rw [← subscription_of registry connection self pattern present] at found
    have listed := ((coherent.patterns pattern).linked connection subscription found).1
    exact AList.mem_keys.mp (AList.lookup_isSome.mp (by rw [listed]; rfl))

theorem visit_subscribed (self : Connection) (order : List Bytes) (answer : Bytes → List Output)
    (subscribed : (order.filter (fun pattern => pattern ∈ self.subscribedTopics)).Perm self.subscribedTopics.keys)
    (silent : ∀ pattern, self.subscribedTopics.lookup pattern = none → answer pattern = []) :
    (order.flatMap answer).Perm (self.subscribedTopics.keys.flatMap answer) := by
  have nothing : (order.filter (fun pattern => !decide (pattern ∈ self.subscribedTopics))).flatMap answer = [] := by
    rw [List.flatMap_eq_nil_iff]
    intro pattern inside
    refine silent pattern (AList.lookup_eq_none.mpr ?_)
    simpa using (List.mem_filter.mp inside).2
  have split := (List.filter_append_perm (fun pattern => decide (pattern ∈ self.subscribedTopics)) order).flatMap_right answer
  rw [List.flatMap_append, nothing, List.append_nil] at split
  exact split.symm.trans (subscribed.flatMap_right answer)

theorem publish_due (registry : Registry) (order : List Bytes) (job : Job) (connection : Nat) (coherent : Coherent registry)
    (whole : order.Perm registry.topicList.keys) (published : job.Published) :
    (sentTo connection (registry.publish order job)).Perm (registry.due connection job) := by
  obtain ⟨id, payload, origin, data⟩ := published
  rw [publish_answers registry order job _ connection coherent data ⟨id, payload, origin, data⟩]
  cases present : registry.connections connection with
  | none =>
      have nothing : ∀ pattern, registry.subscription connection pattern = none := by
        intro pattern
        rw [Registry.subscription, present, Option.bind_none]
      simp [Registry.due, present, nothing]
  | some self =>
      refine (visit_subscribed self order _ (subscribed_order registry order connection self coherent whole present) ?_).trans
        (List.Perm.of_eq ?_)
      · intro pattern absent
        simp [subscription_of registry connection self pattern present, absent]
      · simp only [Registry.due, present, data, AList.keys, List.keys, List.flatMap_map]
        apply List.flatMap_congr
        rintro ⟨pattern, subscription⟩ inside
        have found : self.subscribedTopics.lookup pattern = some subscription := AList.mem_lookup_iff.mpr inside
        simp [subscription_of registry connection self pattern present, found, answerTo, present]

end Eventhub.Hub
