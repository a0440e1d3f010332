import Eventhub.Hub.Publish
import Eventhub.Redis.GetCache

set_option autoImplicit false

namespace Eventhub.Hub

open Redis (redisPrefix stoSigned)

def delayTopic : Bytes := str "$metrics$/system_unixtime"

def stol (text : Bytes) : Option Int := stoSigned 63 text

-- The members of _metrics that the callback given to psubscribe writes, and
-- the calls of Server::publish it has made.
structure Receiver where
  redisPublishDelayMs : Nat
  publishCount : Nat
  published : List (Bytes × Bytes)
deriving DecidableEq

-- The channel and the text that Redis::publishMessage hands to PUBLISH.
def published (dump : Json → Except Failure Bytes) (keyspace topic id payload origin : Bytes) : Except Failure (Bytes × Bytes) :=
  (dump (publishMessage topic id payload origin)).map (fun jsonData => (redisPrefix keyspace topic, jsonData))

def probe (now : Int) : Json := publishMessage delayTopic (str "0") (str "$system$") (Decimal.signedText now)

-- The latency sampler's timer, run when getTimeSinceEpoch() is now.
def latencySampler (dump : Json → Except Failure Bytes) (keyspace : Bytes) (now : Int) : Except Failure (Bytes × Bytes) :=
  published dump keyspace delayTopic (str "0") (str "$system$") (Decimal.signedText now)

section

variable (parse : Bytes → Except Failure Json)

-- What the callback reads from a message on delayTopic; none is an exception.
def timestamp (msg : Bytes) : Option Int := do
  let j ← (parse msg).toOption
  let message ← j.stringAt (str "message")
  stol message

def publishDelay (now ts : Int) : Nat := if now - ts < 0 then 0 else (now - ts).toNat

def Receiver.redisMsgCallback (now : Int) (receiver : Receiver) (topic msg : Bytes) : Receiver :=
  if topic = delayTopic then
    match timestamp parse msg with
    | none => receiver
    | some ts => { receiver with redisPublishDelayMs := publishDelay now ts }
  else { receiver with publishCount := receiver.publishCount + 1, published := receiver.published ++ [(topic, msg)] }

def actualTopic (keyspace topic : Bytes) : Bytes := if keyspace.length > 0 then topic.drop (keyspace.length + 1) else topic

-- The on_pmessage handler that Redis::psubscribe installs; Redis hands over
-- only channels that match the pattern redisPrefix keyspace (str "*").
def Receiver.onPmessage (keyspace : Bytes) (now : Int) (receiver : Receiver) (message : Bytes × Bytes) : Receiver :=
  receiver.redisMsgCallback parse now (actualTopic keyspace message.1) message.2

def Receiver.consume (keyspace : Bytes) (receiver : Receiver) (messages : List (Int × Bytes × Bytes)) : Receiver :=
  messages.foldl (fun receiver message => receiver.onPmessage parse keyspace message.1 message.2) receiver

theorem actual_topic_channel (keyspace topic : Bytes) : actualTopic keyspace (redisPrefix keyspace topic) = topic := by
  by_cases named : keyspace.length > 0
  · rw [actualTopic, if_pos named, redisPrefix, if_pos named]
    exact List.drop_left' (by rw [List.length_append]; rfl)
  · rw [actualTopic, if_neg named, redisPrefix, if_neg named]

theorem publish_delay_max (now ts : Int) : (publishDelay now ts : Int) = max 0 (now - ts) := by
  by_cases negative : now - ts < 0
  · rw [publishDelay, if_pos negative]
    omega
  · rw [publishDelay, if_neg negative]
    omega

-- "$system$" has no digits, so stol throws.
theorem system_not_number : stol (str "$system$") = none := by decide +kernel

theorem timestamp_payload (msg topic id payload origin : Bytes) (readBack : parse msg = .ok (publishMessage topic id payload origin)) :
    timestamp parse msg = stol payload := by
  rw [timestamp, readBack]
  exact congrArg (· >>= stol) (publish_message_payload topic id payload origin)

theorem probe_unread (msg : Bytes) (sent : Int) (readBack : parse msg = .ok (probe sent)) : timestamp parse msg = none := by
  rw [timestamp_payload parse msg _ _ _ _ readBack, system_not_number]

theorem published_channel (dump : Json → Except Failure Bytes) (keyspace topic id payload origin : Bytes) (message : Bytes × Bytes)
    (sent : published dump keyspace topic id payload origin = .ok message) : message.1 = redisPrefix keyspace topic := by
  rw [published] at sent
  cases text : dump (publishMessage topic id payload origin) with
  | error failure =>
      rw [text] at sent
      cases sent
  | ok jsonData =>
      rw [text] at sent
      cases sent
      rfl

theorem probe_ignored (dump : Json → Except Failure Bytes) (keyspace : Bytes) (sent received : Int) (receiver : Receiver)
    (message : Bytes × Bytes) (sampled : latencySampler dump keyspace sent = .ok message)
    (readBack : parse message.2 = .ok (probe sent)) : receiver.onPmessage parse keyspace received message = receiver := by
  have channel := published_channel dump keyspace _ _ _ _ message sampled
  rw [Receiver.onPmessage, Receiver.redisMsgCallback, channel, actual_topic_channel, if_pos rfl,
    probe_unread parse message.2 sent readBack]

theorem payload_measured (dump : Json → Except Failure Bytes) (keyspace id origin : Bytes) (sent received : Int) (receiver : Receiver)
    (message : Bytes × Bytes) (above : -2 ^ 63 ≤ sent) (below : sent < 2 ^ 63)
    (given : published dump keyspace delayTopic id (Decimal.signedText sent) origin = .ok message)
    (readBack : parse message.2 = .ok (publishMessage delayTopic id (Decimal.signedText sent) origin)) :
    ((receiver.onPmessage parse keyspace received message).redisPublishDelayMs : Int) = max 0 (received - sent) := by
  have channel := published_channel dump keyspace _ _ _ _ message given
  have read : timestamp parse message.2 = some sent := by
    rw [timestamp_payload parse message.2 _ _ _ _ readBack]
    exact Redis.sto_signed_text 63 sent above below
  rw [Receiver.onPmessage, Receiver.redisMsgCallback, channel, actual_topic_channel, if_pos rfl, read]
  exact publish_delay_max received sent

def FromSampler (dump : Json → Except Failure Bytes) (keyspace : Bytes) (message : Bytes × Bytes) : Prop :=
  ∃ sent, latencySampler dump keyspace sent = .ok message ∧ parse message.2 = .ok (probe sent)

theorem delay_never_measured (dump : Json → Except Failure Bytes) (keyspace : Bytes) (messages : List (Int × Bytes × Bytes))
    (sources : ∀ message ∈ messages, actualTopic keyspace message.2.1 = delayTopic → FromSampler parse dump keyspace message.2)
    (receiver : Receiver) :
    (receiver.consume parse keyspace messages).redisPublishDelayMs = receiver.redisPublishDelayMs ∧
      (receiver.consume parse keyspace messages).published = receiver.published ++
        (messages.map (fun message => (actualTopic keyspace message.2.1, message.2.2))).filter (fun call => call.1 ≠ delayTopic) := by
  induction messages generalizing receiver with
  | nil => exact ⟨rfl, (List.append_nil _).symm⟩
  | cons message rest ih =>
      have others := fun later inside => sources later (List.mem_cons_of_mem message inside)
      by_cases topic : actualTopic keyspace message.2.1 = delayTopic
      · obtain ⟨sent, sampled, readBack⟩ := sources message List.mem_cons_self topic
        have ignored := probe_ignored parse dump keyspace sent message.1 receiver message.2 sampled readBack
        have after : receiver.consume parse keyspace (message :: rest) = receiver.consume parse keyspace rest :=
          congrArg (fun next : Receiver => next.consume parse keyspace rest) ignored
        rw [after, List.map_cons, List.filter_cons_of_neg (by simpa using topic)]
        exact ih others receiver
      · have next : receiver.consume parse keyspace (message :: rest) =
            Receiver.consume parse keyspace ⟨receiver.redisPublishDelayMs, receiver.publishCount + 1,
              receiver.published ++ [(actualTopic keyspace message.2.1, message.2.2)]⟩ rest :=
          congrArg (fun next : Receiver => next.consume parse keyspace rest) (if_neg topic)
        obtain ⟨same, calls⟩ := ih others ⟨receiver.redisPublishDelayMs, receiver.publishCount + 1,
          receiver.published ++ [(actualTopic keyspace message.2.1, message.2.2)]⟩
        rw [next, List.map_cons, List.filter_cons_of_pos (by simpa using topic)]
        exact ⟨same, by rw [calls, List.append_assoc]; rfl⟩

theorem probe_delay_iff (dump : Json → Except Failure Bytes) (keyspace : Bytes) (sent received : Int) (receiver : Receiver)
    (message : Bytes × Bytes) (sampled : latencySampler dump keyspace sent = .ok message)
    (readBack : parse message.2 = .ok (probe sent)) :
    (((receiver.onPmessage parse keyspace received message).redisPublishDelayMs : Int) = max 0 (received - sent) ↔
        (receiver.redisPublishDelayMs : Int) = max 0 (received - sent)) ∧
      (receiver.onPmessage parse keyspace received message).published = receiver.published := by
  rw [probe_ignored parse dump keyspace sent received receiver message sampled readBack]
  exact ⟨Iff.rfl, rfl⟩

end

def sampleText : Bytes :=
  str "\x7b\"id\":\"0\",\"message\":\"$system$\",\"origin\":\"1000\",\"topic\":\"$metrics$/system_unixtime\"\x7d"

theorem first_probe_delay :
    (((Receiver.onPmessage (fun _ => .ok (probe 1000)) [] 1000 ⟨0, 0, []⟩ (delayTopic, sampleText)).redisPublishDelayMs : Int) =
        max 0 (1000 - 1000) ↔ ((0 : Nat) : Int) = max 0 (1000 - 1000)) ∧
      (Receiver.onPmessage (fun _ => .ok (probe 1000)) [] 1000 ⟨0, 0, []⟩ (delayTopic, sampleText)).published = [] :=
  probe_delay_iff (fun _ => .ok (probe 1000)) (fun _ => .ok sampleText) [] 1000 1000 ⟨0, 0, []⟩ (delayTopic, sampleText) rfl rfl

theorem late_probe_unmeasured :
    latencySampler (fun _ => .ok sampleText) [] 1000 = .ok (delayTopic, sampleText) ∧
      (Receiver.onPmessage (fun _ => .ok (probe 1000)) [] 1005 ⟨0, 0, []⟩ (delayTopic, sampleText)).redisPublishDelayMs = 0 ∧
      max 0 ((1005 : Int) - 1000) = 5 := by
  have ignored := probe_ignored (fun _ => .ok (probe 1000)) (fun _ => .ok sampleText) [] 1000 1005 ⟨0, 0, []⟩
    (delayTopic, sampleText) rfl rfl
  exact ⟨rfl, congrArg Receiver.redisPublishDelayMs ignored, by decide⟩

end Eventhub.Hub
