import Eventhub.Hub.Fanout
import Eventhub.Redis.TopicLog

set_option autoImplicit false

namespace Eventhub.Replay

open Redis Hub

-- _handlePublish: the commands of cacheMessage, then publishMessage.
inductive PublisherPc where
  | caching (pc : CachePc)
  | published (id : CacheId)

structure Publisher where
  args : CacheArgs
  pc : PublisherPc

-- A subscribe request whose pattern _handleSubscribe has checked, with what
-- _sendCacheToClient passes to getCacheSince.
structure Request where
  home : Nat
  connection : Nat
  topicPattern : Bytes
  valid : isValidTopicOrFilter topicPattern = true
  requestId : RpcId
  since : Int
  limit : Int

-- _handleSubscribe: Connection::subscribe, then the clock reading and the
-- commands of getCacheSince, then the answers.
inductive ReplayPc where
  | waiting
  | subscribed
  | skipped
  | started (now : Nat)
  | looking (now : Nat) (topics : List Bytes) (result : List CacheItem)
  | fetching (now : Nat) (topic : Bytes) (keys : List CacheItemMeta) (topics : List Bytes) (result : List CacheItem)
  | finished (now : Nat) (result : List CacheItem)

def ReplayPc.isWaiting : ReplayPc → Bool
  | .waiting => true
  | _ => false

-- channel holds what Redis has still to deliver to the server.
structure World where
  now : Nat
  db : Db
  publishers : List Publisher
  channel : List Job
  server : Server
  replay : ReplayPc

def World.start (now workers : Nat) : World := ⟨now, Db.empty, [], [], Server.start workers, .waiting⟩

inductive Event where
  | tick (elapsed : Nat)
  | call (args : CacheArgs)
  | advance (index : Nat)
  | consume
  | serve (event : ServerEvent)
  | subscribe
  | query (allTopics : List Bytes)

def Closes (connection : Nat) : Op → Prop
  | .call other (.setState _) => other = connection
  | .call other .shutdown => other = connection
  | .call other (.destroy _) => other = connection
  | _ => False

instance (connection : Nat) (op : Op) : Decidable (Closes connection op) :=
  match op with
  | .connect _ => isFalse id
  | .call other (.setState _) => inferInstanceAs (Decidable (other = connection))
  | .call other .shutdown => inferInstanceAs (Decidable (other = connection))
  | .call other (.destroy _) => inferInstanceAs (Decidable (other = connection))
  | .call _ (.subscribe _ _) => isFalse id
  | .call _ (.unsubscribe _) => isFalse id
  | .call _ (.unsubscribeAll _) => isFalse id

instance (connection : Nat) (pattern : Bytes) (op : Op) : Decidable (op.Cancels connection pattern) :=
  match op with
  | .connect _ => isFalse id
  | .call other (.unsubscribe topicPattern) => inferInstanceAs (Decidable (other = connection ∧ topicPattern = pattern))
  | .call other (.unsubscribeAll _) => inferInstanceAs (Decidable (other = connection))
  | .call other (.destroy _) => inferInstanceAs (Decidable (other = connection))
  | .call _ (.setState _) => isFalse id
  | .call _ .shutdown => isFalse id
  | .call _ (.subscribe _ _) => isFalse id

def messageJob (args : CacheArgs) (id : CacheId) : Job :=
  ⟨args.topic, some (publishMessage args.topic id.text args.payload args.origin)⟩

section

variable (keyspace : Bytes) (config : CacheConfig) (request : Request)

-- The next command of a publisher, with what it puts on the channel.
def publisherStep (now : Nat) (db : Db) (publisher : Publisher) : Db × Publisher × List Job :=
  match publisher.pc with
  | .caching (.returned id) => (db, { publisher with pc := .published id }, [messageJob publisher.args id])
  | .caching pc =>
      let moved := cacheStep keyspace config now db publisher.args pc
      (moved.1, { publisher with pc := .caching moved.2 }, [])
  | .published _ => (db, publisher, [])

-- The next command of the request; allTopics is what HKEYS pub_count answers.
def replayStep (now : Nat) (db : Db) (allTopics : List Bytes) : ReplayPc → Option ReplayPc
  | .subscribed => some (if !config.enableCache || request.since = 0 then .skipped else .started now)
  | .started started =>
      if isValidTopicFilter request.topicPattern then
        if allTopics.Perm (db.tallies (pubCountKey keyspace)).keys then
          some (.looking started (getTopicsSeen allTopics request.topicPattern) [])
        else none
      else some (.looking started [request.topicPattern] [])
  | .looking started [] result => some (.finished started result)
  | .looking started (topic :: topics) result =>
      some (.fetching started topic (cacheKeys started (scoreKeys keyspace db topic request.since request.limit)) topics result)
  | .fetching started topic keys topics result => some (.looking started topics (result ++ cacheRows keyspace db topic keys))
  | _ => none

-- Once the request has subscribed, its connection stays open and does not
-- unsubscribe from the pattern.
def Spares (replay : ReplayPc) : ServerEvent → Prop
  | .receive _ => False
  | .handOut => True
  | .work index (.operate op) =>
      replay.isWaiting = true ∨ index ≠ request.home ∨
        (¬ Closes request.connection op ∧ ¬ op.Cancels request.connection request.topicPattern)
  | .work _ _ => True

instance (replay : ReplayPc) (event : ServerEvent) : Decidable (Spares request replay event) :=
  match event with
  | .receive _ => isFalse id
  | .handOut => isTrue trivial
  | .work index (.operate op) =>
      inferInstanceAs (Decidable (replay.isWaiting = true ∨ index ≠ request.home ∨
        (¬ Closes request.connection op ∧ ¬ op.Cancels request.connection request.topicPattern)))
  | .work _ .lockJobs => isTrue trivial
  | .work _ (.runJob _) => isTrue trivial
  | .work _ .clearJobs => isTrue trivial

def openWebsocket (self : Connection) : Bool := self.state = .websocket && !self.isShutdown

def World.step (world : World) : Event → Option World
  | .tick elapsed => some { world with now := world.now + elapsed }
  | .call args =>
      if isValidTopic args.topic then some { world with publishers := world.publishers ++ [⟨args, .caching .entered⟩] } else none
  | .advance index => do
      let publisher ← world.publishers[index]?
      let moved := publisherStep keyspace config world.now world.db publisher
      return { world with
        db := moved.1
        publishers := world.publishers.set index moved.2.1
        channel := world.channel ++ moved.2.2 }
  | .consume =>
      match world.channel with
      | [] => none
      | job :: rest => (world.server.step (.receive job)).map (fun server => { world with server := server, channel := rest })
  | .serve event =>
      if Spares request world.replay event then (world.server.step event).map (fun server => { world with server := server })
      else none
  | .subscribe => do
      let worker ← world.server.workers[request.home]?
      let self ← worker.registry.connections request.connection
      if world.replay.isWaiting && openWebsocket self then
        (world.server.step (.work request.home (.operate (.call request.connection
          (.subscribe request.topicPattern request.requestId))))).map (fun server =>
            { world with server := server, replay := .subscribed })
      else none
  | .query allTopics =>
      (replayStep keyspace config request world.now world.db allTopics world.replay).map (fun replay => { world with replay := replay })

def Steps (before : World) (event : Event) (after : World) : Prop := before.step keyspace config request event = some after

end

def ReplayPc.answers (requestId : RpcId) : ReplayPc → List Output
  | .finished _ result =>
      result.map (fun item => .text requestId (publishMessage item.topic item.id item.message item.origin))
  | _ => []

section

variable (keyspace : Bytes) (config : CacheConfig) (request : Request) (now started : Nat) (db : Db) (allTopics : List Bytes)

-- The query alone, on a database that nobody else changes.
def QuerySteps (before : ReplayPc) (_ : Unit) (after : ReplayPc) : Prop :=
  replayStep keyspace config request now db allTopics before = some after

theorem query_loop_run (topics : List Bytes) (result : List CacheItem) :
    ∃ steps, Transition.Run (QuerySteps keyspace config request now db allTopics) (.looking started topics result) steps
      (.finished started (result ++ topics.flatMap (topicCache keyspace db started request.since request.limit))) := by
  induction topics generalizing result with
  | nil => exact ⟨[()], by simpa using .snoc [] () _ _ .nil rfl⟩
  | cons topic topics ih =>
      obtain ⟨steps, rest⟩ := ih (result ++ topicCache keyspace db started request.since request.limit topic)
      have first : Transition.Run (QuerySteps keyspace config request now db allTopics) (.looking started (topic :: topics) result)
          [(), ()] (.looking started topics (result ++ topicCache keyspace db started request.since request.limit topic)) :=
        .snoc [()] () _ _ (.snoc [] () _ _ .nil rfl) rfl
      refine ⟨[(), ()] ++ steps, ?_⟩
      rw [List.flatMap_cons, ← List.append_assoc]
      exact Transition.run_append _ _ _ _ _ _ first rest

theorem query_undisturbed (enabled : config.enableCache = true) (whole : allTopics.Perm (db.tallies (pubCountKey keyspace)).keys) :
    ∃ steps, Transition.Run (QuerySteps keyspace config request now db allTopics) (.started started) steps
      (.finished started (getCacheSince keyspace config db started allTopics request.topicPattern request.since request.limit
        (isValidTopicFilter request.topicPattern))) := by
  have answer : ∀ topics, QuerySteps keyspace config request now db allTopics (.started started) () (.looking started topics []) →
      ∃ steps, Transition.Run (QuerySteps keyspace config request now db allTopics) (.started started) steps
        (.finished started (topics.flatMap (topicCache keyspace db started request.since request.limit))) := by
    intro topics first
    obtain ⟨steps, rest⟩ := query_loop_run keyspace config request now started db allTopics topics []
    exact ⟨[()] ++ steps, Transition.run_append _ _ _ _ _ _ (.snoc [] () _ _ .nil first) rest⟩
  cases pattern : isValidTopicFilter request.topicPattern with
  | true =>
      simp only [getCacheSince, enabled, Bool.not_true, Bool.false_eq_true, if_false, if_true]
      exact answer _ (by simp only [QuerySteps, replayStep, pattern, if_true, if_pos whole])
  | false =>
      simp only [getCacheSince, enabled, Bool.not_true, Bool.false_eq_true, if_false]
      exact answer _ (by simp only [QuerySteps, replayStep, pattern, Bool.false_eq_true, if_false])

end

end Eventhub.Replay
