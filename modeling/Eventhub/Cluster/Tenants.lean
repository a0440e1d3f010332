import Eventhub.Cluster.Delivery

set_option autoImplicit false

namespace Eventhub.Cluster

open Transition
open Redis (redisPrefix)
open Hub (Json Failure Server Job publishMessage actualTopic delayTopic Delivered sentTo)

-- Whose messages an instance gets: with the same redis_prefix, and with one that
-- goes on after a colon. Without a redis_prefix it gets everything.
def Reaches (keyspace other : Bytes) : Prop := keyspace = [] ∨ keyspace = other ∨ keyspace ++ [colon] <+: other

instance reachesDecidable (keyspace other : Bytes) : Decidable (Reaches keyspace other) :=
  inferInstanceAs (Decidable (_ ∨ _ ∨ _))

theorem redis_prefix_nonempty (keyspace key : Bytes) (named : keyspace ≠ []) : redisPrefix keyspace key = keyspace ++ colon :: key := by
  rw [redisPrefix, if_pos (List.length_pos_iff.mpr named), List.append_assoc]
  rfl

section

variable (matching : Matching) (keyspace : Bytes) (message : Publication)

theorem heard_plain (plain : PlainText keyspace) (named : keyspace ≠ []) :
    heard matching keyspace message = true ↔ keyspace ++ [colon] <+: message.channel := by
  have text : PlainText (keyspace ++ [colon]) := by
    intro byte inside
    rcases List.mem_append.mp inside with own | last
    · exact plain byte own
    · rw [List.mem_singleton.mp last]
      decide
  have pattern : ownPattern keyspace = (keyspace ++ [colon]) ++ str "*" := by
    rw [ownPattern, redis_prefix_nonempty keyspace _ named, List.append_assoc]
    rfl
  rw [heard, pattern]
  exact matching.literal _ _ text

theorem heard_unnamed : heard matching [] message = true :=
  (matching.literal [] message.channel (fun _ inside => by cases inside)).mpr List.nil_prefix

-- A topic has no colon, so the first one that is not in the redis_prefix of the
-- publisher ends it.
theorem heard_iff (plain : PlainText keyspace) (topic : colon ∉ message.topic) :
    heard matching keyspace message = true ↔ Reaches keyspace message.keyspace := by
  by_cases named : keyspace = []
  · rw [named]
    exact ⟨fun _ => .inl rfl, fun _ => heard_unnamed matching message⟩
  rw [heard_plain matching keyspace message plain named]
  constructor
  · rintro ⟨rest, same⟩
    rw [List.append_assoc, List.singleton_append] at same
    right
    by_cases unnamed : message.keyspace = []
    · have channel : message.channel = message.topic := by rw [Publication.channel, unnamed]; rfl
      exact absurd (by rw [← channel, ← same]; simp) topic
    · rw [Publication.channel, redis_prefix_nonempty _ _ unnamed] at same
      rcases List.append_eq_append_iff.mp same with ⟨gap, longer, split⟩ | ⟨gap, longer, split⟩
      · cases gap with
        | nil => exact .inl (by rw [longer, List.append_nil])
        | cons first gap =>
            cases split
            exact .inr ⟨gap, by rw [longer, List.append_assoc]; rfl⟩
      · cases gap with
        | nil => exact .inl (by rw [longer, List.append_nil])
        | cons first gap =>
            obtain ⟨_, tail⟩ := List.cons.inj split
            exact absurd (by rw [tail]; simp) topic
  · rintro (empty | rfl | inside)
    · exact absurd empty named
    · rw [Publication.channel, redis_prefix_nonempty _ _ named]
      exact ⟨message.topic, by rw [List.append_assoc]; rfl⟩
    · have unnamed : message.keyspace ≠ [] := fun empty => by
        rw [empty] at inside
        simpa using List.prefix_nil.mp inside
      rw [Publication.channel, redis_prefix_nonempty _ _ unnamed]
      exact inside.trans (List.prefix_append _ _)

end

section

variable (matching : Matching) (parse : Bytes → Except Failure Json) (dump : Json → Except Failure Bytes)

def Publication.job (message : Publication) : Job :=
  ⟨message.topic, some (publishMessage message.topic message.id message.payload message.origin)⟩

def Publication.Dumped (message : Publication) : Prop :=
  dump (publishMessage message.topic message.id message.payload message.origin) = .ok message.jsonData

structure Lineage (keyspaces : List Bytes) (state : State) : Prop where
  published : ∀ message ∈ state.log, message.keyspace ∈ keyspaces ∧ message.Dumped dump
  instances : ∀ self ∈ state.instances, self.keyspace ∈ keyspaces

theorem deliver_keyspace (self : Instance) (message : Publication) : (self.deliver matching message).keyspace = self.keyspace := by
  unfold Instance.deliver
  split
  · split <;> rfl
  · rfl

theorem turn_keyspace (count : Nat) (before after : Instance) (call : Option ConsumerEvent) (turn : Turn parse count before call after) :
    after.keyspace = before.keyspace := by
  cases turn with
  | read => rfl
  | called => rfl
  | worked => rfl

theorem state_lineage (keyspaces : List Bytes) (workers : Nat) (events : List Event) (state : State)
    (run : Run (State.Steps matching parse dump) (State.start keyspaces workers) events state) : Lineage dump keyspaces state := by
  refine run_invariant (State.Steps matching parse dump) (fun _ state => Lineage dump keyspaces state) _ ?_ ?_ events state run
  · refine ⟨fun message inside => (by cases inside), fun self inside => ?_⟩
    obtain ⟨keyspace, member, rfl⟩ := List.mem_map.mp inside
    exact member
  · intro _ event before after lineage taken
    cases state_moves matching parse dump before after event taken with
    | refused => exact lineage
    | published index self message present mine dumped =>
        refine ⟨fun other inside => ?_, fun other inside => ?_⟩
        · rcases List.mem_append.mp inside with old | new
          · exact lineage.published other old
          · rw [List.mem_singleton.mp new, mine]
            exact ⟨lineage.instances self (List.mem_of_getElem? present), dumped⟩
        · obtain ⟨old, member, rfl⟩ := List.mem_map.mp inside
          rw [deliver_keyspace]
          exact lineage.instances old member
    | turned _ index self moved present others turn =>
        refine ⟨lineage.published, fun other inside => ?_⟩
        rcases List.mem_or_eq_of_mem_set inside with among | rfl
        · exact lineage.instances other among
        · rw [turn_keyspace parse _ self other _ turn]
          exact lineage.instances self (List.mem_of_getElem? present)

-- strips: substr in the callback does not throw. exclusive: what holds where no
-- other redis_prefix of the cluster reaches the instance.
structure Tenant (keyspaces : List Bytes) (log : List Publication) (server : Instance) : Prop where
  hears : server.taken.Sublist (log.filter (fun message => Reaches server.keyspace message.keyspace))
  complete : ∀ link since, Listening server link since →
    link.stream = (log.drop since).filter (fun message => Reaches server.keyspace message.keyspace)
  strips : ∀ message ∈ server.taken, server.keyspace ≠ [] → server.keyspace.length + 1 ≤ message.channel.length
  exclusive : (∀ other ∈ keyspaces, Reaches server.keyspace other → other = server.keyspace) →
    server.hub.received = (server.taken.filter (fun message => message.topic ≠ delayTopic)).map Publication.job ∧
      ∀ worker ∈ server.hub.workers, ∀ connection, Delivered connection worker.processed (sentTo connection worker.sent)

theorem own_job (self : Instance) (message : Publication) (mine : message.keyspace = self.keyspace)
    (readBack : parse message.jsonData = .ok (publishMessage message.topic message.id message.payload message.origin)) :
    self.job parse message = message.job := by
  rw [Instance.job, Publication.channel, mine, Hub.actual_topic_channel, readBack]
  rfl

theorem own_jobs (self : Instance) (messages : List Publication)
    (own : ∀ message ∈ messages, self.job parse message = message.job) :
    self.jobs parse messages = (messages.filter (fun message => message.topic ≠ delayTopic)).map Publication.job := by
  rw [Instance.jobs, List.map_congr_left own, List.filter_map]
  rfl

theorem tenants_apart (keyspaces : List Bytes) (workers : Nat) (events : List Event) (state : State)
    (run : Run (State.Steps matching parse dump) (State.start keyspaces workers) events state)
    (plain : ∀ keyspace ∈ keyspaces, PlainText keyspace) (topics : ∀ message ∈ state.log, colon ∉ message.topic)
    (readBack : ∀ topic id payload origin text, dump (publishMessage topic id payload origin) = .ok text →
      parse text = .ok (publishMessage topic id payload origin)) :
    ∀ self ∈ state.instances, Tenant keyspaces state.log self := by
  intro self inside
  have lineage := state_lineage matching parse dump keyspaces workers events state run
  have faithful := state_faithful matching parse dump keyspaces workers events state run self inside
  have ours := plain self.keyspace (lineage.instances self inside)
  have reaches (message : Publication) (member : message ∈ state.log) :
      heard matching self.keyspace message = decide (Reaches self.keyspace message.keyspace) := by
    rw [Bool.eq_iff_iff, decide_eq_true_iff]
    exact heard_iff matching self.keyspace message ours (topics message member)
  have same := List.filter_congr reaches
  have logged (message : Publication) (taken : message ∈ self.taken) : message ∈ state.log ∧ heard matching self.keyspace message = true :=
    List.mem_filter.mp (faithful.inOrder.subset taken)
  refine ⟨same ▸ faithful.inOrder, fun link since listening => ?_, fun message taken named => ?_, fun alone => ?_⟩
  · obtain ⟨_, _, _, _, all⟩ := (faithful.linked link listening.linked).registered since listening.registered
    exact (all listening.alive).trans (List.filter_congr (fun message member => reaches message (List.mem_of_mem_drop member)))
  · have start := (heard_plain matching self.keyspace message ours named).mp (logged message taken).2
    simpa using start.length_le
  · have mine (message : Publication) (taken : message ∈ self.taken) : self.job parse message = message.job := by
      obtain ⟨member, hit⟩ := logged message taken
      obtain ⟨known, dumped⟩ := lineage.published message member
      have own := alone message.keyspace known ((heard_iff matching self.keyspace message ours (topics message member)).mp hit)
      exact own_job parse self message own (readBack _ _ _ _ _ dumped)
    have received : self.hub.received = (self.taken.filter (fun message => message.topic ≠ delayTopic)).map Publication.job :=
      faithful.received.trans (own_jobs parse self self.taken mine)
    refine ⟨received, fun worker member => (faithful.sound worker member).delivered ?_⟩
    intro job handed
    obtain ⟨index, present⟩ := List.mem_iff_getElem?.mp member
    have among : job ∈ self.hub.received := by
      rw [← faithful.flows index worker present]
      exact List.mem_append_left _ handed
    rw [received] at among
    obtain ⟨message, _, rfl⟩ := List.mem_map.mp among
    exact ⟨message.id, message.payload, message.origin, rfl⟩

end

theorem sample_read_back (topic id payload origin text : Bytes)
    (dumped : sampleDump (publishMessage topic id payload origin) = .ok text) :
    sampleParse text = .ok (publishMessage topic id payload origin) := by
  cases origin with
  | cons first rest => cases dumped
  | nil =>
      change (if _ then _ else _) = _ at dumped
      split at dumped
      · rename_i known
        obtain ⟨parts, listed⟩ := known
        cases dumped
        cases parts
        exact Hub.parse_of_text _ (by decide +kernel) (sampleMessage topic) (List.mem_map_of_mem listed)
      · cases dumped

-- The third redis_prefix goes on after the first, so the first instance gets
-- its messages as well, under another topic; the second gets only its own.
def sampleTenants : List Event :=
  [.consumer 0 (.create none), .consumer 0 (.subscribe none), .consumer 0 .register,
    .consumer 1 (.create none), .consumer 1 (.subscribe none), .consumer 1 .register,
    samplePublish 0 (str "a"), samplePublish 1 (str "b"), samplePublish 2 (str "c"),
    .read 0, .hub 0 .handOut, .hub 0 .handOut, .read 0, .hub 0 .handOut, .hub 0 .handOut, .read 1]

theorem sample_tenants_apart :
    ∃ state, perform (State.step sampleMatching sampleParse sampleDump) (State.start [str "e", str "f", str "e:g"] 1) sampleTenants =
        some state ∧
      state.instances.map (fun self => self.hub.received.map Job.topicName) = [[str "a", str "g:c"], [str "b"], []] ∧
      ∀ self ∈ state.instances, Tenant [str "e", str "f", str "e:g"] state.log self := by
  have received : (perform (State.step sampleMatching sampleParse sampleDump) (State.start [str "e", str "f", str "e:g"] 1)
      sampleTenants).map (fun state => (state.log.map Publication.topic, state.instances.map (fun self => self.hub.received.map Job.topicName))) =
        some ([str "a", str "b", str "c"], [[str "a", str "g:c"], [str "b"], []]) := by decide +kernel
  obtain ⟨state, done, both⟩ := Option.map_eq_some_iff.mp received
  obtain ⟨log, topics⟩ := Prod.ext_iff.mp both
  refine ⟨state, done, topics, tenants_apart sampleMatching sampleParse sampleDump _ 1 sampleTenants state (perform_run _ _ _ _ done)
    ?_ ?_ sample_read_back⟩
  · unfold PlainText
    decide +kernel
  · intro message member
    have listed : message.topic ∈ state.log.map Publication.topic := List.mem_map_of_mem member
    rw [show state.log.map Publication.topic = [str "a", str "b", str "c"] from log] at listed
    exact (show ∀ topic ∈ [str "a", str "b", str "c"], colon ∉ topic by decide +kernel) message.topic listed

end Eventhub.Cluster
