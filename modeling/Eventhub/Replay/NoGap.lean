import Eventhub.Replay.Query
import Eventhub.Replay.Wiring

set_option autoImplicit false

namespace Eventhub.Replay

open Redis Hub Transition

theorem message_job_injective (left right : CacheArgs) (first second : CacheId)
    (same : messageJob left first = messageJob right second) :
    left.topic = right.topic ∧ left.payload = right.payload ∧ first = second := by
  obtain ⟨topic, data⟩ := Job.mk.inj same
  rw [Option.some.injEq] at data
  have ids := congrArg (Json.stringAt (str "id")) data
  have payloads := congrArg (Json.stringAt (str "message")) data
  rw [publish_message_id, publish_message_id, Option.some.injEq] at ids
  rw [publish_message_payload, publish_message_payload, Option.some.injEq] at payloads
  exact ⟨topic, payloads, cache_id_text_injective _ _ ids⟩

def Reached (connection : Nat) (worker : Worker) (args : CacheArgs) (id : CacheId) : Prop :=
  ∃ requestId, .text requestId (publishMessage args.topic id.text args.payload args.origin) ∈ sentTo connection worker.sent

theorem listens_due (registry : Registry) (connection : Nat) (pattern : Bytes) (args : CacheArgs) (id : CacheId)
    (listens : Listens registry connection pattern) (matched : isFilterMatched pattern args.topic = true) :
    ∃ requestId, .text requestId (publishMessage args.topic id.text args.payload args.origin) ∈
      registry.due connection (messageJob args id) := by
  obtain ⟨⟨self, present, opened⟩, subscribed⟩ := listens
  rw [openWebsocket, Bool.and_eq_true, decide_eq_true_eq, Bool.not_eq_true'] at opened
  rw [subscription_of registry connection self pattern present] at subscribed
  obtain ⟨subscription, found⟩ := Option.ne_none_iff_exists'.mp subscribed
  refine ⟨subscription.requestId, ?_⟩
  simp only [Registry.due, present, messageJob, List.mem_flatMap]
  refine ⟨⟨pattern, subscription⟩, AList.mem_lookup_iff.mp found, ?_⟩
  simp [matched, Connection.answer, opened]

section

variable (keyspace : Bytes) (config : CacheConfig) (request : Request)

-- Every message that the worker has published so far.
def Answered (worker : Worker) (replay : ReplayPc) : Prop :=
  ∀ args id, isFilterMatched request.topicPattern args.topic = true → request.since ≤ id.timestamp →
    messageJob args id ∈ worker.processed.map Prod.fst → Reached request.connection worker args id ∨ Captured args id replay

structure Covered (world : World) : Prop where
  kept : ∀ publisher ∈ world.publishers, publisher.Kept keyspace world.db
  answered : ∀ worker, world.server.workers[request.home]? = some worker → Answered request worker world.replay

theorem answered_move (before after : Worker) (event : WorkerEvent) (replay : ReplayPc) (sound : Sound before)
    (published : ∀ job ∈ before.handed, job.Published)
    (listening : replay.isWaiting = false → Listens before.registry request.connection request.topicPattern)
    (answered : Answered request before replay) (move : WorkerMove before event after) : Answered request after replay := by
  cases move with
  | quiet _ _ registry handed sent processed =>
      intro args id
      rw [Reached, sent, processed]
      exact answered args id
  | operated op registry step => exact answered
  | published job order _ whole registry handed inside sent processed =>
      intro args id matched recent member
      rw [Reached, sent, sent_to_append]
      rw [processed, List.map_append, List.mem_append] at member
      rcases member with earlier | latest
      · rcases answered args id matched recent earlier with ⟨requestId, reached⟩ | captured
        · exact .inl ⟨requestId, List.mem_append_left _ reached⟩
        · exact .inr captured
      · cases waiting : replay.isWaiting with
        | true =>
            cases replay with
            | waiting => exact .inr trivial
            | _ => cases waiting
        | false =>
            have same : messageJob args id = job := List.mem_singleton.mp latest
            obtain ⟨requestId, due⟩ := listens_due before.registry request.connection request.topicPattern args id
              (listening waiting) matched
            rw [same] at due
            exact .inl ⟨requestId, List.mem_append_right _ ((publish_due before.registry order job request.connection sound.coherent
              whole (published job inside)).mem_iff.mpr due)⟩

theorem wired_published (world : World) (wired : Wired request world) (index : Nat) (worker : Worker)
    (present : world.server.workers[index]? = some worker) : ∀ job ∈ worker.handed, job.Published := by
  intro job inside
  have received : job ∈ world.server.received := by
    rw [← wired.flows index worker present]
    exact List.mem_append_left _ inside
  obtain ⟨publisher, _, id, _, rfl⟩ := wired.sourced job (List.mem_append_left _ received)
  exact ⟨id.text, publisher.args.payload, publisher.args.origin, rfl⟩

theorem answered_served (world : World) (event : ServerEvent) (server : Server) (wired : Wired request world)
    (answered : ∀ worker, world.server.workers[request.home]? = some worker → Answered request worker world.replay)
    (step : world.server.Steps event server) (worker : Worker) (home : server.workers[request.home]? = some worker) :
    Answered request worker world.replay := by
  obtain ⟨former, present, ⟨_, sent, processed⟩ | ⟨own, _, moved⟩⟩ :=
    server_step_worker world.server server event request.home worker step home
  · intro args id
    rw [Reached, sent, processed]
    exact answered former present args id
  · exact answered_move request former worker own world.replay (wired.sound former (List.mem_of_getElem? present))
      (wired_published request world wired request.home former present) (wired.listening former present)
      (answered former present) moved

theorem processed_kept (world : World) (wired : Wired request world)
    (kept : ∀ publisher ∈ world.publishers, publisher.Kept keyspace world.db) (worker : Worker)
    (home : world.server.workers[request.home]? = some worker) (args : CacheArgs) (id : CacheId)
    (processed : messageJob args id ∈ worker.processed.map Prod.fst) : CacheKept keyspace world.db args (.returned id) := by
  have received : messageJob args id ∈ world.server.received := by
    rw [← wired.flows request.home worker home]
    exact List.mem_append_left _ (List.mem_append_left _ processed)
  obtain ⟨publisher, inside, own, finished, same⟩ := wired.sourced _ (List.mem_append_left _ received)
  obtain ⟨topic, payload, rfl⟩ := message_job_injective _ _ _ _ same
  have held := kept publisher inside
  simp only [Publisher.Kept, finished, CacheKept] at held
  rw [CacheKept, topic, payload]
  exact held

theorem kept_advance (world : World) (index : Nat) (publisher next : Publisher) (db : Db) (jobs : List Job)
    (enabled : config.enableCache = true) (present : world.publishers[index]? = some publisher)
    (kept : ∀ publisher ∈ world.publishers, publisher.Kept keyspace world.db)
    (move : PublisherMove keyspace config world.db db publisher next jobs)
    (distinct : ∀ (place : Nat) (other : Publisher) (id : CacheId), (world.publishers.set index next)[place]? = some other →
      other.id = some id → next.id = some id → place = index) :
    ∀ other ∈ world.publishers.set index next, other.Kept keyspace db := by
  intro other inside
  obtain ⟨place, found⟩ := List.mem_iff_getElem?.mp inside
  rcases set_lookup _ _ _ _ _ found with ⟨rfl, rfl⟩ | ⟨different, among⟩
  · exact move.kept enabled (kept publisher (List.mem_of_getElem? present))
  · refine kept_elsewhere keyspace world.db db other move.grows ?_ (kept other (List.mem_of_getElem? among))
    intro topic id payload named hashed
    refine move.hashed topic id payload ?_ hashed
    rintro own assigned rfl
    exact different (distinct place other own found named assigned)

theorem assumed_step (before after : World) (wired : Wired request before) (moved : Moved keyspace config request before after)
    (assumed : Assumed keyspace request after) : Assumed keyspace request before := by
  cases moved with
  | tick elapsed outcome =>
      rw [outcome] at assumed
      exact ⟨assumed.distinct, assumed.unexpired, assumed.room⟩
  | consume job rest server channel step outcome =>
      rw [outcome] at assumed
      exact ⟨assumed.distinct, assumed.unexpired, assumed.room⟩
  | serve event server spares step outcome =>
      rw [outcome] at assumed
      exact ⟨assumed.distinct, assumed.unexpired, assumed.room⟩
  | call args outcome =>
      rw [outcome] at assumed
      refine assumed_earlier keyspace request before _ assumed (grows_same _ _ rfl rfl) ?_ (fun _ reading => reading)
      intro index publisher id present named
      exact ⟨publisher, by rw [List.getElem?_append_left (List.getElem?_eq_some_iff.mp present).1]; exact present, named⟩
  | advance index publisher present outcome =>
      rw [outcome] at assumed
      have move := publisher_step_moves keyspace config before.now before.db publisher wired.well
        (wired.spells publisher (List.mem_of_getElem? present))
      refine assumed_earlier keyspace request before _ assumed move.grows ?_ (fun _ reading => reading)
      intro place other id found named
      by_cases same : place = index
      · subst same
        rw [present, Option.some.injEq] at found
        exact ⟨_, List.getElem?_set_self (List.getElem?_eq_some_iff.mp present).1, move.id id (by rw [found]; exact named)⟩
      · exact ⟨other, by rw [List.getElem?_set_ne (Ne.symm same)]; exact found, named⟩
  | subscribe worker self server home present opened waiting step outcome =>
      rw [outcome] at assumed
      refine assumed_earlier keyspace request before _ assumed (grows_same _ _ rfl rfl)
        (fun _ publisher _ found named => ⟨publisher, found, named⟩) ?_
      intro started reading
      cases replay : before.replay with
      | waiting => rw [replay] at reading; cases reading
      | _ => rw [replay] at waiting; cases waiting
  | query allTopics replay step outcome =>
      rw [outcome] at assumed
      exact assumed_earlier keyspace request before _ assumed (grows_same _ _ rfl rfl)
        (fun _ publisher _ found named => ⟨publisher, found, named⟩)
        (fun started reading => replay_step_clock keyspace config request _ started _ _ _ _ step reading)

theorem covered_step (before after : World) (enabled : config.enableCache = true) (wired : Wired request before)
    (moved : Moved keyspace config request before after) (assumed : Assumed keyspace request after)
    (covered : Covered keyspace request before) : Covered keyspace request after := by
  have earlier := assumed_step keyspace config request before after wired moved assumed
  cases moved with
  | tick elapsed outcome =>
      rw [outcome]
      exact ⟨covered.kept, covered.answered⟩
  | call args outcome =>
      rw [outcome]
      refine ⟨fun publisher inside => ?_, covered.answered⟩
      rcases List.mem_append.mp inside with among | fresh
      · exact covered.kept publisher among
      · rw [List.mem_singleton.mp fresh]
        trivial
  | advance index publisher present outcome =>
      rw [outcome] at assumed ⊢
      have move := publisher_step_moves keyspace config before.now before.db publisher wired.well
        (wired.spells publisher (List.mem_of_getElem? present))
      refine ⟨kept_advance keyspace config before index publisher _ _ _ enabled present covered.kept move ?_, covered.answered⟩
      intro place other id found named assigned
      exact assumed.distinct place index other _ id found (List.getElem?_set_self (List.getElem?_eq_some_iff.mp present).1) named assigned
  | consume job rest server channel step outcome =>
      rw [outcome]
      exact ⟨covered.kept, answered_served request before _ server wired covered.answered step⟩
  | serve event server spares step outcome =>
      rw [outcome]
      exact ⟨covered.kept, answered_served request before event server wired covered.answered step⟩
  | subscribe worker self server home present opened waiting step outcome =>
      rw [outcome]
      exact ⟨covered.kept, fun _ _ _ _ _ _ _ => .inr trivial⟩
  | query allTopics replay step outcome =>
      rw [outcome]
      refine ⟨covered.kept, fun worker home args id matched recent processed => ?_⟩
      rcases covered.answered worker home args id matched recent processed with reached | captured
      · exact .inl reached
      · exact .inr (captured_step keyspace config request before allTopics replay args id earlier
          (processed_kept keyspace request before wired covered.kept worker home args id processed) matched recent step captured)

theorem run_covered (now workers : Nat) (events : List Event) (world : World) (enabled : config.enableCache = true)
    (run : Run (Steps keyspace config request) (World.start now workers) events world) :
    Wired request world ∧ (Assumed keyspace request world → Covered keyspace request world) := by
  refine run_invariant (Steps keyspace config request)
    (fun _ world => Wired request world ∧ (Assumed keyspace request world → Covered keyspace request world)) _ ?_ ?_ events world run
  · refine ⟨wired_start request now workers, fun _ => ⟨?_, ?_⟩⟩
    · intro publisher inside
      cases inside
    · intro worker present args id _ _ _
      exact .inr trivial
  · rintro events event before after ⟨wired, covered⟩ taken
    have moved := world_moves keyspace config request before after event taken
    refine ⟨wired_step keyspace config request before after event wired taken, fun assumed => ?_⟩
    exact covered_step keyspace config request before after enabled wired moved assumed
      (covered (assumed_step keyspace config request before after wired moved assumed))

end

-- Redis has delivered everything, the worker has published it, and the query
-- has run to its end.
structure Drained (request : Request) (world : World) (worker : Worker) : Prop where
  channel : world.channel = []
  publishing : world.server.publishing = none
  home : world.server.workers[request.home]? = some worker
  jobQueue : worker.jobQueue = []
  finished : ∃ started result, world.replay = .finished started result

theorem drained_processed (request : Request) (world : World) (worker : Worker) (wired : Wired request world)
    (drained : Drained request world worker) : worker.processed.map Prod.fst = world.server.received := by
  rw [← wired.flows request.home worker drained.home]
  simp [Worker.handed, Worker.pending, Server.outstanding, drained.publishing, drained.jobQueue]

theorem no_gap (keyspace : Bytes) (config : CacheConfig) (request : Request) (now workers : Nat) (events : List Event) (world : World)
    (worker : Worker) (enabled : config.enableCache = true)
    (run : Run (Steps keyspace config request) (World.start now workers) events world)
    (assumed : Assumed keyspace request world) (drained : Drained request world worker) :
    ∀ publisher ∈ world.publishers, ∀ id, publisher.pc = .published id →
      isFilterMatched request.topicPattern publisher.args.topic = true → request.since ≤ id.timestamp →
      ∃ requestId origin, .text requestId (publishMessage publisher.args.topic id.text publisher.args.payload origin) ∈
        sentTo request.connection worker.sent ++ world.replay.answers request.requestId := by
  obtain ⟨wired, covers⟩ := run_covered keyspace config request now workers events world enabled run
  intro publisher inside id published matched recent
  have posted := wired.posted publisher inside id published
  rw [drained.channel, List.append_nil, ← drained_processed request world worker wired drained] at posted
  obtain ⟨started, result, finished⟩ := drained.finished
  rcases (covers assumed).answered worker drained.home publisher.args id matched recent posted with ⟨requestId, reached⟩ | captured
  · exact ⟨requestId, publisher.args.origin, List.mem_append_left _ reached⟩
  · rw [finished] at captured ⊢
    obtain ⟨origin, found⟩ := captured
    exact ⟨request.requestId, origin, List.mem_append_right _ (List.mem_map_of_mem found)⟩

def sampleRequest : Request := ⟨0, 0, str "a/x", by decide, .integer 7, 500, 10⟩

def sampleDelivery (order : List Bytes) : List Event :=
  [.consume, .serve .handOut, .serve .handOut, .serve (.work 0 .lockJobs), .serve (.work 0 (.runJob order)), .serve (.work 0 .clearJobs)]

-- The first message is delivered before the request subscribes. The second
-- is in the hash but not in the score set when the query runs.
def sampleRun : List Event := List.flatten
  [[.serve (.work 0 (.operate (.connect 0))), .serve (.work 0 (.operate (.call 0 (.setState .websocket)))),
      .call ⟨str "a/x", str "m", [], 0, 0⟩, .call ⟨str "a/x", str "n", [], 0, 0⟩],
    List.replicate 8 (.advance 0), List.replicate 5 (.advance 1), sampleDelivery [],
    [.subscribe, .query [], .query [], .query [], .query [], .query []],
    List.replicate 3 (.advance 1), sampleDelivery [str "a/x"]]

def sampleEnd : Option World := perform (World.step (str "eventhub") ⟨true, 60⟩ sampleRequest) (World.start 1000 1) sampleRun

theorem sample_end_assumed (world : World) (done : sampleEnd = some world) : Assumed (str "eventhub") sampleRequest world := by
  have ids : sampleEnd.map (fun world => world.publishers.map Publisher.id) = some [some ⟨1000, 0⟩, some ⟨1000, 1⟩] := by decide
  have clock : sampleEnd.map (fun world => world.replay.clock) = some (some 1000) := by decide
  have stored : sampleEnd.map (fun world => (world.db.zsets (cacheScorePath (str "eventhub") (str "a/x"))).entries.map ZEntry.member) =
      some [str "1000-0:61000", str "1000-1:61000"] := by decide
  rw [done, Option.map_some, Option.some.injEq] at ids clock stored
  have plain : ∀ topic, isFilterMatched sampleRequest.topicPattern topic = true → str "a/x" = topic :=
    fun topic matched => (topic_matched_iff _ topic (by decide)).mp matched
  constructor
  · intro first second left right id atFirst atSecond leftId rightId
    have distinct : (world.publishers.map Publisher.id).Nodup := by rw [ids]; decide
    have bound : first < (world.publishers.map Publisher.id).length := by
      rw [List.length_map]
      exact (List.getElem?_eq_some_iff.mp atFirst).1
    refine (List.getElem?_inj bound distinct).mp ?_
    rw [List.getElem?_map, List.getElem?_map, atFirst, atSecond, Option.map_some, Option.map_some, leftId, rightId]
  · intro started reading topic matched entry inside item parsed
    have member := List.mem_map_of_mem (f := ZEntry.member) inside
    rw [← plain topic matched, stored] at member
    have expires : ∀ text ∈ [str "1000-0:61000", str "1000-1:61000"],
        (CacheItemMeta.ofStr text).map CacheItemMeta.expireAt = some 61000 := by decide
    have expiry := expires entry.member member
    rw [parsed, Option.map_some, Option.some.injEq] at expiry
    rw [clock, Option.some.injEq] at reading
    omega
  · intro topic matched
    have bound := List.length_filter_le (fun entry : ZEntry => decide (Binary64.ofInt sampleRequest.since ≤ entry.score))
      (world.db.zsets (cacheScorePath (str "eventhub") topic)).entries
    have size := congrArg List.length stored
    rw [List.length_map, plain topic matched] at size
    rw [size] at bound
    exact Int.le_trans (Int.ofNat_le.mpr bound) (by decide)

theorem sample_no_gap :
    ∃ world worker, sampleEnd = some world ∧ Drained sampleRequest world worker ∧
      (sentTo 0 worker.sent).length = 1 ∧ (world.replay.answers (.integer 7)).length = 1 ∧
      ∀ publisher ∈ world.publishers, ∀ id, publisher.pc = .published id →
        isFilterMatched (str "a/x") publisher.args.topic = true → 500 ≤ id.timestamp →
        ∃ requestId origin, .text requestId (publishMessage publisher.args.topic id.text publisher.args.payload origin) ∈
          sentTo 0 worker.sent ++ world.replay.answers (.integer 7) := by
  have served : sampleEnd.map (fun world => ((world.channel.length, world.server.publishing.isNone),
      world.server.workers.map (fun worker => (worker.jobQueue.length, (sentTo 0 worker.sent).length)))) =
        some ((0, true), [(0, 1)]) := by decide
  have replayed : sampleEnd.map World.replay = some (.finished 1000 [⟨str "1000-0", str "a/x", str "m", []⟩]) := by rfl
  obtain ⟨world, done, drained⟩ := Option.map_eq_some_iff.mp served
  rw [done, Option.map_some, Option.some.injEq] at replayed
  obtain ⟨queues, workers⟩ := Prod.mk.inj drained
  obtain ⟨channel, publishing⟩ := Prod.mk.inj queues
  obtain ⟨worker, home, sizes⟩ := List.map_eq_singleton_iff.mp workers
  obtain ⟨jobQueue, sent⟩ := Prod.mk.inj sizes
  have ended : Drained sampleRequest world worker :=
    ⟨List.length_eq_zero_iff.mp channel, Option.isNone_iff_eq_none.mp publishing, by rw [home]; rfl, List.length_eq_zero_iff.mp jobQueue,
      _, _, replayed⟩
  refine ⟨world, worker, done, ended, sent, by rw [replayed]; rfl, ?_⟩
  exact no_gap (str "eventhub") ⟨true, 60⟩ sampleRequest 1000 1 sampleRun world worker rfl (perform_run _ _ _ _ done)
    (sample_end_assumed world done) ended

end Eventhub.Replay
