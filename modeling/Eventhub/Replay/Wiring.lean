import Eventhub.Replay.Stored

set_option autoImplicit false

namespace Eventhub.Replay

open Redis Hub Transition

theorem server_step_worker (before after : Server) (event : ServerEvent) (index : Nat) (worker : Worker)
    (taken : before.Steps event after) (present : after.workers[index]? = some worker) :
    ∃ former, before.workers[index]? = some former ∧
      ((worker.registry = former.registry ∧ worker.sent = former.sent ∧ worker.processed = former.processed) ∨
        ∃ own, event = .work index own ∧ WorkerMove former own worker) := by
  cases server_moves before after event taken with
  | received job idle => exact ⟨worker, present, .inl ⟨rfl, rfl, rfl⟩⟩
  | completed job next busy target => exact ⟨worker, present, .inl ⟨rfl, rfl, rfl⟩⟩
  | handed job next other queued busy target added =>
      rcases set_lookup _ _ _ _ _ present with ⟨rfl, rfl⟩ | ⟨_, kept⟩
      · exact ⟨other, target, .inl (add_job_hands other worker job added).2⟩
      · exact ⟨worker, kept, .inl ⟨rfl, rfl, rfl⟩⟩
  | worked place own other moved found step =>
      rcases set_lookup _ _ _ _ _ present with ⟨rfl, rfl⟩ | ⟨_, kept⟩
      · exact ⟨other, found, .inr ⟨own, rfl, worker_moves other worker own step⟩⟩
      · exact ⟨worker, kept, .inl ⟨rfl, rfl, rfl⟩⟩

structure Listens (registry : Registry) (connection : Nat) (pattern : Bytes) : Prop where
  opened : ∃ self, registry.connections connection = some self ∧ openWebsocket self = true
  subscribed : registry.subscription connection pattern ≠ none

theorem remapped_opened (before after : Registry) (connection : Nat) (self : Connection) (pattern : Bytes)
    (map : AList (fun _ : Bytes => TopicSubscription)) (opened : openWebsocket self = true)
    (remapped : Remapped before after connection self pattern map) :
    ∃ self, after.connections connection = some self ∧ openWebsocket self = true :=
  ⟨{ self with subscribedTopics := map }, by rw [remapped.1, Function.update_self], opened⟩

theorem call_runs (before after : Registry) (connection : Nat) (self : Connection) (member : Member)
    (present : before.connections connection = some self) (step : before.Steps (.call connection member) after) :
    member.run before connection self = .ok after := by
  obtain ⟨result, possible, outcome⟩ := Option.bind_eq_some_iff.mp step
  simp only [Registry.step, present] at possible
  split at possible
  · rw [Option.some.inj possible]
    cases result with
    | error fault => cases outcome
    | ok reached => exact congrArg Except.ok (Option.some.inj outcome)
  · cases possible

theorem opened_kept (before after : Registry) (op : Op) (connection : Nat) (pattern : Bytes) (coherent : Coherent before)
    (step : before.Steps op after) (lasting : ¬ Closes connection op ∧ ¬ op.Cancels connection pattern)
    (opened : ∃ self, before.connections connection = some self ∧ openWebsocket self = true) :
    ∃ self, after.connections connection = some self ∧ openWebsocket self = true := by
  by_cases own : op.connection = connection
  · obtain ⟨self, present, isOpen⟩ := opened
    cases op with
    | connect other =>
        have same : other = connection := own
        subst same
        simp [Registry.Steps, Registry.next, Registry.step, present] at step
    | call other member =>
        have same : other = connection := own
        subst same
        cases member with
        | setState state => exact absurd rfl lasting.1
        | shutdown => exact absurd rfl lasting.1
        | destroy order => exact absurd rfl lasting.1
        | unsubscribeAll order => exact absurd rfl lasting.2
        | subscribe key requestId =>
            have outcome := Except.ok.inj (call_runs before after other self _ present step)
            rw [← outcome]
            by_cases known : key ∈ self.subscribedTopics
            · rw [subscribe_known before other self key requestId known]
              exact ⟨self, present, isOpen⟩
            · obtain ⟨topic, _, remapped⟩ := subscribe_coherent before other self key requestId coherent present known
              exact remapped_opened before _ other self key _ isOpen remapped
        | unsubscribe key =>
            have outcome := call_runs before after other self _ present step
            cases record : self.subscribedTopics.lookup key with
            | none =>
                simp only [Member.run, Registry.unsubscribe, record] at outcome
                cases outcome
                exact ⟨self, present, isOpen⟩
            | some subscription =>
                obtain ⟨reached, dropped, _, remapped⟩ := drop_coherent before other self key subscription coherent present
                  (by rw [subscription_of before other self key present]; exact record)
                simp only [Member.run, Registry.unsubscribe, record, dropped] at outcome
                cases outcome
                exact remapped_opened before _ other self key _ isOpen remapped
  · obtain ⟨self, present, isOpen⟩ := opened
    exact ⟨self, by rw [(steps_effect before after op coherent step).2.1 connection (Ne.symm own)]; exact present, isOpen⟩

theorem subscribe_listens (before after : Registry) (connection : Nat) (pattern : Bytes) (requestId : RpcId) (coherent : Coherent before)
    (opened : ∃ self, before.connections connection = some self ∧ openWebsocket self = true)
    (step : before.Steps (.call connection (.subscribe pattern requestId)) after) : Listens after connection pattern := by
  refine ⟨opened_kept before after _ connection pattern coherent step ⟨id, id⟩ opened, ?_⟩
  cases (steps_effect before after _ coherent step).2.2 connection pattern with
  | cancelled cancels gone => exact cancels.elim
  | subscribed _ _ _ topic node record => rw [record]; exact Option.some_ne_none _
  | kept lasting repeated same => rw [same]; exact repeated requestId rfl

theorem listens_kept (before after : Registry) (op : Op) (connection : Nat) (pattern : Bytes) (coherent : Coherent before)
    (step : before.Steps op after) (lasting : ¬ Closes connection op ∧ ¬ op.Cancels connection pattern)
    (listens : Listens before connection pattern) : Listens after connection pattern := by
  refine ⟨opened_kept before after op connection pattern coherent step lasting listens.opened, ?_⟩
  cases (steps_effect before after op coherent step).2.2 connection pattern with
  | cancelled cancels gone => exact absurd cancels lasting.2
  | subscribed _ _ _ topic node record => rw [record]; exact Option.some_ne_none _
  | kept _ _ same => rw [same]; exact listens.subscribed

section

variable (keyspace : Bytes) (config : CacheConfig) (request : Request)

inductive Moved (before after : World) : Prop where
  | tick (elapsed : Nat) (outcome : after = { before with now := before.now + elapsed })
  | call (args : CacheArgs) (outcome : after = { before with publishers := before.publishers ++ [⟨args, .caching .entered⟩] })
  | advance (index : Nat) (publisher : Publisher) (present : before.publishers[index]? = some publisher)
      (outcome : after = { before with
        db := (publisherStep keyspace config before.now before.db publisher).1
        publishers := before.publishers.set index (publisherStep keyspace config before.now before.db publisher).2.1
        channel := before.channel ++ (publisherStep keyspace config before.now before.db publisher).2.2 })
  | consume (job : Job) (rest : List Job) (server : Server) (channel : before.channel = job :: rest)
      (step : before.server.Steps (.receive job) server) (outcome : after = { before with server := server, channel := rest })
  | serve (event : ServerEvent) (server : Server) (spares : Spares request before.replay event)
      (step : before.server.Steps event server) (outcome : after = { before with server := server })
  | subscribe (worker : Worker) (self : Connection) (server : Server) (home : before.server.workers[request.home]? = some worker)
      (present : worker.registry.connections request.connection = some self) (opened : openWebsocket self = true)
      (waiting : before.replay.isWaiting = true)
      (step : before.server.Steps (.work request.home (.operate (.call request.connection
        (.subscribe request.topicPattern request.requestId)))) server)
      (outcome : after = { before with server := server, replay := .subscribed })
  | query (allTopics : List Bytes) (replay : ReplayPc)
      (step : replayStep keyspace config request before.now before.db allTopics before.replay = some replay)
      (outcome : after = { before with replay := replay })

theorem world_moves (before after : World) (event : Event) (taken : Steps keyspace config request before event after) :
    Moved keyspace config request before after := by
  cases event with
  | tick elapsed => exact .tick elapsed (Option.some.inj taken).symm
  | call args =>
      simp only [Steps, World.step] at taken
      split at taken
      · exact .call args (Option.some.inj taken).symm
      · cases taken
  | advance index =>
      obtain ⟨publisher, present, outcome⟩ := Option.bind_eq_some_iff.mp taken
      exact .advance index publisher present (Option.some.inj outcome).symm
  | consume =>
      cases channel : before.channel with
      | nil => simp [Steps, World.step, channel] at taken
      | cons job rest =>
          simp only [Steps, World.step, channel] at taken
          obtain ⟨server, step, outcome⟩ := Option.map_eq_some_iff.mp taken
          exact .consume job rest server channel step outcome.symm
  | serve event =>
      by_cases spares : Spares request before.replay event
      · simp only [Steps, World.step, if_pos spares] at taken
        obtain ⟨server, step, outcome⟩ := Option.map_eq_some_iff.mp taken
        exact .serve event server spares step outcome.symm
      · simp [Steps, World.step, spares] at taken
  | subscribe =>
      obtain ⟨worker, home, rest⟩ := Option.bind_eq_some_iff.mp taken
      obtain ⟨self, present, choice⟩ := Option.bind_eq_some_iff.mp rest
      split at choice
      · rename_i ready
        rw [Bool.and_eq_true] at ready
        obtain ⟨server, step, outcome⟩ := Option.map_eq_some_iff.mp choice
        exact .subscribe worker self server home present ready.2 ready.1 step outcome.symm
      · cases choice
  | query allTopics =>
      obtain ⟨replay, step, outcome⟩ := Option.map_eq_some_iff.mp taken
      exact .query allTopics replay step outcome.symm

structure Wired (world : World) : Prop where
  spells : ∀ publisher ∈ world.publishers, publisher.Spells
  well : WellScored world.db
  sourced : ∀ job ∈ world.server.received ++ world.channel, ∃ publisher ∈ world.publishers, ∃ id,
    publisher.pc = .published id ∧ job = messageJob publisher.args id
  posted : ∀ publisher ∈ world.publishers, ∀ id, publisher.pc = .published id →
    messageJob publisher.args id ∈ world.server.received ++ world.channel
  flows : Flows world.server
  sound : ∀ worker ∈ world.server.workers, Sound worker
  listening : ∀ worker, world.server.workers[request.home]? = some worker → world.replay.isWaiting = false →
    Listens worker.registry request.connection request.topicPattern

theorem replay_step_waiting (now : Nat) (db : Db) (allTopics : List Bytes) (before after : ReplayPc)
    (step : replayStep keyspace config request now db allTopics before = some after) : before.isWaiting = false := by
  cases before with
  | waiting => cases step
  | _ => rfl

theorem listening_served (before after : Server) (event : ServerEvent) (replay : ReplayPc)
    (sound : ∀ worker ∈ before.workers, Sound worker)
    (listening : ∀ worker, before.workers[request.home]? = some worker → replay.isWaiting = false →
      Listens worker.registry request.connection request.topicPattern)
    (spared : ∀ op, event = .work request.home (.operate op) → replay.isWaiting = false →
      ¬ Closes request.connection op ∧ ¬ op.Cancels request.connection request.topicPattern)
    (step : before.Steps event after) (worker : Worker) (home : after.workers[request.home]? = some worker)
    (begun : replay.isWaiting = false) : Listens worker.registry request.connection request.topicPattern := by
  obtain ⟨former, present, ⟨registry, _, _⟩ | ⟨own, rfl, moved⟩⟩ := server_step_worker before after event request.home worker step home
  · rw [registry]
    exact listening former present begun
  · have heard := listening former present begun
    cases moved with
    | quiet _ _ registry _ _ _ => rw [registry]; exact heard
    | published _ _ _ _ registry _ _ _ _ => rw [registry]; exact heard
    | operated op registry taken =>
        exact listens_kept former.registry registry op _ _ (sound former (List.mem_of_getElem? present)).coherent taken
          (spared op rfl begun) heard

theorem wired_advance (world : World) (index : Nat) (publisher : Publisher) (wired : Wired request world)
    (present : world.publishers[index]? = some publisher) :
    Wired request { world with
      db := (publisherStep keyspace config world.now world.db publisher).1
      publishers := world.publishers.set index (publisherStep keyspace config world.now world.db publisher).2.1
      channel := world.channel ++ (publisherStep keyspace config world.now world.db publisher).2.2 } := by
  have member := List.mem_of_getElem? present
  have move := publisher_step_moves keyspace config world.now world.db publisher wired.well (wired.spells publisher member)
  generalize publisherStep keyspace config world.now world.db publisher = moved at move
  obtain ⟨db, next, jobs⟩ := moved
  replace move : PublisherMove keyspace config world.db db publisher next jobs := move
  have replaced : next ∈ world.publishers.set index next :=
    List.mem_of_getElem? (by rw [List.getElem?_set_self (List.getElem?_eq_some_iff.mp present).1])
  have stays : ∀ other ∈ world.publishers, ∀ id, other.pc = .published id → other ∈ world.publishers.set index next := by
    intro other inside id published
    obtain ⟨place, found⟩ := List.mem_iff_getElem?.mp inside
    by_cases same : place = index
    · subst same
      rw [present, Option.some.injEq] at found
      rw [← found] at published ⊢
      rw [move.done id published] at replaced ⊢
      exact replaced
    · exact List.mem_of_getElem? (by rw [List.getElem?_set_ne (Ne.symm same)]; exact found)
  constructor
  · intro other inside
    rcases List.mem_or_eq_of_mem_set inside with among | rfl
    · exact wired.spells other among
    · exact move.spells
  · exact move.well
  · intro job inside
    rw [← List.append_assoc, List.mem_append] at inside
    rcases inside with earlier | fresh
    · obtain ⟨other, among, id, published, source⟩ := wired.sourced job earlier
      exact ⟨other, stays other among id published, id, published, source⟩
    · rcases move.posted with ⟨nothing, _⟩ | ⟨id, _, published, single⟩
      · rw [nothing] at fresh
        cases fresh
      · rw [single, List.mem_singleton, ← move.args] at fresh
        exact ⟨next, replaced, id, published, fresh⟩
  · intro other inside id published
    rw [← List.append_assoc, List.mem_append]
    rcases List.mem_or_eq_of_mem_set inside with among | rfl
    · exact .inl (wired.posted other among id published)
    · rcases move.posted with ⟨_, unchanged⟩ | ⟨own, _, finished, single⟩
      · have same := unchanged id published
        rw [← same] at published ⊢
        exact .inl (wired.posted publisher member id published)
      · rw [finished] at published
        cases published
        exact .inr (by rw [single, ← move.args]; exact List.mem_singleton_self _)
  · exact wired.flows
  · exact wired.sound
  · exact wired.listening

theorem wired_served (before : World) (event : ServerEvent) (server : Server) (channel : List Job) (replay : ReplayPc)
    (wired : Wired request before) (step : before.server.Steps event server)
    (carried : server.received ++ channel = before.server.received ++ before.channel)
    (listening : ∀ worker, server.workers[request.home]? = some worker → replay.isWaiting = false →
      Listens worker.registry request.connection request.topicPattern) :
    Wired request { before with server := server, channel := channel, replay := replay } := by
  refine ⟨wired.spells, wired.well, ?_, ?_, flows_step _ _ _ wired.flows step, sound_step _ _ _ wired.sound step, listening⟩
  · rw [carried]
    exact wired.sourced
  · rw [carried]
    exact wired.posted

theorem wired_step (before after : World) (event : Event) (wired : Wired request before)
    (taken : Steps keyspace config request before event after) : Wired request after := by
  cases world_moves keyspace config request before after event taken with
  | tick elapsed outcome =>
      rw [outcome]
      exact ⟨wired.spells, wired.well, wired.sourced, wired.posted, wired.flows, wired.sound, wired.listening⟩
  | call args outcome =>
      rw [outcome]
      refine ⟨?_, wired.well, ?_, ?_, wired.flows, wired.sound, wired.listening⟩
      · intro publisher inside
        rcases List.mem_append.mp inside with among | fresh
        · exact wired.spells publisher among
        · rw [List.mem_singleton.mp fresh]
          trivial
      · intro job inside
        obtain ⟨publisher, among, source⟩ := wired.sourced job inside
        exact ⟨publisher, List.mem_append_left _ among, source⟩
      · intro publisher inside id published
        rcases List.mem_append.mp inside with among | fresh
        · exact wired.posted publisher among id published
        · rw [List.mem_singleton.mp fresh] at published
          cases published
  | advance index publisher present outcome =>
      rw [outcome]
      exact wired_advance keyspace config request before index publisher wired present
  | consume job rest server channel step outcome =>
      rw [outcome]
      have moved : server.received ++ rest = before.server.received ++ before.channel := by
        cases server_moves _ _ _ step with
        | received job idle => rw [channel, List.append_assoc]; rfl
      exact wired_served request before _ server rest before.replay wired step moved
        (listening_served request before.server server _ before.replay wired.sound wired.listening (fun op same => by cases same) step)
  | serve event server spares step outcome =>
      rw [outcome]
      have received : server.received = before.server.received := by
        cases server_moves _ _ _ step with
        | received job idle => exact spares.elim
        | handed job next worker queued busy target added => rfl
        | completed job next busy target => rfl
        | worked index own worker moved present step => rfl
      refine wired_served request before event server before.channel before.replay wired step (by rw [received]) ?_
      refine listening_served request before.server server event before.replay wired.sound wired.listening ?_ step
      rintro op rfl begun
      rcases spares with waiting | elsewhere | lasting
      · rw [begun] at waiting
        cases waiting
      · exact absurd rfl elsewhere
      · exact lasting
  | subscribe worker self server home present opened waiting step outcome =>
      rw [outcome]
      have received : server.received = before.server.received := by
        cases server_moves _ _ _ step with
        | worked index own worker moved present step => rfl
      refine wired_served request before _ server before.channel _ wired step (by rw [received]) ?_
      intro other found _
      cases server_moves _ _ _ step with
      | worked index own former moved at_home taken =>
          rw [home, Option.some.injEq] at at_home
          rcases set_lookup _ _ _ _ _ found with ⟨_, rfl⟩ | ⟨different, _⟩
          · rw [← at_home] at taken
            obtain ⟨registry, stepped, rfl⟩ := Option.map_eq_some_iff.mp taken
            exact subscribe_listens worker.registry registry request.connection request.topicPattern request.requestId
              (wired.sound worker (List.mem_of_getElem? home)).coherent ⟨self, present, opened⟩ stepped
          · exact absurd rfl different
  | query allTopics replay step outcome =>
      rw [outcome]
      refine ⟨wired.spells, wired.well, wired.sourced, wired.posted, wired.flows, wired.sound, ?_⟩
      intro worker home _
      exact wired.listening worker home (replay_step_waiting keyspace config request _ _ _ _ _ step)

end

theorem wired_start (request : Request) (now workers : Nat) : Wired request (World.start now workers) := by
  constructor
  · intro publisher inside
    cases inside
  · intro key entry inside
    cases inside
  · intro job inside
    cases inside
  · intro publisher inside
    cases inside
  · intro index worker present
    rw [List.eq_of_mem_replicate (List.mem_of_getElem? present)]
    rfl
  · intro worker inside
    rw [List.eq_of_mem_replicate inside]
    exact ⟨empty_coherent, fun _ connection => .nil⟩
  · intro worker _ begun
    cases begun

end Eventhub.Replay
