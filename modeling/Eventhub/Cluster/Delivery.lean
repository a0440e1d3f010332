import Eventhub.Cluster.System

set_option autoImplicit false

namespace Eventhub.Cluster

open Transition
open Redis (redisPrefix)
open Hub (Json Failure Server ServerEvent Job publishMessage actualTopic delayTopic Flows Sound Delivered sentTo)

section

variable (matching : Matching) (parse : Bytes → Except Failure Json) (dump : Json → Except Failure Bytes)

def ownPattern (keyspace : Bytes) : Bytes := redisPrefix keyspace (str "*")

def heard (keyspace : Bytes) (message : Publication) : Bool := matching.hit (ownPattern keyspace) message.channel

def Instance.jobs (self : Instance) (messages : List Publication) : List Job :=
  (messages.map (self.job parse)).filter (fun job => job.topicName ≠ delayTopic)

-- A connection holds, in the order of publication, what has been published since
-- Redis knows its pattern.
structure Tuned (log : List Publication) (keyspace : Bytes) (taken : List Publication) (link : Link) : Prop where
  pattern : ∀ pattern, link.pattern = some pattern → pattern = ownPattern keyspace
  early : link.since = none → link.queued = [] ∧ link.read = []
  registered : ∀ since, link.since = some since → link.pattern.isSome ∧ since ≤ log.length ∧
    (∃ past, taken = past ++ link.read ∧ past.Sublist ((log.take since).filter (heard matching keyspace))) ∧
    link.read ++ link.queued <+: (log.drop since).filter (heard matching keyspace) ∧
    (link.alive = true → link.read ++ link.queued = (log.drop since).filter (heard matching keyspace))

structure Faithful (log : List Publication) (server : Instance) : Prop where
  inOrder : server.taken.Sublist (log.filter (heard matching server.keyspace))
  linked : ∀ link, server.consumer.subscriber = some link → Tuned matching log server.keyspace server.taken link
  received : server.hub.received = server.jobs parse server.taken
  flows : Flows server.hub
  sound : ∀ worker ∈ server.hub.workers, Sound worker

section

variable {matching} {log : List Publication} {keyspace : Bytes} {taken : List Publication} {link : Link}
  (tuned : Tuned matching log keyspace taken link)

include tuned

theorem tuned_published {message : Publication} (sent : List Publication)
    (got : link.alive = true ∧ link.since.isSome → sent = [message].filter (heard matching keyspace))
    (missed : ¬ (link.alive = true ∧ link.since.isSome) → sent = []) :
    Tuned matching (log ++ [message]) keyspace taken { link with queued := link.queued ++ sent } := by
  refine ⟨tuned.pattern, fun early => ?_, fun since now => ?_⟩
  · obtain ⟨unqueued, unread⟩ := tuned.early early
    rw [unqueued, missed (fun both => by rw [early] at both; cases both.2)]
    exact ⟨rfl, unread⟩
  obtain ⟨known, bound, ⟨past, split, old⟩, held, all⟩ := tuned.registered since now
  have later : ((log ++ [message]).drop since).filter (heard matching keyspace) =
      (log.drop since).filter (heard matching keyspace) ++ [message].filter (heard matching keyspace) := by
    rw [List.drop_append_of_le_length bound, List.filter_append]
  have whole (alive : link.alive = true) : link.read ++ (link.queued ++ sent) = ((log ++ [message]).drop since).filter (heard matching keyspace) := by
    rw [later, ← all alive, got ⟨alive, by rw [now]; rfl⟩, List.append_assoc]
  refine ⟨known, by rw [List.length_append]; omega, ⟨past, split, ?_⟩, ?_, whole⟩
  · rwa [List.take_append_of_le_length bound]
  · by_cases alive : link.alive = true
    · exact whole alive ▸ List.prefix_rfl
    · dsimp only
      rw [missed (fun both => alive both.1), List.append_nil, later]
      exact held.trans (List.prefix_append _ _)

theorem tuned_read {queued : List Publication} {message : Publication} (next : link.queued = message :: queued) :
    Tuned matching log keyspace (taken ++ [message]) { link with queued := queued, read := link.read ++ [message] } ∧
      (taken ++ [message]).Sublist (log.filter (heard matching keyspace)) := by
  cases now : link.since with
  | none =>
      have empty := (tuned.early now).1
      rw [next] at empty
      cases empty
  | some since =>
      obtain ⟨sent, bound, ⟨past, split, old⟩, held, all⟩ := tuned.registered since now
      have regroup : link.read ++ [message] ++ queued = link.read ++ link.queued := by rw [next, List.append_assoc]; rfl
      have ours : taken ++ [message] = past ++ (link.read ++ [message]) := by rw [split, List.append_assoc]
      refine ⟨⟨tuned.pattern, fun early => (by cases early), fun other same => ?_⟩, ?_⟩
      · cases same
        refine ⟨sent, bound, ⟨past, ours, old⟩, ?_, fun alive => ?_⟩
        · exact regroup ▸ held
        · exact regroup.trans (all alive)
      · have fresh : (link.read ++ [message]).Sublist ((log.drop since).filter (heard matching keyspace)) :=
          (List.sublist_append_left _ queued).trans (regroup ▸ held.sublist)
        have whole : log.filter (heard matching keyspace) =
            (log.take since).filter (heard matching keyspace) ++ (log.drop since).filter (heard matching keyspace) := by
          rw [← List.filter_append, List.take_append_drop]
        rw [ours, whole]
        exact old.append fresh

theorem tuned_registered (ordered : taken.Sublist (log.filter (heard matching keyspace))) (sent : link.pattern.isSome) (early : link.since = none) :
    Tuned matching log keyspace taken { link with since := some log.length } := by
  obtain ⟨unqueued, unread⟩ := tuned.early early
  have nothing : link.read ++ link.queued = (log.drop log.length).filter (heard matching keyspace) := by
    rw [unqueued, unread, List.drop_length]
    rfl
  refine ⟨tuned.pattern, fun never => (by cases never), fun since now => ?_⟩
  cases now
  refine ⟨sent, Nat.le_refl _, ⟨taken, by rw [unread, List.append_nil], ?_⟩, nothing ▸ List.prefix_rfl, fun _ => nothing⟩
  rwa [List.take_length]

theorem tuned_hit (message : Publication) (known : link.since.isSome) :
    link.pattern.any (matching.hit · message.channel) = heard matching keyspace message := by
  obtain ⟨since, now⟩ := Option.isSome_iff_exists.mp known
  obtain ⟨pattern, sent⟩ := Option.isSome_iff_exists.mp (tuned.registered since now).1
  rw [sent, tuned.pattern pattern sent]
  rfl

end

theorem catching_subscriber (consumer : Consumer) (starting : Bool) (thrown : Thrown) :
    (consumer.catching starting thrown).subscriber = consumer.subscriber := by
  unfold Consumer.catching
  split
  · rfl
  · cases thrown <;> rfl

theorem tuned_fresh (log : List Publication) (keyspace : Bytes) (taken : List Publication) : Tuned matching log keyspace taken Link.fresh :=
  ⟨fun _ sent => (by cases sent), fun _ => ⟨rfl, rfl⟩, fun _ now => (by cases now)⟩

theorem consumer_tuned (log : List Publication) (keyspace : Bytes) (taken : List Publication) (before after : Consumer)
    (event : ConsumerEvent) (ordered : taken.Sublist (log.filter (heard matching keyspace)))
    (tuned : ∀ link, before.subscriber = some link → Tuned matching log keyspace taken link)
    (step : before.step keyspace log.length event = some after) :
    ∀ link, after.subscriber = some link → Tuned matching log keyspace taken link := by
  have caught (starting : Bool) (thrown : Thrown) (link : Link) (linked : (before.catching starting thrown).subscriber = some link) :
      Tuned matching log keyspace taken link := tuned link (catching_subscriber before starting thrown ▸ linked)
  intro link linked
  cases event with
  | reset =>
      obtain ⟨_, outcome⟩ := Option.ite_none_right_eq_some.mp step
      cases outcome
      cases linked
  | create thrown =>
      cases pc : before.pc with
      | creating starting =>
          cases thrown with
          | none =>
              simp only [Consumer.step, pc, Option.some.injEq] at step
              cases step
              cases linked
              exact tuned_fresh matching log keyspace taken
          | some thrown =>
              simp only [Consumer.step, pc, Option.some.injEq] at step
              cases step
              exact caught starting thrown link linked
      | _ => simp [Consumer.step, pc] at step
  | subscribe thrown =>
      cases pc : before.pc with
      | subscribing starting =>
          cases thrown with
          | none =>
              simp only [Consumer.step, pc, Option.some.injEq] at step
              cases step
              obtain ⟨old, found, rfl⟩ := Option.map_eq_some_iff.mp linked
              have kept := tuned old found
              refine ⟨fun pattern sent => (Option.some.inj sent).symm, kept.early, fun since now => ?_⟩
              exact ⟨rfl, (kept.registered since now).2⟩
          | some thrown =>
              simp only [Consumer.step, pc, Option.some.injEq] at step
              cases step
              exact caught starting thrown link linked
      | _ => simp [Consumer.step, pc] at step
  | consume =>
      obtain ⟨_, outcome⟩ := Option.ite_none_right_eq_some.mp step
      cases outcome
      exact tuned link linked
  | fail thrown =>
      obtain ⟨_, outcome⟩ := Option.ite_none_right_eq_some.mp step
      cases outcome
      exact caught false thrown link linked
  | register =>
      obtain ⟨old, found, rest⟩ := Option.bind_eq_some_iff.mp step
      obtain ⟨⟨_, sent, early⟩, outcome⟩ := Option.ite_none_right_eq_some.mp rest
      cases outcome
      cases linked
      exact tuned_registered (tuned old found) ordered sent early
  | close =>
      obtain ⟨old, found, outcome⟩ := Option.bind_eq_some_iff.mp step
      cases outcome
      cases linked
      have kept := tuned old found
      refine ⟨kept.pattern, kept.early, fun since now => ?_⟩
      obtain ⟨sent, bound, past, held, _⟩ := kept.registered since now
      exact ⟨sent, bound, past, held, fun alive => by cases alive⟩

theorem received_only (before after : Server) (event : ServerEvent) (other : receives event = false) (step : before.Steps event after) :
    after.received = before.received := by
  cases Hub.server_moves before after event step with
  | received job idle => cases other
  | handed => rfl
  | completed => rfl
  | worked => rfl

theorem jobs_append (self : Instance) (messages : List Publication) (message : Publication) :
    self.jobs parse (messages ++ [message]) =
      self.jobs parse messages ++ (if (self.job parse message).topicName ≠ delayTopic then [self.job parse message] else []) := by
  rw [Instance.jobs, List.map_append, List.filter_append, List.map_singleton, List.filter_singleton]
  simp [Instance.jobs]

theorem turn_faithful (log : List Publication) (before after : Instance) (call : Option ConsumerEvent)
    (faithful : Faithful matching parse log before) (turn : Turn parse log.length before call after) : Faithful matching parse log after := by
  cases turn with
  | read message link queued hub linked next listening handed =>
      obtain ⟨tuned, ordered⟩ := tuned_read (faithful.linked link linked) next
      have jobs := jobs_append parse before before.taken message
      rcases handed with ⟨rfl, delay⟩ | ⟨step, other⟩
      · refine ⟨ordered, fun new same => (by cases same; exact tuned), ?_, faithful.flows, faithful.sound⟩
        rw [if_neg (not_not.mpr delay), List.append_nil] at jobs
        exact faithful.received.trans jobs.symm
      · refine ⟨ordered, fun new same => (by cases same; exact tuned), ?_, Hub.flows_step _ _ _ faithful.flows step,
          Hub.sound_step _ _ _ faithful.sound step⟩
        rw [if_pos other, ← faithful.received] at jobs
        refine Eq.trans ?_ jobs.symm
        cases Hub.server_moves before.hub hub _ step with
        | received job idle => rfl
  | called event consumer step =>
      exact ⟨faithful.inOrder,
        consumer_tuned matching log before.keyspace before.taken before.consumer consumer event faithful.inOrder faithful.linked step,
        faithful.received, faithful.flows, faithful.sound⟩
  | worked event hub other step =>
      exact ⟨faithful.inOrder, faithful.linked, (received_only before.hub hub event other step).trans faithful.received,
        Hub.flows_step _ _ event faithful.flows step, Hub.sound_step _ _ event faithful.sound step⟩

theorem deliver_faithful (log : List Publication) (self : Instance) (message : Publication) (faithful : Faithful matching parse log self) :
    Faithful matching parse (log ++ [message]) (self.deliver matching message) := by
  have ordered : self.taken.Sublist ((log ++ [message]).filter (heard matching self.keyspace)) := by
    rw [List.filter_append]
    exact faithful.inOrder.trans (List.sublist_append_left _ _)
  unfold Instance.deliver
  split
  · rename_i link linked
    have tuned := faithful.linked link linked
    split
    · rename_i sent
      obtain ⟨alive, known, hit⟩ := sent
      rw [tuned_hit tuned message known] at hit
      refine ⟨ordered, fun new same => ?_, faithful.received, faithful.flows, faithful.sound⟩
      cases same
      exact tuned_published tuned [message] (fun _ => by rw [List.filter_singleton, hit]; rfl) (fun missed => absurd ⟨alive, known⟩ missed)
    · rename_i unsent
      refine ⟨ordered, fun new same => ?_, faithful.received, faithful.flows, faithful.sound⟩
      cases linked.symm.trans same
      have passed : link.alive = true ∧ link.since.isSome → [] = [message].filter (heard matching self.keyspace) := by
        intro ⟨alive, known⟩
        have unheard := Bool.eq_false_iff.mpr (fun hit => unsent ⟨alive, known, hit⟩)
        rw [List.filter_singleton, ← tuned_hit tuned message known, unheard]
        rfl
      simpa using tuned_published tuned [] passed (fun _ => rfl)
  · rename_i unlinked
    exact ⟨ordered, fun link linked => (by rw [unlinked] at linked; cases linked), faithful.received, faithful.flows, faithful.sound⟩

theorem state_faithful (keyspaces : List Bytes) (workers : Nat) (events : List Event) (state : State)
    (run : Run (State.Steps matching parse dump) (State.start keyspaces workers) events state) :
    ∀ self ∈ state.instances, Faithful matching parse state.log self := by
  refine run_invariant (State.Steps matching parse dump)
    (fun _ state => ∀ self ∈ state.instances, Faithful matching parse state.log self) _ ?_ ?_ events state run
  · intro self inside
    obtain ⟨keyspace, _, rfl⟩ := List.mem_map.mp inside
    obtain ⟨flows, sound⟩ := Hub.run_sound workers [] (Server.start workers) .nil
    exact ⟨List.Sublist.refl _, fun link linked => (by cases linked), rfl, flows, sound⟩
  · intro _ event before after faithful taken
    cases state_moves matching parse dump before after event taken with
    | refused => exact faithful
    | published index self message present mine dumped =>
        intro other inside
        obtain ⟨old, member, rfl⟩ := List.mem_map.mp inside
        exact deliver_faithful matching parse before.log old message (faithful old member)
    | turned _ index self moved present others turn =>
        intro other inside
        rcases List.mem_or_eq_of_mem_set inside with among | rfl
        · exact faithful other among
        · exact turn_faithful matching parse before.log self other _ (faithful self (List.mem_of_getElem? present)) turn

def Link.stream (link : Link) : List Publication := link.read ++ link.queued

structure Listening (server : Instance) (link : Link) (since : Nat) : Prop where
  linked : server.consumer.subscriber = some link
  alive : link.alive = true
  registered : link.since = some since

structure Served (log : List Publication) (server : Instance) : Prop where
  inOrder : server.taken.Sublist (log.filter (heard matching server.keyspace))
  complete : ∀ link since, Listening server link since →
    link.read <:+ server.taken ∧ link.stream = (log.drop since).filter (heard matching server.keyspace)
  received : server.hub.received = server.jobs parse server.taken
  processed : ∀ worker ∈ server.hub.workers, worker.processed.map Prod.fst <+: server.hub.received

theorem cluster_delivers (keyspaces : List Bytes) (workers : Nat) (events : List Event) (state : State)
    (run : Run (State.Steps matching parse dump) (State.start keyspaces workers) events state) :
    (∀ self ∈ state.instances, Served matching parse state.log self) ∧
      ∀ early ∈ state.instances, ∀ late ∈ state.instances, early.keyspace = late.keyspace →
        ∀ first second since later, Listening early first since → Listening late second later → since ≤ later →
          second.stream <:+ first.stream := by
  have faithful := state_faithful matching parse dump keyspaces workers events state run
  have stream (self : Instance) (inside : self ∈ state.instances) (link : Link) (since : Nat) (listening : Listening self link since) :
      link.read <:+ self.taken ∧ link.stream = (state.log.drop since).filter (heard matching self.keyspace) := by
    obtain ⟨_, _, ⟨past, split, _⟩, _, all⟩ := ((faithful self inside).linked link listening.linked).registered since listening.registered
    exact ⟨⟨past, split.symm⟩, all listening.alive⟩
  refine ⟨fun self inside => ?_, ?_⟩
  · have ours := faithful self inside
    refine ⟨ours.inOrder, stream self inside, ours.received, fun worker member => ?_⟩
    obtain ⟨index, present⟩ := List.mem_iff_getElem?.mp member
    rw [← ours.flows index worker present, Hub.Worker.handed, List.append_assoc]
    exact List.prefix_append _ _
  · intro early earlyInside late lateInside same first second since later left right order
    rw [(stream early earlyInside first since left).2, (stream late lateInside second later right).2, same]
    have gap : state.log.drop later = (state.log.drop since).drop (later - since) := by
      rw [List.drop_drop]
      congr 1
      omega
    rw [gap]
    exact (List.drop_suffix _ _).filter _

end

-- Patterns that end in a star.
def sampleMatching : Matching where
  hit pattern channel := pattern.dropLast.isPrefixOf channel
  literal text channel _ := by
    rw [List.dropLast_append_of_ne_nil (by decide), show (str "*").dropLast = [] from rfl, List.append_nil]
    exact List.isPrefixOf_iff_prefix

-- The messages of the sample runs, and what dump() and parse() make of them.
def sampleMessage (topic : Bytes) : Json := publishMessage topic (str "1700000000000-0") (str "hello") []

def sampleTopics : List Bytes := [str "a", str "b", str "c"]

def sampleDump : Json → Except Failure Bytes
  | .object [(first, .string id), (second, .string message), (third, .string topic)] =>
      if [first, second, third, id, message] = [str "id", str "message", str "topic", str "1700000000000-0", str "hello"] ∧
          topic ∈ sampleTopics then .ok (sampleMessage topic).text
      else .error (.thrown [])
  | _ => .error (.thrown [])

def sampleParse : Bytes → Except Failure Json := Json.parseOf (sampleTopics.map sampleMessage)

def samplePublish (index : Nat) (topic : Bytes) : Event := .publish index topic (str "1700000000000-0") (str "hello") []

-- Both instances connect; the second loses its connection, misses a message
-- and reads the next one over a new connection.
def sampleCluster : List Event :=
  [.consumer 0 (.create none), .consumer 0 (.subscribe none), .consumer 0 .register,
    .consumer 1 (.create none), .consumer 1 (.subscribe none), .consumer 1 .register,
    samplePublish 0 (str "a"), .read 0, .hub 0 .handOut, .hub 0 .handOut, .read 1, .hub 1 .handOut, .hub 1 .handOut,
    .consumer 1 .close, samplePublish 1 (str "b"), .consumer 1 (.fail .error), .consumer 1 .reset, .consumer 1 (.create none),
    .consumer 1 (.subscribe none), .consumer 1 .register, samplePublish 0 (str "c"), .read 1, .read 0]

theorem sample_cluster_delivers :
    ∃ state, perform (State.step sampleMatching sampleParse sampleDump) (State.start [str "e", str "e"] 1) sampleCluster = some state ∧
      state.instances.map (fun self => self.taken.map Publication.topic) = [[str "a", str "b"], [str "a", str "c"]] ∧
      (∀ self ∈ state.instances, Served sampleMatching sampleParse state.log self) ∧
      ∀ early ∈ state.instances, ∀ late ∈ state.instances, early.keyspace = late.keyspace →
        ∀ first second since later, Listening early first since → Listening late second later → since ≤ later →
          second.stream <:+ first.stream := by
  have topics : (perform (State.step sampleMatching sampleParse sampleDump) (State.start [str "e", str "e"] 1) sampleCluster).map
      (fun state => state.instances.map (fun self => self.taken.map Publication.topic)) = some [[str "a", str "b"], [str "a", str "c"]] := by
    decide +kernel
  obtain ⟨state, done, taken⟩ := Option.map_eq_some_iff.mp topics
  exact ⟨state, done, taken, cluster_delivers sampleMatching sampleParse sampleDump _ 1 sampleCluster state (perform_run _ _ _ _ done)⟩

end Eventhub.Cluster
