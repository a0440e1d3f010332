import Eventhub.Lib.LockOrder

set_option autoImplicit false

namespace Eventhub.Locks

open Transition Progress LockOrder

inductive Loop where
  | server
  | worker (index : Nat)
deriving DecidableEq

-- The mutexes of the server. Workers, connections and Topic objects are
-- numbered.
inductive Lock where
  | connectionWorkersLock
  | connectionListMutex (worker : Nat)
  | jobQueueLock (loop : Loop)
  | timerQueueLock (loop : Loop)
  | nextTimerFireTimeLock (loop : Loop)
  | subscriptionListLock (connection : Nat)
  | topicListLock (worker : Nat)
  | subscriberLock (topic : Nat)
  | writeLock (connection : Nat)
  | publishMtx
deriving DecidableEq

abbrev Locking := List (Act Lock)

-- What each function locks while it runs; the arguments say which way it goes.

def connectionWrite (connection : Nat) : Locking := holding (.writeLock connection) []

def addSubscriber (topic : Nat) : Locking := holding (.subscriberLock topic) []

def deleteSubscriberByIterator (topic : Nat) : Locking := holding (.subscriberLock topic) []

def getSubscriberCount (topic : Nat) : Locking := holding (.subscriberLock topic) []

def subscribeConnection (worker topic : Nat) : Locking := holding (.topicListLock worker) (addSubscriber topic)

def deleteTopic (worker : Nat) : Locking := holding (.topicListLock worker) []

def subscribe (worker connection topic : Nat) (known : Bool) : Locking :=
  holding (.subscriptionListLock connection) (if known then [] else subscribeConnection worker topic)

-- last: the topic has no more subscribers.
structure Subscribed where
  topic : Nat
  last : Bool

def leaveTopic (worker : Nat) (subscription : Subscribed) : Locking :=
  deleteSubscriberByIterator subscription.topic ++ getSubscriberCount subscription.topic ++
    (if subscription.last then deleteTopic worker else [])

def unsubscribe (worker connection : Nat) (subscription : Option Subscribed) : Locking :=
  holding (.subscriptionListLock connection) (subscription.elim [] (leaveTopic worker))

def unsubscribeAll (worker connection : Nat) (subscriptions : List Subscribed) : Locking :=
  holding (.subscriptionListLock connection) (subscriptions.flatMap (leaveTopic worker))

def listSubscriptions (connection : Nat) : Locking := holding (.subscriptionListLock connection) []

-- ~Connection, run where the last reference goes.
def destroyConnection (worker connection : Nat) (subscriptions : List Subscribed) : Locking :=
  unsubscribeAll worker connection subscriptions

-- A reference c to a connection, taken with weak_ptr::lock(): what is written
-- while it lives, and the subscriptions if it turns out to be the last one.
structure Reference where
  connection : Nat
  writes : Nat
  destroyed : Option (List Subscribed)

def Reference.writing (reference : Reference) : Locking := (List.replicate reference.writes reference.connection).flatMap connectionWrite

def Reference.use (worker : Nat) (reference : Reference) : Locking :=
  reference.writing ++ reference.destroyed.elim [] (destroyConnection worker reference.connection)

def topicPublish (worker topic : Nat) (subscribers : List Reference) : Locking :=
  holding (.subscriberLock topic) (subscribers.flatMap (Reference.use worker))

structure MatchedTopic where
  topic : Nat
  subscribers : List Reference

def topicManagerPublish (worker : Nat) (matched : List MatchedTopic) : Locking :=
  holding (.topicListLock worker) (matched.flatMap (fun topic => topicPublish worker topic.topic topic.subscribers))

-- The jobs are those that Worker::publish has added.
def processJobs (worker : Nat) (jobs : List (List MatchedTopic)) : Locking :=
  holding (.jobQueueLock (.worker worker)) (jobs.flatMap (topicManagerPublish worker))

def addJob (worker : Nat) : Locking := holding (.jobQueueLock (.worker worker)) []

def nextTimerFireTime (loop : Loop) : Locking := holding (.nextTimerFireTimeLock loop) []

def decreaseNextFiretimeIfLess (loop : Loop) : Locking := holding (.nextTimerFireTimeLock loop) []

def eventLoopAddTimer (loop : Loop) : Locking := holding (.timerQueueLock loop) (decreaseNextFiretimeIfLess loop)

def publishMessage : Locking := holding .publishMtx []

-- handshake_timeout and ping_interval use a connection of the worker; of the
-- server's own timers only the latency sampler locks anything.
inductive Callback where
  | client (worker : Nat) (reference : Reference)
  | latencySampler
  | other

def Callback.locking : Callback → Locking
  | .client worker reference => reference.use worker
  | .latencySampler => publishMessage
  | .other => []

-- repeating is false where the timer is erased.
inductive TimerTask where
  | waiting
  | fired (callback : Callback) (repeating : Bool)

def TimerTask.locking (loop : Loop) : TimerTask → Locking
  | .waiting => decreaseNextFiretimeIfLess loop
  | .fired callback repeating => callback.locking ++ (if repeating then decreaseNextFiretimeIfLess loop else [])

-- none: nothing is due.
def processTimers (loop : Loop) (tasks : Option (List TimerTask)) : Locking :=
  holding (.timerQueueLock loop) (nextTimerFireTime loop ++
    tasks.elim [] (fun tasks => nextTimerFireTime loop ++ tasks.flatMap (TimerTask.locking loop)))

def armTimerFd (worker : Nat) : Locking := nextTimerFireTime (.worker worker)

def workerAddTimer (worker : Nat) : Locking := eventLoopAddTimer (.worker worker) ++ armTimerFd worker

-- Where addToEpoll fails, the connection goes while the list is locked.
def addConnection (worker connection : Nat) (added : Bool) : Locking :=
  holding (.connectionListMutex worker)
    (if added then workerAddTimer worker ++ workerAddTimer worker else destroyConnection worker connection [])

def removeConnection (worker : Nat) : Locking := holding (.connectionListMutex worker) []

def destroyWorker (worker : Nat) (connections : List (Nat × List Subscribed)) : Locking :=
  holding (.connectionListMutex worker) (connections.flatMap (fun connection => destroyConnection worker connection.1 connection.2))

def startWorkers : Locking := holding .connectionWorkersLock []

def getWorker : Locking := holding .connectionWorkersLock []

def getAggregatedMetrics : Locking := holding .connectionWorkersLock []

def serverPublish (workers : List Nat) : Locking := holding .connectionWorkersLock (workers.flatMap addJob)

def getNextTimerDelay (loop : Loop) : Locking := holding (.jobQueueLock loop) [] ++ nextTimerFireTime loop

def hasWork (loop : Loop) (jobs : Bool) : Locking :=
  holding (.jobQueueLock loop) [] ++ (if jobs then [] else holding (.timerQueueLock loop) [])

-- What a thread does with no lock held before and after: a worker in its loop
-- and in the handlers, the thread that consumes from Redis, the cron thread,
-- and the one that starts and stops the server.
inductive Operation where
  | startWorkers
  | destroyWorker (worker : Nat) (connections : List (Nat × List Subscribed))
  | getWorker
  | getAggregatedMetrics
  | serverPublish (workers : List Nat)
  | addConnection (worker connection : Nat) (added : Bool)
  | removeConnection (worker : Nat)
  | destroyConnection (worker connection : Nat) (subscriptions : List Subscribed)
  | subscribe (worker connection topic : Nat) (known : Bool)
  | unsubscribe (worker connection : Nat) (subscription : Option Subscribed)
  | unsubscribeAll (worker connection : Nat) (subscriptions : List Subscribed)
  | listSubscriptions (connection : Nat)
  | connectionWrite (connection : Nat)
  | publishMessage
  | addTimer (loop : Loop)
  | armTimerFd (worker : Nat)
  | processJobs (worker : Nat) (jobs : List (List MatchedTopic))
  | processTimers (loop : Loop) (tasks : Option (List TimerTask))
  | getNextTimerDelay (loop : Loop)
  | hasWork (loop : Loop) (jobs : Bool)

def Operation.locking : Operation → Locking
  | .startWorkers => Locks.startWorkers
  | .destroyWorker worker connections => Locks.destroyWorker worker connections
  | .getWorker => Locks.getWorker
  | .getAggregatedMetrics => Locks.getAggregatedMetrics
  | .serverPublish workers => Locks.serverPublish workers
  | .addConnection worker connection added => Locks.addConnection worker connection added
  | .removeConnection worker => Locks.removeConnection worker
  | .destroyConnection worker connection subscriptions => Locks.destroyConnection worker connection subscriptions
  | .subscribe worker connection topic known => Locks.subscribe worker connection topic known
  | .unsubscribe worker connection subscription => Locks.unsubscribe worker connection subscription
  | .unsubscribeAll worker connection subscriptions => Locks.unsubscribeAll worker connection subscriptions
  | .listSubscriptions connection => Locks.listSubscriptions connection
  | .connectionWrite connection => Locks.connectionWrite connection
  | .publishMessage => Locks.publishMessage
  | .addTimer loop => eventLoopAddTimer loop
  | .armTimerFd worker => Locks.armTimerFd worker
  | .processJobs worker jobs => Locks.processJobs worker jobs
  | .processTimers loop tasks => Locks.processTimers loop tasks
  | .getNextTimerDelay loop => Locks.getNextTimerDelay loop
  | .hasWork loop jobs => Locks.hasWork loop jobs

abbrev Threads := List (Thread Lock)

inductive Event where
  | start (index : Nat) (operation : Operation)
  | advance (index : Nat)

def step (threads : Threads) : Event → Option Threads
  | .start index operation => do
      let thread ← threads[index]?
      if thread.todo.isEmpty then some (threads.set index { thread with todo := operation.locking }) else none
  | .advance index => advance threads index

def Steps (before : Threads) (event : Event) (after : Threads) : Prop := step before event = some after

def idle (count : Nat) : Threads := List.replicate count ⟨[], []⟩

-- Each section is entered only inside of sections before it in this order.
def rank : Lock → Nat
  | .connectionWorkersLock => 0
  | .connectionListMutex _ => 1
  | .jobQueueLock _ => 2
  | .timerQueueLock _ => 3
  | .nextTimerFireTimeLock _ => 4
  | .subscriptionListLock _ => 5
  | .topicListLock _ => 6
  | .subscriberLock _ => 7
  | .writeLock _ => 8
  | .publishMtx => 9

def MatchedTopic.destroys (topic : MatchedTopic) : Bool := topic.subscribers.any (fun reference => reference.destroyed.isSome)

def Operation.destroysInPublish : Operation → Bool
  | .processJobs _ jobs => jobs.any (fun matched => matched.any MatchedTopic.destroys)
  | _ => false

def Event.destroysInPublish : Event → Bool
  | .start _ operation => operation.destroysInPublish
  | .advance _ => false

theorem leaf_nested {bound : Nat} {lock : Lock} (above : bound ≤ rank lock) : Nested rank bound (holding lock []) :=
  nested_section above (.nil _)

theorem leave_topic_nested (worker : Nat) (subscription : Subscribed) : Nested rank 6 (leaveTopic worker subscription) := by
  refine nested_append (nested_append (leaf_nested (by simp [rank])) (leaf_nested (by simp [rank]))) ?_
  split
  · exact leaf_nested (by simp [rank])
  · exact .nil 6

theorem unsubscribe_all_nested (worker connection : Nat) (subscriptions : List Subscribed) :
    Nested rank 5 (unsubscribeAll worker connection subscriptions) :=
  nested_section (Nat.le_refl 5) (nested_all (fun subscription _ => leave_topic_nested worker subscription))

theorem writing_nested (reference : Reference) : Nested rank 8 reference.writing :=
  nested_all (fun _ _ => leaf_nested (Nat.le_refl 8))

theorem use_nested (worker : Nat) (reference : Reference) : Nested rank 5 (reference.use worker) := by
  refine nested_append (nested_lower (by decide) (writing_nested reference)) ?_
  cases reference.destroyed with
  | none => exact .nil 5
  | some subscriptions => exact unsubscribe_all_nested worker reference.connection subscriptions

theorem kept_nested (worker : Nat) (reference : Reference) (kept : reference.destroyed.isSome = false) :
    Nested rank 8 (reference.use worker) := by
  rw [Reference.use, Option.isSome_eq_false_iff.mp kept |> Option.isNone_iff_eq_none.mp]
  exact nested_append (writing_nested reference) (.nil 8)

theorem task_nested (loop : Loop) (task : TimerTask) : Nested rank 4 (task.locking loop) := by
  cases task with
  | waiting => exact leaf_nested (Nat.le_refl 4)
  | fired callback repeating =>
      refine nested_append ?_ ?_
      · cases callback with
        | client worker reference => exact nested_lower (by decide) (use_nested worker reference)
        | latencySampler => exact leaf_nested (by decide)
        | other => exact .nil 4
      · cases repeating with
        | true => exact leaf_nested (Nat.le_refl 4)
        | false => exact .nil 4

theorem process_timers_nested (loop : Loop) (tasks : Option (List TimerTask)) : Nested rank 3 (processTimers loop tasks) := by
  refine nested_section (Nat.le_refl 3) (nested_append (leaf_nested (Nat.le_refl 4)) ?_)
  cases tasks with
  | none => exact .nil 4
  | some tasks =>
      exact nested_append (leaf_nested (Nat.le_refl 4)) (nested_all (fun task _ => task_nested loop task))

theorem worker_add_timer_nested (worker : Nat) : Nested rank 2 (workerAddTimer worker) :=
  nested_append (nested_section (by simp [rank]) (leaf_nested (Nat.le_refl 4))) (leaf_nested (by simp [rank]))

theorem topic_publish_nested (worker : Nat) (topic : MatchedTopic) (kept : topic.destroys = false) :
    Nested rank 7 (topicPublish worker topic.topic topic.subscribers) :=
  nested_section (Nat.le_refl 7) (nested_unless kept (kept_nested worker))

theorem manager_nested (worker : Nat) (matched : List MatchedTopic) (kept : matched.any MatchedTopic.destroys = false) :
    Nested rank 3 (topicManagerPublish worker matched) :=
  nested_section (by simp [rank]) (nested_unless kept (topic_publish_nested worker))

theorem process_jobs_nested (worker : Nat) (jobs : List (List MatchedTopic))
    (kept : (Operation.processJobs worker jobs).destroysInPublish = false) : Nested rank 2 (processJobs worker jobs) :=
  nested_section (Nat.le_refl 2) (nested_unless kept (manager_nested worker))

theorem operation_nested (operation : Operation) (kept : operation.destroysInPublish = false) : Nested rank 0 operation.locking := by
  cases operation with
  | startWorkers => exact leaf_nested (Nat.zero_le _)
  | destroyWorker worker connections =>
      refine nested_section (Nat.zero_le _) (nested_all (fun connection _ => ?_))
      exact nested_lower (by simp [rank]) (unsubscribe_all_nested worker connection.1 connection.2)
  | getWorker => exact leaf_nested (Nat.zero_le _)
  | getAggregatedMetrics => exact leaf_nested (Nat.zero_le _)
  | serverPublish workers =>
      exact nested_section (Nat.zero_le _) (nested_all (fun worker _ => leaf_nested (by simp [rank])))
  | addConnection worker connection added =>
      refine nested_section (Nat.zero_le _) ?_
      cases added with
      | true => exact nested_append (worker_add_timer_nested worker) (worker_add_timer_nested worker)
      | false => exact nested_lower (by simp [rank]) (unsubscribe_all_nested worker connection [])
  | removeConnection worker => exact leaf_nested (Nat.zero_le _)
  | destroyConnection worker connection subscriptions =>
      exact nested_lower (Nat.zero_le _) (unsubscribe_all_nested worker connection subscriptions)
  | subscribe worker connection topic known =>
      refine nested_section (Nat.zero_le _) ?_
      cases known with
      | true => exact .nil _
      | false => exact nested_section (Nat.le_refl 6) (leaf_nested (Nat.le_refl 7))
  | unsubscribe worker connection subscription =>
      refine nested_section (Nat.zero_le _) ?_
      cases subscription with
      | none => exact .nil _
      | some subscription => exact leave_topic_nested worker subscription
  | unsubscribeAll worker connection subscriptions =>
      exact nested_lower (Nat.zero_le _) (unsubscribe_all_nested worker connection subscriptions)
  | listSubscriptions connection => exact leaf_nested (Nat.zero_le _)
  | connectionWrite connection => exact leaf_nested (Nat.zero_le _)
  | publishMessage => exact leaf_nested (Nat.zero_le _)
  | addTimer loop => exact nested_section (Nat.zero_le _) (leaf_nested (Nat.le_refl 4))
  | armTimerFd worker => exact leaf_nested (Nat.zero_le _)
  | processJobs worker jobs => exact nested_lower (Nat.zero_le _) (process_jobs_nested worker jobs kept)
  | processTimers loop tasks => exact nested_lower (Nat.zero_le _) (process_timers_nested loop tasks)
  | getNextTimerDelay loop => exact nested_append (leaf_nested (Nat.zero_le _)) (leaf_nested (Nat.zero_le _))
  | hasWork loop jobs =>
      refine nested_append (leaf_nested (Nat.zero_le _)) ?_
      cases jobs with
      | true => exact .nil 0
      | false => exact leaf_nested (Nat.zero_le _)

theorem run_ordered (count : Nat) (events : List Event) (threads : Threads) (run : Run Steps (idle count) events threads)
    (kept : ∀ event ∈ events, event.destroysInPublish = false) : AllOrdered rank threads := by
  have always := run_invariant Steps
    (fun events threads => (∀ event ∈ events, event.destroysInPublish = false) → AllOrdered rank threads) (idle count) ?_ ?_ events threads run
  · exact always kept
  · intro _ thread inside
    rw [List.eq_of_mem_replicate inside]
    rfl
  · intro events event before after ordered taken kept
    have earlier := ordered (fun event inside => kept event (List.mem_append_left _ inside))
    cases event with
    | advance index => exact all_ordered_step before index after earlier taken
    | start index operation =>
        obtain ⟨thread, present, rest⟩ := Option.bind_eq_some_iff.mp taken
        obtain ⟨empty, outcome⟩ := Option.ite_none_right_eq_some.mp rest
        cases outcome
        intro other inside
        rcases List.mem_or_eq_of_mem_set inside with among | rfl
        · exact earlier other among
        · have finished := earlier thread (List.mem_of_getElem? present)
          rw [List.isEmpty_iff.mp empty] at finished
          have nested := operation_nested operation (kept _ (List.mem_append_right _ List.mem_cons_self))
          rw [← List.append_nil operation.locking]
          exact nested_ordered nested (fun lock held => by rw [finished] at held; cases held) finished

theorem operations_complete (count : Nat) (events : List Event) (threads : Threads) (run : Run Steps (idle count) events threads)
    (kept : ∀ event ∈ events, event.destroysInPublish = false) :
    (∃ later last, Run Advances threads later last ∧ Stuck Advances last) ∧
      ∀ later last, Run Advances threads later last →
        later.length ≤ workLeft threads ∧ (Stuck Advances last → ∀ thread ∈ last, thread.todo = [] ∧ thread.held = []) := by
  have ordered := run_ordered count events threads run kept
  have decreases (before : Threads) (index : Nat) (after : Threads) (_ : AllOrdered rank before) (taken : Advances before index after) :
      workLeft after < workLeft before := work_decreases before index after taken
  refine ⟨run_to_stuck all_ordered_step decreases threads ordered, fun later last run => ?_⟩
  obtain ⟨still, bounded⟩ := run_bounded all_ordered_step decreases ordered run
  exact ⟨by omega, fun stuck => stuck_done stuck still⟩

-- The second thread is in processJobs, the first waits for its queue and the
-- third for its topic list.
def sampleThreads : List Event :=
  [.start 0 (.serverPublish [4]), .advance 0, .start 1 (.processJobs 4 [[⟨7, [⟨3, 1, none⟩]⟩]]), .advance 1, .advance 1,
    .start 2 (.subscribe 4 3 7 false), .advance 2]

theorem sample_threads_complete :
    ∃ threads, perform step (idle 3) sampleThreads = some threads ∧
      advance threads 0 = none ∧ advance threads 2 = none ∧
      (∃ later last, Run Advances threads later last ∧ Stuck Advances last) ∧
      ∀ later last, Run Advances threads later last →
        later.length ≤ workLeft threads ∧ (Stuck Advances last → ∀ thread ∈ last, thread.todo = [] ∧ thread.held = []) := by
  have waiting : (perform step (idle 3) sampleThreads).map (fun threads => ((advance threads 0).isNone, (advance threads 2).isNone)) =
      some (true, true) := by decide
  obtain ⟨threads, done, both⟩ := Option.map_eq_some_iff.mp waiting
  obtain ⟨first, third⟩ := Prod.ext_iff.mp both
  exact ⟨threads, done, Option.isNone_iff_eq_none.mp first, Option.isNone_iff_eq_none.mp third,
    operations_complete 3 sampleThreads threads (perform_run step _ _ _ done) (by decide)⟩

-- The connection is a subscriber of the topic, so the destructor leaves it.
def LeavesTopic (topic : MatchedTopic) : Prop :=
  ∀ reference ∈ topic.subscribers, ∀ subscriptions, reference.destroyed = some subscriptions →
    ∃ subscription ∈ subscriptions, subscription.topic = topic.topic

theorem use_self_locks (worker topic : Nat) (reference : Reference) (subscriptions : List Subscribed) (held : List Lock)
    (inside : Lock.subscriberLock topic ∈ held) (destroyed : reference.destroyed = some subscriptions)
    (own : ∃ subscription ∈ subscriptions, subscription.topic = topic) : SelfLocks held (reference.use worker) := by
  have left : subscriptions.any (fun subscription => subscription.topic == topic) = true := by simpa using own
  rw [Reference.use, destroyed]
  refine self_locks_after (writing_nested reference) (self_locks_section ?_)
  refine self_locks_any left (fun other _ => leave_topic_nested worker other) (fun subscription _ same => .inl ?_)
  rw [eq_of_beq same]
  exact List.mem_cons_of_mem _ inside

theorem publish_self_locks (worker : Nat) (topic : MatchedTopic) (held : List Lock) (leaves : LeavesTopic topic)
    (destroys : topic.destroys = true) : SelfLocks held (topicPublish worker topic.topic topic.subscribers) := by
  refine self_locks_section (self_locks_any destroys (kept_nested worker) (fun reference inside gone => ?_))
  obtain ⟨subscriptions, destroyed⟩ := Option.isSome_iff_exists.mp gone
  exact use_self_locks worker topic.topic reference subscriptions _ List.mem_cons_self destroyed
    (leaves reference inside subscriptions destroyed)

theorem manager_self_locks (worker : Nat) (matched : List MatchedTopic) (held : List Lock) (leaves : ∀ topic ∈ matched, LeavesTopic topic)
    (destroys : matched.any MatchedTopic.destroys = true) : SelfLocks held (topicManagerPublish worker matched) :=
  self_locks_section (self_locks_any destroys (topic_publish_nested worker)
    (fun topic inside gone => publish_self_locks worker topic _ (leaves topic inside) gone))

theorem jobs_self_lock (worker : Nat) (jobs : List (List MatchedTopic)) (held : List Lock)
    (leaves : ∀ matched ∈ jobs, ∀ topic ∈ matched, LeavesTopic topic)
    (destroys : (Operation.processJobs worker jobs).destroysInPublish = true) : SelfLocks held (processJobs worker jobs) :=
  self_locks_section (self_locks_any destroys (manager_nested worker)
    (fun matched inside gone => manager_self_locks worker matched _ (leaves matched inside) gone))

theorem destructor_in_publish_stalls (before middle last : Threads) (events : List Event) (place worker : Nat)
    (jobs : List (List MatchedTopic)) (started : Steps before (.start place (.processJobs worker jobs)) middle)
    (leaves : ∀ matched ∈ jobs, ∀ topic ∈ matched, LeavesTopic topic)
    (destroys : (Operation.processJobs worker jobs).destroysInPublish = true) (run : Run Steps middle events last) :
    ∃ thread, last[place]? = some thread ∧ thread.todo ≠ [] := by
  have locked : ∃ thread, last[place]? = some thread ∧ SelfLocks thread.held thread.todo := by
    refine run_invariant Steps (fun _ threads => ∃ thread, threads[place]? = some thread ∧ SelfLocks thread.held thread.todo) middle ?_ ?_
      events last run
    · obtain ⟨thread, present, rest⟩ := Option.bind_eq_some_iff.mp started
      obtain ⟨_, outcome⟩ := Option.ite_none_right_eq_some.mp rest
      cases outcome
      exact ⟨_, List.getElem?_set_self (List.getElem?_eq_some_iff.mp present).1, jobs_self_lock worker jobs thread.held leaves destroys⟩
    · rintro _ event threads next ⟨thread, present, locks⟩ taken
      cases event with
      | advance index => exact self_locks_step threads next index place thread present locks taken
      | start index operation =>
          obtain ⟨other, found, rest⟩ := Option.bind_eq_some_iff.mp taken
          obtain ⟨empty, outcome⟩ := Option.ite_none_right_eq_some.mp rest
          cases outcome
          by_cases same : index = place
          · rw [same] at found
            cases found.symm.trans present
            rw [List.isEmpty_iff.mp empty] at locks
            exact locks.elim
          · exact ⟨thread, (List.getElem?_set_ne same).trans present, locks⟩
  obtain ⟨thread, present, locks⟩ := locked
  refine ⟨thread, present, fun finished => ?_⟩
  rw [finished] at locks
  exact locks

def sampleDestruction : List (List MatchedTopic) := [[⟨7, [⟨3, 1, some [⟨7, true⟩]⟩]⟩]]

theorem sample_destruction_stalls :
    ∃ middle, Steps (idle 2) (.start 0 (.processJobs 4 sampleDestruction)) middle ∧
      ∀ events last, Run Steps middle events last → ∃ thread, last[0]? = some thread ∧ thread.todo ≠ [] := by
  refine ⟨_, rfl, fun events last run => ?_⟩
  refine destructor_in_publish_stalls (idle 2) _ last events 0 4 sampleDestruction rfl ?_ (by decide) run
  intro matched inside topic among reference subscriber subscriptions destroyed
  cases List.mem_singleton.mp inside
  cases List.mem_singleton.mp among
  cases List.mem_singleton.mp subscriber
  cases destroyed
  exact ⟨⟨7, true⟩, List.mem_cons_self, rfl⟩

end Eventhub.Locks
