import Eventhub.Hub.Publish

set_option autoImplicit false

namespace Eventhub.Hub

-- running counts the callbacks that processJobs has run; while it is set the
-- queue is locked. sent is what publishing has sent. processed is ghost state:
-- each job with the registry in which it was published.
structure Worker where
  registry : Registry
  jobQueue : List Job
  running : Option Nat
  sent : List Sent
  processed : List (Job × Registry)

def Worker.start : Worker := ⟨Registry.empty, [], none, [], []⟩

inductive WorkerEvent where
  | lockJobs
  | runJob (order : List Bytes)
  | clearJobs
  | operate (op : Op)

def Worker.addJob (worker : Worker) (job : Job) : Option Worker :=
  match worker.running with
  | some _ => none
  | none => some { worker with jobQueue := worker.jobQueue ++ [job] }

def Worker.step (worker : Worker) : WorkerEvent → Option Worker
  | .lockJobs =>
      match worker.running with
      | some _ => none
      | none => some (if worker.jobQueue = [] then worker else { worker with running := some 0 })
  | .runJob order => do
      let count ← worker.running
      let job ← worker.jobQueue[count]?
      if order.Perm worker.registry.topicList.keys then
        some { worker with
          running := some (count + 1)
          sent := worker.sent ++ worker.registry.publish order job
          processed := worker.processed ++ [(job, worker.registry)] }
      else none
  | .clearJobs =>
      if worker.running = some worker.jobQueue.length then some { worker with jobQueue := [], running := none } else none
  | .operate op => (worker.registry.next op).map (fun registry => { worker with registry := registry })

-- publishing is the message that Server::publish is handing out, with the
-- number of workers that have it. received is ghost state: all messages that
-- Redis has delivered.
structure Server where
  workers : List Worker
  received : List Job
  publishing : Option (Job × Nat)

def Server.start (count : Nat) : Server := ⟨List.replicate count Worker.start, [], none⟩

inductive ServerEvent where
  | receive (job : Job)
  | handOut
  | work (index : Nat) (event : WorkerEvent)

def Server.step (server : Server) : ServerEvent → Option Server
  | .receive job =>
      match server.publishing with
      | some _ => none
      | none => some { server with received := server.received ++ [job], publishing := some (job, 0) }
  | .handOut =>
      match server.publishing with
      | none => none
      | some (job, next) =>
          match server.workers[next]? with
          | none => some { server with publishing := none }
          | some worker => (worker.addJob job).map (fun queued =>
              { server with workers := server.workers.set next queued, publishing := some (job, next + 1) })
  | .work index event => do
      let worker ← server.workers[index]?
      let moved ← worker.step event
      return { server with workers := server.workers.set index moved }

def Server.Steps (before : Server) (event : ServerEvent) (after : Server) : Prop := before.step event = some after

def Worker.pending (worker : Worker) : List Job := worker.jobQueue.drop (worker.running.getD 0)

def Worker.handed (worker : Worker) : List Job := worker.processed.map Prod.fst ++ worker.pending

-- The messages sent to one connection: for each processed job, in this order,
-- what the connection was due at that moment.
inductive Delivered (connection : Nat) : List (Job × Registry) → List Output → Prop where
  | nil : Delivered connection [] []
  | snoc (processed : List (Job × Registry)) (outputs block : List Output) (job : Job) (registry : Registry)
      (before : Delivered connection processed outputs) (due : block.Perm (registry.due connection job)) :
      Delivered connection (processed ++ [(job, registry)]) (outputs ++ block)

inductive WorkerMove (before : Worker) : WorkerEvent → Worker → Prop where
  | quiet (event : WorkerEvent) (after : Worker) (registry : after.registry = before.registry) (handed : after.handed = before.handed)
      (sent : after.sent = before.sent) (processed : after.processed = before.processed) : WorkerMove before event after
  | operated (op : Op) (registry : Registry) (step : before.registry.Steps op registry) :
      WorkerMove before (.operate op) { before with registry := registry }
  | published (job : Job) (order : List Bytes) (after : Worker) (whole : order.Perm before.registry.topicList.keys)
      (registry : after.registry = before.registry) (handed : after.handed = before.handed) (inside : job ∈ before.handed)
      (sent : after.sent = before.sent ++ before.registry.publish order job)
      (processed : after.processed = before.processed ++ [(job, before.registry)]) : WorkerMove before (.runJob order) after

theorem worker_moves (before after : Worker) (event : WorkerEvent) (taken : before.step event = some after) :
    WorkerMove before event after := by
  cases event with
  | lockJobs =>
      cases running : before.running with
      | some count => simp [Worker.step, running] at taken
      | none =>
          simp only [Worker.step, running, Option.some.injEq] at taken
          split at taken
          · cases taken
            exact .quiet _ _ rfl rfl rfl rfl
          · cases taken
            exact .quiet _ _ rfl (by simp [Worker.handed, Worker.pending, running]) rfl rfl
  | runJob order =>
      obtain ⟨count, running, rest⟩ := Option.bind_eq_some_iff.mp taken
      obtain ⟨job, found, outcome⟩ := Option.bind_eq_some_iff.mp rest
      by_cases whole : order.Perm before.registry.topicList.keys
      · rw [if_pos whole, Option.some.injEq] at outcome
        have pending : before.pending = job :: before.jobQueue.drop (count + 1) := by
          rw [Worker.pending, running, Option.getD_some]
          exact List.drop_eq_getElem?_toList_append.trans (by rw [found]; rfl)
        rw [← outcome]
        refine .published job order _ whole rfl ?_ ?_ rfl rfl
        · rw [Worker.handed, Worker.handed, pending]
          simp [Worker.pending]
        · simp [Worker.handed, pending]
      · rw [if_neg whole] at outcome
        cases outcome
  | clearJobs =>
      by_cases done : before.running = some before.jobQueue.length
      · simp only [Worker.step, if_pos done, Option.some.injEq] at taken
        rw [← taken]
        exact .quiet _ _ rfl (by simp [Worker.handed, Worker.pending, done]) rfl rfl
      · simp [Worker.step, done] at taken
  | operate op =>
      obtain ⟨registry, step, rfl⟩ := Option.map_eq_some_iff.mp taken
      exact .operated op registry step

theorem add_job_hands (before after : Worker) (job : Job) (added : before.addJob job = some after) :
    after.handed = before.handed ++ [job] ∧ after.registry = before.registry ∧ after.sent = before.sent ∧
      after.processed = before.processed := by
  cases running : before.running with
  | some count => simp [Worker.addJob, running] at added
  | none =>
      simp only [Worker.addJob, running, Option.some.injEq] at added
      rw [← added]
      exact ⟨by simp [Worker.handed, Worker.pending, running], rfl, rfl, rfl⟩

inductive ServerMove (before : Server) : ServerEvent → Server → Prop where
  | received (job : Job) (idle : before.publishing = none) :
      ServerMove before (.receive job) { before with received := before.received ++ [job], publishing := some (job, 0) }
  | handed (job : Job) (next : Nat) (worker queued : Worker) (busy : before.publishing = some (job, next))
      (target : before.workers[next]? = some worker) (added : worker.addJob job = some queued) :
      ServerMove before .handOut { before with workers := before.workers.set next queued, publishing := some (job, next + 1) }
  | completed (job : Job) (next : Nat) (busy : before.publishing = some (job, next)) (target : before.workers[next]? = none) :
      ServerMove before .handOut { before with publishing := none }
  | worked (index : Nat) (event : WorkerEvent) (worker moved : Worker) (present : before.workers[index]? = some worker)
      (step : worker.step event = some moved) :
      ServerMove before (.work index event) { before with workers := before.workers.set index moved }

theorem server_moves (before after : Server) (event : ServerEvent) (taken : before.Steps event after) :
    ServerMove before event after := by
  cases event with
  | receive job =>
      cases busy : before.publishing with
      | some current => simp [Server.Steps, Server.step, busy] at taken
      | none =>
          simp only [Server.Steps, Server.step, busy, Option.some.injEq] at taken
          cases taken
          exact .received job busy
  | handOut =>
      cases busy : before.publishing with
      | none => simp [Server.Steps, Server.step, busy] at taken
      | some current =>
          obtain ⟨job, next⟩ := current
          cases target : before.workers[next]? with
          | none =>
              simp only [Server.Steps, Server.step, busy, target, Option.some.injEq] at taken
              cases taken
              exact .completed job next busy target
          | some worker =>
              simp only [Server.Steps, Server.step, busy, target] at taken
              obtain ⟨queued, added, rfl⟩ := Option.map_eq_some_iff.mp taken
              exact .handed job next worker queued busy target added
  | work index event =>
      obtain ⟨worker, present, rest⟩ := Option.bind_eq_some_iff.mp taken
      obtain ⟨moved, step, outcome⟩ := Option.bind_eq_some_iff.mp rest
      cases outcome
      exact .worked index event worker moved present step

end Eventhub.Hub
