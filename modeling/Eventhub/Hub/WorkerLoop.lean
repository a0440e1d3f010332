import Eventhub.Hub.Fanout
import Eventhub.Lib.Progress

set_option autoImplicit false

namespace Eventhub.Hub

open Transition Progress

-- A write that would take an eventfd beyond this fails with EAGAIN.
def eventFdMax : Nat := 2 ^ 64 - 2

-- Where _workerMain is. signalled says whether the event of the eventfd is still
-- to come in the batch that epoll_wait has returned.
inductive LoopPhase where
  | waiting
  | handling (signalled : Bool)
  | draining
  | jobs
  | timers
deriving DecidableEq

structure Loop where
  phase : LoopPhase
  eventFd : Nat

inductive LoopTurn where
  | wake (signalled : Bool)
  | drain
  | readEventFd
  | process
  | wait

-- epoll_wait returns without an event of the eventfd when a client, a timer, a
-- listening socket or a signal has woken it.
def Loop.turn (loop : Loop) : LoopTurn → Option Loop
  | .wake signalled =>
      if loop.phase = .waiting ∧ (signalled = true → 0 < loop.eventFd) then some { loop with phase := .handling signalled } else none
  | .drain => if loop.phase = .handling true then some { loop with phase := .draining } else none
  | .readEventFd =>
      if loop.phase = .draining then
        if 0 < loop.eventFd then some { loop with eventFd := 0 } else some { loop with phase := .handling false }
      else none
  | .process => if loop.phase = .handling false then some { loop with phase := .jobs } else none
  | .wait => if loop.phase = .timers then some { loop with phase := .waiting } else none

-- _signalWork
def Loop.signal (loop : Loop) : Loop := if loop.eventFd < eventFdMax then { loop with eventFd := loop.eventFd + 1 } else loop

-- The jobs are run by processJobs only; after it come the timers.
def Loop.work (loop : Loop) (worker : Worker) : WorkerEvent → Option Loop
  | .operate _ => some loop
  | _ =>
      if loop.phase = .jobs then some (if worker.running.isNone then { loop with phase := .timers } else loop) else none

-- signalling is the worker whose Worker::publish has added the job and has not
-- written to the eventfd yet.
structure LoopServer where
  server : Server
  loops : Nat → Loop
  signalling : Option Nat

def LoopServer.start (count : Nat) : LoopServer := ⟨Server.start count, fun _ => ⟨.waiting, 0⟩, none⟩

inductive LoopEvent where
  | receive (job : Job)
  | handOut
  | signalWork
  | turn (index : Nat) (turn : LoopTurn)
  | work (index : Nat) (event : WorkerEvent)

def LoopServer.step (system : LoopServer) : LoopEvent → Option LoopServer
  | .receive job => (system.server.step (.receive job)).map (fun server => { system with server := server })
  | .handOut =>
      match system.signalling with
      | some _ => none
      | none => (system.server.step .handOut).map (fun server =>
          { system with server := server, signalling := server.publishing.map (fun publishing => publishing.2 - 1) })
  | .signalWork => system.signalling.map (fun index =>
      { system with loops := Function.update system.loops index (system.loops index).signal, signalling := none })
  | .turn index turn => do
      let _ ← system.server.workers[index]?
      let loop ← (system.loops index).turn turn
      some { system with loops := Function.update system.loops index loop }
  | .work index event => do
      let worker ← system.server.workers[index]?
      let moved ← worker.step event
      let loop ← (system.loops index).work moved event
      some
        { system with
          server := { system.server with workers := system.server.workers.set index moved }
          loops := Function.update system.loops index loop }

def LoopServer.Steps (before : LoopServer) (event : LoopEvent) (after : LoopServer) : Prop := before.step event = some after

inductive LoopMove (before : LoopServer) : LoopEvent → LoopServer → Prop where
  | received (job : Job) (server : Server) (step : before.server.Steps (.receive job) server) :
      LoopMove before (.receive job) { before with server := server }
  | handed (job : Job) (next : Nat) (worker queued : Worker) (free : before.signalling = none)
      (busy : before.server.publishing = some (job, next)) (target : before.server.workers[next]? = some worker)
      (added : worker.addJob job = some queued) :
      LoopMove before .handOut
        { before with
          server := { before.server with workers := before.server.workers.set next queued, publishing := some (job, next + 1) }
          signalling := some next }
  | completed (job : Job) (next : Nat) (free : before.signalling = none) (busy : before.server.publishing = some (job, next))
      (target : before.server.workers[next]? = none) :
      LoopMove before .handOut { before with server := { before.server with publishing := none }, signalling := none }
  | signalled (index : Nat) (added : before.signalling = some index) :
      LoopMove before .signalWork
        { before with loops := Function.update before.loops index (before.loops index).signal, signalling := none }
  | turned (index : Nat) (turn : LoopTurn) (worker : Worker) (loop : Loop) (present : before.server.workers[index]? = some worker)
      (taken : (before.loops index).turn turn = some loop) :
      LoopMove before (.turn index turn) { before with loops := Function.update before.loops index loop }
  | worked (index : Nat) (event : WorkerEvent) (worker moved : Worker) (loop : Loop) (present : before.server.workers[index]? = some worker)
      (step : worker.step event = some moved) (taken : (before.loops index).work moved event = some loop) :
      LoopMove before (.work index event)
        { before with
          server := { before.server with workers := before.server.workers.set index moved }
          loops := Function.update before.loops index loop }

theorem loop_moves (before after : LoopServer) (event : LoopEvent) (taken : before.Steps event after) : LoopMove before event after := by
  cases event with
  | receive job =>
      obtain ⟨server, step, rfl⟩ := Option.map_eq_some_iff.mp taken
      exact .received job server step
  | handOut =>
      cases free : before.signalling with
      | some index => simp [LoopServer.Steps, LoopServer.step, free] at taken
      | none =>
          simp only [LoopServer.Steps, LoopServer.step, free] at taken
          obtain ⟨server, step, rfl⟩ := Option.map_eq_some_iff.mp taken
          cases server_moves before.server server .handOut step with
          | handed job next worker queued busy target added => exact .handed job next worker queued free busy target added
          | completed job next busy target => exact .completed job next free busy target
  | signalWork =>
      obtain ⟨index, added, rfl⟩ := Option.map_eq_some_iff.mp taken
      exact .signalled index added
  | turn index turn =>
      obtain ⟨worker, present, rest⟩ := Option.bind_eq_some_iff.mp taken
      obtain ⟨loop, turned, outcome⟩ := Option.bind_eq_some_iff.mp rest
      cases outcome
      exact .turned index turn worker loop present turned
  | work index event =>
      obtain ⟨worker, present, rest⟩ := Option.bind_eq_some_iff.mp taken
      obtain ⟨moved, step, rest⟩ := Option.bind_eq_some_iff.mp rest
      obtain ⟨loop, worked, outcome⟩ := Option.bind_eq_some_iff.mp rest
      cases outcome
      exact .worked index event worker moved loop present step worked

theorem loop_follows (before : LoopServer) (event : LoopEvent) (after : LoopServer) (taken : before.Steps event after) :
    after.server = before.server ∨ ∃ move, before.server.Steps move after.server := by
  cases loop_moves before after event taken with
  | received job server step => exact .inr ⟨.receive job, step⟩
  | handed job next worker queued free busy target added =>
      exact .inr ⟨.handOut, by simp [Server.Steps, Server.step, busy, target, added]⟩
  | completed job next free busy target => exact .inr ⟨.handOut, by simp [Server.Steps, Server.step, busy, target]⟩
  | signalled index added => exact .inl rfl
  | turned index turn worker loop present taken => exact .inl rfl
  | worked index event worker moved loop present step taken =>
      exact .inr ⟨.work index event, by simp [Server.Steps, Server.step, present, step]⟩

-- In these phases the loop is yet to look at the job queue.
def LoopPhase.attends : LoopPhase → Bool
  | .handling _ => true
  | .draining => true
  | .jobs => true
  | .waiting => false
  | .timers => false

structure Watched (loop : Loop) (signalling : Prop) (worker : Worker) : Prop where
  noticed : worker.jobQueue ≠ [] → loop.phase.attends = true ∨ 0 < loop.eventFd ∨ signalling
  locked : ∀ count, worker.running = some count → loop.phase = .jobs ∧ count ≤ worker.jobQueue.length

inductive TurnMove (before : Loop) : LoopTurn → Loop → Prop where
  | woken (signalled : Bool) (there : before.phase = .waiting) (ready : signalled = true → 0 < before.eventFd) :
      TurnMove before (.wake signalled) { before with phase := .handling signalled }
  | reached (there : before.phase = .handling true) : TurnMove before .drain { before with phase := .draining }
  | read (there : before.phase = .draining) (ready : 0 < before.eventFd) : TurnMove before .readEventFd { before with eventFd := 0 }
  | drained (there : before.phase = .draining) (empty : before.eventFd = 0) :
      TurnMove before .readEventFd { before with phase := .handling false }
  | processing (there : before.phase = .handling false) : TurnMove before .process { before with phase := .jobs }
  | waits (there : before.phase = .timers) : TurnMove before .wait { before with phase := .waiting }

section

variable {before after : Loop} {turn : LoopTurn}

theorem turn_moves (taken : before.turn turn = some after) : TurnMove before turn after := by
  cases turn with
  | wake signalled =>
      obtain ⟨⟨there, ready⟩, rfl⟩ := Option.ite_none_right_eq_some.mp taken |>.imp id Option.some.inj
      exact .woken signalled there ready
  | drain =>
      obtain ⟨there, rfl⟩ := Option.ite_none_right_eq_some.mp taken |>.imp id Option.some.inj
      exact .reached there
  | readEventFd =>
      obtain ⟨there, outcome⟩ := Option.ite_none_right_eq_some.mp taken
      split at outcome
      · rename_i ready
        cases outcome
        exact .read there ready
      · rename_i empty
        cases outcome
        exact .drained there (Nat.eq_zero_of_not_pos empty)
  | process =>
      obtain ⟨there, rfl⟩ := Option.ite_none_right_eq_some.mp taken |>.imp id Option.some.inj
      exact .processing there
  | wait =>
      obtain ⟨there, rfl⟩ := Option.ite_none_right_eq_some.mp taken |>.imp id Option.some.inj
      exact .waits there

-- The event of the eventfd is drained before the jobs are looked at, so that a
-- signal it swallows belongs to a job that is still found.
theorem turn_watched {signalling : Prop} {worker : Worker} (watched : Watched before signalling worker)
    (move : TurnMove before turn after) : Watched after signalling worker := by
  have unlocked (elsewhere : before.phase ≠ .jobs) (phase : LoopPhase) (count : Nat) (running : worker.running = some count) :
      phase = .jobs ∧ count ≤ worker.jobQueue.length := absurd (watched.locked count running).1 elsewhere
  cases move with
  | woken signalled there ready => exact ⟨fun _ => .inl rfl, unlocked (by rw [there]; decide) _⟩
  | reached there => exact ⟨fun _ => .inl rfl, unlocked (by rw [there]; decide) _⟩
  | read there ready => exact ⟨fun _ => .inl (by rw [there]; rfl), unlocked (by rw [there]; decide) _⟩
  | drained there empty => exact ⟨fun _ => .inl rfl, unlocked (by rw [there]; decide) _⟩
  | processing there => exact ⟨fun _ => .inl rfl, unlocked (by rw [there]; decide) _⟩
  | waits there =>
      refine ⟨fun waiting => .inr ?_, unlocked (by rw [there]; decide) _⟩
      rcases watched.noticed waiting with attends | noticed
      · rw [there] at attends
        cases attends
      · exact noticed

end

theorem signal_phase (loop : Loop) : loop.signal.phase = loop.phase := by
  unfold Loop.signal
  split <;> rfl

-- Also where the counter is full and the write fails: it is not zero then.
theorem signal_raises (loop : Loop) : 0 < loop.signal.eventFd := by
  unfold Loop.signal
  split
  · exact Nat.succ_pos _
  · rename_i full
    exact Nat.lt_of_lt_of_le (by decide) (Nat.le_of_not_lt full)

inductive JobMove (worker : Worker) (loop : Loop) : WorkerEvent → Worker → Loop → Prop where
  | passed (there : loop.phase = .jobs) (idle : worker.running = none) (empty : worker.jobQueue = []) :
      JobMove worker loop .lockJobs worker { loop with phase := .timers }
  | locked (there : loop.phase = .jobs) (idle : worker.running = none) :
      JobMove worker loop .lockJobs { worker with running := some 0 } loop
  | ran (order : List Bytes) (count : Nat) (job : Job) (after : Worker) (there : loop.phase = .jobs) (busy : worker.running = some count)
      (found : worker.jobQueue[count]? = some job) (queue : after.jobQueue = worker.jobQueue) (running : after.running = some (count + 1)) :
      JobMove worker loop (.runJob order) after loop
  | cleared (there : loop.phase = .jobs) (busy : worker.running = some worker.jobQueue.length) :
      JobMove worker loop .clearJobs { worker with jobQueue := [], running := none } { loop with phase := .timers }
  | operated (op : Op) (registry : Registry) : JobMove worker loop (.operate op) { worker with registry := registry } loop

section

variable {worker moved : Worker} {loop later : Loop} {event : WorkerEvent}

theorem job_moves (step : worker.step event = some moved) (taken : loop.work moved event = some later) :
    JobMove worker loop event moved later := by
  cases event with
  | operate op =>
      obtain ⟨registry, _, rfl⟩ := Option.map_eq_some_iff.mp step
      cases taken
      exact .operated op registry
  | lockJobs =>
      obtain ⟨there, outcome⟩ := Option.ite_none_right_eq_some.mp taken
      cases idle : worker.running with
      | some count => simp [Worker.step, idle] at step
      | none =>
          by_cases empty : worker.jobQueue = []
          · simp only [Worker.step, idle, if_pos empty, Option.some.injEq] at step
            cases step
            rw [idle] at outcome
            cases outcome
            exact .passed there idle empty
          · simp only [Worker.step, idle, if_neg empty, Option.some.injEq] at step
            cases step
            cases outcome
            exact .locked there idle
  | runJob order =>
      obtain ⟨there, outcome⟩ := Option.ite_none_right_eq_some.mp taken
      obtain ⟨count, busy, rest⟩ := Option.bind_eq_some_iff.mp step
      obtain ⟨job, found, rest⟩ := Option.bind_eq_some_iff.mp rest
      obtain ⟨_, ran⟩ := Option.ite_none_right_eq_some.mp rest
      cases ran
      cases outcome
      exact .ran order count job _ there busy found rfl rfl
  | clearJobs =>
      obtain ⟨there, outcome⟩ := Option.ite_none_right_eq_some.mp taken
      obtain ⟨busy, done⟩ := Option.ite_none_right_eq_some.mp step
      cases done
      cases outcome
      exact .cleared there busy

theorem job_watched {signalling : Prop} (watched : Watched loop signalling worker) (move : JobMove worker loop event moved later) :
    Watched later signalling moved := by
  cases move with
  | passed there idle empty => exact ⟨fun waiting => absurd empty waiting, fun count running => by rw [idle] at running; cases running⟩
  | locked there idle => exact ⟨watched.noticed, fun count running => ⟨there, by cases running; exact Nat.zero_le _⟩⟩
  | ran order count job _ there busy found queue running =>
      have inside := (List.getElem?_eq_some_iff.mp found).1
      refine ⟨queue ▸ watched.noticed, fun other same => ⟨there, ?_⟩⟩
      rw [running] at same
      cases same
      rw [queue]
      exact inside
  | cleared there busy => exact ⟨fun waiting => absurd rfl waiting, fun count running => by cases running⟩
  | operated op registry => exact ⟨watched.noticed, watched.locked⟩

theorem add_watched {queued : Worker} {job : Job} {signalling : Prop} (now : signalling)
    (added : worker.addJob job = some queued) : Watched loop signalling queued := by
  refine ⟨fun _ => .inr (.inr now), fun count running => ?_⟩
  cases idle : worker.running with
  | some busy => simp [Worker.addJob, idle] at added
  | none =>
      simp only [Worker.addJob, idle, Option.some.injEq] at added
      rw [← added] at running
      cases running

end

-- No wake-up is lost: a worker whose queue is not empty is awake, has its
-- eventfd raised or is about to be signalled.
structure Attended (system : LoopServer) : Prop where
  watched : ∀ index worker, system.server.workers[index]? = some worker →
    Watched (system.loops index) (system.signalling = some index) worker
  present : ∀ index, system.signalling = some index → index < system.server.workers.length

theorem received_workers (before after : Server) (job : Job) (step : before.Steps (.receive job) after) :
    after.workers = before.workers ∧ before.publishing = none := by
  cases server_moves before after _ step with
  | received job idle => exact ⟨rfl, idle⟩

theorem attended_step (before : LoopServer) (event : LoopEvent) (after : LoopServer) (attended : Attended before)
    (taken : before.Steps event after) : Attended after := by
  cases loop_moves before after event taken with
  | received job server step =>
      have same := (received_workers before.server server job step).1
      exact ⟨fun index worker found => attended.watched index worker (same ▸ found), fun index now => same ▸ attended.present index now⟩
  | handed job next worker queued free busy target added =>
      refine ⟨fun index other found => ?_, fun index now => ?_⟩
      · rcases set_lookup _ _ _ _ _ found with ⟨rfl, rfl⟩ | ⟨different, kept⟩
        · exact add_watched rfl added
        · have watched := attended.watched index other kept
          rw [free] at watched
          exact ⟨fun waiting => (watched.noticed waiting).imp_right (Or.imp_right (fun never => nomatch never)), watched.locked⟩
      · cases now
        rw [List.length_set]
        exact (List.getElem?_eq_some_iff.mp target).1
  | completed job next free busy target =>
      rw [← free]
      exact ⟨attended.watched, attended.present⟩
  | signalled place added =>
      refine ⟨fun index worker found => ?_, fun index now => by cases now⟩
      have watched := attended.watched index worker found
      dsimp only
      by_cases same : index = place
      · rw [same, Function.update_self]
        refine ⟨fun _ => .inr (.inl (signal_raises _)), ?_⟩
        rw [signal_phase, ← same]
        exact watched.locked
      · rw [Function.update_of_ne same]
        refine ⟨fun waiting => (watched.noticed waiting).imp_right (Or.imp_right (fun mine => ?_)), watched.locked⟩
        rw [added] at mine
        cases mine
        exact absurd rfl same
  | turned place turn worker loop found moved =>
      refine ⟨fun index other present => ?_, attended.present⟩
      dsimp only at present ⊢
      by_cases same : index = place
      · rw [same, Function.update_self]
        rw [same] at present
        exact turn_watched (attended.watched place other present) (turn_moves moved)
      · rw [Function.update_of_ne same]
        exact attended.watched index other present
  | worked place own worker moved loop found step working =>
      refine ⟨fun index other present => ?_, fun index now => by rw [List.length_set]; exact attended.present index now⟩
      dsimp only
      rcases set_lookup _ _ _ _ _ present with ⟨rfl, rfl⟩ | ⟨different, kept⟩
      · rw [Function.update_self]
        exact job_watched (attended.watched index worker found) (job_moves step working)
      · rw [Function.update_of_ne different]
        exact attended.watched index other kept

theorem start_attended (count : Nat) : Attended (LoopServer.start count) := by
  refine ⟨fun index worker found => ?_, fun index now => by cases now⟩
  rw [List.eq_of_mem_replicate (List.mem_of_getElem? found)]
  exact ⟨fun waiting => absurd rfl waiting, fun count running => by cases running⟩

-- The steps that the server takes by itself: not those that need a message from
-- Redis, a client, a timer or a signal.
def LoopEvent.ownStep : LoopEvent → Bool
  | .receive _ => false
  | .turn _ (.wake signalled) => signalled
  | .work _ (.operate _) => false
  | _ => true

def LoopServer.Advances (before : LoopServer) (event : LoopEvent) (after : LoopServer) : Prop :=
  event.ownStep = true ∧ before.Steps event after

-- How many steps the loop can still take until it waits; locked says whether
-- processJobs holds the queue. A raised eventfd costs one more round.
def Loop.rank (loop : Loop) (locked : Bool) : Nat :=
  let round := if 0 < loop.eventFd then 10 else 0
  match loop.phase with
  | .waiting => round
  | .handling true => 9
  | .draining => if 0 < loop.eventFd then 8 else 7
  | .handling false => 6 + round
  | .jobs => (if locked then 4 else 5) + round
  | .timers => 1 + round

def workerRank (loop : Loop) (worker : Worker) : Nat := loop.rank worker.running.isSome + worker.pending.length

def LoopServer.rankAt (system : LoopServer) (index : Nat) : Nat :=
  match system.server.workers[index]? with
  | none => 0
  | some worker => workerRank (system.loops index) worker

def LoopServer.publishRank (system : LoopServer) : Nat :=
  match system.server.publishing with
  | none => 0
  | some (_, next) => 13 * (system.server.workers.length - next) + 1

def LoopServer.rank (system : LoopServer) : Nat :=
  system.publishRank + (if system.signalling.isSome then 11 else 0) + ∑ index ∈ Finset.range system.server.workers.length, system.rankAt index

theorem turn_descends {before after : Loop} {turn : LoopTurn} (worker : Worker) (own : turn ≠ .wake false)
    (move : TurnMove before turn after) : workerRank after worker < workerRank before worker := by
  unfold workerRank
  apply Nat.add_lt_add_right
  cases move with
  | woken signalled there ready =>
      cases signalled with
      | false => exact absurd rfl own
      | true => simp [Loop.rank, there, ready rfl]
  | reached there =>
      simp only [Loop.rank, there]
      split <;> omega
  | read there ready => simp [Loop.rank, there, ready]
  | drained there empty => simp [Loop.rank, there, empty]
  | processing there =>
      simp only [Loop.rank, there]
      split <;> omega
  | waits there =>
      simp only [Loop.rank, there]
      omega

theorem signal_rank (loop : Loop) (worker : Worker) : workerRank loop.signal worker ≤ workerRank loop worker + 10 := by
  have raised := signal_raises loop
  have bound : loop.signal.rank worker.running.isSome ≤ loop.rank worker.running.isSome + 10 := by
    simp only [Loop.rank, signal_phase, if_pos raised]
    split <;> omega
  unfold workerRank
  omega

theorem job_descends {worker moved : Worker} {loop later : Loop} {event : WorkerEvent} (own : ∀ op, event ≠ .operate op)
    (move : JobMove worker loop event moved later) : workerRank later moved < workerRank loop worker := by
  cases move with
  | passed there idle empty =>
      simp only [workerRank, Loop.rank, there, idle]
      simp
  | locked there idle =>
      simp only [workerRank, Loop.rank, Worker.pending, there, idle]
      simp
  | ran order count job _ there busy found queue running =>
      have inside := (List.getElem?_eq_some_iff.mp found).1
      simp only [workerRank, Loop.rank, Worker.pending, there, busy, queue, running, List.length_drop, Option.getD_some, Option.isSome_some]
      omega
  | cleared there busy =>
      simp only [workerRank, Loop.rank, Worker.pending, there, busy]
      simp
  | operated op registry => exact absurd rfl (own op)

theorem add_rank (worker queued : Worker) (loop : Loop) (job : Job) (added : worker.addJob job = some queued) :
    workerRank loop queued = workerRank loop worker + 1 := by
  cases idle : worker.running with
  | some busy => simp [Worker.addJob, idle] at added
  | none =>
      simp only [Worker.addJob, idle, Option.some.injEq] at added
      rw [← added]
      simp [workerRank, Worker.pending, idle, Nat.add_assoc]

theorem ranks_change (before after : LoopServer) (index : Nat) (worker moved : Worker)
    (found : before.server.workers[index]? = some worker) (there : after.server.workers[index]? = some moved)
    (count : after.server.workers.length = before.server.workers.length)
    (workers : ∀ other, other ≠ index → after.server.workers[other]? = before.server.workers[other]?)
    (loops : ∀ other, other ≠ index → after.loops other = before.loops other) :
    (∑ place ∈ Finset.range after.server.workers.length, after.rankAt place) + workerRank (before.loops index) worker =
      (∑ place ∈ Finset.range before.server.workers.length, before.rankAt place) + workerRank (after.loops index) moved := by
  have others (other : Nat) (different : other ≠ index) : after.rankAt other = before.rankAt other := by
    rw [LoopServer.rankAt, LoopServer.rankAt, workers other different, loops other different]
  have change := sum_changed _ index before.rankAt after.rankAt (List.getElem?_eq_some_iff.mp found).1 others
  rw [LoopServer.rankAt, found, LoopServer.rankAt, there, ← count] at change
  rw [← count]
  exact change

theorem advance_descends (before : LoopServer) (event : LoopEvent) (after : LoopServer) (attended : Attended before)
    (taken : before.Advances event after) : after.rank < before.rank := by
  obtain ⟨own, step⟩ := taken
  cases loop_moves before after event step with
  | received job server step => cases own
  | handed job next worker queued free busy target added =>
      have inside := (List.getElem?_eq_some_iff.mp target).1
      have change := ranks_change before { before with
          server := { before.server with workers := before.server.workers.set next queued, publishing := some (job, next + 1) }
          signalling := some next } next worker queued target (List.getElem?_set_self inside) List.length_set
        (fun other different => List.getElem?_set_ne (Ne.symm different)) (fun other different => rfl)
      have added := add_rank worker queued (before.loops next) job added
      simp only [LoopServer.rank, LoopServer.publishRank, free, busy, List.length_set, Option.isSome_some, Option.isSome_none] at change ⊢
      simp only [if_true, Bool.false_eq_true, if_false]
      omega
  | completed job next free busy target =>
      have change : ∑ index ∈ Finset.range before.server.workers.length,
          LoopServer.rankAt { before with server := { before.server with publishing := none }, signalling := none } index =
            ∑ index ∈ Finset.range before.server.workers.length, before.rankAt index := rfl
      simp only [LoopServer.rank, LoopServer.publishRank, free, busy, change]
      omega
  | signalled place added =>
      have inside := attended.present place added
      have found := List.getElem?_eq_getElem inside
      have change := ranks_change before
        { before with loops := Function.update before.loops place (before.loops place).signal, signalling := none } place _ _ found found rfl
        (fun other different => rfl) (fun other different => Function.update_of_ne different _ _)
      have bound := signal_rank (before.loops place) before.server.workers[place]
      simp only [Function.update_self] at change
      simp only [LoopServer.rank, LoopServer.publishRank, added, Option.isSome_some, Option.isSome_none] at change ⊢
      simp only [if_true, Bool.false_eq_true, if_false]
      omega
  | turned place turn worker loop found moved =>
      have change := ranks_change before { before with loops := Function.update before.loops place loop } place worker worker found found rfl
        (fun other different => rfl) (fun other different => Function.update_of_ne different _ _)
      have bound := turn_descends worker (fun same => by rw [same] at own; cases own) (turn_moves moved)
      simp only [Function.update_self] at change
      simp only [LoopServer.rank, LoopServer.publishRank] at change ⊢
      omega
  | worked place event worker moved loop found ran working =>
      have inside := (List.getElem?_eq_some_iff.mp found).1
      have change := ranks_change before { before with
          server := { before.server with workers := before.server.workers.set place moved }
          loops := Function.update before.loops place loop } place worker moved found (List.getElem?_set_self inside) List.length_set
        (fun other different => List.getElem?_set_ne (Ne.symm different)) (fun other different => Function.update_of_ne different _ _)
      have bound := job_descends (fun op same => by rw [same] at own; cases own) (job_moves ran working)
      simp only [Function.update_self] at change
      simp only [LoopServer.rank, LoopServer.publishRank, List.length_set] at change ⊢
      omega

theorem jobs_go_on (worker : Worker) (bounded : ∀ count, worker.running = some count → count ≤ worker.jobQueue.length) :
    ∃ event moved, (∀ op, event ≠ WorkerEvent.operate op) ∧ worker.step event = some moved := by
  cases busy : worker.running with
  | none => exact ⟨.lockJobs, _, by simp, by simp only [Worker.step, busy]; rfl⟩
  | some count =>
      rcases Nat.lt_or_eq_of_le (bounded count busy) with more | done
      · exact ⟨.runJob worker.registry.topicList.keys, _, by simp, by
          simp only [Worker.step, busy, List.getElem?_eq_getElem more, Option.bind_eq_bind, Option.bind_some]
          exact if_pos (List.Perm.refl _)⟩
      · exact ⟨.clearJobs, _, by simp, if_pos (done ▸ busy)⟩

theorem work_allowed (loop : Loop) (worker : Worker) (event : WorkerEvent) (there : loop.phase = .jobs) :
    ∃ later, loop.work worker event = some later := by
  cases event with
  | operate op => exact ⟨loop, rfl⟩
  | lockJobs => exact ⟨_, if_pos there⟩
  | runJob order => exact ⟨_, if_pos there⟩
  | clearJobs => exact ⟨_, if_pos there⟩

-- The server has nothing left to do by itself.
structure Quiesced (system : LoopServer) : Prop where
  idle : system.server.publishing = none ∧ system.signalling = none
  asleep : ∀ index < system.server.workers.length, system.loops index = ⟨.waiting, 0⟩
  complete : ∀ worker ∈ system.server.workers, worker.processed.map Prod.fst = system.server.received
  delivered : ∀ worker ∈ system.server.workers, ∀ connection, Delivered connection worker.processed (sentTo connection worker.sent)

section

variable {system : LoopServer} (attended : Attended system) (stuck : Stuck LoopServer.Advances system)

include stuck

theorem stuck_turn (index : Nat) (worker : Worker) (found : system.server.workers[index]? = some worker) (turn : LoopTurn)
    (own : (LoopEvent.turn index turn).ownStep = true) : (system.loops index).turn turn = none := by
  cases taken : (system.loops index).turn turn with
  | none => rfl
  | some loop =>
      exact absurd ⟨own, by simp only [LoopServer.Steps, LoopServer.step, found, taken]; rfl⟩ (stuck (.turn index turn) _)

include attended

theorem stuck_waits (index : Nat) (worker : Worker) (found : system.server.workers[index]? = some worker) :
    (system.loops index).phase = .waiting ∧ (system.loops index).eventFd = 0 ∧ worker.running = none := by
  have turn := stuck_turn stuck index worker found
  have watched := attended.watched index worker found
  cases phase : (system.loops index).phase with
  | waiting =>
      refine ⟨rfl, ?_, ?_⟩
      · have asleep := turn (.wake true) rfl
        simpa [Loop.turn, phase] using asleep
      · cases busy : worker.running with
        | none => rfl
        | some count =>
            have elsewhere := (watched.locked count busy).1
            rw [phase] at elsewhere
            cases elsewhere
  | handling signalled =>
      cases signalled with
      | true => exact absurd (turn .drain rfl) (by simp [Loop.turn, phase])
      | false => exact absurd (turn .process rfl) (by simp [Loop.turn, phase])
  | draining =>
      refine absurd (turn .readEventFd rfl) ?_
      rw [Loop.turn, if_pos phase]
      split <;> simp
  | timers => exact absurd (turn .wait rfl) (by simp [Loop.turn, phase])
  | jobs =>
      obtain ⟨event, moved, own, step⟩ := jobs_go_on worker (fun count busy => (watched.locked count busy).2)
      obtain ⟨later, allowed⟩ := work_allowed (system.loops index) moved event phase
      refine absurd ⟨?_, by simp only [LoopServer.Steps, LoopServer.step, found, step, allowed, Option.bind_eq_bind, Option.bind_some]; rfl⟩
        (stuck (.work index event) _)
      cases event with
      | operate op => exact absurd rfl (own op)
      | _ => rfl

theorem stuck_idle : system.server.publishing = none ∧ system.signalling = none := by
  have quiet : system.signalling = none := by
    cases owed : system.signalling with
    | none => rfl
    | some index => exact absurd ⟨rfl, by simp only [LoopServer.Steps, LoopServer.step, owed]; rfl⟩ (stuck .signalWork _)
  refine ⟨?_, quiet⟩
  cases busy : system.server.publishing with
  | none => rfl
  | some current =>
      obtain ⟨job, next⟩ := current
      cases target : system.server.workers[next]? with
      | none =>
          exact absurd ⟨rfl, by simp only [LoopServer.Steps, LoopServer.step, Server.step, quiet, busy, target]; rfl⟩ (stuck .handOut _)
      | some worker =>
          have unlocked := (stuck_waits attended stuck next worker target).2.2
          exact absurd ⟨rfl, by
            simp only [LoopServer.Steps, LoopServer.step, Server.step, Worker.addJob, quiet, busy, target, unlocked]; rfl⟩ (stuck .handOut _)

theorem stuck_quiesced (flows : Flows system.server) (sound : ∀ worker ∈ system.server.workers, Sound worker)
    (published : ∀ job ∈ system.server.received, job.Published) : Quiesced system := by
  obtain ⟨idle, quiet⟩ := stuck_idle attended stuck
  have handed (worker : Worker) (inside : worker ∈ system.server.workers) : worker.handed = system.server.received ∧ worker.pending = [] := by
    obtain ⟨index, found⟩ := List.mem_iff_getElem?.mp inside
    obtain ⟨waiting, lowered, unlocked⟩ := stuck_waits attended stuck index worker found
    have flow := flows index worker found
    have empty : worker.jobQueue = [] := by
      by_contra owed
      have noticed := (attended.watched index worker found).noticed owed
      simp [waiting, lowered, quiet, LoopPhase.attends] at noticed
    refine ⟨?_, by rw [Worker.pending, empty, List.drop_nil]⟩
    rwa [Server.outstanding, idle, List.append_nil] at flow
  refine ⟨⟨idle, quiet⟩, fun index inside => ?_, fun worker inside => ?_, fun worker inside => ?_⟩
  · obtain ⟨waiting, lowered, _⟩ := stuck_waits attended stuck index _ (List.getElem?_eq_getElem inside)
    cases loop : system.loops index with
    | mk phase eventFd =>
        rw [loop] at waiting lowered
        rw [← waiting, ← lowered]
  · obtain ⟨all, none⟩ := handed worker inside
    rwa [Worker.handed, none, List.append_nil] at all
  · exact (sound worker inside).delivered (fun job member => published job ((handed worker inside).1 ▸ member))

end

theorem advances_received (before : LoopServer) (event : LoopEvent) (after : LoopServer) (taken : before.Advances event after) :
    after.server.received = before.server.received := by
  obtain ⟨own, step⟩ := taken
  cases loop_moves before after event step with
  | received job server step => cases own
  | handed => rfl
  | completed => rfl
  | signalled => rfl
  | turned => rfl
  | worked => rfl

theorem publish_reaches_clients (count : Nat) (events : List LoopEvent) (system : LoopServer)
    (run : Run LoopServer.Steps (LoopServer.start count) events system) (published : ∀ job ∈ system.server.received, job.Published) :
    (∃ later last, Run LoopServer.Advances system later last ∧ Stuck LoopServer.Advances last) ∧
      ∀ later last, Run LoopServer.Advances system later last →
        later.length ≤ system.rank ∧ last.server.received = system.server.received ∧ (Stuck LoopServer.Advances last → Quiesced last) := by
  have attended : Attended system :=
    run_invariant LoopServer.Steps (fun _ system => Attended system) _ (start_attended count)
      (fun _ event before after attended taken => attended_step before event after attended taken) events system run
  have kept (before : LoopServer) (event : LoopEvent) (after : LoopServer) (attended : Attended before)
      (taken : before.Advances event after) : Attended after := attended_step before event after attended taken.2
  refine ⟨run_to_stuck kept advance_descends system attended, ?_⟩
  intro later last advance
  obtain ⟨still, bounded⟩ := run_bounded kept advance_descends attended advance
  have received : last.server.received = system.server.received :=
    run_invariant LoopServer.Advances (fun _ last => last.server.received = system.server.received) system rfl
      (fun _ event before after same taken => (advances_received before event after taken).trans same) later last advance
  refine ⟨by omega, received, fun stuck => ?_⟩
  have whole := run_append LoopServer.Steps _ system last events later run
    (run_mono _ _ system last later (fun before event after taken => taken.2) advance)
  obtain ⟨moves, inner⟩ := run_projected LoopServer.Steps Server.Steps LoopServer.server loop_follows _ last _ whole
  obtain ⟨flows, sound⟩ := run_sound count moves last.server inner
  exact stuck_quiesced still stuck flows sound (received ▸ published)

def sampleLoopRun : List LoopEvent :=
  [.work 0 (.operate (.connect 0)), .work 0 (.operate (.call 0 (.setState .websocket))),
    .work 0 (.operate (.call 0 (.subscribe (str "a/x") (.integer 1)))), .receive (sampleJob (str "1-0")), .turn 0 (.wake false),
    .turn 0 .process, .handOut, .work 0 .lockJobs]

theorem sample_publish_reaches :
    ∃ system, perform LoopServer.step (LoopServer.start 2) sampleLoopRun = some system ∧
      system.server.received = [sampleJob (str "1-0")] ∧
      (∃ later last, Run LoopServer.Advances system later last ∧ Stuck LoopServer.Advances last) ∧
      ∀ later last, Run LoopServer.Advances system later last →
        later.length ≤ system.rank ∧ last.server.received = system.server.received ∧ (Stuck LoopServer.Advances last → Quiesced last) := by
  have received : (perform LoopServer.step (LoopServer.start 2) sampleLoopRun).map (fun system => system.server.received) =
      some [sampleJob (str "1-0")] := by rfl
  obtain ⟨system, done, all⟩ := Option.map_eq_some_iff.mp received
  refine ⟨system, done, all, publish_reaches_clients 2 sampleLoopRun system (perform_run LoopServer.step _ _ _ done) ?_⟩
  rw [all]
  intro job inside
  rw [List.mem_singleton.mp inside]
  exact ⟨str "1-0", str "m", [], rfl⟩

end Eventhub.Hub
