import Eventhub.Hub.History
import Eventhub.Hub.Server

set_option autoImplicit false

namespace Eventhub.Hub

open Transition

def Server.outstanding (server : Server) (index : Nat) : List Job :=
  match server.publishing with
  | none => []
  | some (job, next) => if index < next then [] else [job]

-- No message is lost, repeated or overtaken on its way to a worker.
def Flows (server : Server) : Prop :=
  ∀ index worker, server.workers[index]? = some worker → worker.handed ++ server.outstanding index = server.received

theorem flows_step (before after : Server) (event : ServerEvent) (flows : Flows before) (taken : before.Steps event after) :
    Flows after := by
  cases server_moves before after event taken with
  | received job idle =>
      intro index worker present
      have settled := flows index worker present
      simp only [Server.outstanding, idle, List.append_nil] at settled
      simp only [Server.outstanding, Nat.not_lt_zero, if_false, settled]
  | handed job next worker queued busy target added =>
      intro index other present
      rcases set_lookup _ _ _ _ _ present with ⟨rfl, rfl⟩ | ⟨different, kept⟩
      · have settled := flows index worker target
        simp only [Server.outstanding, busy, Nat.lt_irrefl, if_false] at settled
        simp only [Server.outstanding, Nat.lt_succ_self, if_true, List.append_nil]
        rw [(add_job_hands worker other job added).1, settled]
      · have settled := flows index other kept
        have same : index < next + 1 ↔ index < next := by omega
        simp only [Server.outstanding, busy] at settled
        simp only [Server.outstanding, same, settled]
  | completed job next busy target =>
      intro index worker present
      have settled := flows index worker present
      have reached : index < next :=
        Nat.lt_of_lt_of_le (List.getElem?_eq_some_iff.mp present).1 (List.getElem?_eq_none_iff.mp target)
      simp only [Server.outstanding, busy, if_pos reached] at settled
      exact settled
  | worked place own worker moved present step =>
      intro index other found
      rcases set_lookup _ _ _ _ _ found with ⟨rfl, rfl⟩ | ⟨_, kept⟩
      · have handed : other.handed = worker.handed := by
          cases worker_moves worker other own step with
          | quiet _ _ _ handed _ _ => exact handed
          | operated op registry step => rfl
          | published _ _ _ _ _ handed _ _ _ => exact handed
        rw [handed]
        exact flows index worker present
      · exact flows index other kept

structure Sound (worker : Worker) : Prop where
  coherent : Coherent worker.registry
  delivered : (∀ job ∈ worker.handed, job.Published) → ∀ connection,
    Delivered connection worker.processed (sentTo connection worker.sent)

theorem sound_moved (before after : Worker) (event : WorkerEvent) (sound : Sound before) (move : WorkerMove before event after) :
    Sound after := by
  cases move with
  | quiet _ _ registry handed sent processed =>
      refine ⟨registry ▸ sound.coherent, ?_⟩
      rw [handed, sent, processed]
      exact sound.delivered
  | operated op registry step => exact ⟨(steps_effect _ _ op sound.coherent step).1, sound.delivered⟩
  | published job order _ whole registry handed inside sent processed =>
      refine ⟨registry ▸ sound.coherent, fun published connection => ?_⟩
      rw [handed] at published
      rw [sent, processed, sent_to_append]
      exact .snoc _ _ _ job before.registry (sound.delivered published connection)
        (publish_due before.registry order job connection sound.coherent whole (published job inside))

theorem sound_step (before after : Server) (event : ServerEvent) (sound : ∀ worker ∈ before.workers, Sound worker)
    (taken : before.Steps event after) : ∀ worker ∈ after.workers, Sound worker := by
  cases server_moves before after event taken with
  | received job idle => exact sound
  | completed job next busy target => exact sound
  | handed job next worker queued busy target added =>
      intro other inside
      rcases List.mem_or_eq_of_mem_set inside with among | rfl
      · exact sound other among
      · obtain ⟨handed, registry, sent, processed⟩ := add_job_hands worker other job added
        have earlier := sound worker (List.mem_of_getElem? target)
        refine ⟨registry ▸ earlier.coherent, ?_⟩
        rw [handed, sent, processed]
        exact fun published => earlier.delivered (fun job member => published job (List.mem_append_left _ member))
  | worked place own worker moved present step =>
      intro other inside
      rcases List.mem_or_eq_of_mem_set inside with among | rfl
      · exact sound other among
      · exact sound_moved worker other own (sound worker (List.mem_of_getElem? present)) (worker_moves worker other own step)

theorem run_sound (count : Nat) (events : List ServerEvent) (server : Server)
    (run : Run Server.Steps (Server.start count) events server) : Flows server ∧ ∀ worker ∈ server.workers, Sound worker := by
  refine run_invariant Server.Steps (fun _ server => Flows server ∧ ∀ worker ∈ server.workers, Sound worker) _ ?_ ?_ events server run
  · constructor
    · intro index worker present
      rw [List.eq_of_mem_replicate (List.mem_of_getElem? present)]
      rfl
    · intro worker inside
      rw [List.eq_of_mem_replicate inside]
      exact ⟨empty_coherent, fun _ connection => .nil⟩
  · rintro events event before after ⟨flows, sound⟩ taken
    exact ⟨flows_step before after event flows taken, sound_step before after event sound taken⟩

structure FannedOut (server : Server) (worker : Worker) : Prop where
  inOrder : worker.processed.map Prod.fst <+: server.received
  delivered : ∀ connection, Delivered connection worker.processed (sentTo connection worker.sent)
  complete : server.publishing = none → worker.jobQueue = [] → worker.processed.map Prod.fst = server.received

theorem fanout_exactly_once (count : Nat) (events : List ServerEvent) (server : Server)
    (run : Run Server.Steps (Server.start count) events server) (published : ∀ job ∈ server.received, job.Published) :
    ∀ worker ∈ server.workers, FannedOut server worker := by
  obtain ⟨flows, sound⟩ := run_sound count events server run
  intro worker inside
  obtain ⟨index, present⟩ := List.mem_iff_getElem?.mp inside
  have flow := flows index worker present
  refine ⟨⟨worker.pending ++ server.outstanding index, ?_⟩, ?_, ?_⟩
  · rw [← flow, Worker.handed, List.append_assoc]
  · apply (sound worker inside).delivered
    intro job member
    exact published job (by rw [← flow]; exact List.mem_append_left _ member)
  · intro idle empty
    rw [← flow]
    simp [Worker.handed, Worker.pending, Server.outstanding, idle, empty]

def sampleJob (id : Bytes) : Job := ⟨str "a/x", some (publishMessage (str "a/x") id (str "m") [])⟩

def sampleFanout : List ServerEvent :=
  [.work 0 (.operate (.connect 0)), .work 0 (.operate (.call 0 (.setState .websocket))),
    .work 0 (.operate (.call 0 (.subscribe (str "a/x") (.integer 1)))),
    .work 0 (.operate (.call 0 (.subscribe (str "a/+") (.integer 2)))),
    .receive (sampleJob (str "1-0")), .handOut, .work 0 .lockJobs, .work 0 (.runJob [str "a/x", str "a/+"]), .work 0 .clearJobs,
    .handOut, .handOut, .work 0 (.operate (.call 0 (.unsubscribe (str "a/+")))),
    .receive (sampleJob (str "2-0")), .handOut, .handOut, .handOut,
    .work 0 .lockJobs, .work 0 (.runJob [str "a/x"]), .work 0 .clearJobs]

theorem sample_fanout_once :
    ∃ server, perform Server.step (Server.start 2) sampleFanout = some server ∧
      (server.workers.map (fun worker => (worker.sent.length, worker.jobQueue.length))) = [(3, 0), (0, 2)] ∧
      ∀ worker ∈ server.workers, FannedOut server worker := by
  have counts : (perform Server.step (Server.start 2) sampleFanout).map (fun server =>
      (server.received.length, server.workers.map (fun worker => (worker.sent.length, worker.jobQueue.length)))) =
        some (2, [(3, 0), (0, 2)]) := by decide
  have received : (perform Server.step (Server.start 2) sampleFanout).map Server.received =
      some [sampleJob (str "1-0"), sampleJob (str "2-0")] := by rfl
  obtain ⟨server, done, counted⟩ := Option.map_eq_some_iff.mp counts
  rw [done, Option.map_some, Option.some.injEq] at received
  refine ⟨server, done, (Prod.ext_iff.mp counted).2, ?_⟩
  refine fanout_exactly_once 2 sampleFanout server (perform_run Server.step _ _ _ done) ?_
  rw [received]
  intro job inside
  rcases List.mem_pair.mp inside with rfl | rfl
  · exact ⟨str "1-0", str "m", [], rfl⟩
  · exact ⟨str "2-0", str "m", [], rfl⟩

end Eventhub.Hub
