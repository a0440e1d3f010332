import Eventhub.Lib.Transition

set_option autoImplicit false

namespace Eventhub.Workers

open Transition

abbrev Fd := BitVec 32

-- epoll_data is a union: fd is its low half, ptr all of it.
def dataFd (data : BitVec 64) : Fd := data.setWidth 32

-- The descriptors of the workers and of the server, -1 for one that is not
-- open. padding is what stands beside fd in an epoll_event of _workerMain.
structure Setting where
  count : Nat
  eventFd : Nat → Fd
  timerFd : Nat → Fd
  serverSocket : Fd
  sslServerSocket : Fd
  unsecureListener : Bool
  isSSL : Bool
  padding : Nat → BitVec 32
  eventFdMade : ∀ worker, eventFd worker ≠ -1
  timerFdMade : ∀ worker, timerFd worker ≠ -1

inductive Route where
  | eventFd
  | timerFd
  | listener (ssl : Bool)
  | client
deriving DecidableEq

-- What _workerMain takes an event to be, by its data.fd.
def Setting.route (setting : Setting) (worker : Nat) (data : BitVec 64) : Route :=
  if setting.eventFd worker ≠ -1 ∧ dataFd data = setting.eventFd worker then .eventFd
  else if setting.timerFd worker ≠ -1 ∧ dataFd data = setting.timerFd worker then .timerFd
  else if dataFd data = setting.serverSocket ∨ dataFd data = setting.sslServerSocket then
    .listener (decide (dataFd data = setting.sslServerSocket))
  else .client

-- A Connection object; id tells apart objects that had the same address.
structure Client where
  id : Nat
  fd : Fd
  address : BitVec 64
  worker : Nat
  ssl : Bool
deriving DecidableEq

structure Registration where
  fd : Fd
  data : BitVec 64
  owner : Option Client
deriving DecidableEq

def Client.registration (client : Client) : Registration := ⟨client.fd, client.address, some client⟩

def Setting.ownFds (setting : Setting) (worker : Nat) : List Fd :=
  [setting.eventFd worker, setting.timerFd worker] ++ (if setting.unsecureListener then [setting.serverSocket] else []) ++
    (if setting.isSSL then [setting.sslServerSocket] else [])

def Setting.registrations (setting : Setting) (worker : Nat) : List Registration :=
  (setting.ownFds worker).map (fun fd => ⟨fd, setting.padding worker ++ fd, none⟩)

structure Mask where
  epollIn : Bool
  epollOut : Bool
  epollRdHup : Bool
  epollHup : Bool
  epollErr : Bool

def Mask.hangsUp (mask : Mask) : Bool := mask.epollErr || mask.epollHup || mask.epollRdHup

structure Ready where
  registration : Registration
  mask : Mask

-- Where a worker's thread is; rest are the events of the batch that are still
-- to come. An accepted client goes to the worker that getWorker has chosen.
inductive Phase where
  | starting
  | waiting
  | handling (rest : List Ready)
  | processing
  | accepting (rest : List Ready) (ssl : Bool)
  | accepted (rest : List Ready) (ssl : Bool) (target : Nat)
  | inserted (rest : List Ready) (ssl : Bool) (client : Client)
  | registered (rest : List Ready) (ssl : Bool) (client : Client)
  | returned (rest : List Ready) (ssl : Bool) (client : Client)
  | serving (rest : List Ready) (client : Client) (mask : Mask)
  | active (rest : List Ready) (client : Client) (mask : Mask)
  | closing (rest : List Ready) (client : Client)
  | unregistered (rest : List Ready) (client : Client)
  | dropping (rest : List Ready) (client : Client)

def Phase.rest : Phase → List Ready
  | .starting | .waiting | .processing => []
  | .handling rest | .accepting rest _ | .accepted rest _ _ | .inserted rest _ _ | .registered rest _ _ | .returned rest _ _
  | .serving rest _ _ | .active rest _ _ | .closing rest _ | .unregistered rest _ | .dropping rest _ => rest

-- The shared_ptr that the thread has on its stack.
def Phase.client? : Phase → Option Client
  | .inserted _ _ client | .registered _ _ client | .returned _ _ client | .serving _ client _ | .active _ client _
  | .closing _ client | .unregistered _ client | .dropping _ client => some client
  | _ => none

-- The thread holds the _connection_list_mutex of the client's worker.
def Phase.locking? : Phase → Option Client
  | .inserted _ _ client | .registered _ _ client | .unregistered _ client => some client
  | _ => none

-- The registrations that the batch still rests on.
def Phase.due : Phase → List Registration
  | .serving rest client _ | .active rest client _ | .closing rest client => client.registration :: rest.map Ready.registration
  | phase => phase.rest.map Ready.registration

-- In the list and not in epoll.
def Phase.unwatched? : Phase → Option Client
  | .inserted _ _ client | .unregistered _ client => some client
  | _ => none

-- In the list and not in the counters.
def Phase.uncounted : Phase → UInt64
  | .inserted _ _ _ | .registered _ _ _ => 1
  | _ => 0

structure Table where
  connectionList : List Client
  epoll : List Registration
  mutex : Option Nat
  currentConnectionsCount : UInt64
  totalConnectCount : UInt64
  totalDisconnectCount : UInt64

-- shut are the clients whose _is_shutdown is set, made numbers the changes of the
-- tables, assigned is what getWorker has returned so far. A fault is the use of a
-- pointer or an iterator that is no longer valid.
structure State where
  tables : Nat → Table
  threads : Nat → Phase
  made : Nat
  shut : Nat → Bool
  curWorker : Nat
  assigned : List Nat
  fault : Bool

def State.start : State := ⟨fun _ => ⟨[], [], none, 0, 0, 0⟩, fun _ => .starting, 0, fun _ => false, 0, [], false⟩

-- The Connections that exist: a shared_ptr in a list or on a thread's stack
-- points to them.
def State.objects (setting : Setting) (state : State) : List Client :=
  (List.range setting.count).flatMap (fun worker => (state.tables worker).connectionList) ++
    (List.range setting.count).filterMap (fun thread => (state.threads thread).client?)

def State.goto (state : State) (thread : Nat) (next : Phase) : State :=
  { state with threads := Function.update state.threads thread next }

def State.change (state : State) (thread : Nat) (next : Phase) (worker : Nat) (table : Table) : State :=
  { state.goto thread next with tables := Function.update state.tables worker table, made := state.made + 1 }

def State.shutdown (state : State) (client : Client) (fails : Bool) : State :=
  { state with shut := fun id => state.shut id || (fails && id == client.id) }

-- The kernel and the allocator hand out what is not in use. The descriptor that
-- accept4 returns has its number from where the Connection is made.
def State.Fresh (setting : Setting) (state : State) (fd : Fd) (address : BitVec 64) : Prop :=
  (∀ client ∈ state.objects setting, client.fd ≠ fd ∧ client.address ≠ address) ∧
    ∀ worker, worker < setting.count → fd ∉ setting.ownFds worker

instance freshDecidable (setting : Setting) (state : State) (fd : Fd) (address : BitVec 64) :
    Decidable (state.Fresh setting fd address) := inferInstanceAs (Decidable (_ ∧ _))

inductive Action where
  | start
  | epollWait (batch : List Ready)
  | handle
  | shutdown (client : Client)
  | process
  | accept (succeeds : Bool)
  | insert (fd : Fd) (address : BitVec 64)
  | addToEpoll (added : Bool)
  | count
  | check
  | serve (fails : Bool)
  | remove
  | release

def State.handle (setting : Setting) (state : State) (thread : Nat) (ready : Ready) (rest : List Ready) : State :=
  match setting.route thread ready.registration.data with
  | .eventFd => state.goto thread (.handling rest)
  | .timerFd => state.goto thread (.handling rest)
  | .listener ssl => state.goto thread (if ready.mask.epollIn then .accepting rest ssl else .handling rest)
  | .client =>
      match (state.objects setting).find? (fun client => client.address = ready.registration.data) with
      | some client => state.goto thread (.serving rest client ready.mask)
      | none => { state with fault := true }

def State.getWorker (setting : Setting) (state : State) : State × Nat :=
  let current := if state.curWorker = setting.count then 0 else state.curWorker
  ({ state with curWorker := current + 1, assigned := state.assigned ++ [current] }, current)

-- The descriptors that _workerMain adds before its loop.
def Table.watchOwn (table : Table) (registrations : List Registration) : Table :=
  { table with epoll := registrations ++ table.epoll }

def Table.insert (table : Table) (thread : Nat) (client : Client) : Table :=
  { table with connectionList := table.connectionList ++ [client], mutex := some thread }

def Table.addToEpoll (table : Table) (client : Client) : Table := { table with epoll := table.epoll ++ [client.registration] }

def Table.refuse (table : Table) (client : Client) : Table :=
  { table with connectionList := table.connectionList.erase client, mutex := none }

def Table.countConnect (table : Table) : Table :=
  { table with
    currentConnectionsCount := table.currentConnectionsCount + 1
    totalConnectCount := table.totalConnectCount + 1
    mutex := none }

def Table.removeFromEpoll (table : Table) (thread : Nat) (client : Client) : Table :=
  { table with epoll := table.epoll.filter (fun registration => registration.fd ≠ client.fd), mutex := some thread }

def Table.erase (table : Table) (client : Client) : Table :=
  { table with
    connectionList := table.connectionList.erase client
    currentConnectionsCount := table.currentConnectionsCount - 1
    totalDisconnectCount := table.totalDisconnectCount + 1
    mutex := none }

def State.turn (setting : Setting) (state : State) (thread : Nat) (action : Action) : Option State :=
  let own := state.tables thread
  match state.threads thread, action with
  | .starting, .start => some (state.change thread .waiting thread (own.watchOwn (setting.registrations thread)))
  | .waiting, .epollWait batch =>
      if (batch.map Ready.registration).Nodup ∧ ∀ ready ∈ batch, ready.registration ∈ own.epoll then
        some (state.goto thread (.handling batch))
      else none
  | .handling [], .handle => some (state.goto thread .processing)
  | .handling (ready :: rest), .handle => some (state.handle setting thread ready rest)
  | .processing, .shutdown client =>
      if client ∈ state.objects setting ∧ client.worker = thread then some ((state.shutdown client true).goto thread .processing) else none
  | .processing, .process => some (state.goto thread .waiting)
  | .accepting rest _, .accept false => some (state.goto thread (.handling rest))
  | .accepting rest ssl, .accept true =>
      let chosen := state.getWorker setting
      some (chosen.1.goto thread (.accepted rest ssl chosen.2))
  | .accepted rest ssl target, .insert fd address =>
      if (state.tables target).mutex = none ∧ state.Fresh setting fd address then
        let client : Client := ⟨state.made, fd, address, target, ssl⟩
        some (state.change thread (.inserted rest ssl client) target ((state.tables target).insert thread client))
      else none
  | .inserted rest ssl client, .addToEpoll true =>
      let table := state.tables client.worker
      if ∀ registration ∈ table.epoll, registration.fd ≠ client.fd then
        some (state.change thread (.registered rest ssl client) client.worker (table.addToEpoll client))
      else none
  | .inserted rest ssl client, .addToEpoll false =>
      some (state.change thread (.accepting rest ssl) client.worker ((state.tables client.worker).refuse client))
  | .registered rest ssl client, .count =>
      some (state.change thread (.returned rest ssl client) client.worker (state.tables client.worker).countConnect)
  | .returned rest ssl _, .release => some (state.goto thread (.accepting rest ssl))
  | .serving rest client mask, .check =>
      let marked := state.shutdown client mask.hangsUp
      some (marked.goto thread (if marked.shut client.id then .closing rest client else .active rest client mask))
  | .active rest client mask, .serve fails =>
      some ((state.shutdown client ((mask.epollOut || mask.epollIn) && fails)).goto thread (.dropping rest client))
  | .closing rest client, .remove =>
      if own.mutex = none then some (state.change thread (.unregistered rest client) thread (own.removeFromEpoll thread client)) else none
  | .unregistered rest client, .remove =>
      some (if client ∈ own.connectionList then state.change thread (.dropping rest client) thread (own.erase client)
        else { state with fault := true })
  | .dropping rest _, .release => some (state.goto thread (.handling rest))
  | _, _ => none

def State.step (setting : Setting) (state : State) (event : Nat × Action) : Option State :=
  if event.1 < setting.count then state.turn setting event.1 event.2 else none

def State.Steps (setting : Setting) (before : State) (event : Nat × Action) (after : State) : Prop :=
  before.step setting event = some after

inductive Local (setting : Setting) (state : State) (thread : Nat) : Phase → Phase → Prop where
  | waited (batch : List Ready) (apart : (batch.map Ready.registration).Nodup)
      (inside : ∀ ready ∈ batch, ready.registration ∈ (state.tables thread).epoll) : Local setting state thread .waiting (.handling batch)
  | passed (old next : Phase) (unlocked : old.locking? = none) (free : next.locking? = none)
      (kept : ∀ client, next.client? = some client → old.client? = some client)
      (idle : ∀ rest ssl target, next ≠ .accepted rest ssl target) (later : next.due <:+ old.due) : Local setting state thread old next
  | dispatched (ready : Ready) (rest : List Ready) (client : Client) (routed : setting.route thread ready.registration.data = .client)
      (found : (state.objects setting).find? (fun client => client.address = ready.registration.data) = some client) :
      Local setting state thread (.handling (ready :: rest)) (.serving rest client ready.mask)

inductive Change (setting : Setting) (state : State) (thread : Nat) : Phase → Phase → Nat → Table → Prop where
  | begun : Change setting state thread .starting .waiting thread ((state.tables thread).watchOwn (setting.registrations thread))
  | inserted (rest : List Ready) (ssl : Bool) (client : Client) (free : (state.tables client.worker).mutex = none)
      (fresh : state.Fresh setting client.fd client.address) :
      Change setting state thread (.accepted rest ssl client.worker) (.inserted rest ssl client) client.worker
        ((state.tables client.worker).insert thread client)
  | registered (rest : List Ready) (ssl : Bool) (client : Client) :
      Change setting state thread (.inserted rest ssl client) (.registered rest ssl client) client.worker
        ((state.tables client.worker).addToEpoll client)
  | refused (rest : List Ready) (ssl : Bool) (client : Client) :
      Change setting state thread (.inserted rest ssl client) (.accepting rest ssl) client.worker
        ((state.tables client.worker).refuse client)
  | counted (rest : List Ready) (ssl : Bool) (client : Client) :
      Change setting state thread (.registered rest ssl client) (.returned rest ssl client) client.worker
        (state.tables client.worker).countConnect
  | unregistered (rest : List Ready) (client : Client) (free : (state.tables thread).mutex = none) :
      Change setting state thread (.closing rest client) (.unregistered rest client) thread
        ((state.tables thread).removeFromEpoll thread client)
  | erased (rest : List Ready) (client : Client) :
      Change setting state thread (.unregistered rest client) (.dropping rest client) thread ((state.tables thread).erase client)

inductive Move (setting : Setting) (before : State) (thread : Nat) : State → Prop where
  | stayed (next : Phase) (shut : Nat → Bool) (taken : Local setting before thread (before.threads thread) next) :
      Move setting before thread ({ before with shut := shut }.goto thread next)
  | chosen (rest : List Ready) (ssl : Bool) (place : before.threads thread = .accepting rest ssl) :
      Move setting before thread ((before.getWorker setting).1.goto thread (.accepted rest ssl (before.getWorker setting).2))
  | changed (next : Phase) (worker : Nat) (table : Table) (taken : Change setting before thread (before.threads thread) next worker table) :
      Move setting before thread (before.change thread next worker table)
  | dangling (ready : Ready) (rest : List Ready) (place : before.threads thread = .handling (ready :: rest))
      (routed : setting.route thread ready.registration.data = .client)
      (missing : (before.objects setting).find? (fun client => client.address = ready.registration.data) = none) :
      Move setting before thread { before with fault := true }
  | unlisted (rest : List Ready) (client : Client) (place : before.threads thread = .unregistered rest client)
      (missing : client ∉ (before.tables thread).connectionList) : Move setting before thread { before with fault := true }

section

variable {setting : Setting} {before : State} {thread : Nat}

theorem passed_moves {old : Phase} (next : Phase) (shut : Nat → Bool) (place : before.threads thread = old) (unlocked : old.locking? = none)
    (free : next.locking? = none) (kept : ∀ client, next.client? = some client → old.client? = some client)
    (idle : ∀ rest ssl target, next ≠ .accepted rest ssl target) (later : next.due <:+ old.due) :
    Move setting before thread ({ before with shut := shut }.goto thread next) :=
  .stayed next shut (by rw [place]; exact .passed old next unlocked free kept idle later)

theorem handle_moves {ready : Ready} {rest : List Ready} (place : before.threads thread = .handling (ready :: rest)) :
    Move setting before thread (before.handle setting thread ready rest) := by
  have later : rest.map Ready.registration <:+ (ready :: rest).map Ready.registration := List.suffix_cons ..
  have passes : Move setting before thread (before.goto thread (.handling rest)) :=
    passed_moves _ before.shut place rfl rfl (fun _ => nofun) (by simp) later
  unfold State.handle
  split
  · exact passes
  · exact passes
  · split
    · exact passed_moves _ before.shut place rfl rfl (fun _ => nofun) (by simp) later
    · exact passes
  · rename_i routed
    split
    · rename_i client found
      exact .stayed _ before.shut (place ▸ .dispatched ready rest client routed found)
    · rename_i missing
      exact .dangling ready rest place routed missing

theorem turn_moves {after : State} {action : Action} (taken : before.turn setting thread action = some after) :
    Move setting before thread after := by
  unfold State.turn at taken
  dsimp only at taken
  split at taken
  · rename_i place
    cases taken
    exact .changed _ _ _ (place ▸ .begun)
  · rename_i batch place
    obtain ⟨⟨apart, ready⟩, rfl⟩ := Option.ite_none_right_eq_some.mp taken |>.imp id Option.some.inj
    exact .stayed _ before.shut (place ▸ .waited batch apart ready)
  · rename_i place
    cases taken
    exact passed_moves _ before.shut place rfl rfl (fun _ => nofun) (by simp) List.suffix_rfl
  · rename_i ready rest place
    cases taken
    exact handle_moves place
  · rename_i client place
    obtain ⟨_, rfl⟩ := Option.ite_none_right_eq_some.mp taken |>.imp id Option.some.inj
    exact passed_moves .processing _ place rfl rfl (fun _ => nofun) (by simp) List.suffix_rfl
  · rename_i place
    cases taken
    exact passed_moves _ before.shut place rfl rfl (fun _ => nofun) (by simp) List.suffix_rfl
  · rename_i rest ssl place
    cases taken
    exact passed_moves _ before.shut place rfl rfl (fun _ => nofun) (by simp) List.suffix_rfl
  · rename_i rest ssl place
    cases taken
    exact .chosen rest ssl place
  · rename_i rest ssl target fd address place
    obtain ⟨⟨free, fresh⟩, rfl⟩ := Option.ite_none_right_eq_some.mp taken |>.imp id Option.some.inj
    exact .changed _ _ _ (place ▸ .inserted rest ssl ⟨before.made, fd, address, target, ssl⟩ free fresh)
  · rename_i rest ssl client place
    obtain ⟨_, rfl⟩ := Option.ite_none_right_eq_some.mp taken |>.imp id Option.some.inj
    exact .changed _ _ _ (place ▸ .registered rest ssl client)
  · rename_i rest ssl client place
    cases taken
    exact .changed _ _ _ (place ▸ .refused rest ssl client)
  · rename_i rest ssl client place
    cases taken
    exact .changed _ _ _ (place ▸ .counted rest ssl client)
  · rename_i rest ssl client place
    cases taken
    exact passed_moves _ before.shut place rfl rfl (fun _ => nofun) (by simp) List.suffix_rfl
  · rename_i rest client mask place
    cases taken
    split
    · exact passed_moves _ _ place rfl rfl (fun _ => id) (by simp) List.suffix_rfl
    · exact passed_moves _ _ place rfl rfl (fun _ => id) (by simp) List.suffix_rfl
  · rename_i rest client mask fails place
    cases taken
    exact passed_moves _ _ place rfl rfl (fun _ => id) (by simp) (List.suffix_cons ..)
  · rename_i rest client place
    obtain ⟨free, rfl⟩ := Option.ite_none_right_eq_some.mp taken |>.imp id Option.some.inj
    exact .changed _ _ _ (place ▸ .unregistered rest client free)
  · rename_i rest client place
    cases taken
    split
    · exact .changed _ _ _ (place ▸ .erased rest client)
    · rename_i missing
      exact .unlisted rest client place missing
  · rename_i rest client place
    cases taken
    exact passed_moves _ before.shut place rfl rfl (fun _ => nofun) (by simp) List.suffix_rfl
  · cases taken

theorem state_moves {after : State} {event : Nat × Action} (taken : before.Steps setting event after) :
    event.1 < setting.count ∧ Move setting before event.1 after := by
  obtain ⟨bound, turned⟩ := Option.ite_none_right_eq_some.mp taken
  exact ⟨bound, turn_moves turned⟩

end

end Eventhub.Workers
