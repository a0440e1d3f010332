import Eventhub.Workers.Table

set_option autoImplicit false

namespace Eventhub.Workers

open Transition

variable (setting : Setting)

theorem data_fd_low (high low : BitVec 32) : dataFd (high ++ low) = low :=
  (BitVec.setWidth_append (v := 32) (x := high) (y := low)).trans (by simp)

theorem own_route (worker : Nat) (fd : Fd) (own : fd ∈ setting.ownFds worker) :
    setting.route worker (setting.padding worker ++ fd) ≠ .client := by
  unfold Setting.route
  rw [data_fd_low]
  split
  · simp
  · rename_i notEvent
    split
    · simp
    · rename_i notTimer
      have listening : fd = setting.serverSocket ∨ fd = setting.sslServerSocket := by
        simp only [Setting.ownFds, List.mem_append, List.mem_cons, List.not_mem_nil, or_false] at own
        rcases own with ((event | timer) | plain) | ssl
        · exact absurd ⟨setting.eventFdMade worker, event⟩ notEvent
        · exact absurd ⟨setting.timerFdMade worker, timer⟩ notTimer
        · split at plain <;> simp at plain
          exact .inl plain
        · split at ssl <;> simp at ssl
          exact .inr ssl
      rw [if_pos listening]
      simp

theorem mem_objects (state : State) (client : Client) :
    client ∈ state.objects setting ↔ (∃ worker, worker < setting.count ∧ client ∈ (state.tables worker).connectionList) ∨
      ∃ thread, thread < setting.count ∧ (state.threads thread).client? = some client := by
  simp [State.objects]

structure ThreadOk (state : State) (thread : Nat) (phase : Phase) : Prop where
  target : ∀ rest ssl target, phase = .accepted rest ssl target → target < setting.count
  pending : ∀ registration ∈ phase.due, registration ∈ (state.tables thread).epoll
  apart : phase.due.Nodup
  locked : ∀ client, phase.locking? = some client →
    client ∈ (state.tables client.worker).connectionList ∧ (state.tables client.worker).mutex = some thread
  removes : ∀ rest client, phase = .unregistered rest client → client.worker = thread

-- A worker's table while the thread that holds its mutex is at the given phase;
-- waiting stands for no thread.
structure TableOk (worker : Nat) (table : Table) (holder : Phase) : Prop where
  listed : ∀ client ∈ table.connectionList, client.worker = worker ∧ worker < setting.count
  nodup : table.connectionList.Nodup
  owned : ∀ registration ∈ table.epoll,
    (registration.owner = none ∧ registration.fd ∈ setting.ownFds worker ∧ setting.route worker registration.data ≠ .client) ∨
      ∃ client : Client, registration = client.registration
  watched : ∀ client : Client, client.registration ∈ table.epoll ↔ client ∈ table.connectionList ∧ holder.unwatched? ≠ some client
  counted : table.currentConnectionsCount + holder.uncounted = UInt64.ofNat table.connectionList.length
  balanced : table.totalConnectCount = table.totalDisconnectCount + table.currentConnectionsCount
  held : table.mutex ≠ none → ∃ client, holder.locking? = some client ∧ client.worker = worker

def State.holder (state : State) (table : Table) : Phase := table.mutex.elim .waiting state.threads

structure Robin (state : State) : Prop where
  turns : ∀ place, place < state.assigned.length → state.assigned[place]? = some (place % setting.count)
  bound : state.curWorker ≤ setting.count
  next : state.curWorker % setting.count = state.assigned.length % setting.count

structure Sound (state : State) : Prop where
  threads : ∀ thread, thread < setting.count → ThreadOk setting state thread (state.threads thread)
  tables : ∀ worker, TableOk setting worker (state.tables worker) (state.holder (state.tables worker))
  distinct : ∀ first ∈ state.objects setting, ∀ second ∈ state.objects setting,
    first.fd = second.fd ∨ first.address = second.address → first = second
  foreign : ∀ client ∈ state.objects setting, ∀ worker, worker < setting.count → client.fd ∉ setting.ownFds worker
  robin : Robin setting state
  unfaulted : state.fault = false

theorem rest_due (phase : Phase) : phase.rest.map Ready.registration <:+ phase.due := by
  cases phase <;> simp [Phase.due, Phase.rest]

theorem registration_injective (first second : Client) (same : first.registration = second.registration) : first = second :=
  Option.some.inj (congrArg Registration.owner same)

variable {setting}

theorem listed_object {state : State} {worker : Nat} (sound : Sound setting state) (client : Client)
    (inside : client ∈ (state.tables worker).connectionList) : client ∈ state.objects setting :=
  (mem_objects setting state client).mpr (.inl ⟨worker, ((sound.tables worker).listed client inside).2, inside⟩)

theorem held_object {state : State} {thread : Nat} (bound : thread < setting.count) (client : Client)
    (holds : (state.threads thread).client? = some client) : client ∈ state.objects setting :=
  (mem_objects setting state client).mpr (.inr ⟨thread, bound, holds⟩)

theorem thread_unlocked {state : State} {thread : Nat} (phase : Phase) (free : phase.locking? = none)
    (idle : ∀ rest ssl target, phase ≠ .accepted rest ssl target)
    (pending : ∀ registration ∈ phase.due, registration ∈ (state.tables thread).epoll) (apart : phase.due.Nodup) :
    ThreadOk setting state thread phase := by
  refine ⟨fun rest ssl target place => absurd place (idle rest ssl target), pending, apart, by simp [free], ?_⟩
  rintro rest client rfl
  cases free

structure Spared (before : State) (worker : Nat) (table : Table) (other : Nat) : Prop where
  epoll : other = worker → ∀ registration ∈ (before.tables worker).epoll, registration ∈ table.epoll
  locked : (before.tables worker).mutex = some other → table.connectionList = (before.tables worker).connectionList ∧ table.mutex = some other

theorem thread_spared {before after : State} {worker other : Nat} {table : Table}
    (ok : ThreadOk setting before other (before.threads other)) (tables : after.tables = Function.update before.tables worker table)
    (spared : Spared before worker table other) : ThreadOk setting after other (before.threads other) := by
  refine ⟨ok.target, ?_, ok.apart, ?_, ok.removes⟩
  · intro registration inside
    have watched := ok.pending registration inside
    by_cases own : other = worker
    · rw [tables, own, Function.update_self]
      exact spared.epoll own registration (own ▸ watched)
    · rw [tables, Function.update_of_ne own]
      exact watched
  · intro client holds
    obtain ⟨inside, mutex⟩ := ok.locked client holds
    by_cases changed : client.worker = worker
    · rw [tables, changed, Function.update_self]
      rw [changed] at inside mutex
      obtain ⟨same, kept⟩ := spared.locked mutex
      exact ⟨same ▸ inside, kept⟩
    · rw [tables, Function.update_of_ne changed]
      exact ⟨inside, mutex⟩

-- The changes of a table, each with where it takes the thread that makes it.
section

variable {worker : Nat} {table : Table} {client : Client} (rest : List Ready) (ssl : Bool)

theorem table_begun {holder : Phase} (ok : TableOk setting worker table holder) :
    TableOk setting worker (table.watchOwn (setting.registrations worker)) holder := by
  refine ⟨ok.listed, ok.nodup, ?_, fun other => Iff.trans ?_ (ok.watched other), ok.counted, ok.balanced, ok.held⟩
  · intro registration inside
    rcases List.mem_append.mp inside with special | earlier
    · obtain ⟨fd, member, rfl⟩ := List.mem_map.mp special
      exact .inl ⟨rfl, member, own_route setting worker fd member⟩
    · exact ok.owned registration earlier
  · simp [Table.watchOwn, Setting.registrations, Client.registration]

theorem erased_length {clients : List Client} (inside : client ∈ clients) :
    UInt64.ofNat clients.length = UInt64.ofNat (clients.erase client).length + 1 := by
  have shorter := List.length_erase_add_one inside
  rw [← shorter, UInt64.ofNat_add]
  rfl

theorem table_inserted (thread : Nat) (ok : TableOk setting client.worker table .waiting) (bound : client.worker < setting.count)
    (unlisted : client ∉ table.connectionList) : TableOk setting client.worker (table.insert thread client) (.inserted rest ssl client) := by
  obtain ⟨listed, nodup, owned, watched, counted, balanced, _⟩ := ok
  refine ⟨?_, by simpa [Table.insert] using nodup.concat unlisted, owned, fun other => (watched other).trans ?_, ?_, balanced,
    fun _ => ⟨client, rfl, rfl⟩⟩
  · simp only [Table.insert, List.mem_append, List.mem_singleton]
    rintro other (earlier | rfl)
    · exact listed other earlier
    · exact ⟨rfl, bound⟩
  · simp only [Table.insert, Phase.unwatched?, List.mem_append, List.mem_singleton]
    grind
  · simp only [Table.insert, Phase.uncounted, List.length_append, List.length_singleton, UInt64.ofNat_add] at counted ⊢
    grind

theorem table_registered (ok : TableOk setting worker table (.inserted rest ssl client)) (inside : client ∈ table.connectionList) :
    TableOk setting worker (table.addToEpoll client) (.registered rest ssl client) := by
  obtain ⟨listed, nodup, owned, watched, counted, balanced, held⟩ := ok
  refine ⟨listed, nodup, ?_, ?_, counted, balanced, held⟩
  · simp only [Table.addToEpoll, List.mem_append, List.mem_singleton]
    rintro registration (earlier | rfl)
    · exact owned registration earlier
    · exact .inr ⟨client, rfl⟩
  · intro other
    have injective := registration_injective other client
    have old := watched other
    simp only [Table.addToEpoll, Phase.unwatched?, List.mem_append, List.mem_singleton] at old ⊢
    grind

theorem table_refused (ok : TableOk setting worker table (.inserted rest ssl client)) (inside : client ∈ table.connectionList) :
    TableOk setting worker (table.refuse client) .waiting := by
  obtain ⟨listed, nodup, owned, watched, counted, balanced, _⟩ := ok
  refine ⟨fun other member => listed other (List.mem_of_mem_erase member), nodup.erase _, owned, fun other => (watched other).trans ?_, ?_,
    balanced, absurd rfl⟩
  · simp only [Table.refuse, Phase.unwatched?, nodup.mem_erase_iff]
    grind
  · rw [erased_length inside] at counted
    simp only [Table.refuse, Phase.uncounted] at counted ⊢
    grind

theorem table_counted (ok : TableOk setting worker table (.registered rest ssl client)) :
    TableOk setting worker table.countConnect .waiting := by
  obtain ⟨listed, nodup, owned, watched, counted, balanced, _⟩ := ok
  refine ⟨listed, nodup, owned, watched, ?_, ?_, absurd rfl⟩
  · simp only [Table.countConnect, Phase.uncounted] at counted ⊢
    grind
  · simp only [Table.countConnect]
    grind

theorem table_unregistered (thread : Nat) (ok : TableOk setting worker table .waiting) (own : client.worker = worker)
    (distinct : ∀ other ∈ table.connectionList, other.fd = client.fd → other = client) :
    TableOk setting worker (table.removeFromEpoll thread client) (.unregistered rest client) := by
  obtain ⟨listed, nodup, owned, watched, counted, balanced, _⟩ := ok
  refine ⟨listed, nodup, fun registration inside => owned registration (List.mem_of_mem_filter inside), ?_, counted, balanced,
    fun _ => ⟨client, rfl, own⟩⟩
  intro other
  have old := watched other
  have fd : other.registration.fd = other.fd := rfl
  simp only [Table.removeFromEpoll, Phase.unwatched?, List.mem_filter, decide_eq_true_eq] at old ⊢
  grind

theorem table_erased (ok : TableOk setting worker table (.unregistered rest client)) (inside : client ∈ table.connectionList) :
    TableOk setting worker (table.erase client) .waiting := by
  obtain ⟨listed, nodup, owned, watched, counted, balanced, _⟩ := ok
  refine ⟨fun other member => listed other (List.mem_of_mem_erase member), nodup.erase _, owned, fun other => (watched other).trans ?_, ?_, ?_,
    absurd rfl⟩
  · simp only [Table.erase, Phase.unwatched?, nodup.mem_erase_iff]
    grind
  · rw [erased_length inside] at counted
    simp only [Table.erase, Phase.uncounted] at counted ⊢
    grind
  · simp only [Table.erase]
    grind

end

theorem holder_kept (before : State) {after : State} {table : Table}
    (threads : ∀ thread, table.mutex = some thread → after.threads thread = before.threads thread) :
    after.holder table = before.holder table := by
  unfold State.holder
  cases mutex : table.mutex with
  | none => rfl
  | some thread => exact threads thread mutex

theorem held_locking {state : State} {worker thread : Nat} (sound : Sound setting state) (mutex : (state.tables worker).mutex = some thread) :
    ∃ client, (state.threads thread).locking? = some client ∧ client.worker = worker := by
  have held := (sound.tables worker).held (by simp [mutex])
  rw [State.holder, mutex] at held
  exact held

section

variable {before after : State} {thread worker : Nat} {next : Phase} {table : Table} (sound : Sound setting before)
  (threads : after.threads = Function.update before.threads thread next)

include sound threads

theorem sound_assembled (tables : after.tables = Function.update before.tables worker table) (unfaulted : after.fault = before.fault)
    (robin : Robin setting after) (locking : ∀ client, (before.threads thread).locking? = some client → client.worker = worker)
    (spared : ∀ other, other ≠ thread → Spared before worker table other) (ownThread : ThreadOk setting after thread next)
    (ownTable : TableOk setting worker table (after.holder table))
    (distinct : ∀ first ∈ after.objects setting, ∀ second ∈ after.objects setting,
      first.fd = second.fd ∨ first.address = second.address → first = second)
    (foreign : ∀ client ∈ after.objects setting, ∀ worker, worker < setting.count → client.fd ∉ setting.ownFds worker) :
    Sound setting after := by
  refine ⟨?_, ?_, distinct, foreign, robin, unfaulted.trans sound.unfaulted⟩
  · intro other inside
    by_cases same : other = thread
    · rw [threads, same, Function.update_self]
      exact ownThread
    · rw [threads, Function.update_of_ne same]
      exact thread_spared (sound.threads other inside) tables (spared other same)
  · intro place
    by_cases same : place = worker
    · rw [tables, same, Function.update_self]
      exact ownTable
    · rw [tables, Function.update_of_ne same]
      rw [holder_kept before (fun other mutex => ?_)]
      · exact sound.tables place
      obtain ⟨client, holds, own⟩ := held_locking sound mutex
      rw [threads, Function.update_of_ne]
      rintro rfl
      exact same (own.symm.trans (locking client holds))

theorem sound_phase (bound : thread < setting.count) (tables : after.tables = before.tables) (unfaulted : after.fault = before.fault)
    (robin : Robin setting after) (unlocked : (before.threads thread).locking? = none) (ownThread : ThreadOk setting before thread next)
    (known : ∀ client, next.client? = some client → client ∈ before.objects setting) : Sound setting after := by
  have fewer : ∀ client ∈ after.objects setting, client ∈ before.objects setting := by
    intro client inside
    rw [mem_objects, tables, threads] at inside
    rcases inside with listed | ⟨other, within, holds⟩
    · exact (mem_objects setting before client).mpr (.inl listed)
    · by_cases same : other = thread
      · rw [same, Function.update_self] at holds
        exact known client holds
      · rw [Function.update_of_ne same] at holds
        exact held_object within client holds
  have same : after.tables = Function.update before.tables thread (before.tables thread) := by rw [tables, Function.update_eq_self]
  refine sound_assembled sound threads same unfaulted robin (by simp [unlocked])
    (fun other _ => ⟨fun _ _ inside => inside, fun mutex => ⟨rfl, mutex⟩⟩) ?_ ?_
    (fun first inside second within => sound.distinct first (fewer first inside) second (fewer second within))
    (fun client inside => sound.foreign client (fewer client inside))
  · exact ⟨ownThread.target, tables ▸ ownThread.pending, ownThread.apart, tables ▸ ownThread.locked, ownThread.removes⟩
  · rw [holder_kept before (fun other mutex => ?_)]
    · exact sound.tables thread
    obtain ⟨client, holds, _⟩ := held_locking sound mutex
    rw [threads, Function.update_of_ne]
    rintro rfl
    rw [unlocked] at holds
    cases holds

end

section

variable {before : State} {thread worker : Nat} {next : Phase} {table : Table} (sound : Sound setting before)
  (bound : thread < setting.count) (taken : Change setting before thread (before.threads thread) next worker table)

include taken

theorem change_due : next.due = (before.threads thread).rest.map Ready.registration := by
  generalize before.threads thread = old at taken
  cases taken <;> rfl

include sound bound

theorem change_locking (client : Client) (locking : (before.threads thread).locking? = some client) : client.worker = worker := by
  have ok := sound.threads thread bound
  generalize before.threads thread = old at taken ok locking
  cases taken with
  | erased rest client =>
      cases locking
      exact ok.removes rest client rfl
  | _ => cases locking <;> rfl

theorem change_mutex :
    ((before.tables worker).mutex = none ∨ (before.tables worker).mutex = some thread) ∨
      (table.connectionList = (before.tables worker).connectionList ∧ table.mutex = (before.tables worker).mutex) := by
  have ok := sound.threads thread bound
  generalize before.threads thread = old at taken ok
  cases taken with
  | begun => exact .inr ⟨rfl, rfl⟩
  | inserted rest ssl client free fresh => exact .inl (.inl free)
  | registered rest ssl client => exact .inr ⟨rfl, rfl⟩
  | refused rest ssl client => exact .inl (.inr (ok.locked client rfl).2)
  | counted rest ssl client => exact .inl (.inr (ok.locked client rfl).2)
  | unregistered rest client free => exact .inl (.inl free)
  | erased rest client => exact .inl (.inr (ok.removes rest client rfl ▸ (ok.locked client rfl).2))

theorem change_watched (registration : Registration) (inside : registration ∈ (before.tables worker).epoll)
    (other : ∀ rest client, before.threads thread = .closing rest client → registration ≠ client.registration) :
    registration ∈ table.epoll := by
  have ok := sound.threads thread bound
  generalize place : before.threads thread = old at taken ok
  cases taken with
  | begun => exact List.mem_append_right _ inside
  | registered rest ssl client => exact List.mem_append_left _ inside
  | unregistered rest client free =>
      have listed := (((sound.tables thread).watched client).mp (ok.pending _ List.mem_cons_self)).1
      refine List.mem_filter.mpr ⟨inside, decide_eq_true (fun same => ?_)⟩
      rcases (sound.tables thread).owned registration inside with ⟨_, own, _⟩ | ⟨another, rfl⟩
      · exact sound.foreign client (listed_object sound client listed) thread bound (same ▸ own)
      · have object := listed_object sound another (((sound.tables thread).watched another).mp inside).1
        exact other rest client place (congrArg _ (sound.distinct another object client (listed_object sound client listed) (.inl same)))
  | _ => exact inside

theorem change_spared (other : Nat) (different : other ≠ thread) : Spared before worker table other := by
  constructor
  · rintro rfl registration inside
    refine change_watched sound bound taken registration inside (fun rest client place => ?_)
    rw [place] at taken
    cases taken
    exact absurd rfl different
  · intro mutex
    rcases change_mutex sound bound taken with (free | own) | ⟨same, kept⟩
    · cases free.symm.trans mutex
    · exact absurd (Option.some.inj (mutex.symm.trans own)) different
    · exact ⟨same, kept.trans mutex⟩

theorem change_objects (client : Client) (inside : client ∈ (before.change thread next worker table).objects setting) :
    client ∈ before.objects setting ∨ (∃ rest ssl, next = .inserted rest ssl client) ∧ before.Fresh setting client.fd client.address := by
  rw [mem_objects] at inside
  rcases inside with ⟨place, within, listed⟩ | ⟨other, within, holds⟩
  · change client ∈ (Function.update before.tables worker table place).connectionList at listed
    by_cases same : place = worker
    · rw [same, Function.update_self] at listed
      generalize before.threads thread = phase at taken
      cases taken with
      | inserted rest ssl new free fresh =>
          rcases List.mem_append.mp listed with earlier | last
          · exact .inl (listed_object sound client earlier)
          · rw [List.mem_singleton.mp last]
            exact .inr ⟨⟨rest, ssl, rfl⟩, fresh⟩
      | refused rest ssl new => exact .inl (listed_object sound client (List.mem_of_mem_erase listed))
      | erased rest removed => exact .inl (listed_object sound client (List.mem_of_mem_erase listed))
      | _ => exact .inl (listed_object sound client listed)
    · rw [Function.update_of_ne same] at listed
      exact .inl (listed_object sound client listed)
  · change (Function.update before.threads thread next other).client? = some client at holds
    by_cases same : other = thread
    · rw [same, Function.update_self] at holds
      have known : (before.threads thread).client? = some client → client ∈ before.objects setting := held_object bound client
      generalize before.threads thread = phase at taken known
      cases taken with
      | inserted rest ssl new free fresh =>
          cases holds
          exact .inr ⟨⟨rest, ssl, rfl⟩, fresh⟩
      | _ => first | exact .inl (known holds) | cases holds
    · rw [Function.update_of_ne same] at holds
      exact .inl (held_object within client holds)

theorem change_distinct (first : Client) (inside : first ∈ (before.change thread next worker table).objects setting)
    (second : Client) (within : second ∈ (before.change thread next worker table).objects setting)
    (equal : first.fd = second.fd ∨ first.address = second.address) : first = second := by
  rcases change_objects sound bound taken first inside with earlier | ⟨⟨rest, ssl, place⟩, fresh⟩
  · rcases change_objects sound bound taken second within with also | ⟨_, fresh⟩
    · exact sound.distinct first earlier second also equal
    · exact absurd equal (not_or.mpr (fresh.1 first earlier))
  · rcases change_objects sound bound taken second within with also | ⟨⟨_, _, again⟩, _⟩
    · exact absurd (equal.imp Eq.symm Eq.symm) (not_or.mpr (fresh.1 second also))
    · cases place.symm.trans again
      rfl

theorem change_pending (registration : Registration) (inside : registration ∈ next.due) :
    registration ∈ ((before.change thread next worker table).tables thread).epoll := by
  have ok := sound.threads thread bound
  rw [change_due taken] at inside
  have watched := ok.pending registration ((rest_due _).mem inside)
  change _ ∈ (Function.update before.tables worker table thread).epoll
  by_cases here : thread = worker
  · rw [here, Function.update_self]
    refine change_watched sound bound taken _ (here ▸ watched) (fun rest client place same => ?_)
    rw [place] at ok inside
    exact (List.nodup_cons.mp ok.apart).1 (same ▸ inside)
  · rw [Function.update_of_ne here]
    exact watched

theorem change_thread : ThreadOk setting (before.change thread next worker table) thread next := by
  have ok := sound.threads thread bound
  have pending := change_pending sound bound taken
  have apart : next.due.Nodup := change_due taken ▸ ok.apart.sublist (rest_due _).sublist
  have here : (before.change thread next worker table).tables worker = table := Function.update_self ..
  generalize place : before.threads thread = old at taken ok
  cases taken with
  | inserted rest ssl client free fresh =>
      refine ⟨by simp, pending, apart, ?_, by simp⟩
      rintro _ ⟨⟩
      rw [here]
      exact ⟨List.mem_append_right _ List.mem_cons_self, rfl⟩
  | registered rest ssl client =>
      refine ⟨by simp, pending, apart, ?_, by simp⟩
      rintro _ ⟨⟩
      rw [here]
      exact ok.locked client rfl
  | unregistered rest client free =>
      have listed := (((sound.tables thread).watched client).mp (ok.pending _ List.mem_cons_self)).1
      have own := ((sound.tables thread).listed client listed).1
      refine ⟨by simp, pending, apart, ?_, ?_⟩
      · rintro _ ⟨⟩
        rw [own, here]
        exact ⟨listed, rfl⟩
      · rintro _ _ ⟨⟩
        exact own
  | _ => exact thread_unlocked _ rfl (by simp) pending apart

theorem change_table : TableOk setting worker table ((before.change thread next worker table).holder table) := by
  have ok := sound.threads thread bound
  have old := sound.tables worker
  have free : (before.tables worker).mutex = none → TableOk setting worker (before.tables worker) .waiting := fun mutex => by
    rwa [State.holder, mutex] at old
  have mine : (before.tables worker).mutex = some thread →
      TableOk setting worker (before.tables worker) (before.threads thread) := fun mutex => by
    rwa [State.holder, mutex] at old
  have holds : table.mutex = some thread → (before.change thread next worker table).holder table = next := fun mutex => by
    rw [State.holder, mutex]
    exact Function.update_self ..
  generalize place : before.threads thread = phase at taken ok mine
  cases taken with
  | begun =>
      rw [show State.holder _ (Table.watchOwn _ _) = before.holder (before.tables thread) from holder_kept before (fun other mutex => ?_)]
      · exact table_begun old
      refine Function.update_of_ne ?_ ..
      rintro rfl
      obtain ⟨client, locking, _⟩ := held_locking sound mutex
      rw [place] at locking
      cases locking
  | inserted rest ssl client unlocked fresh =>
      rw [holds rfl]
      refine table_inserted rest ssl thread (free unlocked) (ok.target rest ssl client.worker rfl) (fun inside => ?_)
      exact (fresh.1 client (listed_object sound client inside)).1 rfl
  | registered rest ssl client =>
      obtain ⟨listed, mutex⟩ := ok.locked client rfl
      rw [holds mutex]
      exact table_registered rest ssl (mine mutex) listed
  | refused rest ssl client =>
      obtain ⟨listed, mutex⟩ := ok.locked client rfl
      exact table_refused rest ssl (mine mutex) listed
  | counted rest ssl client => exact table_counted rest ssl (mine (ok.locked client rfl).2)
  | unregistered rest client unlocked =>
      have watched := (old.watched client).mp (ok.pending _ List.mem_cons_self)
      rw [holds rfl]
      refine table_unregistered rest thread (free unlocked) (old.listed client watched.1).1 (fun other inside same => ?_)
      exact sound.distinct other (listed_object sound other inside) client (listed_object sound client watched.1) (.inl same)
  | erased rest client =>
      obtain ⟨listed, mutex⟩ := ok.locked client rfl
      rw [ok.removes rest client rfl] at listed mutex
      exact table_erased rest (mine mutex) listed

theorem change_sound : Sound setting (before.change thread next worker table) := by
  refine sound_assembled sound rfl rfl rfl ⟨sound.robin.turns, sound.robin.bound, sound.robin.next⟩ (change_locking sound bound taken)
    (change_spared sound bound taken) (change_thread sound bound taken) (change_table sound bound taken) (change_distinct sound bound taken) ?_
  intro client inside
  rcases change_objects sound bound taken client inside with earlier | ⟨_, fresh⟩
  · exact sound.foreign client earlier
  · exact fresh.2

end

section

variable {before : State} {thread : Nat} (sound : Sound setting before) (bound : thread < setting.count)

include sound bound

theorem served_found (ready : Ready) (rest : List Ready) (place : before.threads thread = .handling (ready :: rest))
    (routed : setting.route thread ready.registration.data = .client) :
    ∃ client, client ∈ (before.tables thread).connectionList ∧ ready.registration = client.registration := by
  have pending := (sound.threads thread bound).pending ready.registration (by rw [place]; exact List.mem_cons_self)
  rcases (sound.tables thread).owned _ pending with ⟨_, _, other⟩ | ⟨client, same⟩
  · exact absurd routed other
  · rw [same] at pending
    exact ⟨client, (((sound.tables thread).watched client).mp pending).1, same⟩

theorem dispatched_client (ready : Ready) (rest : List Ready) (client : Client) (place : before.threads thread = .handling (ready :: rest))
    (routed : setting.route thread ready.registration.data = .client)
    (found : (before.objects setting).find? (fun client => client.address = ready.registration.data) = some client) :
    client ∈ (before.tables thread).connectionList ∧ ready.registration = client.registration := by
  obtain ⟨served, inside, same⟩ := served_found sound bound ready rest place routed
  have address : client.address = ready.registration.data := by simpa using List.find?_some found
  have equal : client = served := by
    apply sound.distinct client (List.mem_of_find?_eq_some found) served (listed_object sound served inside)
    rw [same] at address
    exact .inr address
  rw [equal]
  exact ⟨inside, same⟩

theorem local_thread (next : Phase) (taken : Local setting before thread (before.threads thread) next) :
    ThreadOk setting before thread next ∧ (before.threads thread).locking? = none ∧
      ∀ client, next.client? = some client → client ∈ before.objects setting := by
  have ok := sound.threads thread bound
  have known : ∀ client, (before.threads thread).client? = some client → client ∈ before.objects setting := held_object bound
  generalize place : before.threads thread = old at taken ok known
  cases taken with
  | waited batch apart inside =>
      exact ⟨thread_unlocked (.handling batch) rfl (by simp) (by simpa [Phase.due, Phase.rest] using inside) apart, rfl, fun _ => nofun⟩
  | passed _ _ unlocked free kept idle later =>
      exact ⟨thread_unlocked next free idle (fun registration inside => ok.pending registration (later.mem inside))
        (ok.apart.sublist later.sublist), unlocked, fun client holds => known client (kept client holds)⟩
  | dispatched ready rest client routed found =>
      obtain ⟨inside, same⟩ := dispatched_client sound bound ready rest client place routed found
      have due : (Phase.serving rest client ready.mask).due = (Phase.handling (ready :: rest)).due :=
        congrArg (· :: rest.map Ready.registration) same.symm
      refine ⟨thread_unlocked _ rfl (by simp) (due ▸ ok.pending) (due ▸ ok.apart), rfl, ?_⟩
      rintro _ ⟨⟩
      exact listed_object sound client inside

theorem get_worker_robin : Robin setting (before.getWorker setting).1 ∧ (before.getWorker setting).2 < setting.count := by
  obtain ⟨earlier, inside, turn⟩ := sound.robin
  have current : (if before.curWorker = setting.count then 0 else before.curWorker) = before.assigned.length % setting.count := by
    split
    · rename_i wrapped
      rw [← turn, wrapped, Nat.mod_self]
    · rw [← turn, Nat.mod_eq_of_lt (by omega)]
  have below := Nat.mod_lt before.assigned.length (Nat.zero_lt_of_lt bound)
  unfold State.getWorker
  rw [current]
  refine ⟨⟨?_, below, by simp only [List.length_append, List.length_singleton, Nat.mod_add_mod]⟩, below⟩
  intro place within
  dsimp only at within ⊢
  rw [List.length_append, List.length_singleton] at within
  by_cases last : place = before.assigned.length
  · rw [last, List.getElem?_concat_length]
  · rw [List.getElem?_append_left (by omega)]
    exact earlier place (by omega)

theorem move_sound (after : State) (move : Move setting before thread after) : Sound setting after := by
  have robin := sound.robin
  cases move with
  | stayed next shut taken =>
      obtain ⟨ownThread, unlocked, known⟩ := local_thread sound bound next taken
      exact sound_phase sound rfl bound rfl rfl ⟨robin.turns, robin.bound, robin.next⟩ unlocked ownThread known
  | chosen rest ssl place =>
      have ok := sound.threads thread bound
      obtain ⟨turned, inside⟩ := get_worker_robin sound bound
      rw [place] at ok
      refine sound_phase sound rfl bound rfl rfl ⟨turned.turns, turned.bound, turned.next⟩ (by rw [place]; rfl) ?_ (fun _ => nofun)
      refine ⟨?_, ok.pending, ok.apart, fun _ => nofun, fun _ _ => nofun⟩
      rintro _ _ _ ⟨⟩
      exact inside
  | changed next worker table taken => exact change_sound sound bound taken
  | dangling ready rest place routed missing =>
      obtain ⟨client, inside, same⟩ := served_found sound bound ready rest place routed
      have different := List.find?_eq_none.mp missing client (listed_object sound client inside)
      rw [same] at different
      exact absurd (decide_eq_true rfl) different
  | unlisted rest client place missing =>
      have ok := sound.threads thread bound
      rw [place] at ok
      have listed := (ok.locked client rfl).1
      rw [ok.removes rest client rfl] at listed
      exact absurd listed missing

end

theorem start_sound : Sound setting State.start := by
  have nothing : State.start.objects setting = [] := by simp [State.objects, State.start, Phase.client?]
  refine ⟨fun thread _ => thread_unlocked .starting rfl (by simp) (by simp [Phase.due, Phase.rest]) (by simp [Phase.due, Phase.rest]), ?_,
    by simp [nothing], by simp [nothing], ⟨by simp [State.start], Nat.zero_le _, rfl⟩, rfl⟩
  intro worker
  exact ⟨by simp [State.start], by simp [State.start], by simp [State.start], by simp [State.start], rfl, rfl, absurd rfl⟩

theorem run_sound (events : List (Nat × Action)) (state : State) (run : Run (State.Steps setting) State.start events state) :
    Sound setting state := by
  apply run_invariant (State.Steps setting) (fun _ state => Sound setting state) State.start start_sound _ events state run
  intro _ event middle last sound taken
  obtain ⟨bound, move⟩ := state_moves taken
  exact move_sound sound bound last move

-- A worker's list, its epoll set and the events of its batch, and its counters
-- while no thread is between the list and them.
structure Accounted (state : State) (worker : Nat) : Prop where
  listed : ∀ client ∈ (state.tables worker).connectionList, client.worker = worker
  watched : ∀ registration ∈ (state.tables worker).epoll, ∀ client, registration.owner = some client →
    registration = client.registration ∧ client ∈ (state.tables worker).connectionList
  pending : ∀ ready ∈ (state.threads worker).rest, ready.registration ∈ (state.tables worker).epoll
  settled : (state.tables worker).mutex = none →
    (∀ client ∈ (state.tables worker).connectionList, client.registration ∈ (state.tables worker).epoll) ∧
      (state.tables worker).currentConnectionsCount.toNat = (state.tables worker).connectionList.length ∧
      (state.tables worker).totalConnectCount =
        (state.tables worker).totalDisconnectCount + UInt64.ofNat (state.tables worker).connectionList.length

theorem connections_bounded {state : State} (sound : Sound setting state) (worker : Nat) :
    (state.tables worker).connectionList.length < UInt64.size := by
  have apart : ((state.tables worker).connectionList.map (fun client => client.fd.toFin)).Nodup := by
    refine List.Nodup.map_on (fun first inside second among same => ?_) (sound.tables worker).nodup
    exact sound.distinct first (listed_object sound first inside) second (listed_object sound second among) (.inl (BitVec.eq_of_toFin_eq same))
  have short := apart.length_le_card
  rw [List.length_map, Fintype.card_fin] at short
  exact Nat.lt_of_le_of_lt short (by decide)

theorem sound_accounted {state : State} {worker : Nat} (sound : Sound setting state) (bound : worker < setting.count) :
    Accounted state worker := by
  have table := sound.tables worker
  refine ⟨fun client inside => (table.listed client inside).1, ?_, ?_, ?_⟩
  · intro registration inside client owner
    rcases table.owned registration inside with ⟨unowned, _⟩ | ⟨other, rfl⟩
    · rw [unowned] at owner
      cases owner
    · cases owner
      exact ⟨rfl, ((table.watched client).mp inside).1⟩
  · exact fun ready inside => (sound.threads worker bound).pending _ ((rest_due _).mem (List.mem_map_of_mem inside))
  · intro free
    have counted := table.counted
    have balanced := table.balanced
    have watched := table.watched
    rw [State.holder, free] at counted watched
    simp only [Option.elim_none, Phase.uncounted, UInt64.add_zero] at counted
    rw [counted] at balanced
    refine ⟨fun client inside => (watched client).mpr ⟨inside, nofun⟩, ?_, balanced⟩
    rw [counted, UInt64.toNat_ofNat_of_lt' (connections_bounded sound worker)]

theorem connections_accounted (setting : Setting) (events : List (Nat × Action)) (state : State)
    (run : Run (State.Steps setting) State.start events state) :
    state.fault = false ∧ (∀ worker, worker < setting.count → Accounted state worker) ∧
      ∀ place, place < state.assigned.length → state.assigned[place]? = some (place % setting.count) := by
  have sound := run_sound events state run
  exact ⟨sound.unfaulted, fun worker bound => sound_accounted sound bound, sound.robin.turns⟩

def sampleSetting : Setting where
  count := 2
  eventFd worker := if worker = 0 then 16 else 18
  timerFd worker := if worker = 0 then 17 else 19
  serverSocket := 4
  sslServerSocket := -1
  unsecureListener := true
  isSSL := false
  padding _ := 0
  eventFdMade worker := by split <;> decide
  timerFdMade worker := by split <;> decide

def sampleMask (hup : Bool) : Mask := ⟨true, false, false, hup, false⟩

def firstClient : Client := ⟨2, 20, 0x7f0000001010, 0, false⟩

def secondClient : Client := ⟨5, 21, 0x7f0000002010, 1, false⟩

-- The first worker accepts two clients; the second of them hangs up while it is
-- still being added to the second worker.
def sampleAccepts : List (Nat × Action) :=
  [(0, .start), (1, .start), (0, .epollWait [⟨⟨4, 4, none⟩, sampleMask false⟩]), (0, .handle), (0, .accept true),
    (0, .insert 20 firstClient.address), (0, .addToEpoll true), (0, .count), (0, .release), (0, .accept true),
    (0, .insert 21 secondClient.address), (0, .addToEpoll true), (1, .epollWait [⟨secondClient.registration, sampleMask true⟩]),
    (1, .handle), (1, .check), (0, .count), (1, .remove), (1, .remove), (1, .release)]

theorem sample_connections_accounted :
    ∃ state, perform (State.step sampleSetting) State.start sampleAccepts = some state ∧
      ((state.tables 0).mutex, (state.tables 0).connectionList, state.objects sampleSetting) =
        (none, [firstClient], [firstClient, secondClient]) ∧
      state.fault = false ∧ (state.tables 0).currentConnectionsCount.toNat = 1 := by
  have shown : (perform (State.step sampleSetting) State.start sampleAccepts).map
      (fun state => ((state.tables 0).mutex, (state.tables 0).connectionList, state.objects sampleSetting)) =
        some (none, [firstClient], [firstClient, secondClient]) := by
    decide +kernel
  obtain ⟨state, done, both⟩ := Option.map_eq_some_iff.mp shown
  obtain ⟨unfaulted, accounted, _⟩ := connections_accounted sampleSetting sampleAccepts state (perform_run _ _ _ _ done)
  refine ⟨state, done, both, unfaulted, ?_⟩
  obtain ⟨free, rest⟩ := Prod.mk.inj both
  rw [((accounted 0 (by decide)).settled free).2.1, (Prod.mk.inj rest).1]
  rfl

end Eventhub.Workers
