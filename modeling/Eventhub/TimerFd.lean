import Eventhub.EventLoop

set_option autoImplicit false

namespace Eventhub.Wakeup

open Transition (Run perform)

def nanosPerMilli : Nat := 1000000

-- The steady clock itself, of which _now() keeps the whole milliseconds.
structure SteadyClock where
  reading : Nat → Nat
  started : ∀ index, nanosPerMilli ≤ reading index
  nonDecreasing : Monotone reading

def SteadyClock.millis (clock : SteadyClock) : Clock where
  reading index := clock.reading index / nanosPerMilli
  positive index := Nat.div_pos (clock.started index) (Nat.succ_pos _)
  nonDecreasing _ _ earlier := Nat.div_le_div_right (clock.nonDecreasing earlier)

-- What the last timerfd_settime has programmed, in nanoseconds on the steady
-- clock; a zero itimerspec disarms.
structure TimerFd where
  armedAt : Nat
  expiry : Nat
deriving DecidableEq

-- Where a thread stands. Only the worker itself runs process.
inductive Phase where
  | idle
  | processed
  | added
  | holding (nextFire : Nat)
deriving DecidableEq

def Phase.inside : Phase → Bool
  | .idle => false
  | .processed => false
  | .added => true
  | .holding _ => true

structure Worker (Thread Callback : Type) where
  ev : EventLoop Callback
  timerFd : Option TimerFd
  phase : Thread → Phase

def Worker.start (Thread Callback : Type) : Worker Thread Callback := ⟨EventLoop.start Callback, none, fun _ => .idle⟩

inductive WorkerAct (Thread Callback : Type) where
  | addTimer (thread : Thread) (delay : Nat) (callback : Callback) (repeating : Bool)
  | process
  | readNextFire (thread : Thread)
  | settime (thread : Thread)

section

variable {Thread Callback : Type} [DecidableEq Thread] (owner : Thread) (clock : SteadyClock) (clears : List Callback → Callback → Bool)

def Worker.after (worker : Worker Thread Callback) (thread : Thread) (phase : Phase) (ev : EventLoop Callback) (timerFd : Option TimerFd) :
    Worker Thread Callback := ⟨ev, timerFd, Function.update worker.phase thread phase⟩

-- The rest of _armTimerFd, with the clock at now.
def armTimerFd (now nextFire : Nat) : Option TimerFd :=
  if nextFire = 0 then none
  else
    let delay := (nextFire - now / nanosPerMilli) * nanosPerMilli
    some ⟨now, now + if delay = 0 then 1 else delay⟩

def Worker.step (worker : Worker Thread Callback) : WorkerAct Thread Callback → Option (Worker Thread Callback)
  | .addTimer thread delay callback repeating =>
      if worker.phase thread = .idle then do
        let ev ← worker.ev.addTimer clock.millis delay callback repeating
        some (worker.after thread .added ev worker.timerFd)
      else none
  | .process =>
      if worker.phase owner = .idle then do
        let ev ← worker.ev.processTimers clock.millis clears
        some (worker.after owner .processed ev worker.timerFd)
      else none
  | .readNextFire thread =>
      if worker.phase thread = .added ∨ worker.phase thread = .processed then
        some (worker.after thread (.holding worker.ev.nextTimerFireTime) worker.ev worker.timerFd)
      else none
  | .settime thread =>
      match worker.phase thread with
      | .holding nextFire =>
          some (worker.after thread .idle { worker.ev with readings := worker.ev.readings + 1 }
            (armTimerFd (clock.reading worker.ev.readings) nextFire))
      | _ => none

def Outside (worker : Worker Thread Callback) : Prop := ∀ thread, (worker.phase thread).inside = false

-- The wake-up is not after any timer, but for the nanosecond that a timer gets
-- which is due when the timerfd is armed.
def InTime (worker : Worker Thread Callback) : Prop :=
  ∃ timerFd, worker.timerFd = some timerFd ∧
    ∀ timer ∈ worker.ev.timerQueue, timerFd.expiry ≤ max (timer.fireTime * nanosPerMilli) (timerFd.armedAt + 1)

def WakesInTime (worker : Worker Thread Callback) : Prop := Outside worker → worker.ev.timerQueue ≠ [] → InTime worker

-- The fire time that thread has read still serves: it is due, or with the part
-- of a millisecond that the clock shows it is not after the earliest timer.
def Serves (worker : Worker Thread Callback) (nextFire : Nat) : Prop :=
  let now := clock.reading worker.ev.readings
  nextFire ≠ 0 ∧ (nextFire ≤ now / nanosPerMilli ∨
    nextFire * nanosPerMilli + now % nanosPerMilli ≤ worker.ev.nextTimerFireTime * nanosPerMilli)

-- thread is the last one to leave.
def LastInside (worker : Worker Thread Callback) (thread : Thread) : Prop :=
  ∀ other, other ≠ thread → (worker.phase other).inside = false

omit [DecidableEq Thread] in
theorem in_time_earliest (worker : Worker Thread Callback) (armed : Armed worker.ev) (some : worker.ev.timerQueue ≠ [])
    (timerFd : TimerFd) :
    (∀ timer ∈ worker.ev.timerQueue, timerFd.expiry ≤ max (timer.fireTime * nanosPerMilli) (timerFd.armedAt + 1)) ↔
      timerFd.expiry ≤ max (worker.ev.nextTimerFireTime * nanosPerMilli) (timerFd.armedAt + 1) := by
  constructor
  · intro all
    have times : fireTimes worker.ev.timerQueue ≠ [] := fun empty => some (List.map_eq_nil_iff.mp empty)
    obtain ⟨timer, inside, same⟩ := List.mem_map.mp (armed.earliest.queued times)
    rw [← same]
    exact all timer inside
  · intro first timer inside
    have least := armed.earliest.least timer.fireTime (List.mem_map_of_mem inside)
    exact first.trans (max_le_max_right _ (Nat.mul_le_mul_right _ least))

theorem armed_expiry_iff (now nextFire earliest : Nat) :
    (∃ timerFd, armTimerFd now nextFire = some timerFd ∧ timerFd.expiry ≤ max (earliest * nanosPerMilli) (timerFd.armedAt + 1)) ↔
      nextFire ≠ 0 ∧ (nextFire ≤ now / nanosPerMilli ∨ nextFire * nanosPerMilli + now % nanosPerMilli ≤ earliest * nanosPerMilli) := by
  rw [armTimerFd]
  by_cases none : nextFire = 0
  · simp [none]
  · rw [if_neg none]
    simp only [Option.some.injEq, exists_eq_left', none, not_false_eq_true, ne_eq, true_and]
    rw [nanosPerMilli]
    by_cases due : nextFire ≤ now / 1000000
    · have waits : (nextFire - now / 1000000) * 1000000 = 0 := by omega
      rw [if_pos waits]
      exact iff_of_true (le_max_right _ _) (.inl due)
    · have waits : (nextFire - now / 1000000) * 1000000 ≠ 0 := by omega
      rw [if_neg waits, le_max_iff]
      omega

theorem passed_later (now : Nat) (called : List Callback) (before after : List (TimerCtx Callback)) (passed : Passed clears now called before after) :
    ∀ timer ∈ after, ∃ old ∈ before, old.fireTime ≤ timer.fireTime := by
  induction passed with
  | nil => exact fun _ inside => absurd inside List.not_mem_nil
  | kept called timer rest after early _ ih =>
      refine List.forall_mem_cons.mpr ⟨⟨timer, List.mem_cons_self, le_rfl⟩, fun other inside => ?_⟩
      obtain ⟨old, member, earlier⟩ := ih other inside
      exact ⟨old, List.mem_cons_of_mem _ member, earlier⟩
  | rearmed called timer fireTime rest after due again spaced _ ih =>
      refine List.forall_mem_cons.mpr ⟨⟨timer, List.mem_cons_self, by simp only; omega⟩, fun other inside => ?_⟩
      obtain ⟨old, member, earlier⟩ := ih other inside
      exact ⟨old, List.mem_cons_of_mem _ member, earlier⟩
  | erased called timer rest after due last _ ih =>
      intro other inside
      obtain ⟨old, member, earlier⟩ := ih other inside
      exact ⟨old, List.mem_cons_of_mem _ member, earlier⟩

theorem after_self (worker : Worker Thread Callback) (thread : Thread) (phase : Phase) (ev : EventLoop Callback) (timerFd : Option TimerFd) :
    (worker.after thread phase ev timerFd).phase thread = phase := Function.update_self ..

theorem after_other (worker : Worker Thread Callback) (thread other : Thread) (phase : Phase) (ev : EventLoop Callback)
    (timerFd : Option TimerFd) (different : other ≠ thread) : (worker.after thread phase ev timerFd).phase other = worker.phase other :=
  Function.update_of_ne different ..

theorem after_outside_iff (worker : Worker Thread Callback) (thread : Thread) (phase : Phase) (ev : EventLoop Callback)
    (timerFd : Option TimerFd) : Outside (worker.after thread phase ev timerFd) ↔ phase.inside = false ∧ LastInside worker thread := by
  constructor
  · intro outside
    have here := outside thread
    rw [after_self] at here
    refine ⟨here, fun other different => ?_⟩
    have there := outside other
    rwa [after_other worker thread other phase ev timerFd different] at there
  · rintro ⟨here, last⟩ other
    by_cases same : other = thread
    · rw [same, after_self]
      exact here
    · rw [after_other worker thread other phase ev timerFd same]
      exact last other same

inductive Stepped (worker : Worker Thread Callback) : WorkerAct Thread Callback → Worker Thread Callback → Prop where
  | addTimer (thread : Thread) (delay : Nat) (callback : Callback) (repeating : Bool) (ev : EventLoop Callback)
      (added : worker.ev.addTimer clock.millis delay callback repeating = some ev) :
      Stepped worker (.addTimer thread delay callback repeating) (worker.after thread .added ev worker.timerFd)
  | process (ev : EventLoop Callback) (idle : worker.phase owner = .idle)
      (processed : worker.ev.processTimers clock.millis clears = some ev) :
      Stepped worker .process (worker.after owner .processed ev worker.timerFd)
  | readNextFire (thread : Thread) :
      Stepped worker (.readNextFire thread) (worker.after thread (.holding worker.ev.nextTimerFireTime) worker.ev worker.timerFd)
  | settime (thread : Thread) (nextFire : Nat) (held : worker.phase thread = .holding nextFire) :
      Stepped worker (.settime thread) (worker.after thread .idle { worker.ev with readings := worker.ev.readings + 1 }
        (armTimerFd (clock.reading worker.ev.readings) nextFire))

theorem step_cases (worker next : Worker Thread Callback) (act : WorkerAct Thread Callback)
    (taken : worker.step owner clock clears act = some next) : Stepped owner clock clears worker act next := by
  cases act with
  | addTimer thread delay callback repeating =>
      rw [Worker.step] at taken
      split at taken
      · obtain ⟨ev, added, same⟩ := Option.bind_eq_some_iff.mp taken
        cases same
        exact .addTimer thread delay callback repeating ev added
      · cases taken
  | process =>
      rw [Worker.step] at taken
      split at taken
      · rename_i idle
        obtain ⟨ev, processed, same⟩ := Option.bind_eq_some_iff.mp taken
        cases same
        exact .process ev idle processed
      · cases taken
  | readNextFire thread =>
      rw [Worker.step] at taken
      split at taken
      · cases taken
        exact .readNextFire thread
      · cases taken
  | settime thread =>
      rw [Worker.step] at taken
      split at taken
      · rename_i nextFire held
        cases taken
        exact .settime thread nextFire held
      · cases taken

theorem step_keeps_armed (worker next : Worker Thread Callback) (act : WorkerAct Thread Callback) (armed : Armed worker.ev)
    (taken : worker.step owner clock clears act = some next) : Armed next.ev := by
  cases step_cases owner clock clears worker next act taken with
  | addTimer thread delay callback repeating ev added =>
      exact step_armed clock.millis clears worker.ev ev (.addTimer delay callback repeating) armed added
  | process ev idle processed => exact step_armed clock.millis clears worker.ev ev .processTimers armed processed
  | readNextFire thread => exact armed
  | settime thread nextFire held => exact ⟨armed.positive, armed.earliest⟩

theorem settime_in_time_iff (worker : Worker Thread Callback) (armed : Armed worker.ev) (some : worker.ev.timerQueue ≠ []) (thread : Thread)
    (nextFire : Nat) :
    InTime (worker.after thread .idle { worker.ev with readings := worker.ev.readings + 1 }
      (armTimerFd (clock.reading worker.ev.readings) nextFire)) ↔ Serves clock worker nextFire := by
  rw [InTime, Serves, ← armed_expiry_iff]
  exact exists_congr (fun timerFd => and_congr_right (fun _ => in_time_earliest worker armed some timerFd))

theorem step_wakes (worker next : Worker Thread Callback) (act : WorkerAct Thread Callback) (armed : Armed worker.ev)
    (wakes : WakesInTime worker) (taken : worker.step owner clock clears act = some next)
    (serves : ∀ thread nextFire, act = .settime thread → worker.phase thread = .holding nextFire → LastInside worker thread →
      worker.ev.timerQueue ≠ [] → Serves clock worker nextFire) : WakesInTime next := by
  intro outside some
  cases step_cases owner clock clears worker next act taken with
  | addTimer thread delay callback repeating ev added => cases ((after_outside_iff ..).mp outside).1
  | process ev idle processed =>
      have later := passed_later clears _ _ _ _ (process_passed clock.millis clears worker.ev ev armed processed).2.1
      have before : Outside worker := by
        intro thread
        by_cases same : thread = owner
        · rw [same, idle]
          rfl
        · exact ((after_outside_iff ..).mp outside).2 thread same
      obtain ⟨first, queued⟩ := List.exists_mem_of_ne_nil _ some
      obtain ⟨old, member, _⟩ := later first queued
      obtain ⟨timerFd, programmed, all⟩ := wakes before (List.ne_nil_of_mem member)
      refine ⟨timerFd, programmed, fun timer inside => ?_⟩
      obtain ⟨old, member, earlier⟩ := later timer inside
      exact (all old member).trans (max_le_max_right _ (Nat.mul_le_mul_right _ earlier))
  | readNextFire thread => cases ((after_outside_iff ..).mp outside).1
  | settime thread nextFire held =>
      have last := ((after_outside_iff ..).mp outside).2
      exact (settime_in_time_iff clock worker armed some thread nextFire).mpr (serves thread nextFire rfl held last some)

def Reaches (acts : List (WorkerAct Thread Callback)) (worker : Worker Thread Callback) : Prop :=
  Run (fun before act after => before.step owner clock clears act = some after) (Worker.start Thread Callback) acts worker

theorem reached_armed (acts : List (WorkerAct Thread Callback)) (worker : Worker Thread Callback)
    (reached : Reaches owner clock clears acts worker) : Armed worker.ev :=
  Transition.run_invariant _ (fun _ worker => Armed worker.ev) _ ⟨fun _ inside => absurd inside List.not_mem_nil, earliest_empty⟩
    (fun _ act before after armed taken => step_keeps_armed owner clock clears before after act armed taken) acts worker reached

theorem wakes_in_time_iff (acts : List (WorkerAct Thread Callback)) :
    (∀ before after worker, acts = before ++ after → Reaches owner clock clears before worker → WakesInTime worker) ↔
      ∀ before thread after worker nextFire, acts = before ++ .settime thread :: after → Reaches owner clock clears before worker →
        worker.phase thread = .holding nextFire → LastInside worker thread → worker.ev.timerQueue ≠ [] → Serves clock worker nextFire := by
  constructor
  · intro wakes before thread after worker nextFire split reached held last some
    have taken : worker.step owner clock clears (.settime thread) = Option.some (worker.after thread .idle
        { worker.ev with readings := worker.ev.readings + 1 } (armTimerFd (clock.reading worker.ev.readings) nextFire)) := by
      simp only [Worker.step, held]
    have left : Reaches owner clock clears (before ++ [.settime thread]) _ := Run.snoc before (.settime thread) worker _ reached taken
    have next := wakes (before ++ [.settime thread]) after _ (by rw [split, List.append_assoc, List.singleton_append]) left
    exact (settime_in_time_iff clock worker (reached_armed owner clock clears before worker reached) some thread nextFire).mp
      (next ((after_outside_iff ..).mpr ⟨rfl, last⟩) some)
  · intro serves before after worker split reached
    induction reached generalizing after with
    | nil => exact fun _ some => absurd rfl some
    | snoc earlier act middle last reached taken ih =>
        rw [List.append_assoc, List.singleton_append] at split
        refine step_wakes owner clock clears middle last act (reached_armed owner clock clears earlier middle reached)
          (ih (act :: after) split) taken ?_
        rintro thread nextFire rfl
        exact serves earlier thread after middle nextFire split reached

end

def wholeSecond : SteadyClock := ⟨fun _ => 1000 * nanosPerMilli, fun _ => by decide, fun _ _ _ => le_rfl⟩

-- The worker has read the fire time of its own timer, when another thread adds
-- an earlier one and arms the timerfd for it.
def overtaken : List (WorkerAct Bool Nat) :=
  [.addTimer true 100 1 false, .readNextFire true, .settime true, .process, .readNextFire true,
    .addTimer false 50 2 false, .readNextFire false, .settime false, .settime true]

theorem earlier_timer_overslept :
    ∃ worker, Reaches true wholeSecond (fun _ _ => false) overtaken worker ∧ Outside worker ∧
      fireTimes worker.ev.timerQueue = [1100, 1050] ∧ worker.timerFd = some ⟨1000 * nanosPerMilli, 1100 * nanosPerMilli⟩ ∧ ¬ InTime worker := by
  have observed : (perform (Worker.step true wholeSecond (fun _ _ => false)) (Worker.start Bool Nat) overtaken).map (fun worker =>
      (worker.phase true, worker.phase false, fireTimes worker.ev.timerQueue, worker.timerFd)) =
        some (.idle, .idle, [1100, 1050], some ⟨1000 * nanosPerMilli, 1100 * nanosPerMilli⟩) := by decide +kernel
  obtain ⟨worker, done, same⟩ := Option.map_eq_some_iff.mp observed
  simp only [Prod.mk.injEq] at same
  obtain ⟨ownerIdle, otherIdle, times, programmed⟩ := same
  refine ⟨worker, Transition.perform_run _ _ _ _ done, ?_, times, programmed, ?_⟩
  · intro thread
    cases thread with
    | true => rw [ownerIdle]; rfl
    | false => rw [otherIdle]; rfl
  · rintro ⟨timerFd, armed, all⟩
    rw [programmed] at armed
    cases armed
    obtain ⟨timer, inside, fires⟩ : ∃ timer ∈ worker.ev.timerQueue, timer.fireTime = 1050 :=
      List.mem_map.mp (show 1050 ∈ fireTimes worker.ev.timerQueue by rw [times]; decide)
    have late := all timer inside
    rw [fires] at late
    revert late
    decide

end Eventhub.Wakeup
