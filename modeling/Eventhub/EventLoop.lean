import Eventhub.Lib.Transition

set_option autoImplicit false

namespace Eventhub

-- Times are milliseconds on the steady clock.
structure TimerCtx (Callback : Type) where
  fireTime : Nat
  repeatDelay : Nat
  callback : Callback
  repeating : Bool

-- The successive results of _now(), taken anywhere in the loop.
structure Clock where
  reading : Nat → Nat
  positive : ∀ index, 0 < reading index
  nonDecreasing : Monotone reading

structure EventLoop (Callback : Type) where
  timerQueue : List (TimerCtx Callback)
  nextTimerFireTime : Nat
  readings : Nat
  called : List Callback

def EventLoop.start (Callback : Type) : EventLoop Callback := ⟨[], 0, 0, []⟩

-- std::chrono::milliseconds has 64 bits; a sum beyond them is undefined.
def plusMilliseconds (time delay : Nat) : Option Nat := if time + delay < 2 ^ 63 then some (time + delay) else none

def decreaseNextFiretimeIfLess (nextTimerFireTime fireTime : Nat) : Nat :=
  if nextTimerFireTime = 0 ∨ nextTimerFireTime > fireTime then fireTime else nextTimerFireTime

section

variable {Callback : Type} (clock : Clock) (clears : List Callback → Callback → Bool)

-- The loop of processTimers over what is left of the queue; loop holds the
-- timers that it has already been past. clears says whether a callback, called
-- after those others, clears the repeat flag of its timer.
def timerLoop (now : Nat) : EventLoop Callback → List (TimerCtx Callback) → Option (EventLoop Callback)
  | loop, [] => some loop
  | loop, timerTask :: rest =>
      if timerTask.fireTime ≤ now then
        let ran := { loop with called := loop.called ++ [timerTask.callback] }
        if timerTask.repeating && !clears loop.called timerTask.callback then do
          let fireTime ← plusMilliseconds (clock.reading loop.readings) timerTask.repeatDelay
          timerLoop now
            { ran with
              timerQueue := loop.timerQueue ++ [{ timerTask with fireTime := fireTime }]
              nextTimerFireTime := decreaseNextFiretimeIfLess loop.nextTimerFireTime fireTime
              readings := loop.readings + 1 } rest
        else timerLoop now ran rest
      else
        timerLoop now
          { loop with
            timerQueue := loop.timerQueue ++ [timerTask]
            nextTimerFireTime := decreaseNextFiretimeIfLess loop.nextTimerFireTime timerTask.fireTime } rest

def EventLoop.processTimers (loop : EventLoop Callback) : Option (EventLoop Callback) :=
  let now := clock.reading loop.readings
  if loop.timerQueue = [] ∨ loop.nextTimerFireTime > now then some { loop with readings := loop.readings + 1 }
  else timerLoop clock clears now { loop with timerQueue := [], nextTimerFireTime := 0, readings := loop.readings + 1 } loop.timerQueue

def EventLoop.addTimer (loop : EventLoop Callback) (delay : Nat) (callback : Callback) (repeating : Bool) : Option (EventLoop Callback) := do
  let fireTime ← plusMilliseconds (clock.reading loop.readings) delay
  some { loop with
    timerQueue := loop.timerQueue ++ [⟨fireTime, delay, callback, repeating⟩]
    nextTimerFireTime := decreaseNextFiretimeIfLess loop.nextTimerFireTime fireTime
    readings := loop.readings + 1 }

inductive TimerAct (Callback : Type) where
  | addTimer (delay : Nat) (callback : Callback) (repeating : Bool)
  | processTimers

def EventLoop.step (loop : EventLoop Callback) : TimerAct Callback → Option (EventLoop Callback)
  | .addTimer delay callback repeating => loop.addTimer clock delay callback repeating
  | .processTimers => loop.processTimers clock clears

-- The cached minimum of the fire times, with zero for none.
structure Earliest (next : Nat) (times : List Nat) : Prop where
  sentinel : next = 0 ↔ times = []
  queued : times ≠ [] → next ∈ times
  least : ∀ time ∈ times, next ≤ time

def fireTimes (queue : List (TimerCtx Callback)) : List Nat := queue.map TimerCtx.fireTime

def dueTimers (now : Nat) (queue : List (TimerCtx Callback)) : List (TimerCtx Callback) :=
  queue.filter (fun timer => timer.fireTime ≤ now)

theorem due_cons (now : Nat) (timer : TimerCtx Callback) (rest : List (TimerCtx Callback)) (due : timer.fireTime ≤ now) :
    dueTimers now (timer :: rest) = timer :: dueTimers now rest := List.filter_cons_of_pos (decide_eq_true due)

theorem early_cons (now : Nat) (timer : TimerCtx Callback) (rest : List (TimerCtx Callback)) (early : now < timer.fireTime) :
    dueTimers now (timer :: rest) = dueTimers now rest := List.filter_cons_of_neg (by simpa using early)

inductive Passed (now : Nat) : List Callback → List (TimerCtx Callback) → List (TimerCtx Callback) → Prop where
  | nil (called : List Callback) : Passed now called [] []
  | kept (called : List Callback) (timer : TimerCtx Callback) (rest after : List (TimerCtx Callback)) (early : now < timer.fireTime)
      (later : Passed now called rest after) : Passed now called (timer :: rest) (timer :: after)
  | rearmed (called : List Callback) (timer : TimerCtx Callback) (fireTime : Nat) (rest after : List (TimerCtx Callback))
      (due : timer.fireTime ≤ now) (again : timer.repeating = true ∧ clears called timer.callback = false)
      (spaced : now + timer.repeatDelay ≤ fireTime) (later : Passed now (called ++ [timer.callback]) rest after) :
      Passed now called (timer :: rest) ({ timer with fireTime := fireTime } :: after)
  | erased (called : List Callback) (timer : TimerCtx Callback) (rest after : List (TimerCtx Callback)) (due : timer.fireTime ≤ now)
      (last : timer.repeating = false ∨ clears called timer.callback = true)
      (later : Passed now (called ++ [timer.callback]) rest after) : Passed now called (timer :: rest) after

theorem earliest_empty : Earliest 0 [] :=
  ⟨⟨fun _ => rfl, fun _ => rfl⟩, fun nonempty => absurd rfl nonempty, fun _ inside => absurd inside List.not_mem_nil⟩

theorem decrease_earliest (next fireTime : Nat) (times : List Nat) (positive : 0 < fireTime) (earliest : Earliest next times) :
    Earliest (decreaseNextFiretimeIfLess next fireTime) (times ++ [fireTime]) := by
  have nonempty : times ++ [fireTime] ≠ [] := List.append_ne_nil_of_right_ne_nil _ (List.cons_ne_nil _ _)
  rw [decreaseNextFiretimeIfLess]
  by_cases earlier : next = 0 ∨ next > fireTime
  · rw [if_pos earlier]
    refine ⟨⟨fun zero => absurd zero (by omega), fun empty => absurd empty nonempty⟩, fun _ => List.mem_append_right times List.mem_cons_self, ?_⟩
    intro time inside
    rcases List.mem_append.mp inside with before | last
    · rcases earlier with zero | above
      · rw [earliest.sentinel.mp zero] at before
        cases before
      · have := earliest.least time before
        omega
    · rw [List.mem_singleton.mp last]
  · rw [if_neg earlier]
    obtain ⟨nonzero, below⟩ := not_or.mp earlier
    have some : times ≠ [] := fun empty => nonzero (earliest.sentinel.mpr empty)
    refine ⟨⟨fun zero => absurd zero nonzero, fun empty => absurd empty nonempty⟩, fun _ => List.mem_append_left _ (earliest.queued some), ?_⟩
    intro time inside
    rcases List.mem_append.mp inside with before | last
    · exact earliest.least time before
    · rw [List.mem_singleton.mp last]
      omega

theorem sum_fits (time delay sum : Nat) (fits : plusMilliseconds time delay = some sum) : sum = time + delay := by
  rw [plusMilliseconds] at fits
  split at fits
  · exact (Option.some.inj fits).symm
  · cases fits

inductive Iteration (now : Nat) (loop : EventLoop Callback) (timer : TimerCtx Callback) : EventLoop Callback → Prop where
  | rearmed (due : timer.fireTime ≤ now) (again : timer.repeating = true ∧ clears loop.called timer.callback = false) :
      Iteration now loop timer
        { timerQueue := loop.timerQueue ++ [{ timer with fireTime := clock.reading loop.readings + timer.repeatDelay }]
          nextTimerFireTime := decreaseNextFiretimeIfLess loop.nextTimerFireTime (clock.reading loop.readings + timer.repeatDelay)
          readings := loop.readings + 1
          called := loop.called ++ [timer.callback] }
  | erased (due : timer.fireTime ≤ now) (last : timer.repeating = false ∨ clears loop.called timer.callback = true) :
      Iteration now loop timer { loop with called := loop.called ++ [timer.callback] }
  | kept (early : now < timer.fireTime) :
      Iteration now loop timer
        { loop with
          timerQueue := loop.timerQueue ++ [timer]
          nextTimerFireTime := decreaseNextFiretimeIfLess loop.nextTimerFireTime timer.fireTime }

theorem timer_loop_cons (now : Nat) (loop after : EventLoop Callback) (timer : TimerCtx Callback) (rest : List (TimerCtx Callback))
    (done : timerLoop clock clears now loop (timer :: rest) = some after) :
    ∃ next, Iteration clock clears now loop timer next ∧ timerLoop clock clears now next rest = some after := by
  rw [timerLoop] at done
  by_cases due : timer.fireTime ≤ now
  · rw [if_pos due] at done
    dsimp only at done
    by_cases again : (timer.repeating && !clears loop.called timer.callback) = true
    · rw [if_pos again] at done
      obtain ⟨fireTime, fits, later⟩ := Option.bind_eq_some_iff.mp done
      rw [Bool.and_eq_true, Bool.not_eq_true'] at again
      cases sum_fits _ _ _ fits
      exact ⟨_, .rearmed due again, later⟩
    · rw [if_neg again] at done
      refine ⟨_, .erased due ?_, done⟩
      cases repeating : timer.repeating with
      | false => exact .inl rfl
      | true =>
          rw [repeating, Bool.true_and, Bool.not_eq_true', Bool.not_eq_false] at again
          exact .inr again
  · rw [if_neg due] at done
    exact ⟨_, .kept (Nat.lt_of_not_le due), done⟩

structure Armed (loop : EventLoop Callback) : Prop where
  positive : ∀ timer ∈ loop.timerQueue, 0 < timer.fireTime
  earliest : Earliest loop.nextTimerFireTime (fireTimes loop.timerQueue)

theorem armed_append (loop after : EventLoop Callback) (timer : TimerCtx Callback) (armed : Armed loop) (positive : 0 < timer.fireTime)
    (queue : after.timerQueue = loop.timerQueue ++ [timer])
    (next : after.nextTimerFireTime = decreaseNextFiretimeIfLess loop.nextTimerFireTime timer.fireTime) : Armed after := by
  constructor
  · rw [queue]
    exact List.forall_mem_append.mpr ⟨armed.positive, List.forall_mem_singleton.mpr positive⟩
  · rw [queue, next, fireTimes, List.map_append]
    exact decrease_earliest _ _ _ positive armed.earliest

theorem iteration_armed (now : Nat) (loop next : EventLoop Callback) (timer : TimerCtx Callback) (armed : Armed loop)
    (positive : 0 < timer.fireTime) (iteration : Iteration clock clears now loop timer next) : Armed next := by
  cases iteration with
  | rearmed due again =>
      have later := clock.positive loop.readings
      exact armed_append loop _ { timer with fireTime := clock.reading loop.readings + timer.repeatDelay } armed (Nat.add_pos_left later _) rfl rfl
  | erased due last => exact ⟨armed.positive, armed.earliest⟩
  | kept early => exact armed_append loop _ timer armed positive rfl rfl

theorem timer_loop_armed (now : Nat) (queue : List (TimerCtx Callback)) (loop after : EventLoop Callback) (armed : Armed loop)
    (positive : ∀ timer ∈ queue, 0 < timer.fireTime) (done : timerLoop clock clears now loop queue = some after) : Armed after := by
  induction queue generalizing loop with
  | nil =>
      cases done
      exact armed
  | cons timer rest ih =>
      rw [List.forall_mem_cons] at positive
      obtain ⟨next, iteration, later⟩ := timer_loop_cons clock clears now loop after timer rest done
      exact ih next (iteration_armed clock clears now loop next timer armed positive.1 iteration) positive.2 later

theorem timer_loop_passed (now : Nat) (queue : List (TimerCtx Callback)) (loop after : EventLoop Callback)
    (current : now ≤ clock.reading loop.readings) (done : timerLoop clock clears now loop queue = some after) :
    (∃ remaining, after.timerQueue = loop.timerQueue ++ remaining ∧ Passed clears now loop.called queue remaining) ∧
      after.called = loop.called ++ (dueTimers now queue).map TimerCtx.callback := by
  induction queue generalizing loop with
  | nil =>
      cases done
      exact ⟨⟨[], (List.append_nil _).symm, .nil _⟩, (List.append_nil _).symm⟩
  | cons timer rest ih =>
      obtain ⟨next, iteration, later⟩ := timer_loop_cons clock clears now loop after timer rest done
      cases iteration with
      | rearmed due again =>
          obtain ⟨⟨remaining, queued, passed⟩, called⟩ := ih _ (current.trans (clock.nonDecreasing (Nat.le_succ _))) later
          refine ⟨⟨_ :: remaining, by rw [queued, List.append_assoc]; rfl, ?_⟩, ?_⟩
          · exact .rearmed loop.called timer _ rest remaining due again (Nat.add_le_add_right current _) passed
          · rw [called, due_cons now timer rest due, List.map_cons, List.append_assoc]
            rfl
      | erased due last =>
          obtain ⟨⟨remaining, queued, passed⟩, called⟩ := ih _ (by exact current) later
          refine ⟨⟨remaining, queued, .erased loop.called timer rest remaining due last passed⟩, ?_⟩
          rw [called, due_cons now timer rest due, List.map_cons, List.append_assoc]
          rfl
      | kept early =>
          obtain ⟨⟨remaining, queued, passed⟩, called⟩ := ih _ (by exact current) later
          refine ⟨⟨timer :: remaining, by rw [queued, List.append_assoc]; rfl, .kept loop.called timer rest remaining early passed⟩, ?_⟩
          rw [called, early_cons now timer rest early]

theorem timer_loop_defined (now : Nat) (queue : List (TimerCtx Callback)) (loop : EventLoop Callback)
    (fits : ∀ index, ∀ timer ∈ queue, clock.reading index + timer.repeatDelay < 2 ^ 63) :
    ∃ after, timerLoop clock clears now loop queue = some after := by
  induction queue generalizing loop with
  | nil => exact ⟨loop, rfl⟩
  | cons timer rest ih =>
      have later := fun loop => ih loop (fun index other inside => fits index other (List.mem_cons_of_mem timer inside))
      rw [timerLoop]
      split
      · dsimp only
        split
        · rw [plusMilliseconds, if_pos (fits _ timer List.mem_cons_self)]
          exact later _
        · exact later _
      · exact later _

theorem early_passed (now : Nat) (called : List Callback) (queue : List (TimerCtx Callback)) (early : ∀ timer ∈ queue, now < timer.fireTime) :
    Passed clears now called queue queue ∧ dueTimers now queue = [] := by
  induction queue with
  | nil => exact ⟨.nil called, rfl⟩
  | cons timer rest ih =>
      rw [List.forall_mem_cons] at early
      obtain ⟨passed, none⟩ := ih early.2
      exact ⟨.kept called timer rest rest early.1 passed, (early_cons now timer rest early.1).trans none⟩

theorem process_passed (loop after : EventLoop Callback) (armed : Armed loop) (done : loop.processTimers clock clears = some after) :
    Armed after ∧ Passed clears (clock.reading loop.readings) loop.called loop.timerQueue after.timerQueue ∧
      after.called = loop.called ++ (dueTimers (clock.reading loop.readings) loop.timerQueue).map TimerCtx.callback := by
  rw [EventLoop.processTimers] at done
  by_cases idle : loop.timerQueue = [] ∨ loop.nextTimerFireTime > clock.reading loop.readings
  · rw [if_pos idle] at done
    cases done
    have early : ∀ timer ∈ loop.timerQueue, clock.reading loop.readings < timer.fireTime := by
      intro timer inside
      rcases idle with empty | ahead
      · rw [empty] at inside
        cases inside
      · exact Nat.lt_of_lt_of_le ahead (armed.earliest.least _ (List.mem_map_of_mem inside))
    obtain ⟨passed, none⟩ := early_passed clears _ loop.called loop.timerQueue early
    refine ⟨⟨armed.positive, armed.earliest⟩, passed, ?_⟩
    rw [none]
    exact (List.append_nil _).symm
  · rw [if_neg idle] at done
    have blank : Armed { loop with timerQueue := [], nextTimerFireTime := 0, readings := loop.readings + 1 } :=
      ⟨fun _ inside => absurd inside List.not_mem_nil, earliest_empty⟩
    obtain ⟨⟨remaining, queued, passed⟩, called⟩ :=
      timer_loop_passed clock clears _ loop.timerQueue _ after (clock.nonDecreasing (Nat.le_succ _)) done
    rw [queued]
    exact ⟨timer_loop_armed clock clears _ loop.timerQueue _ after blank armed.positive done, passed, called⟩

theorem step_armed (loop after : EventLoop Callback) (act : TimerAct Callback) (armed : Armed loop)
    (taken : loop.step clock clears act = some after) : Armed after := by
  cases act with
  | addTimer delay callback repeating =>
      obtain ⟨fireTime, fits, added⟩ := Option.bind_eq_some_iff.mp taken
      cases added
      have later := clock.positive loop.readings
      rw [sum_fits _ _ _ fits]
      exact armed_append loop _ ⟨clock.reading loop.readings + delay, delay, callback, repeating⟩ armed (Nat.add_pos_left later _) rfl rfl
  | processTimers => exact (process_passed clock clears loop after armed taken).1

theorem timers_run_exactly (acts : List (TimerAct Callback)) (loop : EventLoop Callback)
    (run : Transition.Run (fun before act after => before.step clock clears act = some after) (EventLoop.start Callback) acts loop) :
    Earliest loop.nextTimerFireTime (fireTimes loop.timerQueue) ∧
      (∀ after, loop.processTimers clock clears = some after →
        Passed clears (clock.reading loop.readings) loop.called loop.timerQueue after.timerQueue ∧
          after.called = loop.called ++ (dueTimers (clock.reading loop.readings) loop.timerQueue).map TimerCtx.callback) ∧
      ((∀ index, ∀ timer ∈ loop.timerQueue, clock.reading index + timer.repeatDelay < 2 ^ 63) →
        ∃ after, loop.processTimers clock clears = some after) := by
  have armed : Armed loop := Transition.run_invariant _ (fun _ => Armed) _
    ⟨fun _ inside => absurd inside List.not_mem_nil, earliest_empty⟩
    (fun _ act before after armed taken => step_armed clock clears before after act armed taken) acts loop run
  refine ⟨armed.earliest, fun after done => (process_passed clock clears loop after armed done).2, fun fits => ?_⟩
  rw [EventLoop.processTimers]
  split
  · exact ⟨_, rfl⟩
  · exact timer_loop_defined clock clears _ loop.timerQueue _ fits

end

def tickingClock : Clock := ⟨fun index => index + 1, Nat.succ_pos, fun _ _ => Nat.succ_le_succ⟩

def sampleActs : List (TimerAct Nat) := [.addTimer 1 10 true, .addTimer 0 11 false, .addTimer 9 12 false]

def sampleLoop : EventLoop Nat := ⟨[⟨2, 1, 10, true⟩, ⟨2, 0, 11, false⟩, ⟨12, 9, 12, false⟩], 2, 3, []⟩

theorem sample_timers_run :
    Transition.perform (EventLoop.step tickingClock (fun _ _ => false)) (EventLoop.start Nat) sampleActs = some sampleLoop ∧
      sampleLoop.processTimers tickingClock (fun _ _ => false) = some ⟨[⟨6, 1, 10, true⟩, ⟨12, 9, 12, false⟩], 6, 5, [10, 11]⟩ ∧
      Earliest sampleLoop.nextTimerFireTime (fireTimes sampleLoop.timerQueue) :=
  ⟨rfl, rfl, (timers_run_exactly tickingClock (fun _ _ => false) sampleActs sampleLoop (Transition.perform_run _ _ _ _ rfl)).1⟩

end Eventhub
