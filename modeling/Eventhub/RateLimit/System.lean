import Eventhub.Lib.Transition
import Eventhub.Redis.Keys

set_option autoImplicit false

namespace Eventhub.RateLimit

open Redis

structure Limit where
  topic : Bytes
  subject : Bytes
  interval : Nat
  max : Nat
deriving DecidableEq

def Limit.key (keyspace : Bytes) (limit : Limit) : Bytes := rateLimitPath keyspace limit.subject limit.topic

-- Where a publish request stands between two commands: GET in isRateLimited,
-- then GET and INCR or SETEX in incrementLimitCount.
inductive Pc where
  | entered
  | refused
  | passed
  | present
  | absent
  | admitted
deriving DecidableEq

def isRateLimited (keyspace : Bytes) (now : Nat) (db : Db) (limit : Limit) : Bool :=
  if limit.max = 0 then false
  else
    match db.counter now (limit.key keyspace) with
    | none => false
    | some counter => limit.max ≤ counter.value

def limitStep (keyspace : Bytes) (now : Nat) (db : Db) (limit : Limit) : Pc → Db × Pc
  | .entered => (db, if isRateLimited keyspace now db limit then .refused else .passed)
  | .passed =>
      if limit.interval = 0 then (db, .admitted)
      else (db, if (db.counter now (limit.key keyspace)).isSome then .present else .absent)
  | .present => ((db.incr now (limit.key keyspace)).1, .admitted)
  | .absent => (db.setex now (limit.key keyspace) limit.interval 1, .admitted)
  | .refused => (db, .refused)
  | .admitted => (db, .admitted)

-- Ghost state: how many publishes the key has counted since it was created,
-- and when it counted the last one.
structure Window where
  admitted : Nat
  last : Nat

def Window.grown (window : Window) (now : Nat) (existed : Bool) : Window := ⟨if existed then window.admitted + 1 else 1, now⟩

structure World where
  now : Nat
  db : Db
  calls : List (Limit × Pc)
  windows : Bytes → Window

def World.start (now : Nat) : World := ⟨now, Db.empty, [], fun _ => ⟨0, now⟩⟩

inductive Event where
  | tick (elapsed : Nat)
  | call (limit : Limit)
  | advance (index : Nat)

def Pc.counts : Pc → Bool
  | .present => true
  | .absent => true
  | _ => false

def World.step (keyspace : Bytes) (world : World) : Event → World
  | .tick elapsed => { world with now := world.now + elapsed }
  | .call limit => { world with calls := world.calls ++ [(limit, .entered)] }
  | .advance index =>
      match world.calls[index]? with
      | none => world
      | some (limit, pc) =>
          let moved := limitStep keyspace world.now world.db limit pc
          let key := limit.key keyspace
          { world with
            db := moved.1
            calls := world.calls.set index (limit, moved.2)
            windows :=
              if pc.counts then
                Function.update world.windows key ((world.windows key).grown world.now (world.db.counter world.now key).isSome)
              else world.windows }

inductive Counted (keyspace : Bytes) (world : World) (limit : Limit) : Pc → Counter → Prop where
  | raised (counter : Counter) (alive : world.db.counter world.now (limit.key keyspace) = some counter) :
      Counted keyspace world limit .present { counter with value := counter.value + 1 }
  | created (missing : world.db.counter world.now (limit.key keyspace) = none) : Counted keyspace world limit .present ⟨1, none⟩
  | set : Counted keyspace world limit .absent ⟨1, some (world.now + limit.interval * 1000)⟩

inductive Moved (keyspace : Bytes) (before : World) : Event → World → Prop where
  | tick (elapsed : Nat) : Moved keyspace before (.tick elapsed) { before with now := before.now + elapsed }
  | call (limit : Limit) : Moved keyspace before (.call limit) { before with calls := before.calls ++ [(limit, .entered)] }
  | skipped (index : Nat) : Moved keyspace before (.advance index) before
  | asked (index : Nat) (limit : Limit) (pc next : Pc) (found : before.calls[index]? = some (limit, pc)) (reads : pc.counts = false)
      (move : limitStep keyspace before.now before.db limit pc = (before.db, next)) :
      Moved keyspace before (.advance index) { before with calls := before.calls.set index (limit, next) }
  | counted (index : Nat) (limit : Limit) (pc : Pc) (next : Counter) (found : before.calls[index]? = some (limit, pc))
      (command : Counted keyspace before limit pc next) :
      Moved keyspace before (.advance index)
        { before with
          db := { before.db with counters := Function.update before.db.counters (limit.key keyspace) (some next) }
          calls := before.calls.set index (limit, .admitted)
          windows := Function.update before.windows (limit.key keyspace) ((before.windows (limit.key keyspace)).grown before.now
            (before.db.counter before.now (limit.key keyspace)).isSome) }

theorem world_moves (keyspace : Bytes) (world : World) (event : Event) : Moved keyspace world event (world.step keyspace event) := by
  cases event with
  | tick elapsed => exact .tick elapsed
  | call limit => exact .call limit
  | advance index =>
      cases found : world.calls[index]? with
      | none =>
          simp only [World.step, found]
          exact .skipped index
      | some call =>
          obtain ⟨limit, pc⟩ := call
          simp only [World.step, found]
          cases pc with
          | present =>
              refine .counted index limit .present _ found ?_
              cases existing : world.db.counter world.now (limit.key keyspace) with
              | none => exact .created existing
              | some counter => exact .raised counter existing
          | absent => exact .counted index limit .absent _ found .set
          | entered => exact .asked index limit .entered _ found rfl rfl
          | refused => exact .asked index limit .refused _ found rfl rfl
          | admitted => exact .asked index limit .admitted _ found rfl rfl
          | passed =>
              by_cases unlimited : limit.interval = 0
              · simp only [limitStep, if_pos unlimited]
                exact .asked index limit .passed _ found rfl (by simp only [limitStep, if_pos unlimited])
              · simp only [limitStep, if_neg unlimited]
                exact .asked index limit .passed _ found rfl (by simp only [limitStep, if_neg unlimited])

theorem counter_updated (db : Db) (now : Nat) (key other : Bytes) (next : Counter) :
    ({ db with counters := Function.update db.counters key (some next) } : Db).counter now other =
      if other = key then (some next).filter (fun counter => counter.alive now) else db.counter now other := by
  by_cases same : other = key
  · simp only [Db.counter, same, Function.update_self, if_true]
  · simp only [Db.counter, same, Function.update_of_ne same, if_false]

theorem counter_earlier (db : Db) (now elapsed : Nat) (key : Bytes) (counter : Counter)
    (later : db.counter (now + elapsed) key = some counter) : db.counter now key = some counter := by
  obtain ⟨stored, alive⟩ := Option.filter_eq_some_iff.mp later
  refine Option.filter_eq_some_iff.mpr ⟨stored, ?_⟩
  unfold Counter.alive at alive ⊢
  split at alive
  · exact alive
  · simp only [decide_eq_true_eq] at alive ⊢
    omega

end Eventhub.RateLimit
