import Eventhub.RateLimit.System

set_option autoImplicit false

namespace Eventhub.RateLimit

open Redis Transition

-- The key that incrementLimitCount has seen is still there at its INCR.
def KeyAlive (keyspace : Bytes) (world : World) : Event → Prop
  | .advance index =>
      match world.calls[index]? with
      | some (limit, .present) => (world.db.counter world.now (limit.key keyspace)).isSome = true
      | _ => True
  | _ => True

instance (keyspace : Bytes) (world : World) (event : Event) : Decidable (KeyAlive keyspace world event) :=
  match event with
  | .tick _ | .call _ => isTrue trivial
  | .advance index =>
      match found : world.calls[index]? with
      | some (limit, .present) =>
          decidable_of_iff ((world.db.counter world.now (limit.key keyspace)).isSome = true) (by rw [KeyAlive, found])
      | none | some (_, .entered) | some (_, .refused) | some (_, .passed) | some (_, .absent) | some (_, .admitted) =>
          isTrue (by rw [KeyAlive, found]; trivial)

def KeyAliveStep (keyspace : Bytes) (before : World) (event : Event) (after : World) : Prop :=
  KeyAlive keyspace before event ∧ before.step keyspace event = after

-- A counter expires at most one interval after the key has last been counted.
structure Expiring (keyspace : Bytes) (world : World) (key : Bytes) (counter : Counter) (limit : Limit) (expireAt : Nat) : Prop where
  called : ∃ pc, (limit, pc) ∈ world.calls
  keyed : limit.key keyspace = key
  expires : counter.expireAt = some expireAt
  recent : expireAt ≤ (world.windows key).last + limit.interval * 1000

structure Timed (keyspace : Bytes) (world : World) : Prop where
  past : ∀ key, (world.windows key).last ≤ world.now
  expiring : ∀ key counter, world.db.counters key = some counter → ∃ limit expireAt, Expiring keyspace world key counter limit expireAt

theorem expiring_kept (keyspace : Bytes) (before after : World) (key : Bytes) (counter next : Counter) (limit : Limit) (expireAt : Nat)
    (expiring : Expiring keyspace before key counter limit expireAt)
    (calls : ∀ pc, (limit, pc) ∈ before.calls → ∃ pc, (limit, pc) ∈ after.calls) (same : next.expireAt = counter.expireAt)
    (later : (before.windows key).last ≤ (after.windows key).last) : Expiring keyspace after key next limit expireAt := by
  obtain ⟨pc, inside⟩ := expiring.called
  have recent := expiring.recent
  exact ⟨calls pc inside, expiring.keyed, by rw [same]; exact expiring.expires, by omega⟩

theorem called_set (calls : List (Limit × Pc)) (index : Nat) (own : Limit) (pc next : Pc) (found : calls[index]? = some (own, pc))
    (limit : Limit) (state : Pc) (inside : (limit, state) ∈ calls) : ∃ pc, (limit, pc) ∈ calls.set index (own, next) := by
  obtain ⟨place, here⟩ := List.mem_iff_getElem?.mp inside
  by_cases same : place = index
  · subst same
    rw [found, Option.some.injEq, Prod.mk.injEq] at here
    refine ⟨next, List.mem_of_getElem? (i := place) ?_⟩
    rw [List.getElem?_set_self (List.getElem?_eq_some_iff.mp found).1, here.1]
  · exact ⟨state, List.mem_of_getElem? (i := place) (by rw [List.getElem?_set_ne (Ne.symm same)]; exact here)⟩

section

variable (keyspace : Bytes) (world : World)

theorem timed_counted (timed : Timed keyspace world) (index : Nat) (own : Limit) (pc : Pc) (next : Counter)
    (found : world.calls[index]? = some (own, pc)) (command : Counted keyspace world own pc next)
    (alive : KeyAlive keyspace world (.advance index)) :
    Timed keyspace { world with
      db := { world.db with counters := Function.update world.db.counters (own.key keyspace) (some next) }
      calls := world.calls.set index (own, .admitted)
      windows := Function.update world.windows (own.key keyspace) ((world.windows (own.key keyspace)).grown world.now
        (world.db.counter world.now (own.key keyspace)).isSome) } := by
  refine ⟨fun key => ?_, fun key counter stored => ?_⟩
  · by_cases same : key = own.key keyspace
    · simp only [same, Function.update_self]
      exact Nat.le_refl _
    · simp only [Function.update_of_ne same]
      exact timed.past key
  · have calls := called_set world.calls index own pc .admitted found
    by_cases same : key = own.key keyspace
    · subst same
      simp only [Function.update_self, Option.some.injEq] at stored
      subst stored
      have past := timed.past (own.key keyspace)
      cases command with
      | raised former living =>
          obtain ⟨limit, expireAt, expiring⟩ := timed.expiring _ former (Option.filter_eq_some_iff.mp living).1
          refine ⟨limit, expireAt, expiring_kept keyspace world _ _ former _ limit expireAt expiring (calls limit) rfl ?_⟩
          simp only [Function.update_self]
          exact past
      | created missing =>
          simp only [KeyAlive, found, missing, Option.isSome_none, Bool.false_eq_true] at alive
      | set =>
          refine ⟨own, _, calls own .absent (List.mem_of_getElem? found), rfl, rfl, ?_⟩
          simp only [Function.update_self]
          exact Nat.le_refl _
    · simp only [Function.update_of_ne same] at stored
      obtain ⟨limit, expireAt, expiring⟩ := timed.expiring key counter stored
      refine ⟨limit, expireAt, expiring_kept keyspace world _ key counter counter limit expireAt expiring (calls limit) rfl ?_⟩
      simp only [Function.update_of_ne same]
      exact Nat.le_refl _

theorem timed_step (event : Event) (timed : Timed keyspace world) (alive : KeyAlive keyspace world event) :
    Timed keyspace (world.step keyspace event) := by
  have moved := world_moves keyspace world event
  generalize world.step keyspace event = after at moved
  cases moved with
  | tick elapsed =>
      refine ⟨fun key => Nat.le_trans (timed.past key) (Nat.le_add_right _ _), fun key counter stored => ?_⟩
      obtain ⟨limit, expireAt, expiring⟩ := timed.expiring key counter stored
      exact ⟨limit, expireAt, expiring.called, expiring.keyed, expiring.expires, expiring.recent⟩
  | call limit =>
      refine ⟨timed.past, fun key counter stored => ?_⟩
      obtain ⟨other, expireAt, expiring⟩ := timed.expiring key counter stored
      exact ⟨other, expireAt, expiring_kept keyspace world _ key counter counter other expireAt expiring
        (fun pc inside => ⟨pc, List.mem_append_left _ inside⟩) rfl (Nat.le_refl _)⟩
  | skipped index => exact timed
  | asked index own pc next found reads move =>
      refine ⟨timed.past, fun key counter stored => ?_⟩
      obtain ⟨limit, expireAt, expiring⟩ := timed.expiring key counter stored
      exact ⟨limit, expireAt, expiring_kept keyspace world _ key counter counter limit expireAt expiring
        (called_set world.calls index own pc next found limit) rfl (Nat.le_refl _)⟩
  | counted index own pc next found command => exact timed_counted keyspace world timed index own pc next found command alive

end

-- Every counter that exists has at most the interval of its limit to live,
-- and no more than that is left of the interval after the last publish.
structure CountersExpire (keyspace : Bytes) (world : World) : Prop where
  timeToLive : ∀ key counter, world.db.counter world.now key = some counter → ∃ limit expireAt,
    (∃ pc, (limit, pc) ∈ world.calls) ∧ limit.key keyspace = key ∧ counter.expireAt = some expireAt ∧
      expireAt ≤ world.now + limit.interval * 1000
  released : ∀ limit, isRateLimited keyspace world.now world.db limit = true → ∃ setter pc, (setter, pc) ∈ world.calls ∧
    setter.key keyspace = limit.key keyspace ∧
      world.now < (world.windows (limit.key keyspace)).last + setter.interval * 1000

theorem counters_expire (keyspace : Bytes) (now : Nat) (events : List Event) (world : World)
    (run : Run (KeyAliveStep keyspace) (World.start now) events world) : CountersExpire keyspace world := by
  have timed : Timed keyspace world := by
    apply run_invariant (KeyAliveStep keyspace) (fun _ world => Timed keyspace world) (World.start now) _ _ events world run
    · exact ⟨fun _ => Nat.le_refl _, fun _ _ stored => by cases stored⟩
    · intro _ event middle last timed taken
      obtain ⟨alive, rfl⟩ := taken
      exact timed_step keyspace middle event timed alive
  refine ⟨fun key counter living => ?_, fun limit refused => ?_⟩
  · obtain ⟨limit, expireAt, expiring⟩ := timed.expiring key counter (Option.filter_eq_some_iff.mp living).1
    have past := timed.past key
    have recent := expiring.recent
    exact ⟨limit, expireAt, expiring.called, expiring.keyed, expiring.expires, by omega⟩
  · unfold isRateLimited at refused
    split at refused
    · cases refused
    · split at refused
      · cases refused
      · rename_i counter living
        obtain ⟨stored, alive⟩ := Option.filter_eq_some_iff.mp living
        obtain ⟨setter, expireAt, expiring⟩ := timed.expiring _ counter stored
        obtain ⟨pc, inside⟩ := expiring.called
        have recent := expiring.recent
        simp only [Counter.alive, expiring.expires, decide_eq_true_eq] at alive
        exact ⟨setter, pc, inside, expiring.keyed, by omega⟩

def sampleBurst (pause : Nat) : List Event :=
  [.call ⟨str "a/#", str "user", 1, 2⟩, .call ⟨str "a/#", str "user", 1, 2⟩, .advance 0, .advance 0, .advance 0, .advance 1, .advance 1,
    .tick pause, .advance 1]

theorem prompt_burst_expires :
    ((sampleBurst 999).foldl (World.step []) (World.start 0)).db.counter 999 (str ":rlimit:a/#:user") = some ⟨2, some 1000⟩ ∧
      CountersExpire [] ((sampleBurst 999).foldl (World.step []) (World.start 0)) :=
  ⟨by decide, counters_expire [] 0 (sampleBurst 999) _ (guarded_run _ (KeyAlive []) _ _ (by decide))⟩

-- The key expires between the second request's GET and its INCR, which then
-- creates a counter that never expires.
theorem late_increment_never_expires :
    ((sampleBurst 1000).foldl (World.step []) (World.start 0)).db.counter 1000 (str ":rlimit:a/#:user") = some ⟨1, none⟩ ∧
      ¬ CountersExpire [] ((sampleBurst 1000).foldl (World.step []) (World.start 0)) := by
  have stored : ((sampleBurst 1000).foldl (World.step []) (World.start 0)).db.counter 1000 (str ":rlimit:a/#:user") = some ⟨1, none⟩ := by
    decide
  refine ⟨stored, fun expire => ?_⟩
  have clock : ((sampleBurst 1000).foldl (World.step []) (World.start 0)).now = 1000 := by decide
  obtain ⟨_, _, _, _, expires, _⟩ := expire.timeToLive (str ":rlimit:a/#:user") ⟨1, none⟩ (by rw [clock]; exact stored)
  cases expires

end Eventhub.RateLimit
