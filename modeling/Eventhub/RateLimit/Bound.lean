import Eventhub.RateLimit.System

set_option autoImplicit false

namespace Eventhub.RateLimit

open Redis Transition

def Pc.isPending : Pc → Bool
  | .passed => true
  | .present => true
  | .absent => true
  | _ => false

def pending (keyspace key : Bytes) (calls : List (Limit × Pc)) : Nat :=
  calls.countP (fun call => call.1.key keyspace = key && call.2.isPending)

def World.counted (world : World) (key : Bytes) : Nat := ((world.db.counter world.now key).map Counter.value).getD 0

-- isRateLimited lets a request through only if there is room for all that it
-- has let through already, and no SETEX starts a counter that exists.
def RoomLeft (keyspace : Bytes) (world : World) : Event → Prop
  | .advance index =>
      match world.calls[index]? with
      | some (limit, .entered) =>
          isRateLimited keyspace world.now world.db limit = true ∨
            world.counted (limit.key keyspace) + pending keyspace (limit.key keyspace) world.calls < limit.max
      | some (limit, .absent) => world.db.counter world.now (limit.key keyspace) = none
      | _ => True
  | _ => True

instance (keyspace : Bytes) (world : World) (event : Event) : Decidable (RoomLeft keyspace world event) := by
  unfold RoomLeft
  split
  · split <;> infer_instance
  · infer_instance

def RoomStep (keyspace : Bytes) (before : World) (event : Event) (after : World) : Prop :=
  RoomLeft keyspace before event ∧ before.step keyspace event = after

structure Bounded (keyspace : Bytes) (limit : Limit) (world : World) : Prop where
  governed : ∀ call ∈ world.calls, call.1.key keyspace = limit.key keyspace → call.1 = limit
  live : ∀ counter, world.db.counter world.now (limit.key keyspace) = some counter →
    counter.value = (world.windows (limit.key keyspace)).admitted ∧
      counter.value + pending keyspace (limit.key keyspace) world.calls ≤ limit.max
  room : pending keyspace (limit.key keyspace) world.calls ≤ limit.max
  bound : (world.windows (limit.key keyspace)).admitted ≤ limit.max

theorem pending_set (keyspace key : Bytes) (calls : List (Limit × Pc)) (index : Nat) (limit : Limit) (pc next : Pc)
    (found : calls[index]? = some (limit, pc)) :
    pending keyspace key (calls.set index (limit, next)) + (if limit.key keyspace = key ∧ pc.isPending = true then 1 else 0) =
      pending keyspace key calls + (if limit.key keyspace = key ∧ next.isPending = true then 1 else 0) := by
  obtain ⟨inside, here⟩ := List.getElem?_eq_some_iff.mp found
  have former : (if limit.key keyspace = key ∧ pc.isPending = true then 1 else 0) ≤ pending keyspace key calls := by
    split
    · rename_i waiting
      exact List.countP_pos_iff.mpr ⟨(limit, pc), List.mem_of_getElem? found, by simpa using waiting⟩
    · exact Nat.zero_le _
  rw [pending, List.countP_set inside, here, ← pending]
  simp only [Bool.and_eq_true, decide_eq_true_eq]
  omega

theorem asked_pending (keyspace : Bytes) (now : Nat) (db : Db) (limit : Limit) (pc next : Pc)
    (move : limitStep keyspace now db limit pc = (db, next)) (waits : next.isPending = true) (quiet : pc.isPending = false) :
    pc = .entered ∧ isRateLimited keyspace now db limit = false := by
  cases pc with
  | entered =>
      refine ⟨rfl, ?_⟩
      cases limited : isRateLimited keyspace now db limit with
      | false => rfl
      | true =>
          simp only [limitStep, limited, if_true, Prod.mk.injEq, true_and] at move
          rw [← move] at waits
          cases waits
  | refused =>
      simp only [limitStep, Prod.mk.injEq, true_and] at move
      rw [← move] at waits
      cases waits
  | admitted =>
      simp only [limitStep, Prod.mk.injEq, true_and] at move
      rw [← move] at waits
      cases waits
  | passed => cases quiet
  | present => cases quiet
  | absent => cases quiet

section

variable (keyspace : Bytes) (limit : Limit) (world : World)

theorem bounded_quiet (after : World) (bounded : Bounded keyspace limit world)
    (governed : ∀ call ∈ after.calls, call.1.key keyspace = limit.key keyspace → call.1 = limit)
    (counters : ∀ counter, after.db.counter after.now (limit.key keyspace) = some counter →
      world.db.counter world.now (limit.key keyspace) = some counter)
    (windows : after.windows (limit.key keyspace) = world.windows (limit.key keyspace))
    (fewer : pending keyspace (limit.key keyspace) after.calls ≤ pending keyspace (limit.key keyspace) world.calls) :
    Bounded keyspace limit after := by
  refine ⟨governed, fun counter alive => ?_, Nat.le_trans fewer bounded.room, by rw [windows]; exact bounded.bound⟩
  obtain ⟨exact, within⟩ := bounded.live counter (counters counter alive)
  rw [windows]
  exact ⟨exact, by omega⟩

theorem governed_set (bounded : Bounded keyspace limit world) (index : Nat) (own : Limit) (pc next : Pc)
    (found : world.calls[index]? = some (own, pc)) :
    ∀ call ∈ world.calls.set index (own, next), call.1.key keyspace = limit.key keyspace → call.1 = limit := by
  intro call inside
  rcases List.mem_or_eq_of_mem_set inside with among | rfl
  · exact bounded.governed call among
  · exact bounded.governed (own, pc) (List.mem_of_getElem? found)

theorem bounded_asked (bounded : Bounded keyspace limit world) (index : Nat) (own : Limit) (pc next : Pc)
    (found : world.calls[index]? = some (own, pc)) (move : limitStep keyspace world.now world.db own pc = (world.db, next))
    (room : RoomLeft keyspace world (.advance index)) :
    Bounded keyspace limit { world with calls := world.calls.set index (own, next) } := by
  have governed := governed_set keyspace limit world bounded index own pc next found
  have count := pending_set keyspace (limit.key keyspace) world.calls index own pc next found
  by_cases fresh : own.key keyspace = limit.key keyspace ∧ next.isPending = true ∧ pc.isPending = false
  · obtain ⟨same, waits, quiet⟩ := fresh
    obtain ⟨rfl, passes⟩ := asked_pending keyspace world.now world.db own pc next move waits quiet
    have identical : own = limit := bounded.governed (own, .entered) (List.mem_of_getElem? found) same
    subst identical
    simp only [RoomLeft, found, passes, Bool.false_eq_true, false_or] at room
    rw [if_neg (by simp [quiet]), if_pos ⟨rfl, waits⟩] at count
    refine ⟨governed, fun counter alive => ?_, by simp only at count ⊢; omega, bounded.bound⟩
    obtain ⟨value, _⟩ := bounded.live counter alive
    have counted : world.counted (own.key keyspace) = counter.value := by
      have present : world.db.counter world.now (own.key keyspace) = some counter := alive
      rw [World.counted, present, Option.map_some, Option.getD_some]
    refine ⟨value, ?_⟩
    simp only at count ⊢
    omega
  · refine bounded_quiet keyspace limit world _ bounded governed (fun _ alive => alive) rfl ?_
    have fewer : (if own.key keyspace = limit.key keyspace ∧ next.isPending = true then 1 else 0) ≤
        (if own.key keyspace = limit.key keyspace ∧ pc.isPending = true then 1 else 0) := by
      by_cases waits : own.key keyspace = limit.key keyspace ∧ next.isPending = true
      · have waited : pc.isPending = true := by
          cases quiet : pc.isPending with
          | true => rfl
          | false => exact absurd ⟨waits.1, waits.2, quiet⟩ fresh
        rw [if_pos waits, if_pos ⟨waits.1, waited⟩]
      · rw [if_neg waits]
        exact Nat.zero_le _
    simp only
    omega

theorem bounded_counted (bounded : Bounded keyspace limit world) (index : Nat) (own : Limit) (pc : Pc) (next : Counter)
    (found : world.calls[index]? = some (own, pc)) (command : Counted keyspace world own pc next)
    (room : RoomLeft keyspace world (.advance index)) :
    Bounded keyspace limit { world with
      db := { world.db with counters := Function.update world.db.counters (own.key keyspace) (some next) }
      calls := world.calls.set index (own, .admitted)
      windows := Function.update world.windows (own.key keyspace) ((world.windows (own.key keyspace)).grown world.now
        (world.db.counter world.now (own.key keyspace)).isSome) } := by
  have governed := governed_set keyspace limit world bounded index own pc .admitted found
  have count := pending_set keyspace (limit.key keyspace) world.calls index own pc .admitted found
  have settled : ¬ (own.key keyspace = limit.key keyspace ∧ Pc.admitted.isPending = true) := fun both => by cases both.2
  rw [if_neg settled] at count
  by_cases same : own.key keyspace = limit.key keyspace
  · have identical : own = limit := bounded.governed (own, pc) (List.mem_of_getElem? found) same
    subst identical
    have waited : pc.isPending = true := by
      cases command with
      | raised counter alive => rfl
      | created missing => rfl
      | set => rfl
    rw [if_pos ⟨rfl, waited⟩] at count
    have within := bounded.room
    -- The counter holds what was admitted since it was created.
    have admitted : next.value = (((world.windows (own.key keyspace)).grown world.now
        (world.db.counter world.now (own.key keyspace)).isSome)).admitted ∧
          next.value + pending keyspace (own.key keyspace) (world.calls.set index (own, .admitted)) ≤ own.max := by
      cases command with
      | raised counter alive =>
          obtain ⟨value, bound⟩ := bounded.live counter alive
          rw [alive]
          exact ⟨congrArg (· + 1) value, by simp only; omega⟩
      | created missing =>
          rw [missing]
          exact ⟨rfl, by simp only; omega⟩
      | set =>
          have missing : world.db.counter world.now (own.key keyspace) = none := by simpa [RoomLeft, found] using room
          rw [missing]
          exact ⟨rfl, by simp only; omega⟩
    refine ⟨governed, fun counter alive => ?_, by simp only; omega, ?_⟩
    · rw [counter_updated, if_pos rfl] at alive
      have stored : next = counter := (Option.some.inj (Option.filter_eq_some_iff.mp alive).1)
      simp only [Function.update_self]
      rw [← stored]
      exact admitted
    · simp only [Function.update_self]
      omega
  · have different : limit.key keyspace ≠ own.key keyspace := fun equal => same equal.symm
    refine bounded_quiet keyspace limit world _ bounded governed (fun counter alive => ?_) (Function.update_of_ne different _ _) ?_
    · rw [counter_updated, if_neg different] at alive
      exact alive
    · simp only
      omega

theorem bounded_step (event : Event) (bounded : Bounded keyspace limit world)
    (governed : ∀ other, event = .call other → other.key keyspace = limit.key keyspace → other = limit)
    (room : RoomLeft keyspace world event) : Bounded keyspace limit (world.step keyspace event) := by
  have moved := world_moves keyspace world event
  generalize world.step keyspace event = after at moved
  cases moved with
  | tick elapsed =>
      exact bounded_quiet keyspace limit world _ bounded bounded.governed
        (fun counter alive => counter_earlier world.db world.now elapsed _ counter alive) rfl (Nat.le_refl _)
  | call other =>
      refine bounded_quiet keyspace limit world _ bounded ?_ (fun _ alive => alive) rfl ?_
      · intro call inside
        rcases List.mem_append.mp inside with among | fresh
        · exact bounded.governed call among
        · rw [List.mem_singleton.mp fresh]
          exact governed other rfl
      · have unchanged : pending keyspace (limit.key keyspace) [(other, .entered)] = 0 := by simp [pending, Pc.isPending]
        simp only [pending, List.countP_append] at unchanged ⊢
        omega
  | skipped index => exact bounded
  | asked index own pc next found reads move => exact bounded_asked keyspace limit world bounded index own pc next found move room
  | counted index own pc next found command => exact bounded_counted keyspace limit world bounded index own pc next found command room

end

theorem admitted_within_limit (keyspace : Bytes) (limit : Limit) (now : Nat) (events : List Event) (world : World)
    (governed : ∀ other, Event.call other ∈ events → other.key keyspace = limit.key keyspace → other = limit)
    (run : Run (RoomStep keyspace) (World.start now) events world) : (world.windows (limit.key keyspace)).admitted ≤ limit.max := by
  have bounded : (∀ other, Event.call other ∈ events → other.key keyspace = limit.key keyspace → other = limit) →
      Bounded keyspace limit world := by
    apply run_invariant (RoomStep keyspace) (fun events world =>
      (∀ other, Event.call other ∈ events → other.key keyspace = limit.key keyspace → other = limit) → Bounded keyspace limit world)
      (World.start now) _ _ events world run
    · intro _
      exact ⟨fun _ inside => absurd inside List.not_mem_nil, fun _ alive => absurd alive (by simp [World.start, Db.counter, Db.empty]),
        Nat.zero_le _, Nat.zero_le _⟩
    · intro events event middle last bounded taken governed
      obtain ⟨room, rfl⟩ := taken
      refine bounded_step keyspace limit middle event (bounded fun other inside => governed other (List.mem_append_left _ inside)) ?_ room
      intro other same
      exact governed other (by rw [same]; exact List.mem_append_right _ (List.mem_singleton_self _))
  exact (bounded governed).bound

def sampleLimit (max : Nat) : Limit := ⟨str "a/#", str "user", 10, max⟩

def overlapping (max : Nat) : List Event :=
  [.call (sampleLimit max), .call (sampleLimit max), .advance 0, .advance 1, .advance 0, .advance 0, .advance 1, .advance 1]

theorem room_for_both_admitted :
    (((overlapping 2).foldl (World.step []) (World.start 0)).windows (Limit.key [] (sampleLimit 2))).admitted = 2 ∧
      (((overlapping 2).foldl (World.step []) (World.start 0)).windows (Limit.key [] (sampleLimit 2))).admitted ≤ 2 := by
  refine ⟨by decide, ?_⟩
  refine admitted_within_limit [] (sampleLimit 2) 0 (overlapping 2) _ ?_ (guarded_run _ (RoomLeft []) _ _ (by decide))
  intro other inside _
  simpa [overlapping] using inside

def firstPublishes (max : Nat) : List Event :=
  [.call (sampleLimit max), .call (sampleLimit max), .advance 0, .advance 1, .advance 0, .advance 1, .advance 0, .advance 1]

theorem overlapping_first_publishes_exceed :
    (((firstPublishes 1).foldl (World.step []) (World.start 0)).windows (Limit.key [] (sampleLimit 1))).admitted = 2 ∧
      ((firstPublishes 1).foldl (World.step []) (World.start 0)).calls.map Prod.snd = [.admitted, .admitted] := by
  decide

end Eventhub.RateLimit
