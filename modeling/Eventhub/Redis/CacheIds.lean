import Eventhub.Lib.Transition
import Eventhub.Redis.CacheMessage

set_option autoImplicit false

namespace Eventhub.Redis

open Transition

structure World where
  now : Nat
  db : Db
  calls : List (CacheArgs × CachePc)

inductive Event where
  | tick (elapsed : Nat)
  | call (args : CacheArgs)
  | advance (index : Nat)

def World.start (now : Nat) : World := ⟨now, Db.empty, []⟩

def World.step (keyspace : Bytes) (config : CacheConfig) (world : World) : Event → World
  | .tick elapsed => { world with now := world.now + elapsed }
  | .call args => { world with calls := world.calls ++ [(args, .entered)] }
  | .advance index =>
      match world.calls[index]? with
      | none => world
      | some (args, pc) =>
          let moved := cacheStep keyspace config world.now world.db args pc
          { world with db := moved.1, calls := world.calls.set index (args, moved.2) }

def CachePc.id : CachePc → Option CacheId
  | .entered => none
  | .stamped _ => none
  | .counted id => some id
  | .named id => some id
  | .prepared id _ => some id
  | .stored id _ => some id
  | .scored id => some id
  | .returned id => some id

def CachePc.result : CachePc → Option Bytes
  | .returned id => some id.text
  | _ => none

def CachePc.storedId (config : CacheConfig) : CachePc → Option CacheId
  | .stored id _ => some id
  | .scored id => some id
  | .returned id => if config.enableCache then some id else none
  | _ => none

-- An INCR finds the counter of a timestamp that was counted before still alive.
def CounterAlive (keyspace : Bytes) (world : World) : Event → Prop
  | .advance index =>
      match world.calls[index]? with
      | some (_, .stamped timestamp) =>
          (∃ call ∈ world.calls, call.2.id.map CacheId.timestamp = some timestamp) →
            (world.db.counter world.now (idKey keyspace timestamp)).isSome = true
      | _ => True
  | _ => True

instance (keyspace : Bytes) (world : World) (event : Event) : Decidable (CounterAlive keyspace world event) := by
  unfold CounterAlive
  split
  · split <;> infer_instance
  · infer_instance

theorem id_key_injective (keyspace : Bytes) (left right : Int) (same : idKey keyspace left = idKey keyspace right) : left = right :=
  Decimal.signed_text_injective _ _ (List.append_cancel_left (redis_prefix_injective keyspace _ _ same))

def Covers (keyspace : Bytes) (db : Db) (id : CacheId) : Prop :=
  ∃ counter, db.counters (idKey keyspace id.timestamp) = some counter ∧ id.sequence < counter.value

structure Unique (keyspace : Bytes) (config : CacheConfig) (world : World) : Prop where
  distinct : ∀ (first second : Nat) (left right : CacheArgs × CachePc) (id : CacheId), world.calls[first]? = some left →
    world.calls[second]? = some right → left.2.id = some id → right.2.id = some id → first = second
  covered : ∀ (index : Nat) (call : CacheArgs × CachePc) (id : CacheId), world.calls[index]? = some call →
    call.2.id = some id → Covers keyspace world.db id
  kept : ∀ (index : Nat) (call : CacheArgs × CachePc) (id : CacheId), world.calls[index]? = some call →
    call.2.storedId config = some id → world.db.hget (cacheDataPath keyspace call.1.topic) id.text = some call.1.payload

theorem stored_id_is_id (config : CacheConfig) (pc : CachePc) (id : CacheId) (stored : pc.storedId config = some id) :
    pc.id = some id := by
  cases pc with
  | returned other =>
      simp only [CachePc.storedId] at stored
      split at stored
      · exact stored
      · cases stored
  | stored other zKey => exact stored
  | scored other => exact stored
  | _ => cases stored

section

variable (keyspace : Bytes) (config : CacheConfig)

theorem unique_quiet (world : World) (index : Nat) (args : CacheArgs) (pc next : CachePc) (db : Db)
    (unique : Unique keyspace config world) (present : world.calls[index]? = some (args, pc)) (sameId : next.id = pc.id)
    (covers : ∀ id, Covers keyspace world.db id → Covers keyspace db id) (hashes : db.hashes = world.db.hashes)
    (sameStored : ∀ id, next.storedId config = some id → pc.storedId config = some id) :
    Unique keyspace config { world with db := db, calls := world.calls.set index (args, next) } where
  distinct first second left right id atFirst atSecond leftId rightId := by
    rcases set_lookup _ _ _ _ _ atFirst with ⟨rfl, rfl⟩ | ⟨_, before⟩ <;>
      rcases set_lookup _ _ _ _ _ atSecond with ⟨rfl, rfl⟩ | ⟨_, after⟩
    · rfl
    · exact unique.distinct _ _ _ _ id present after (by rw [← sameId]; exact leftId) rightId
    · exact unique.distinct _ _ _ _ id before present leftId (by rw [← sameId]; exact rightId)
    · exact unique.distinct _ _ _ _ id before after leftId rightId
  covered place call id lookup assigned := by
    apply covers
    rcases set_lookup _ _ _ _ _ lookup with ⟨rfl, rfl⟩ | ⟨_, before⟩
    · exact unique.covered _ _ id present (by rw [← sameId]; exact assigned)
    · exact unique.covered _ _ id before assigned
  kept place call id lookup stored := by
    rw [Db.hget, hashes, ← Db.hget]
    rcases set_lookup _ _ _ _ _ lookup with ⟨rfl, rfl⟩ | ⟨_, before⟩
    · exact unique.kept place (args, pc) id present (sameStored id stored)
    · exact unique.kept _ _ id before stored

theorem incr_cases (db : Db) (now : Nat) (key : Bytes) :
    ∃ next, (db.incr now key).1 = { db with counters := Function.update db.counters key (some next) } ∧
      (db.incr now key).2 = next.value ∧
      ((db.counter now key = none ∧ next.value = 1) ∨
        ∃ counter, db.counters key = some counter ∧ db.counter now key = some counter ∧ next.value = counter.value + 1) := by
  cases found : db.counter now key with
  | none => exact ⟨⟨1, none⟩, by simp [Db.incr, found], by simp [Db.incr, found], .inl ⟨rfl, rfl⟩⟩
  | some counter =>
      have stored : db.counters key = some counter := (Option.filter_eq_some_iff.mp found).1
      exact ⟨{ counter with value := counter.value + 1 }, by simp [Db.incr, found], by simp [Db.incr, found],
        .inr ⟨counter, stored, rfl, rfl⟩⟩

theorem covers_updated (db : Db) (id : CacheId) (timestamp : Int) (next : Counter)
    (raised : id.timestamp = timestamp → ∀ counter, db.counters (idKey keyspace timestamp) = some counter →
      counter.value ≤ next.value) (covered : Covers keyspace db id) :
    Covers keyspace { db with counters := Function.update db.counters (idKey keyspace timestamp) (some next) } id := by
  obtain ⟨counter, stored, below⟩ := covered
  by_cases same : id.timestamp = timestamp
  · subst same
    exact ⟨next, Function.update_self _ _ _, Nat.lt_of_lt_of_le below (raised rfl counter stored)⟩
  · have other : idKey keyspace id.timestamp ≠ idKey keyspace timestamp := fun equal => same (id_key_injective keyspace _ _ equal)
    exact ⟨counter, by simp only [Function.update_of_ne other, stored], below⟩

theorem expire_covers (db : Db) (now : Nat) (timestamp : Int) (seconds : Nat) (id : CacheId) (covered : Covers keyspace db id) :
    Covers keyspace (db.expire now (idKey keyspace timestamp) seconds) id := by
  unfold Db.expire
  cases found : db.counter now (idKey keyspace timestamp) with
  | none => exact covered
  | some counter =>
      have stored : db.counters (idKey keyspace timestamp) = some counter := (Option.filter_eq_some_iff.mp found).1
      apply covers_updated keyspace db id timestamp _ _ covered
      intro _ other present
      rw [stored, Option.some.injEq] at present
      rw [← present]

theorem incr_fresh (world : World) (index : Nat) (args : CacheArgs) (timestamp : Int) (next : Counter)
    (unique : Unique keyspace config world) (present : world.calls[index]? = some (args, .stamped timestamp))
    (alive : CounterAlive keyspace world (.advance index))
    (found : (world.db.counter world.now (idKey keyspace timestamp) = none ∧ next.value = 1) ∨
      ∃ counter, world.db.counters (idKey keyspace timestamp) = some counter ∧
        world.db.counter world.now (idKey keyspace timestamp) = some counter ∧ next.value = counter.value + 1)
    (place : Nat) (call : CacheArgs × CachePc) (id : CacheId) (lookup : world.calls[place]? = some call)
    (assigned : call.2.id = some id) (same : id.timestamp = timestamp) :
    id.sequence < next.value - 1 ∧
      ∀ counter, world.db.counters (idKey keyspace timestamp) = some counter → counter.value ≤ next.value := by
  cases found with
  | inl missing =>
      simp only [CounterAlive, present] at alive
      have living := alive ⟨call, List.mem_of_getElem? lookup, by rw [assigned, Option.map_some, same]⟩
      rw [missing.1] at living
      cases living
  | inr counted =>
      obtain ⟨counter, stored, _, raised⟩ := counted
      obtain ⟨other, covering, below⟩ := unique.covered place call id lookup assigned
      rw [same, stored, Option.some.injEq] at covering
      subst covering
      refine ⟨by omega, fun other lookup => ?_⟩
      rw [stored, Option.some.injEq] at lookup
      subst lookup
      omega

theorem unique_counted (world : World) (index : Nat) (args : CacheArgs) (timestamp : Int)
    (unique : Unique keyspace config world) (present : world.calls[index]? = some (args, .stamped timestamp))
    (alive : CounterAlive keyspace world (.advance index)) :
    Unique keyspace config { world with
      db := (world.db.incr world.now (idKey keyspace timestamp)).1
      calls := world.calls.set index (args, .counted ⟨timestamp, (world.db.incr world.now (idKey keyspace timestamp)).2 - 1⟩) } := by
  obtain ⟨next, moved, answer, found⟩ := incr_cases world.db world.now (idKey keyspace timestamp)
  have fresh := incr_fresh keyspace config world index args timestamp next unique present alive found
  have positive : 0 < next.value := by rcases found with ⟨_, one⟩ | ⟨_, _, _, more⟩ <;> omega
  rw [moved, answer]
  constructor
  · intro first second left right id atFirst atSecond leftId rightId
    rcases set_lookup _ _ _ _ _ atFirst with ⟨rfl, rfl⟩ | ⟨_, before⟩ <;>
      rcases set_lookup _ _ _ _ _ atSecond with ⟨rfl, rfl⟩ | ⟨_, after⟩
    · rfl
    · cases leftId
      exact absurd (fresh second right _ after rightId rfl).1 (Nat.lt_irrefl _)
    · cases rightId
      exact absurd (fresh first left _ before leftId rfl).1 (Nat.lt_irrefl _)
    · exact unique.distinct _ _ _ _ id before after leftId rightId
  · intro place call id lookup assigned
    rcases set_lookup _ _ _ _ _ lookup with ⟨rfl, rfl⟩ | ⟨_, before⟩
    · cases assigned
      exact ⟨next, Function.update_self _ _ _, Nat.sub_lt positive Nat.one_pos⟩
    · exact covers_updated keyspace world.db id timestamp next (fun same => (fresh place call id before assigned same).2)
        (unique.covered place call id before assigned)
  · intro place call id lookup stored
    rcases set_lookup _ _ _ _ _ lookup with ⟨rfl, rfl⟩ | ⟨_, before⟩
    · cases stored
    · exact unique.kept place call id before stored

theorem unique_stored (world : World) (index : Nat) (args : CacheArgs) (id : CacheId) (zKey : Bytes)
    (unique : Unique keyspace config world) (present : world.calls[index]? = some (args, .prepared id zKey)) :
    Unique keyspace config { world with
      db := world.db.hset (cacheDataPath keyspace args.topic) id.text args.payload
      calls := world.calls.set index (args, .stored id zKey) } := by
  constructor
  · intro first second left right other atFirst atSecond leftId rightId
    rcases set_lookup _ _ _ _ _ atFirst with ⟨rfl, rfl⟩ | ⟨_, before⟩ <;>
      rcases set_lookup _ _ _ _ _ atSecond with ⟨rfl, rfl⟩ | ⟨_, after⟩
    · rfl
    · exact unique.distinct _ _ _ _ other present after leftId rightId
    · exact unique.distinct _ _ _ _ other before present leftId rightId
    · exact unique.distinct _ _ _ _ other before after leftId rightId
  · intro place call other lookup assigned
    rcases set_lookup _ _ _ _ _ lookup with ⟨rfl, rfl⟩ | ⟨_, before⟩
    · exact unique.covered place (args, .prepared id zKey) other present assigned
    · exact unique.covered place call other before assigned
  · intro place call other lookup stored
    rcases set_lookup _ _ _ _ _ lookup with ⟨rfl, rfl⟩ | ⟨different, before⟩
    · cases stored
      exact hget_hset _ _ _ _
    · rw [hget_hset_ne]
      · exact unique.kept place call other before stored
      · intro same
        have sameId := cache_id_text_injective other id (Prod.mk.inj same).2
        subst sameId
        exact different (unique.distinct place index call _ other before present (stored_id_is_id config call.2 other stored) rfl)

theorem advance_present (world : World) (index : Nat) (args : CacheArgs) (pc : CachePc)
    (present : world.calls[index]? = some (args, pc)) :
    world.step keyspace config (.advance index) = { world with
      db := (cacheStep keyspace config world.now world.db args pc).1
      calls := world.calls.set index (args, (cacheStep keyspace config world.now world.db args pc).2) } := by
  simp only [World.step, present]

theorem unique_advance (world : World) (index : Nat) (unique : Unique keyspace config world)
    (alive : CounterAlive keyspace world (.advance index)) :
    Unique keyspace config (world.step keyspace config (.advance index)) := by
  cases present : world.calls[index]? with
  | none => simpa only [World.step, present] using unique
  | some call =>
      obtain ⟨args, pc⟩ := call
      rw [advance_present keyspace config world index args pc present]
      have quiet := fun next db => unique_quiet keyspace config world index args pc next db unique present
      cases pc with
      | entered => exact quiet _ _ rfl (fun _ covered => covered) rfl (fun _ stored => by cases stored)
      | stamped timestamp => exact unique_counted keyspace config world index args timestamp unique present alive
      | counted id =>
          exact quiet _ _ rfl (expire_covers keyspace world.db world.now id.timestamp 1) (expire_tables _ _ _ _).2.2
            (fun _ stored => by cases stored)
      | named id =>
          cases enabled : config.enableCache with
          | false =>
              have skipped : cacheStep keyspace config world.now world.db args (.named id) = (world.db, .returned id) := by
                simp [cacheStep, enabled]
              rw [skipped]
              exact quiet _ _ rfl (fun _ covered => covered) rfl (fun _ stored => by simp [CachePc.storedId, enabled] at stored)
          | true =>
              simp only [cacheStep, enabled, Bool.not_true, Bool.false_eq_true, if_false]
              exact quiet _ _ rfl (fun _ covered => covered) rfl (fun _ stored => by cases stored)
      | prepared id zKey => exact unique_stored keyspace config world index args id zKey unique present
      | stored id zKey => exact quiet _ _ rfl (fun _ covered => covered) rfl (fun _ stored => stored)
      | scored id =>
          exact quiet _ _ rfl (fun _ covered => covered) rfl
            (fun other stored => stored_id_is_id config (.returned id) other stored)
      | returned id => exact quiet _ _ rfl (fun _ covered => covered) rfl (fun _ stored => stored)

theorem unique_call (world : World) (args : CacheArgs) (unique : Unique keyspace config world) :
    Unique keyspace config { world with calls := world.calls ++ [(args, .entered)] } := by
  have earlier (place : Nat) (call : CacheArgs × CachePc) (id : CacheId)
      (lookup : (world.calls ++ [(args, CachePc.entered)])[place]? = some call) (assigned : call.2.id = some id) :
      world.calls[place]? = some call := by
    rw [List.getElem?_append] at lookup
    split at lookup
    · exact lookup
    · have last : call = (args, .entered) := by simpa using List.mem_of_getElem? lookup
      rw [last] at assigned
      cases assigned
  exact ⟨fun first second left right id atFirst atSecond leftId rightId =>
      unique.distinct first second left right id (earlier _ _ _ atFirst leftId) (earlier _ _ _ atSecond rightId) leftId rightId,
    fun place call id lookup assigned => unique.covered place call id (earlier _ _ _ lookup assigned) assigned,
    fun place call id lookup stored =>
      unique.kept place call id (earlier _ _ _ lookup (stored_id_is_id config call.2 id stored)) stored⟩

theorem unique_step (world : World) (event : Event) (unique : Unique keyspace config world)
    (alive : CounterAlive keyspace world event) : Unique keyspace config (world.step keyspace config event) := by
  cases event with
  | tick elapsed => exact ⟨unique.distinct, unique.covered, unique.kept⟩
  | call args => exact unique_call keyspace config world args unique
  | advance index => exact unique_advance keyspace config world index unique alive

def AliveStep (world : World) (event : Event) (next : World) : Prop :=
  CounterAlive keyspace world event ∧ world.step keyspace config event = next

theorem cache_ids_distinct (now : Nat) (events : List Event) (world : World)
    (run : Run (AliveStep keyspace config) (World.start now) events world) :
    (∀ (first second : Nat) (left right : CacheArgs × CachePc) (result : Bytes), world.calls[first]? = some left →
      world.calls[second]? = some right → left.2.result = some result → right.2.result = some result → first = second) ∧
    ∀ (index : Nat) (call : CacheArgs × CachePc) (id : CacheId), world.calls[index]? = some call →
      call.2.storedId config = some id → world.db.hget (cacheDataPath keyspace call.1.topic) id.text = some call.1.payload := by
  have unique : Unique keyspace config world := by
    apply run_invariant (AliveStep keyspace config) (fun _ world => Unique keyspace config world) (World.start now) _ _ events world run
    · constructor <;> simp [World.start]
    · rintro _ event middle _ unique ⟨alive, rfl⟩
      exact unique_step keyspace config middle event unique alive
  refine ⟨fun first second left right result atFirst atSecond leftResult rightResult => ?_, unique.kept⟩
  obtain ⟨_, leftPc⟩ := left
  obtain ⟨_, rightPc⟩ := right
  cases leftPc with
  | returned id =>
      cases rightPc with
      | returned other =>
          have same := cache_id_text_injective id other ((Option.some.inj leftResult).trans (Option.some.inj rightResult).symm)
          exact unique.distinct first second _ _ id atFirst atSecond rfl (congrArg some same.symm)
      | _ => cases rightResult
  | _ => cases leftResult

end

def sampleCall (payload : Bytes) : Event := .call ⟨str "t", payload, [], 5, 0⟩

def callTwice (pause : Nat) : List Event :=
  sampleCall (str "a") :: List.replicate 7 (.advance 0) ++ .tick pause :: sampleCall (str "b") :: List.replicate 7 (.advance 1)

theorem prompt_calls_distinct :
    (((callTwice 999).foldl (World.step [] ⟨true, 60⟩) (World.start 1000)).calls.map (fun call => call.2.result) =
      [some (str "5-0"), some (str "5-1")]) ∧
    ((callTwice 999).foldl (World.step [] ⟨true, 60⟩) (World.start 1000)).db.hget (str "t:cache") (str "5-0") = some (str "a") := by
  refine ⟨by decide, ?_⟩
  exact (cache_ids_distinct [] ⟨true, 60⟩ 1000 (callTwice 999) _
    (guarded_run _ (CounterAlive []) _ _ (by decide))).2 0 (⟨str "t", str "a", [], 5, 0⟩, .returned ⟨5, 0⟩) ⟨5, 0⟩ (by rfl) rfl

theorem expired_counter_repeats_id :
    (((callTwice 1000).foldl (World.step [] ⟨true, 60⟩) (World.start 1000)).calls.map (fun call => call.2.result) =
      [some (str "5-0"), some (str "5-0")]) ∧
    ((callTwice 1000).foldl (World.step [] ⟨true, 60⟩) (World.start 1000)).db.hget (str "t:cache") (str "5-0") = some (str "b") := by
  decide

end Eventhub.Redis
