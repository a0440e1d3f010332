import Eventhub.Redis.CacheIds
import Eventhub.Replay.System

set_option autoImplicit false

namespace Eventhub.Replay

open Redis Hub

def Spelled (id : CacheId) (member : Bytes) : Prop :=
  ∃ expireAt origin, expireAt < 2 ^ 64 ∧ member = CacheItemMeta.toStr ⟨id.text, expireAt, origin⟩

def WellScored (db : Db) : Prop :=
  ∀ key, ∀ entry ∈ (db.zsets key).entries, ∃ id, Spelled id entry.member ∧ entry.score = Binary64.ofInt id.timestamp

def Spells : CachePc → Prop
  | .prepared id zKey => Spelled id zKey
  | .stored id zKey => Spelled id zKey
  | _ => True

-- Without a purge nothing leaves a score set or pub_count.
structure Grows (before after : Db) : Prop where
  entries : ∀ key, (before.zsets key).entries ⊆ (after.zsets key).entries
  fields : ∀ key field, field ∈ before.tallies key → field ∈ after.tallies key

theorem grows_same (before after : Db) (zsets : after.zsets = before.zsets) (tallies : after.tallies = before.tallies) :
    Grows before after := by
  constructor
  · intro key
    rw [zsets]
    exact List.Subset.refl _
  · intro key field inside
    rw [tallies]
    exact inside

theorem spelled_parses (id : CacheId) (member : Bytes) (spelled : Spelled id member) :
    ∃ item, CacheItemMeta.ofStr member = some item ∧ item.id = id.text := by
  obtain ⟨expireAt, origin, high, rfl⟩ := spelled
  exact ⟨_, meta_text_parses id expireAt origin high, rfl⟩

theorem spelled_unique (left right : CacheId) (member : Bytes) (first : Spelled left member) (second : Spelled right member) :
    left = right := by
  obtain ⟨item, parsed, leftId⟩ := spelled_parses left member first
  obtain ⟨other, again, rightId⟩ := spelled_parses right member second
  rw [parsed, Option.some.injEq] at again
  exact cache_id_text_injective _ _ (by rw [← leftId, ← rightId, again])

theorem zadd_well_scored (db : Db) (key member : Bytes) (id : CacheId) (well : WellScored db) (spelled : Spelled id member) :
    WellScored (db.zadd key member (Binary64.ofInt id.timestamp)) := by
  intro other entry inside
  by_cases same : other = key
  · simp only [Db.zadd, same, Function.update_self, mem_zadd] at inside
    rcases inside with rfl | ⟨before, _⟩
    · exact ⟨id, spelled, rfl⟩
    · exact well key entry before
  · simp only [Db.zadd, Function.update_of_ne same] at inside
    exact well other entry inside

-- A member that is written again keeps its score, since it spells its id.
theorem zadd_grows (db : Db) (key member : Bytes) (id : CacheId) (well : WellScored db) (spelled : Spelled id member) :
    Grows db (db.zadd key member (Binary64.ofInt id.timestamp)) := by
  refine ⟨fun other entry inside => ?_, fun _ _ inside => inside⟩
  by_cases same : other = key
  · subst same
    simp only [Db.zadd, Function.update_self, mem_zadd]
    by_cases again : entry.member = member
    · obtain ⟨former, spelling, score⟩ := well other entry inside
      rw [again] at spelling
      rw [spelled_unique former id member spelling spelled] at score
      exact .inl (by cases entry; cases again; cases score; rfl)
    · exact .inr ⟨inside, again⟩
  · simp only [Db.zadd, Function.update_of_ne same]
    exact inside

theorem hincrby_grows (db : Db) (key field : Bytes) (amount : Int) : Grows db (db.hincrby key field amount) := by
  refine ⟨fun _ => List.Subset.refl _, fun other name inside => ?_⟩
  by_cases same : other = key
  · subst same
    simp only [Db.hincrby, Function.update_self, AList.mem_insert]
    exact .inr inside
  · simp only [Db.hincrby, Function.update_of_ne same]
    exact inside

section

variable (keyspace : Bytes) (config : CacheConfig) (now : Nat) (db : Db) (args : CacheArgs) (pc : CachePc)

theorem cache_step_spells (spells : Spells pc) : Spells (cacheStep keyspace config now db args pc).2 := by
  cases pc with
  | named id =>
      simp only [cacheStep]
      split
      · trivial
      · exact ⟨expireAt config now args.ttl, args.origin, Nat.mod_lt _ (by norm_num), rfl⟩
  | prepared id zKey => exact spells
  | _ => trivial

theorem cache_step_grows (well : WellScored db) (spells : Spells pc) :
    Grows db (cacheStep keyspace config now db args pc).1 ∧ WellScored (cacheStep keyspace config now db args pc).1 := by
  have quiet : ∀ after : Db, after.zsets = db.zsets → after.tallies = db.tallies → Grows db after ∧ WellScored after := by
    intro after zsets tallies
    refine ⟨grows_same db after zsets tallies, ?_⟩
    rw [WellScored, zsets]
    exact well
  cases pc with
  | entered => exact quiet _ rfl rfl
  | stamped timestamp => exact quiet _ rfl rfl
  | counted id =>
      obtain ⟨zsets, tallies, _⟩ := expire_tables db now (idKey keyspace id.timestamp) 1
      exact quiet _ zsets tallies
  | named id =>
      simp only [cacheStep]
      split
      · exact quiet _ rfl rfl
      · exact quiet _ rfl rfl
  | prepared id zKey => exact quiet _ rfl rfl
  | stored id zKey => exact ⟨zadd_grows db _ zKey id well spells, zadd_well_scored db _ zKey id well spells⟩
  | scored id =>
      refine ⟨hincrby_grows db _ _ _, ?_⟩
      exact well
  | returned id => exact quiet _ rfl rfl

end

def Hashed (keyspace : Bytes) (db : Db) (topic : Bytes) (id : CacheId) (payload : Bytes) : Prop :=
  db.hget (cacheDataPath keyspace topic) id.text = some payload

def Scored (keyspace : Bytes) (db : Db) (topic : Bytes) (id : CacheId) : Prop :=
  ∃ member, Spelled id member ∧ ⟨Binary64.ofInt id.timestamp, member⟩ ∈ (db.zsets (cacheScorePath keyspace topic)).entries

def Tallied (keyspace : Bytes) (db : Db) (topic : Bytes) : Prop := topic ∈ db.tallies (pubCountKey keyspace)

-- What the database holds of a call, command by command.
def CacheKept (keyspace : Bytes) (db : Db) (args : CacheArgs) : CachePc → Prop
  | .stored id _ => Hashed keyspace db args.topic id args.payload
  | .scored id => Hashed keyspace db args.topic id args.payload ∧ Scored keyspace db args.topic id
  | .returned id =>
      Hashed keyspace db args.topic id args.payload ∧ Scored keyspace db args.topic id ∧ Tallied keyspace db args.topic
  | _ => True

section

variable (keyspace : Bytes) (config : CacheConfig) (now : Nat) (db : Db) (args : CacheArgs) (pc : CachePc)

theorem cache_step_kept (enabled : config.enableCache = true) (spells : Spells pc) (kept : CacheKept keyspace db args pc)
    (grows : Grows db (cacheStep keyspace config now db args pc).1) :
    CacheKept keyspace (cacheStep keyspace config now db args pc).1 args (cacheStep keyspace config now db args pc).2 := by
  cases pc with
  | entered => trivial
  | stamped timestamp => trivial
  | counted id => trivial
  | named id =>
      simp only [cacheStep, enabled, Bool.not_true, Bool.false_eq_true, if_false]
      trivial
  | prepared id zKey => exact hget_hset _ _ _ _
  | stored id zKey =>
      refine ⟨kept, zKey, spells, ?_⟩
      simp only [cacheStep, Db.zadd, Function.update_self, mem_zadd]
      exact .inl trivial
  | scored id =>
      refine ⟨kept.1, ?_, ?_⟩
      · obtain ⟨member, spelled, inside⟩ := kept.2
        exact ⟨member, spelled, grows.entries _ inside⟩
      · simp only [cacheStep, Tallied, Db.hincrby, Function.update_self, AList.mem_insert]
        exact .inl trivial
  | returned id => exact kept

theorem cache_step_hashed (topic payload : Bytes) (id : CacheId) (different : ∀ own, pc.id = some own → own ≠ id)
    (hashed : Hashed keyspace db topic id payload) :
    Hashed keyspace (cacheStep keyspace config now db args pc).1 topic id payload := by
  have quiet : ∀ after : Db, after.hashes = db.hashes → Hashed keyspace after topic id payload := by
    intro after hashes
    rw [Hashed, Db.hget, hashes]
    exact hashed
  cases pc with
  | entered => exact quiet _ rfl
  | stamped timestamp => exact quiet _ rfl
  | counted own => exact quiet _ (expire_tables db now _ 1).2.2
  | named own =>
      simp only [cacheStep]
      split
      · exact quiet _ rfl
      · exact quiet _ rfl
  | prepared own zKey =>
      refine (hget_hset_ne db _ _ _ _ _ ?_).trans hashed
      intro same
      exact different own rfl (cache_id_text_injective _ _ (congrArg Prod.snd same)).symm
  | stored own zKey => exact quiet _ rfl
  | scored own => exact quiet _ rfl
  | returned own => exact quiet _ rfl

end

theorem grows_scored (keyspace : Bytes) (before after : Db) (topic : Bytes) (id : CacheId) (grows : Grows before after)
    (scored : Scored keyspace before topic id) : Scored keyspace after topic id := by
  obtain ⟨member, spelled, inside⟩ := scored
  exact ⟨member, spelled, grows.entries _ inside⟩

theorem grows_tallied (keyspace : Bytes) (before after : Db) (topic : Bytes) (grows : Grows before after)
    (tallied : Tallied keyspace before topic) : Tallied keyspace after topic := grows.fields _ _ tallied

def Publisher.id (publisher : Publisher) : Option CacheId :=
  match publisher.pc with
  | .caching pc => pc.id
  | .published id => some id

def Publisher.Spells (publisher : Publisher) : Prop :=
  match publisher.pc with
  | .caching pc => Replay.Spells pc
  | .published _ => True

def Publisher.Kept (keyspace : Bytes) (db : Db) (publisher : Publisher) : Prop :=
  match publisher.pc with
  | .caching pc => CacheKept keyspace db publisher.args pc
  | .published id => CacheKept keyspace db publisher.args (.returned id)

structure PublisherMove (keyspace : Bytes) (config : CacheConfig) (before after : Db) (publisher next : Publisher) (posted : List Job) :
    Prop where
  args : next.args = publisher.args
  id : ∀ id, publisher.id = some id → next.id = some id
  spells : next.Spells
  grows : Grows before after
  well : WellScored after
  hashed : ∀ topic id payload, (∀ own, next.id = some own → own ≠ id) → Hashed keyspace before topic id payload →
    Hashed keyspace after topic id payload
  kept : config.enableCache = true → publisher.Kept keyspace before → next.Kept keyspace after
  done : ∀ id, publisher.pc = .published id → next = publisher
  posted : (posted = [] ∧ ∀ id, next.pc = .published id → publisher = next) ∨
    ∃ id, publisher.pc = .caching (.returned id) ∧ next.pc = .published id ∧ posted = [messageJob publisher.args id]

theorem cache_step_id (keyspace : Bytes) (config : CacheConfig) (now : Nat) (db : Db) (args : CacheArgs) (pc : CachePc) (id : CacheId)
    (assigned : pc.id = some id) : (cacheStep keyspace config now db args pc).2.id = some id := by
  cases pc with
  | entered => cases assigned
  | stamped timestamp => cases assigned
  | counted own => exact assigned
  | named own =>
      simp only [cacheStep]
      split
      · exact assigned
      · exact assigned
  | prepared own zKey => exact assigned
  | stored own zKey => exact assigned
  | scored own => exact assigned
  | returned own => exact assigned

theorem publisher_step_moves (keyspace : Bytes) (config : CacheConfig) (now : Nat) (db : Db) (publisher : Publisher)
    (well : WellScored db) (spells : publisher.Spells) :
    PublisherMove keyspace config db (publisherStep keyspace config now db publisher).1 publisher
      (publisherStep keyspace config now db publisher).2.1 (publisherStep keyspace config now db publisher).2.2 := by
  obtain ⟨args, pc⟩ := publisher
  have cached : ∀ own : CachePc, pc = .caching own → publisherStep keyspace config now db ⟨args, pc⟩ =
      ((cacheStep keyspace config now db args own).1, ⟨args, .caching (cacheStep keyspace config now db args own).2⟩, []) →
      PublisherMove keyspace config db (publisherStep keyspace config now db ⟨args, pc⟩).1 ⟨args, pc⟩
        (publisherStep keyspace config now db ⟨args, pc⟩).2.1 (publisherStep keyspace config now db ⟨args, pc⟩).2.2 := by
    intro own caching outcome
    subst caching
    rw [outcome]
    obtain ⟨grows, stays⟩ := cache_step_grows keyspace config now db args own well spells
    refine ⟨rfl, fun id assigned => cache_step_id keyspace config now db args own id assigned,
      cache_step_spells keyspace config now db args own spells, grows, stays, ?_, ?_, (fun id published => by cases published),
      .inl ⟨rfl, fun id published => by cases published⟩⟩
    · intro topic id payload different hashed
      exact cache_step_hashed keyspace config now db args own topic payload id
        (fun other assigned => different other (cache_step_id keyspace config now db args own other assigned)) hashed
    · intro enabled kept
      exact cache_step_kept keyspace config now db args own enabled spells kept grows
  cases pc with
  | published id =>
      exact ⟨rfl, fun _ assigned => assigned, trivial, grows_same _ _ rfl rfl, well, fun _ _ _ _ hashed => hashed,
        fun _ kept => kept, fun _ _ => rfl, .inl ⟨rfl, fun _ _ => rfl⟩⟩
  | caching own =>
      cases own with
      | returned id =>
          exact ⟨rfl, fun _ assigned => assigned, trivial, grows_same _ _ rfl rfl, well, fun _ _ _ _ hashed => hashed,
            fun _ kept => kept, (fun _ published => by cases published), .inr ⟨id, rfl, rfl, rfl⟩⟩
      | entered => exact cached .entered rfl rfl
      | stamped timestamp => exact cached (.stamped timestamp) rfl rfl
      | counted id => exact cached (.counted id) rfl rfl
      | named id => exact cached (.named id) rfl rfl
      | prepared id zKey => exact cached (.prepared id zKey) rfl rfl
      | stored id zKey => exact cached (.stored id zKey) rfl rfl
      | scored id => exact cached (.scored id) rfl rfl

theorem kept_elsewhere (keyspace : Bytes) (before after : Db) (publisher : Publisher) (grows : Grows before after)
    (hashed : ∀ topic id payload, publisher.id = some id → Hashed keyspace before topic id payload →
      Hashed keyspace after topic id payload)
    (kept : publisher.Kept keyspace before) : publisher.Kept keyspace after := by
  obtain ⟨args, pc⟩ := publisher
  have returned : ∀ id, (∀ topic payload, Hashed keyspace before topic id payload → Hashed keyspace after topic id payload) →
      CacheKept keyspace before args (.returned id) → CacheKept keyspace after args (.returned id) := by
    intro id moves facts
    exact ⟨moves _ _ facts.1, grows_scored keyspace before after _ _ grows facts.2.1, grows_tallied keyspace before after _ grows facts.2.2⟩
  cases pc with
  | published id => exact returned id (fun topic payload => hashed topic id payload rfl) kept
  | caching own =>
      cases own with
      | stored id zKey => exact hashed _ id _ rfl kept
      | scored id => exact ⟨hashed _ id _ rfl kept.1, grows_scored keyspace before after _ _ grows kept.2⟩
      | returned id => exact returned id (fun topic payload => hashed topic id payload rfl) kept
      | _ => trivial

end Eventhub.Replay
