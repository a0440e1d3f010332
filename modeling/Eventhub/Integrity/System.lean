import Eventhub.Lib.Transition
import Eventhub.Redis.TopicLog

set_option autoImplicit false

namespace Eventhub.Integrity

open Redis

-- Where purgeExpiredCacheItems stands between two clock readings or commands.
-- total is the size of expiredItems.
inductive PurgePc where
  | entered
  | started (now : Nat)
  | scanning (now : Nat) (topics : List Bytes) (expiredItems : List (Bytes × Bytes))
  | emptied (now : Nat) (topic : Bytes) (topics : List Bytes) (expiredItems : List (Bytes × Bytes))
  | removing (expiredItems : List (Bytes × Bytes)) (total : Nat)
  | unlinking (topic id : Bytes) (expiredItems : List (Bytes × Bytes)) (total : Nat)
  | purged (total : Nat)
  | thrown
deriving DecidableEq

def isExpired (now : Nat) (key : Bytes) : Bool :=
  match CacheItemMeta.ofStr key with
  | none => false
  | some p => p.expireAt < now

-- allTopics is what HKEYS pub_count answers.
def purgeStep (keyspace : Bytes) (now : Nat) (db : Db) (allTopics : List Bytes) : PurgePc → Option (Db × PurgePc)
  | .entered => some (db, .started now)
  | .started started =>
      if allTopics.Perm (db.tallies (pubCountKey keyspace)).keys then some (db, .scanning started allTopics []) else none
  | .scanning _ [] expiredItems => some (db, .removing expiredItems expiredItems.length)
  | .scanning started (topic :: topics) expiredItems =>
      let cacheKeys := db.zrange (cacheScorePath keyspace topic)
      if cacheKeys.isEmpty then some (db, .emptied started topic topics expiredItems)
      else some (db, .scanning started topics (expiredItems ++ (cacheKeys.filter (isExpired started)).map (fun key => (topic, key))))
  | .emptied started topic topics expiredItems =>
      some (db.hdelTally (pubCountKey keyspace) topic, .scanning started topics expiredItems)
  | .removing [] total => some (db, .purged total)
  | .removing ((topic, key) :: expiredItems) total =>
      match CacheItemMeta.ofStr key with
      | none => some (db, .thrown)
      | some p => some (db.zrem (cacheScorePath keyspace topic) key, .unlinking topic p.id expiredItems total)
  | .unlinking topic id expiredItems total => some (db.hdel (cacheDataPath keyspace topic) id, .removing expiredItems total)
  | .purged total => some (db, .purged total)
  | .thrown => some (db, .thrown)

-- A call of cacheMessage or purgeExpiredCacheItems; failed is one that a Redis
-- error has cut short.
inductive Task where
  | caching (args : CacheArgs) (pc : CachePc)
  | purging (pc : PurgePc)
  | failed

def Task.inProgress : Task → Bool
  | .caching _ (.returned _) => false
  | .caching _ _ => true
  | .purging (.purged _) => false
  | .purging .thrown => false
  | .purging _ => true
  | .failed => false

structure World where
  now : Nat
  db : Db
  tasks : List Task

def World.start (now : Nat) : World := ⟨now, Db.empty, []⟩

inductive Event where
  | tick (elapsed : Nat)
  | cacheMessage (args : CacheArgs)
  | purgeExpiredCacheItems
  | advance (index : Nat) (allTopics : List Bytes)
  | fail (index : Nat)

section

variable (keyspace : Bytes) (config : CacheConfig)

def taskStep (now : Nat) (db : Db) (allTopics : List Bytes) : Task → Option (Db × Task)
  | .caching args pc =>
      let moved := cacheStep keyspace config now db args pc
      some (moved.1, .caching args moved.2)
  | .purging pc => (purgeStep keyspace now db allTopics pc).map (fun moved => (moved.1, .purging moved.2))
  | .failed => some (db, .failed)

def World.step (world : World) : Event → Option World
  | .tick elapsed => some { world with now := world.now + elapsed }
  | .cacheMessage args => some { world with tasks := world.tasks ++ [.caching args .entered] }
  | .purgeExpiredCacheItems => some { world with tasks := world.tasks ++ [.purging .entered] }
  | .advance index allTopics => do
      let task ← world.tasks[index]?
      let moved ← taskStep keyspace config world.now world.db allTopics task
      return { world with db := moved.1, tasks := world.tasks.set index moved.2 }
  | .fail index =>
      match world.tasks[index]? with
      | some task => if task.inProgress then some { world with tasks := world.tasks.set index .failed } else none
      | none => none

def Steps (before : World) (event : Event) (after : World) : Prop := before.step keyspace config event = some after

end

def MemberNamed (keyspace : Bytes) (db : Db) (topic id : Bytes) : Prop :=
  ∃ entry ∈ (db.zsets (cacheScorePath keyspace topic)).entries, (CacheItemMeta.ofStr entry.member).map CacheItemMeta.id = some id

structure Intact (keyspace : Bytes) (db : Db) : Prop where
  fields : ∀ topic id, id ∈ db.hashes (cacheDataPath keyspace topic) → MemberNamed keyspace db topic id
  listed : ∀ topic, (db.zsets (cacheScorePath keyspace topic)).entries ≠ [] → topic ∈ db.tallies (pubCountKey keyspace)

end Eventhub.Integrity
