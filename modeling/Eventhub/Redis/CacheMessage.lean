import Eventhub.Lib.Binary64
import Eventhub.Lib.Decimal
import Eventhub.Lib.ListLemmas
import Eventhub.Redis.Store

set_option autoImplicit false

namespace Eventhub.Redis

structure CacheConfig where
  enableCache : Bool
  defaultCacheTtl : Int

def redisPrefix (keyspace key : Bytes) : Bytes := if keyspace.length > 0 then keyspace ++ str ":" ++ key else key

def cacheScorePath (keyspace topic : Bytes) : Bytes := redisPrefix keyspace topic ++ str ":scores"

def cacheDataPath (keyspace topic : Bytes) : Bytes := redisPrefix keyspace topic ++ str ":cache"

def idKey (keyspace : Bytes) (timestamp : Int) : Bytes := redisPrefix keyspace (str "id:" ++ Decimal.signedText timestamp)

def pubCountKey (keyspace : Bytes) : Bytes := redisPrefix keyspace (str "pub_count")

structure CacheId where
  timestamp : Int
  sequence : Nat
deriving DecidableEq

-- fmt::format("{}-{}", timestamp, id)
def CacheId.text (id : CacheId) : Bytes := Decimal.signedText id.timestamp ++ [hyphen] ++ Decimal.text id.sequence

structure CacheItemMeta where
  id : Bytes
  expireAt : Nat
  origin : Bytes
deriving DecidableEq

def CacheItemMeta.toStr (item : CacheItemMeta) : Bytes :=
  if item.origin = [] then item.id ++ [colon] ++ Decimal.text item.expireAt
  else item.id ++ [colon] ++ Decimal.text item.expireAt ++ [colon] ++ item.origin

structure CacheArgs where
  topic : Bytes
  payload : Bytes
  origin : Bytes
  timestamp : Int
  ttl : Nat

-- Where a call of cacheMessage stands between two clock readings or commands.
inductive CachePc where
  | entered
  | stamped (timestamp : Int)
  | counted (id : CacheId)
  | named (id : CacheId)
  | prepared (id : CacheId) (zKey : Bytes)
  | stored (id : CacheId) (zKey : Bytes)
  | scored (id : CacheId)
  | returned (id : CacheId)
deriving DecidableEq

-- unsigned long arithmetic: a negative default wraps.
def expireAt (config : CacheConfig) (now ttl : Nat) : Nat :=
  (now + (if ttl = 0 then (config.defaultCacheTtl % 2 ^ 64).toNat else ttl) * 1000) % 2 ^ 64

def cacheStep (keyspace : Bytes) (config : CacheConfig) (now : Nat) (db : Db) (args : CacheArgs) : CachePc → Db × CachePc
  | .entered => (db, .stamped (if args.timestamp = 0 then now else args.timestamp))
  | .stamped timestamp =>
      let counted := db.incr now (idKey keyspace timestamp)
      (counted.1, .counted ⟨timestamp, counted.2 - 1⟩)
  | .counted id => (db.expire now (idKey keyspace id.timestamp) 1, .named id)
  | .named id =>
      if !config.enableCache then (db, .returned id)
      else (db, .prepared id (CacheItemMeta.toStr ⟨id.text, expireAt config now args.ttl, args.origin⟩))
  | .prepared id zKey => (db.hset (cacheDataPath keyspace args.topic) id.text args.payload, .stored id zKey)
  | .stored id zKey => (db.zadd (cacheScorePath keyspace args.topic) zKey (Binary64.ofInt id.timestamp), .scored id)
  | .scored id => (db.hincrby (pubCountKey keyspace) args.topic 1, .returned id)
  | .returned id => (db, .returned id)

theorem hyphen_not_digit (number : Nat) : hyphen ∉ Decimal.text number := by
  intro inside
  exact absurd (Decimal.text_digits number hyphen inside) (by decide)

theorem cache_id_text_injective (left right : CacheId) (same : left.text = right.text) : left = right := by
  rw [CacheId.text, CacheId.text, List.append_assoc, List.append_assoc] at same
  obtain ⟨stamps, counts⟩ := ListLemmas.append_mark_unique hyphen _ _ _ _ (hyphen_not_digit _) (hyphen_not_digit _) same
  cases left
  cases right
  simp only [CacheId.mk.injEq]
  exact ⟨Decimal.signed_text_injective _ _ stamps, Decimal.text_injective _ _ counts⟩

theorem redis_prefix_injective (keyspace left right : Bytes) (same : redisPrefix keyspace left = redisPrefix keyspace right) :
    left = right := by
  unfold redisPrefix at same
  split at same
  · exact List.append_cancel_left same
  · exact same

theorem score_path_injective (keyspace left right : Bytes) (same : cacheScorePath keyspace left = cacheScorePath keyspace right) :
    left = right := redis_prefix_injective keyspace left right (List.append_cancel_right same)

theorem data_path_injective (keyspace left right : Bytes) (same : cacheDataPath keyspace left = cacheDataPath keyspace right) :
    left = right := redis_prefix_injective keyspace left right (List.append_cancel_right same)

end Eventhub.Redis
