import Eventhub.Bytes

set_option autoImplicit false

/- The Redis service is not part of the repository. Db, KvStore.World, Cluster.Link
   and Cluster.Instance.deliver stand for it, and assume this of it:
   - one server runs the commands one after another, each in one step;
   - INCR, EXPIRE, SETEX, SET, GET, DEL, the hash and the sorted set commands do
     what is documented: ZADD replaces the score of a known member, scores are
     doubles, and members of one score are ordered by their bytes;
   - a key with an expiry is there until that millisecond and gone from then on,
     and no key is evicted;
   - PUBLISH queues a message, in the same order for all, on every connection
     that is alive and whose registered pattern matches the channel, and a
     pattern of plain text and a star matches what begins with the text. -/
namespace Eventhub.Redis

-- A string key used through INCR; expireAt is the millisecond at which EXPIRE
-- removes it.
structure Counter where
  value : Nat
  expireAt : Option Nat
deriving DecidableEq

structure ZEntry where
  score : Int
  member : Bytes
deriving DecidableEq

def ZEntry.key (entry : ZEntry) : Int ×ₗ List Nat := toLex (entry.score, entry.member.map UInt8.toNat)

-- Sorted sets are ordered by score and, for equal scores, by memcmp.
def ZEntry.Le (left right : ZEntry) : Prop := left.key ≤ right.key

instance : DecidableRel ZEntry.Le := fun left right => inferInstanceAs (Decidable (left.key ≤ right.key))

theorem key_injective (left right : ZEntry) (same : left.key = right.key) : left = right := by
  have parts := Prod.ext_iff.mp (toLex.injective same)
  cases left
  cases right
  simp only [ZEntry.mk.injEq]
  exact ⟨parts.1, List.map_injective_iff.mpr (fun _ _ equal => UInt8.toNat_inj.mp equal) parts.2⟩

instance : Std.Total ZEntry.Le := ⟨fun left right => le_total left.key right.key⟩

instance : IsTrans ZEntry ZEntry.Le := ⟨fun _ _ _ first second => le_trans (α := Int ×ₗ List Nat) first second⟩

theorem le_antisymm_entry (left right : ZEntry) (first : left.Le right) (second : right.Le left) : left = right :=
  key_injective left right (le_antisymm (α := Int ×ₗ List Nat) first second)

structure ZSet where
  entries : List ZEntry
  ordered : entries.Pairwise ZEntry.Le
  distinct : (entries.map ZEntry.member).Nodup

def ZSet.empty : ZSet := ⟨[], List.Pairwise.nil, List.nodup_nil⟩

def ZSet.others (zset : ZSet) (member : Bytes) : List ZEntry := zset.entries.filter (fun entry => entry.member ≠ member)

def ZSet.add (zset : ZSet) (member : Bytes) (score : Int) : ZSet where
  entries := (zset.others member).orderedInsert ZEntry.Le ⟨score, member⟩
  ordered := (zset.ordered.filter _).orderedInsert _ _
  distinct := by
    have kept : ((zset.others member).map ZEntry.member).Nodup := zset.distinct.sublist (List.filter_sublist.map _)
    have fresh : member ∉ (zset.others member).map ZEntry.member := by
      intro inside
      obtain ⟨entry, among, same⟩ := List.mem_map.mp inside
      simp [ZSet.others, same] at among
    have same := (List.perm_orderedInsert ZEntry.Le ⟨score, member⟩ (zset.others member)).map ZEntry.member
    exact same.nodup_iff.mpr (List.nodup_cons.mpr ⟨fresh, kept⟩)

def ZSet.remove (zset : ZSet) (member : Bytes) : ZSet where
  entries := zset.others member
  ordered := zset.ordered.filter _
  distinct := zset.distinct.sublist (List.filter_sublist.map _)

abbrev Hash (α : Type) := AList (fun _ : Bytes => α)

-- tallies holds the hashes written by HINCRBY.
structure Db where
  counters : Bytes → Option Counter
  hashes : Bytes → Hash Bytes
  tallies : Bytes → Hash Int
  zsets : Bytes → ZSet

def Db.empty : Db := ⟨fun _ => none, fun _ => ∅, fun _ => ∅, fun _ => ZSet.empty⟩

def Counter.alive (counter : Counter) (now : Nat) : Bool :=
  match counter.expireAt with
  | none => true
  | some deadline => now < deadline

def Db.counter (db : Db) (now : Nat) (key : Bytes) : Option Counter := (db.counters key).filter (fun counter => counter.alive now)

def Db.incr (db : Db) (now : Nat) (key : Bytes) : Db × Nat :=
  let next := match db.counter now key with
    | none => ⟨1, none⟩
    | some counter => { counter with value := counter.value + 1 }
  ({ db with counters := Function.update db.counters key (some next) }, next.value)

def Db.expire (db : Db) (now : Nat) (key : Bytes) (seconds : Nat) : Db :=
  match db.counter now key with
  | none => db
  | some counter =>
      { db with counters := Function.update db.counters key (some { counter with expireAt := some (now + seconds * 1000) }) }

def Db.setex (db : Db) (now : Nat) (key : Bytes) (seconds value : Nat) : Db :=
  { db with counters := Function.update db.counters key (some ⟨value, some (now + seconds * 1000)⟩) }

def Db.hset (db : Db) (key field value : Bytes) : Db :=
  { db with hashes := Function.update db.hashes key ((db.hashes key).insert field value) }

def Db.hget (db : Db) (key field : Bytes) : Option Bytes := (db.hashes key).lookup field

def Db.hmget (db : Db) (key : Bytes) (fields : List Bytes) : List (Option Bytes) := fields.map (db.hget key)

def Db.hdel (db : Db) (key field : Bytes) : Db :=
  { db with hashes := Function.update db.hashes key ((db.hashes key).erase field) }

def Db.hincrby (db : Db) (key field : Bytes) (amount : Int) : Db :=
  let tally := ((db.tallies key).lookup field).getD 0
  { db with tallies := Function.update db.tallies key ((db.tallies key).insert field (tally + amount)) }

-- HDEL on a hash written by HINCRBY.
def Db.hdelTally (db : Db) (key field : Bytes) : Db :=
  { db with tallies := Function.update db.tallies key ((db.tallies key).erase field) }

def Db.zadd (db : Db) (key member : Bytes) (score : Int) : Db :=
  { db with zsets := Function.update db.zsets key ((db.zsets key).add member score) }

def Db.zrem (db : Db) (key member : Bytes) : Db := { db with zsets := Function.update db.zsets key ((db.zsets key).remove member) }

-- ZRANGE key 0 -1
def Db.zrange (db : Db) (key : Bytes) : List Bytes := (db.zsets key).entries.map ZEntry.member

-- ZREVRANGEBYSCORE key +inf min LIMIT 0 limit; a negative limit means no limit.
def Db.zrevrangebyscore (db : Db) (key : Bytes) (min limit : Int) : List Bytes :=
  let hits := (((db.zsets key).entries.filter (fun entry => min ≤ entry.score)).reverse).map ZEntry.member
  if limit < 0 then hits else hits.take limit.toNat

theorem expire_tables (db : Db) (now : Nat) (key : Bytes) (seconds : Nat) : (db.expire now key seconds).zsets = db.zsets ∧
    (db.expire now key seconds).tallies = db.tallies ∧ (db.expire now key seconds).hashes = db.hashes := by
  unfold Db.expire
  split <;> exact ⟨rfl, rfl, rfl⟩

theorem hget_hset (db : Db) (key field value : Bytes) : (db.hset key field value).hget key field = some value := by
  simp [Db.hget, Db.hset]

theorem hget_hset_ne (db : Db) (key field value otherKey other : Bytes) (different : (otherKey, other) ≠ (key, field)) :
    (db.hset key field value).hget otherKey other = db.hget otherKey other := by
  by_cases sameKey : otherKey = key
  · have sameField : other ≠ field := fun equal => different (by rw [sameKey, equal])
    subst sameKey
    simp [Db.hget, Db.hset, AList.lookup_insert_ne sameField]
  · simp [Db.hget, Db.hset, Function.update_of_ne sameKey]

theorem mem_zadd (zset : ZSet) (member : Bytes) (score : Int) (entry : ZEntry) :
    entry ∈ (zset.add member score).entries ↔ entry = ⟨score, member⟩ ∨ (entry ∈ zset.entries ∧ entry.member ≠ member) := by
  simp [ZSet.add, ZSet.others, List.mem_orderedInsert]

theorem mem_zrem (zset : ZSet) (member : Bytes) (entry : ZEntry) :
    entry ∈ (zset.remove member).entries ↔ entry ∈ zset.entries ∧ entry.member ≠ member := by
  simp [ZSet.remove, ZSet.others]

end Eventhub.Redis
