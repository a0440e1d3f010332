import Eventhub.Integrity.Tied
import Eventhub.Redis.Window

set_option autoImplicit false

namespace Eventhub.Integrity

open Redis

def idOf (key : Bytes) : Option Bytes := (CacheItemMeta.ofStr key).map CacheItemMeta.id

structure Consistent (keyspace : Bytes) (db : Db) : Prop where
  distinct : ∀ topic, ((db.zrange (cacheScorePath keyspace topic)).filterMap idOf).Nodup
  listed : ∀ topic, db.zrange (cacheScorePath keyspace topic) ≠ [] → topic ∈ db.tallies (pubCountKey keyspace)

section

variable (keyspace : Bytes) (now : Nat)

def Moves (allTopics : List Bytes) (before after : Db × PurgePc) : Prop :=
  purgeStep keyspace now before.1 allTopics before.2 = some after

-- A call of purgeExpiredCacheItems with no other command between its own. Its
-- HKEYS answers allTopics.
def Purges (allTopics : List Bytes) (before after : Db) (total : Nat) : Prop :=
  Relation.ReflTransGen (Moves keyspace now allTopics) (before, .entered) (after, .purged total)

def expiredIds (db : Db) (topic : Bytes) : List Bytes :=
  ((db.zrange (cacheScorePath keyspace topic)).filter (isExpired now)).filterMap idOf

def expiredEntries (db : Db) : Set (Bytes × Bytes) :=
  { item | item.2 ∈ db.zrange (cacheScorePath keyspace item.1) ∧ isExpired now item.2 = true }

-- What every reader is answered before and after. A reader of a pattern gets
-- the topics in the order HKEYS has them.
structure Unseen (before after : Db) : Prop where
  topic : ∀ config time allTopics allTopicsAfter topic since limit, now ≤ time → limit < 0 →
    getCacheSince keyspace config after time allTopicsAfter topic since limit false =
      getCacheSince keyspace config before time allTopics topic since limit false
  pattern : ∀ config time allTopics allTopicsAfter topicPattern since limit, now ≤ time → limit < 0 →
    allTopics.Perm (before.tallies (pubCountKey keyspace)).keys →
    allTopicsAfter.Perm (after.tallies (pubCountKey keyspace)).keys →
    (getCacheSince keyspace config after time allTopicsAfter topicPattern since limit true).Perm
        (getCacheSince keyspace config before time allTopics topicPattern since limit true) ∧
      (allTopicsAfter.Sublist allTopics →
        getCacheSince keyspace config after time allTopicsAfter topicPattern since limit true =
          getCacheSince keyspace config before time allTopics topicPattern since limit true)

structure Purged (before after : Db) (total : Nat) : Prop where
  scores : ∀ topic, (after.zsets (cacheScorePath keyspace topic)).entries =
    (before.zsets (cacheScorePath keyspace topic)).entries.filter (fun entry => !isExpired now entry.member)
  fields : ∀ topic id, after.hget (cacheDataPath keyspace topic) id =
    if id ∈ expiredIds keyspace now before topic then none else before.hget (cacheDataPath keyspace topic) id
  total : total = (expiredEntries keyspace now before).ncard
  consistent : Consistent keyspace after
  unseen : Unseen keyspace now before after

def forgetEmpty (db : Db) (topic : Bytes) : Db :=
  if (db.zrange (cacheScorePath keyspace topic)).isEmpty then db.hdelTally (pubCountKey keyspace) topic else db

def expiredIn (db : Db) (topic : Bytes) : List (Bytes × Bytes) :=
  ((db.zrange (cacheScorePath keyspace topic)).filter (isExpired now)).map (fun key => (topic, key))

def dropItem (db : Db) (item : Bytes × Bytes) : Db :=
  match CacheItemMeta.ofStr item.2 with
  | none => db
  | some p => (db.zrem (cacheScorePath keyspace item.1) item.2).hdel (cacheDataPath keyspace item.1) p.id

def fieldOf (item : Bytes × Bytes) : Option (Bytes × Bytes) := (CacheItemMeta.ofStr item.2).map (fun p => (item.1, p.id))

def expiredItems (db : Db) (allTopics : List Bytes) : List (Bytes × Bytes) := allTopics.flatMap (expiredIn keyspace now db)

def purgeResult (db : Db) (allTopics : List Bytes) : Db :=
  (expiredItems keyspace now db allTopics).foldl (dropItem keyspace) (allTopics.foldl (forgetEmpty keyspace) db)

theorem forget_tables (db : Db) (topic : Bytes) :
    (forgetEmpty keyspace db topic).zsets = db.zsets ∧ (forgetEmpty keyspace db topic).hashes = db.hashes := by
  unfold forgetEmpty
  split <;> exact ⟨rfl, rfl⟩

theorem forget_listed (db : Db) (topic other : Bytes) :
    other ∈ (forgetEmpty keyspace db topic).tallies (pubCountKey keyspace) ↔
      other ∈ db.tallies (pubCountKey keyspace) ∧ (other = topic → db.zrange (cacheScorePath keyspace other) ≠ []) := by
  rw [forgetEmpty]
  by_cases empty : db.zrange (cacheScorePath keyspace topic) = []
  · rw [if_pos (List.isEmpty_iff.mpr empty), Db.hdelTally]
    simp only [Function.update_self, AList.mem_erase]
    constructor
    · intro kept
      exact ⟨kept.2, fun same => absurd same kept.1⟩
    · intro kept
      exact ⟨fun same => kept.2 same (same ▸ empty), kept.1⟩
  · rw [if_neg (fun found => empty (List.isEmpty_iff.mp found))]
    constructor
    · intro inside
      exact ⟨inside, fun same => same ▸ empty⟩
    · exact And.left

theorem forgotten_tables (topics : List Bytes) (db : Db) :
    (topics.foldl (forgetEmpty keyspace) db).zsets = db.zsets ∧ (topics.foldl (forgetEmpty keyspace) db).hashes = db.hashes := by
  induction topics generalizing db with
  | nil => exact ⟨rfl, rfl⟩
  | cons topic topics ih =>
      have first := forget_tables keyspace db topic
      have rest := ih (forgetEmpty keyspace db topic)
      exact ⟨rest.1.trans first.1, rest.2.trans first.2⟩

theorem zrange_congr (first second : Db) (same : first.zsets = second.zsets) : first.zrange = second.zrange := by
  funext key
  rw [Db.zrange, Db.zrange, same]

theorem forgotten_listed (topics : List Bytes) (db : Db) (other : Bytes) :
    other ∈ (topics.foldl (forgetEmpty keyspace) db).tallies (pubCountKey keyspace) ↔
      other ∈ db.tallies (pubCountKey keyspace) ∧ (other ∈ topics → db.zrange (cacheScorePath keyspace other) ≠ []) := by
  induction topics generalizing db with
  | nil => simp
  | cons topic topics ih =>
      rw [List.foldl_cons, ih, forget_listed, zrange_congr _ _ (forget_tables keyspace db topic).1, List.mem_cons]
      tauto

-- The loop over allTopics. Forgetting a topic does not change what the later
-- turns read.
theorem scanning_runs (allTopics topics : List Bytes) (db : Db) (found : List (Bytes × Bytes)) :
    Relation.ReflTransGen (Moves keyspace now allTopics) (db, .scanning now topics found)
      (topics.foldl (forgetEmpty keyspace) db,
        .removing (found ++ expiredItems keyspace now db topics) (found ++ expiredItems keyspace now db topics).length) := by
  induction topics generalizing db found with
  | nil =>
      apply Relation.ReflTransGen.single
      simp [Moves, purgeStep, expiredItems]
  | cons topic topics ih =>
      have unread : expiredIn keyspace now (forgetEmpty keyspace db topic) = expiredIn keyspace now db := by
        funext other
        rw [expiredIn, expiredIn, zrange_congr _ _ (forget_tables keyspace db topic).1]
      have later := ih (forgetEmpty keyspace db topic) (found ++ expiredIn keyspace now db topic)
      simp only [expiredItems, unread, List.append_assoc] at later
      simp only [expiredItems, List.flatMap_cons, List.foldl_cons]
      by_cases empty : (db.zrange (cacheScorePath keyspace topic)).isEmpty = true
      · have nothing : expiredIn keyspace now db topic = [] := by simp [expiredIn, List.isEmpty_iff.mp empty]
        have forgets : forgetEmpty keyspace db topic = db.hdelTally (pubCountKey keyspace) topic := if_pos empty
        rw [nothing, List.append_nil] at later
        have looked : Moves keyspace now allTopics (db, .scanning now (topic :: topics) found) (db, .emptied now topic topics found) := by
          simp only [Moves, purgeStep]
          rw [if_pos empty]
        have removed : Moves keyspace now allTopics (db, .emptied now topic topics found)
            (forgetEmpty keyspace db topic, .scanning now topics found) := by
          rw [Moves, purgeStep, forgets]
        rw [nothing]
        exact .head looked (.head removed later)
      · have keeps : forgetEmpty keyspace db topic = db := if_neg empty
        rw [keeps] at later
        have looked : Moves keyspace now allTopics (db, .scanning now (topic :: topics) found)
            (db, .scanning now topics (found ++ expiredIn keyspace now db topic)) := by
          simp only [Moves, purgeStep]
          rw [if_neg empty, expiredIn]
        rw [keeps]
        exact .head looked later

theorem removing_runs (allTopics : List Bytes) (items : List (Bytes × Bytes)) (db : Db) (total : Nat)
    (parses : ∀ item ∈ items, CacheItemMeta.ofStr item.2 ≠ none) :
    Relation.ReflTransGen (Moves keyspace now allTopics) (db, .removing items total) (items.foldl (dropItem keyspace) db, .purged total) := by
  induction items generalizing db with
  | nil => exact .single rfl
  | cons item items ih =>
      obtain ⟨p, parsed⟩ := Option.ne_none_iff_exists'.mp (parses item List.mem_cons_self)
      have removed : Moves keyspace now allTopics (db, .removing (item :: items) total)
          (db.zrem (cacheScorePath keyspace item.1) item.2, .unlinking item.1 p.id items total) := by
        simp [Moves, purgeStep, parsed]
      have unlinked : Moves keyspace now allTopics
          (db.zrem (cacheScorePath keyspace item.1) item.2, .unlinking item.1 p.id items total)
          (dropItem keyspace db item, .removing items total) := by
        simp [Moves, purgeStep, dropItem, parsed]
      exact .head removed (.head unlinked (ih _ (fun other inside => parses other (List.mem_cons_of_mem _ inside))))

theorem expired_parses (key : Bytes) (expired : isExpired now key = true) : CacheItemMeta.ofStr key ≠ none := by
  intro absent
  simp [isExpired, absent] at expired

theorem mem_expired_items (db : Db) (allTopics : List Bytes) (item : Bytes × Bytes) :
    item ∈ expiredItems keyspace now db allTopics ↔ item.1 ∈ allTopics ∧ item ∈ expiredEntries keyspace now db := by
  simp only [expiredItems, expiredIn, expiredEntries, List.mem_flatMap, List.mem_map, List.mem_filter, Set.mem_ofPred_eq]
  constructor
  · intro found
    obtain ⟨topic, listed, key, expired, same⟩ := found
    rw [← same]
    exact ⟨listed, expired⟩
  · intro found
    exact ⟨item.1, found.1, item.2, found.2, rfl⟩

theorem purge_runs (allTopics : List Bytes) (db : Db) (answered : allTopics.Perm (db.tallies (pubCountKey keyspace)).keys) :
    Purges keyspace now allTopics db (purgeResult keyspace now db allTopics) (expiredItems keyspace now db allTopics).length := by
  have called : Moves keyspace now allTopics (db, .entered) (db, .started now) := rfl
  have listed : Moves keyspace now allTopics (db, .started now) (db, .scanning now allTopics []) := by
    simp [Moves, purgeStep, answered]
  have scanned := scanning_runs keyspace now allTopics allTopics db []
  rw [List.nil_append] at scanned
  have parses : ∀ item ∈ expiredItems keyspace now db allTopics, CacheItemMeta.ofStr item.2 ≠ none := by
    intro item inside
    exact expired_parses now item.2 ((mem_expired_items keyspace now db allTopics item).mp inside).2.2
  exact .head called (.head listed (scanned.trans (removing_runs keyspace now allTopics _ _ _ parses)))

theorem purged_is_final (allTopics : List Bytes) (db : Db) (total : Nat) (state : Db × PurgePc)
    (later : Relation.ReflTransGen (Moves keyspace now allTopics) (db, .purged total) state) : state = (db, .purged total) := by
  induction later with
  | refl => rfl
  | tail _ moved ih =>
      rw [ih] at moved
      exact (Option.some.inj moved).symm

theorem purge_unique (allTopics : List Bytes) (db first second : Db) (total count : Nat)
    (run : Purges keyspace now allTopics db first total) (other : Purges keyspace now allTopics db second count) :
    second = first ∧ count = total := by
  have unique : Relator.RightUnique (Moves keyspace now allTopics) := fun _ _ _ left right => Option.some.inj (left.symm.trans right)
  have same : (second, PurgePc.purged count) = (first, .purged total) := by
    rcases Relation.ReflTransGen.total_of_right_unique unique run other with later | later
    · exact purged_is_final keyspace now allTopics first total _ later
    · exact (purged_is_final keyspace now allTopics second count _ later).symm
  obtain ⟨sameDb, sameEnd⟩ := Prod.mk.inj same
  exact ⟨sameDb, PurgePc.purged.inj sameEnd⟩

theorem hget_hdel (db : Db) (key field otherKey other : Bytes) :
    (db.hdel key field).hget otherKey other = if (otherKey, other) = (key, field) then none else db.hget otherKey other := by
  simp only [Db.hdel, Db.hget, Prod.mk.injEq]
  by_cases sameKey : otherKey = key
  · rw [sameKey, Function.update_self]
    by_cases sameField : other = field
    · rw [sameField, AList.lookup_erase, if_pos ⟨rfl, rfl⟩]
    · rw [AList.lookup_erase_ne sameField, if_neg (fun both => sameField both.2)]
  · rw [Function.update_of_ne sameKey, if_neg (fun both => sameKey both.1)]

theorem drop_item_entries (db : Db) (item : Bytes × Bytes) (topic : Bytes) (parses : CacheItemMeta.ofStr item.2 ≠ none) :
    ((dropItem keyspace db item).zsets (cacheScorePath keyspace topic)).entries =
      (db.zsets (cacheScorePath keyspace topic)).entries.filter (fun entry => (topic, entry.member) ≠ item) := by
  obtain ⟨p, parsed⟩ := Option.ne_none_iff_exists'.mp parses
  simp only [dropItem, parsed, Db.zrem, Db.hdel]
  by_cases same : topic = item.1
  · rw [same, Function.update_self]
    apply List.filter_congr
    intro entry _
    simp [Prod.ext_iff]
  · rw [Function.update_of_ne (fun equal => same (score_path_injective keyspace _ _ equal))]
    exact (List.filter_eq_self.mpr (fun entry _ => by simp [Prod.ext_iff, same])).symm

theorem drop_item_hget (db : Db) (item : Bytes × Bytes) (topic id : Bytes) :
    (dropItem keyspace db item).hget (cacheDataPath keyspace topic) id =
      if fieldOf item = some (topic, id) then none else db.hget (cacheDataPath keyspace topic) id := by
  cases parsed : CacheItemMeta.ofStr item.2 with
  | none => simp [dropItem, fieldOf, parsed]
  | some p =>
      have paths : cacheDataPath keyspace topic = cacheDataPath keyspace item.1 ↔ item.1 = topic :=
        ⟨fun same => (data_path_injective keyspace _ _ same).symm, fun same => same ▸ rfl⟩
      simp only [dropItem, fieldOf, parsed, hget_hdel, Option.map_some, Option.some.injEq, Prod.mk.injEq, paths, eq_comm (a := id)]
      rfl

theorem drop_items_entries (items : List (Bytes × Bytes)) (db : Db) (topic : Bytes)
    (parses : ∀ item ∈ items, CacheItemMeta.ofStr item.2 ≠ none) :
    ((items.foldl (dropItem keyspace) db).zsets (cacheScorePath keyspace topic)).entries =
      (db.zsets (cacheScorePath keyspace topic)).entries.filter (fun entry => (topic, entry.member) ∉ items) := by
  induction items generalizing db with
  | nil => simp
  | cons item items ih =>
      rw [List.foldl_cons, ih _ (fun other inside => parses other (List.mem_cons_of_mem _ inside)),
        drop_item_entries keyspace db item topic (parses item List.mem_cons_self), List.filter_filter]
      apply List.filter_congr
      intro entry _
      simp only [List.mem_cons, not_or, Bool.decide_and, Bool.and_comm, decide_not, ne_eq]

theorem drop_items_hget (items : List (Bytes × Bytes)) (db : Db) (topic id : Bytes) :
    (items.foldl (dropItem keyspace) db).hget (cacheDataPath keyspace topic) id =
      if (topic, id) ∈ items.filterMap fieldOf then none else db.hget (cacheDataPath keyspace topic) id := by
  induction items generalizing db with
  | nil => simp
  | cons item items ih =>
      rw [List.foldl_cons, ih, drop_item_hget]
      by_cases owned : fieldOf item = some (topic, id)
      · simp [owned]
      · have others : (topic, id) ∈ (item :: items).filterMap fieldOf ↔ (topic, id) ∈ items.filterMap fieldOf := by
          simp only [List.mem_filterMap, List.mem_cons]
          constructor
          · intro found
            obtain ⟨other, among, named⟩ := found
            exact ⟨other, among.resolve_left (fun same => owned (same ▸ named)), named⟩
          · intro found
            obtain ⟨other, among, named⟩ := found
            exact ⟨other, .inr among, named⟩
        simp only [others, if_neg owned]

section

variable (db : Db) (allTopics : List Bytes) (consistent : Consistent keyspace db)
  (answered : allTopics.Perm (db.tallies (pubCountKey keyspace)).keys)

include consistent answered

theorem mem_all_expired (item : Bytes × Bytes) :
    item ∈ expiredItems keyspace now db allTopics ↔ item ∈ expiredEntries keyspace now db := by
  rw [mem_expired_items]
  refine ⟨And.right, fun expired => ⟨?_, expired⟩⟩
  exact answered.mem_iff.mpr (AList.mem_keys.mp (consistent.listed item.1 (List.ne_nil_of_mem expired.1)))

theorem purge_scores (topic : Bytes) : ((purgeResult keyspace now db allTopics).zsets (cacheScorePath keyspace topic)).entries =
    (db.zsets (cacheScorePath keyspace topic)).entries.filter (fun entry => !isExpired now entry.member) := by
  rw [purgeResult, drop_items_entries, (forgotten_tables keyspace allTopics db).1]
  · apply List.filter_congr
    intro entry inside
    have member : entry.member ∈ db.zrange (cacheScorePath keyspace topic) := List.mem_map_of_mem inside
    have dropped : (topic, entry.member) ∈ expiredItems keyspace now db allTopics ↔ isExpired now entry.member = true :=
      (mem_all_expired keyspace now db allTopics consistent answered _).trans (and_iff_right member)
    simp [dropped]
  · intro item inside
    exact expired_parses now item.2 ((mem_expired_items keyspace now db allTopics item).mp inside).2.2

theorem purge_fields (topic id : Bytes) : (purgeResult keyspace now db allTopics).hget (cacheDataPath keyspace topic) id =
    if id ∈ expiredIds keyspace now db topic then none else db.hget (cacheDataPath keyspace topic) id := by
  have owned : (topic, id) ∈ (expiredItems keyspace now db allTopics).filterMap fieldOf ↔ id ∈ expiredIds keyspace now db topic := by
    simp only [List.mem_filterMap, mem_all_expired keyspace now db allTopics consistent answered, expiredIds, List.mem_filter, fieldOf, idOf,
      Option.map_eq_some_iff]
    constructor
    · intro found
      obtain ⟨item, expired, p, parsed, same⟩ := found
      obtain ⟨sameTopic, sameId⟩ := Prod.mk.inj same
      exact ⟨item.2, sameTopic ▸ expired, p, parsed, sameId⟩
    · intro found
      obtain ⟨key, expired, p, parsed, same⟩ := found
      exact ⟨(topic, key), expired, p, parsed, same ▸ rfl⟩
  have unchanged : (allTopics.foldl (forgetEmpty keyspace) db).hget = db.hget := by
    funext key field
    rw [Db.hget, Db.hget, (forgotten_tables keyspace allTopics db).2]
  simp only [purgeResult, drop_items_hget, owned, unchanged]

theorem purge_total : (expiredItems keyspace now db allTopics).length = (expiredEntries keyspace now db).ncard := by
  have separate : (expiredItems keyspace now db allTopics).Nodup := by
    rw [expiredItems, List.nodup_flatMap]
    constructor
    · intro topic _
      have members : (db.zrange (cacheScorePath keyspace topic)).Nodup := (db.zsets (cacheScorePath keyspace topic)).distinct
      exact (members.filter _).map (fun _ _ same => (Prod.mk.inj same).2)
    · have topics : allTopics.Nodup := answered.nodup_iff.mpr (AList.keys_nodup _)
      refine topics.imp (fun different item first second => different ?_)
      obtain ⟨_, _, sameFirst⟩ := List.mem_map.mp first
      obtain ⟨_, _, sameSecond⟩ := List.mem_map.mp second
      exact congrArg Prod.fst (sameFirst.trans sameSecond.symm)
  have same : expiredEntries keyspace now db = (expiredItems keyspace now db allTopics).toFinset := by
    ext item
    rw [List.coe_toFinset, Set.mem_ofPred_eq, mem_all_expired keyspace now db allTopics consistent answered]
  rw [same, Set.ncard_coe_finset, List.toFinset_card_of_nodup separate]

theorem purge_listed (topic : Bytes) : topic ∈ (purgeResult keyspace now db allTopics).tallies (pubCountKey keyspace) ↔
    db.zrange (cacheScorePath keyspace topic) ≠ [] := by
  have kept : ∀ (items : List (Bytes × Bytes)) (start : Db), (items.foldl (dropItem keyspace) start).tallies = start.tallies := by
    intro items
    induction items with
    | nil => exact fun _ => rfl
    | cons item items ih =>
        intro start
        rw [List.foldl_cons, ih, dropItem]
        split <;> rfl
  rw [purgeResult, kept, forgotten_listed]
  constructor
  · intro inside
    exact inside.2 (answered.mem_iff.mpr (AList.mem_keys.mp inside.1))
  · intro members
    exact ⟨consistent.listed topic members, fun _ => members⟩

theorem purge_zrange (topic : Bytes) : (purgeResult keyspace now db allTopics).zrange (cacheScorePath keyspace topic) =
    (db.zrange (cacheScorePath keyspace topic)).filter (fun key => !isExpired now key) := by
  rw [Db.zrange, purge_scores keyspace now db allTopics consistent answered, Db.zrange, List.filter_map]
  rfl

theorem purge_consistent : Consistent keyspace (purgeResult keyspace now db allTopics) := by
  have members := purge_zrange keyspace now db allTopics consistent answered
  constructor
  · intro topic
    rw [members]
    exact (consistent.distinct topic).sublist (List.filter_sublist.filterMap _)
  · intro topic nonempty
    rw [purge_listed keyspace now db allTopics consistent answered]
    intro empty
    rw [members, empty] at nonempty
    exact nonempty rfl

end

theorem score_keys_unlimited (db : Db) (topic : Bytes) (since limit : Int) (unlimited : limit < 0) :
    scoreKeys keyspace db topic since limit =
      ((db.zsets (cacheScorePath keyspace topic)).entries.filter (fun entry => Binary64.ofInt since ≤ entry.score)).map ZEntry.member := by
  rw [scoreKeys, Db.zrevrangebyscore, if_pos unlimited, ← List.map_reverse, List.reverse_reverse]

theorem cache_keys_live_only (time : Nat) (later : now ≤ time) (keys : List Bytes) :
    cacheKeys time (keys.filter (fun key => !isExpired now key)) = cacheKeys time keys := by
  induction keys with
  | nil => rfl
  | cons key keys ih =>
      cases expired : isExpired now key with
      | false =>
          rw [List.filter_cons_of_pos (by simp [expired])]
          cases parsed : CacheItemMeta.ofStr key <;> simp_all [cacheKeys, List.filter_cons]
      | true =>
          obtain ⟨p, parsed⟩ := Option.ne_none_iff_exists'.mp (expired_parses now key expired)
          have past : ¬ time ≤ p.expireAt := by
            simp only [isExpired, parsed, decide_eq_true_eq] at expired
            omega
          rw [List.filter_cons_of_neg (by simp [expired]), ih]
          simp [cacheKeys, parsed, past]

theorem live_field_kept (db : Db) (time : Nat) (later : now ≤ time) (topic : Bytes) (consistent : Consistent keyspace db)
    (keys : List Bytes) (among : ∀ key ∈ keys, key ∈ db.zrange (cacheScorePath keyspace topic)) (item : CacheItemMeta)
    (read : item ∈ cacheKeys time keys) : item.id ∉ expiredIds keyspace now db topic := by
  obtain ⟨parsed, live⟩ := List.mem_filter.mp read
  obtain ⟨key, inside, named⟩ := List.mem_filterMap.mp parsed
  intro removed
  obtain ⟨other, expired, same⟩ := List.mem_filterMap.mp removed
  obtain ⟨member, past⟩ := List.mem_filter.mp expired
  have different : key ≠ other := by
    intro equal
    rw [equal] at named
    simp only [isExpired, named, decide_eq_true_eq] at past
    simp only [decide_eq_true_eq] at live
    omega
  have apart := List.pairwise_filterMap.mp (consistent.distinct topic)
  have symmetric : Std.Symm (fun left right => ∀ id, idOf left = some id → ∀ id', idOf right = some id' → id ≠ id') :=
    ⟨fun _ _ differ id first id' second same => differ id' second id first same.symm⟩
  exact apart.forall (among key inside) member different item.id (by rw [idOf, named]; rfl) item.id same rfl

theorem cache_rows_congr (first second : Db) (topic : Bytes) (items : List CacheItemMeta)
    (same : ∀ item ∈ items, first.hget (cacheDataPath keyspace topic) item.id = second.hget (cacheDataPath keyspace topic) item.id) :
    cacheRows keyspace first topic items = cacheRows keyspace second topic items := by
  have answers : first.hmget (cacheDataPath keyspace topic) (items.map CacheItemMeta.id) =
      second.hmget (cacheDataPath keyspace topic) (items.map CacheItemMeta.id) := by
    simp only [Db.hmget, List.map_map]
    exact List.map_congr_left same
  rw [cacheRows, cacheRows, answers]

section

variable (before after : Db) (consistent : Consistent keyspace before)
  (scores : ∀ topic, (after.zsets (cacheScorePath keyspace topic)).entries =
    (before.zsets (cacheScorePath keyspace topic)).entries.filter (fun entry => !isExpired now entry.member))
  (fields : ∀ topic id, after.hget (cacheDataPath keyspace topic) id =
    if id ∈ expiredIds keyspace now before topic then none else before.hget (cacheDataPath keyspace topic) id)

include consistent scores fields

theorem topic_cache_unseen (time : Nat) (later : now ≤ time) (topic : Bytes) (since limit : Int) (unlimited : limit < 0) :
    topicCache keyspace after time since limit topic = topicCache keyspace before time since limit topic := by
  have keys : scoreKeys keyspace after topic since limit =
      (scoreKeys keyspace before topic since limit).filter (fun key => !isExpired now key) := by
    rw [score_keys_unlimited keyspace after topic since limit unlimited, score_keys_unlimited keyspace before topic since limit unlimited,
      scores, List.filter_map, List.filter_filter, List.filter_filter]
    congr 1
    apply List.filter_congr
    intro entry _
    exact Bool.and_comm _ _
  rw [topicCache, topicCache, keys, cache_keys_live_only now time later]
  apply cache_rows_congr
  intro item read
  have among : ∀ key ∈ scoreKeys keyspace before topic since limit, key ∈ before.zrange (cacheScorePath keyspace topic) := by
    rw [score_keys_unlimited keyspace before topic since limit unlimited]
    exact (List.filter_sublist.map ZEntry.member).subset
  rw [fields, if_neg (live_field_kept keyspace now before time later topic consistent _ among item read)]

end

theorem topic_cache_empty (db : Db) (time : Nat) (topic : Bytes) (since limit : Int)
    (empty : db.zrange (cacheScorePath keyspace topic) = []) : topicCache keyspace db time since limit topic = [] := by
  have entries : (db.zsets (cacheScorePath keyspace topic)).entries = [] := List.map_eq_nil_iff.mp empty
  have keys : scoreKeys keyspace db topic since limit = [] := by simp [scoreKeys, Db.zrevrangebyscore, entries]
  rw [topicCache, keys]
  rfl

theorem purge_unseen (db : Db) (allTopics : List Bytes) (consistent : Consistent keyspace db)
    (answered : allTopics.Perm (db.tallies (pubCountKey keyspace)).keys) :
    Unseen keyspace now db (purgeResult keyspace now db allTopics) := by
  have topics : ∀ time since limit, now ≤ time → limit < 0 →
      topicCache keyspace (purgeResult keyspace now db allTopics) time since limit = topicCache keyspace db time since limit := by
    intro time since limit later unlimited
    funext topic
    exact topic_cache_unseen keyspace now db _ consistent (purge_scores keyspace now db allTopics consistent answered)
      (purge_fields keyspace now db allTopics consistent answered) time later topic since limit unlimited
  constructor
  · intro config time _ _ topic since limit later unlimited
    simp only [getCacheSince, topics time since limit later unlimited]
    rfl
  · intro config time ordered orderedAfter topicPattern since limit later unlimited asked askedAfter
    have kept : ∀ chosen : List Bytes, chosen.Perm ((purgeResult keyspace now db allTopics).tallies (pubCountKey keyspace)).keys →
        chosen.Sublist ordered →
        (getTopicsSeen chosen topicPattern).flatMap (topicCache keyspace db time since limit) =
          (getTopicsSeen ordered topicPattern).flatMap (topicCache keyspace db time since limit) := by
      intro chosen same part
      have distinct : ordered.Nodup := asked.nodup_iff.mpr (AList.keys_nodup _)
      apply ListLemmas.flat_map_part _ _ _ (part.filter _) (distinct.filter _)
      intro topic seen left
      apply topic_cache_empty
      obtain ⟨_, matched⟩ := List.mem_filter.mp seen
      by_contra members
      have listed := (purge_listed keyspace now db allTopics consistent answered topic).mpr members
      exact left (List.mem_filter.mpr ⟨same.mem_iff.mpr (AList.mem_keys.mp listed), matched⟩)
    cases enabled : config.enableCache with
    | false => simp [getCacheSince, enabled]
    | true =>
        simp only [getCacheSince, enabled, Bool.not_true, Bool.false_eq_true, if_false, if_true, topics time since limit later unlimited]
        refine ⟨?_, fun part => kept orderedAfter askedAfter part⟩
        -- Put the topics that are left in the order of the first answer.
        have reordered : (ordered.filter (· ∈ orderedAfter)).Perm orderedAfter := by
          have distinct : ordered.Nodup := asked.nodup_iff.mpr (AList.keys_nodup _)
          have distinctAfter : orderedAfter.Nodup := askedAfter.nodup_iff.mpr (AList.keys_nodup _)
          refine (List.perm_ext_iff_of_nodup (distinct.filter _) distinctAfter).mpr (fun topic => ?_)
          simp only [List.mem_filter, decide_eq_true_eq]
          refine ⟨And.right, fun listed => ⟨?_, listed⟩⟩
          have members := (purge_listed keyspace now db allTopics consistent answered topic).mp
            (AList.mem_keys.mpr (askedAfter.mem_iff.mp listed))
          exact asked.mem_iff.mpr (AList.mem_keys.mp (consistent.listed topic members))
        rw [← kept (ordered.filter (· ∈ orderedAfter)) (reordered.trans askedAfter) List.filter_sublist]
        exact (reordered.symm.filter _).flatMap_right _

theorem purge_invisible (allTopics : List Bytes) (db : Db) (consistent : Consistent keyspace db)
    (answered : allTopics.Perm (db.tallies (pubCountKey keyspace)).keys) :
    (∃ after total, Purges keyspace now allTopics db after total) ∧
      ∀ after total, Purges keyspace now allTopics db after total → Purged keyspace now db after total := by
  have run := purge_runs keyspace now allTopics db answered
  refine ⟨⟨_, _, run⟩, fun after total other => ?_⟩
  obtain ⟨sameDb, sameTotal⟩ := purge_unique keyspace now allTopics db _ after _ total run other
  rw [sameDb, sameTotal]
  exact {
    scores := purge_scores keyspace now db allTopics consistent answered
    fields := purge_fields keyspace now db allTopics consistent answered
    total := purge_total keyspace now db allTopics consistent answered
    consistent := purge_consistent keyspace now db allTopics consistent answered
    unseen := purge_unseen keyspace now db allTopics consistent answered }

end

theorem expired_of_two_purged :
    ∃ after, Purges [] 50 [str "t"] (sampleDb [sampleEntry 1 100, sampleEntry 2 10]) after 1 ∧
      after.zrange (str "t:scores") = [str "1-0:100:o"] ∧ Purged [] 50 (sampleDb [sampleEntry 1 100, sampleEntry 2 10]) after 1 := by
  have elsewhere : ∀ topic, topic ≠ str "t" →
      (sampleDb [sampleEntry 1 100, sampleEntry 2 10]).zrange (cacheScorePath [] topic) = [] := by
    intro topic other
    have path : cacheScorePath [] topic ≠ cacheScorePath [] (str "t") := fun same => other (score_path_injective [] _ _ same)
    simp [sampleDb, storeEntry, Db.zrange, Db.zadd, Db.hincrby, Db.hset, Db.empty, ZSet.empty, path]
  have consistent : Consistent [] (sampleDb [sampleEntry 1 100, sampleEntry 2 10]) := by
    constructor
    · intro topic
      by_cases same : topic = str "t"
      · rw [same]
        decide
      · rw [elsewhere topic same]
        exact List.nodup_nil
    · intro topic nonempty
      by_cases same : topic = str "t"
      · rw [same]
        decide
      · exact absurd (elsewhere topic same) nonempty
  have answered : [str "t"].Perm ((sampleDb [sampleEntry 1 100, sampleEntry 2 10]).tallies (pubCountKey [])).keys := by decide
  have run := purge_runs [] 50 [str "t"] (sampleDb [sampleEntry 1 100, sampleEntry 2 10]) answered
  have one : (expiredItems [] 50 (sampleDb [sampleEntry 1 100, sampleEntry 2 10]) [str "t"]).length = 1 := by decide
  rw [one] at run
  exact ⟨_, run, by decide, (purge_invisible [] 50 [str "t"] _ consistent answered).2 _ _ run⟩

end Eventhub.Integrity
