import Eventhub.Redis.GetCache

set_option autoImplicit false

namespace Eventhub.Redis

-- A message as cacheMessage stores it, within the ranges of long long and
-- unsigned long.
structure CacheEntry where
  id : CacheId
  expireAt : Nat
  origin : Bytes
  payload : Bytes
  stampLow : -2 ^ 63 ≤ id.timestamp
  stampHigh : id.timestamp < 2 ^ 63
  countHigh : id.sequence < 2 ^ 63
  expireHigh : expireAt < 2 ^ 64

def CacheEntry.member (entry : CacheEntry) : Bytes := CacheItemMeta.toStr ⟨entry.id.text, entry.expireAt, entry.origin⟩

def CacheEntry.zentry (entry : CacheEntry) : ZEntry := ⟨Binary64.ofInt entry.id.timestamp, entry.member⟩

-- CacheItemMeta reads an origin only up to its first colon.
def CacheEntry.meta (entry : CacheEntry) : CacheItemMeta :=
  ⟨entry.id.text, entry.expireAt, entry.origin.takeWhile (· ≠ colon)⟩

def CacheEntry.item (topic : Bytes) (entry : CacheEntry) : CacheItem :=
  ⟨entry.id.text, topic, entry.payload, entry.origin.takeWhile (· ≠ colon)⟩

theorem digit_text_free (number : Nat) (mark : UInt8) (other : Decimal.isDigit mark = false) : mark ∉ Decimal.text number := by
  intro inside
  rw [Decimal.text_digits number mark inside] at other
  cases other

theorem signed_text_colon_free (number : Int) : colon ∉ Decimal.signedText number := by
  have free := digit_text_free number.natAbs colon (by decide)
  unfold Decimal.signedText
  split
  · rw [List.mem_cons]
    exact fun inside => inside.elim (by decide) free
  · exact free

theorem id_text_colon_free (id : CacheId) : colon ∉ id.text := by
  have count := digit_text_free id.sequence colon (by decide)
  have stamp := signed_text_colon_free id.timestamp
  simp only [CacheId.text, List.mem_append, List.mem_singleton, not_or]
  exact ⟨⟨stamp, by decide⟩, count⟩

-- Numbers from 2^63 on are read as negative ones.
theorem split_natural_text (timestamp sequence : Nat) (stampHigh : timestamp < 2 ^ 64) (countHigh : sequence < 2 ^ 64) :
    splitIdAndSeq (CacheId.text ⟨timestamp, sequence⟩) = some (toLongLong timestamp, toLongLong sequence) := by
  have free : hyphen ∉ Decimal.text timestamp := digit_text_free _ hyphen (by decide)
  have plain : ∀ byte ∈ Decimal.text timestamp, decide (byte ≠ hyphen) = true := by
    intro byte inside
    exact decide_eq_true (fun equal => free (equal ▸ inside))
  have spelled : CacheId.text ⟨timestamp, sequence⟩ = Decimal.text timestamp ++ hyphen :: Decimal.text sequence := by
    rw [CacheId.text, Decimal.signed_text_nonnegative _ (Int.natCast_nonneg _), List.append_assoc]
    rfl
  have nonempty := Decimal.text_nonempty timestamp
  simp only [splitIdAndSeq, spelled, List.takeWhile_append_of_pos plain, List.dropWhile_append_of_pos plain,
    List.takeWhile_cons_of_neg, List.dropWhile_cons_of_neg, ne_eq, not_true_eq_false, decide_false, Bool.false_eq_true,
    not_false_eq_true, List.append_nil, nonempty, if_false]
  rw [stoull_text _ stampHigh, stoull_text _ countHigh]
  rfl

theorem split_nonnegative_text (id : CacheId) (nonnegative : 0 ≤ id.timestamp) (stampHigh : id.timestamp < 2 ^ 63)
    (countHigh : id.sequence < 2 ^ 63) : splitIdAndSeq id.text = some (id.timestamp, (id.sequence : Int)) := by
  have stamp : (id.timestamp.toNat : Int) = id.timestamp := Int.toNat_of_nonneg nonnegative
  have read := split_natural_text id.timestamp.toNat id.sequence (by omega) (by omega)
  rw [stamp, toLongLong, toLongLong, if_pos (by omega), if_pos countHigh, stamp] at read
  exact read

theorem split_positive_text (id : CacheId) (positive : 0 < id.timestamp) (stampHigh : id.timestamp < 2 ^ 63)
    (countHigh : id.sequence < 2 ^ 63) : splitIdAndSeq id.text = some (id.timestamp, (id.sequence : Int)) :=
  split_nonnegative_text id (Int.le_of_lt positive) stampHigh countHigh

theorem split_negative_text (id : CacheId) (negative : id.timestamp < 0) : splitIdAndSeq id.text = none := by
  rw [CacheId.text, Decimal.signedText, if_pos negative]
  rfl

theorem meta_loop_id (fields : MetaFields) (segment rest : Bytes) (plain : colon ∉ segment) :
    metaLoop 0 fields (segment ++ rest) = metaLoop 0 { fields with id := fields.id ++ segment } rest := by
  induction segment generalizing fields with
  | nil => simp
  | cons c segment ih =>
      rw [List.mem_cons, not_or] at plain
      rw [List.cons_append, metaLoop, if_neg (Ne.symm plain.1), if_pos rfl, ih _ plain.2]
      simp

theorem meta_loop_expire (fields : MetaFields) (segment rest : Bytes) (plain : colon ∉ segment) :
    metaLoop 1 fields (segment ++ rest) = metaLoop 1 { fields with expireAtStr := fields.expireAtStr ++ segment } rest := by
  induction segment generalizing fields with
  | nil => simp
  | cons c segment ih =>
      rw [List.mem_cons, not_or] at plain
      rw [List.cons_append, metaLoop, if_neg (Ne.symm plain.1), if_neg (by decide), if_pos rfl, ih _ plain.2]
      simp

theorem meta_loop_done (j : Nat) (fields : MetaFields) (bytes : Bytes) (past : 3 ≤ j) :
    1 ≤ (metaLoop j fields bytes).1 ∧ (metaLoop j fields bytes).2 = fields := by
  induction bytes generalizing j with
  | nil => exact ⟨by simp only [metaLoop]; omega, rfl⟩
  | cons c bytes ih =>
      rw [metaLoop]
      split
      · exact ih (j + 1) (by omega)
      · rw [if_neg (by omega), if_neg (by omega), if_neg (by omega)]
        exact ih j past

theorem meta_loop_origin (fields : MetaFields) (bytes : Bytes) :
    1 ≤ (metaLoop 2 fields bytes).1 ∧
      (metaLoop 2 fields bytes).2 = { fields with origin := fields.origin ++ bytes.takeWhile (· ≠ colon) } := by
  induction bytes generalizing fields with
  | nil => simp [metaLoop]
  | cons c bytes ih =>
      by_cases mark : c = colon
      · rw [metaLoop, if_pos mark]
        simpa [mark] using meta_loop_done 3 fields bytes (Nat.le_refl 3)
      · rw [metaLoop, if_neg mark, if_neg (by decide), if_neg (by decide), if_pos rfl]
        simpa [mark] using ih { fields with origin := fields.origin ++ [c] }

theorem meta_text_parses (id : CacheId) (expireAt : Nat) (origin : Bytes) (high : expireAt < 2 ^ 64) :
    CacheItemMeta.ofStr (CacheItemMeta.toStr ⟨id.text, expireAt, origin⟩) =
      some ⟨id.text, expireAt, origin.takeWhile (· ≠ colon)⟩ := by
  have idPlain := id_text_colon_free id
  have expirePlain := digit_text_free expireAt colon (by decide)
  have read := stoull_text expireAt high
  by_cases anonymous : origin = []
  · subst anonymous
    have spelled : CacheItemMeta.toStr ⟨id.text, expireAt, []⟩ = id.text ++ (colon :: (Decimal.text expireAt ++ [])) := by
      simp [CacheItemMeta.toStr]
    have parsed : metaLoop 0 ⟨[], [], []⟩ (CacheItemMeta.toStr ⟨id.text, expireAt, []⟩) =
        (1, ⟨id.text, Decimal.text expireAt, []⟩) := by
      rw [spelled, meta_loop_id _ _ _ idPlain, metaLoop, if_pos rfl, meta_loop_expire _ _ _ expirePlain]
      simp [metaLoop]
    simp [CacheItemMeta.ofStr, parsed, read]
  · have spelled : CacheItemMeta.toStr ⟨id.text, expireAt, origin⟩ =
        id.text ++ (colon :: (Decimal.text expireAt ++ (colon :: origin))) := by
      simp [CacheItemMeta.toStr, anonymous]
    have parsed : metaLoop 0 ⟨[], [], []⟩ (CacheItemMeta.toStr ⟨id.text, expireAt, origin⟩) =
        metaLoop 2 ⟨id.text, Decimal.text expireAt, []⟩ origin := by
      rw [spelled, meta_loop_id _ _ _ idPlain, metaLoop, if_pos rfl, meta_loop_expire _ _ _ expirePlain, metaLoop, if_pos rfl]
      simp
    obtain ⟨marks, fields⟩ := meta_loop_origin ⟨id.text, Decimal.text expireAt, []⟩ origin
    have counted : ¬ (metaLoop 2 ⟨id.text, Decimal.text expireAt, []⟩ origin).1 < 1 := by omega
    simp [CacheItemMeta.ofStr, parsed, counted, fields, read]

theorem meta_round_trip_iff (id : CacheId) (expireAt : UInt64) (origin : Bytes) :
    CacheItemMeta.ofStr (CacheItemMeta.toStr ⟨id.text, expireAt.toNat, origin⟩) = some ⟨id.text, expireAt.toNat, origin⟩ ↔
      colon ∉ origin := by
  rw [meta_text_parses id expireAt.toNat origin expireAt.toNat_lt]
  constructor
  · intro same inside
    injection same with same
    have whole : origin.takeWhile (· ≠ colon) = origin := congrArg CacheItemMeta.origin same
    exact absurd (List.takeWhile_eq_self_iff.mp whole colon inside) (by decide)
  · intro plain
    rw [List.takeWhile_eq_self_iff.mpr]
    intro byte inside
    exact decide_eq_true (fun mark => plain (mark ▸ inside))

theorem colon_in_origin_cut :
    CacheItemMeta.ofStr (CacheItemMeta.toStr ⟨CacheId.text ⟨1, 0⟩, 5, str "a:b"⟩) = some ⟨CacheId.text ⟨1, 0⟩, 5, str "a"⟩ := by
  decide +kernel

theorem member_parses (entry : CacheEntry) : CacheItemMeta.ofStr entry.member = some entry.meta :=
  meta_text_parses entry.id entry.expireAt entry.origin entry.expireHigh

def CacheEntry.StoredBefore (left right : CacheEntry) : Prop := left.zentry.Le right.zentry

instance : DecidableRel CacheEntry.StoredBefore := fun left right => inferInstanceAs (Decidable (left.zentry.Le right.zentry))

instance : Std.Total CacheEntry.StoredBefore := ⟨fun left right => Std.Total.total (r := ZEntry.Le) left.zentry right.zentry⟩

instance : IsTrans CacheEntry CacheEntry.StoredBefore := ⟨fun _ _ _ first second => IsTrans.trans (r := ZEntry.Le) _ _ _ first second⟩

theorem stored_before_antisymm (left right : CacheEntry) (first : left.StoredBefore right) (second : right.StoredBefore left) :
    left.id = right.id := by
  have same := congrArg ZEntry.member (le_antisymm_entry _ _ first second)
  have parsed := congrArg CacheItemMeta.ofStr same
  rw [show left.zentry.member = left.member from rfl, show right.zentry.member = right.member from rfl, member_parses, member_parses,
    Option.some.injEq] at parsed
  exact cache_id_text_injective _ _ (congrArg CacheItemMeta.id parsed)

structure TopicLog (keyspace : Bytes) (db : Db) (topic : Bytes) (entries : List CacheEntry) : Prop where
  distinct : (entries.map CacheEntry.id).Nodup
  scores : (db.zsets (cacheScorePath keyspace topic)).entries.Perm (entries.map CacheEntry.zentry)
  payloads : ∀ entry ∈ entries, db.hget (cacheDataPath keyspace topic) entry.id.text = some entry.payload

def arranged (entries : List CacheEntry) : List CacheEntry := entries.insertionSort CacheEntry.StoredBefore

theorem arranged_perm (entries : List CacheEntry) : (arranged entries).Perm entries := List.perm_insertionSort _ _

theorem arranged_ordered (entries : List CacheEntry) : (arranged entries).Pairwise CacheEntry.StoredBefore :=
  List.pairwise_insertionSort _ _

theorem topic_log_entries (keyspace : Bytes) (db : Db) (topic : Bytes) (entries : List CacheEntry)
    (log : TopicLog keyspace db topic entries) :
    (db.zsets (cacheScorePath keyspace topic)).entries = (arranged entries).map CacheEntry.zentry := by
  apply @List.Perm.eq_of_pairwise _ ZEntry.Le
  · exact fun left right _ _ => le_antisymm_entry left right
  · exact (db.zsets (cacheScorePath keyspace topic)).ordered
  · exact List.pairwise_map.mpr (arranged_ordered entries)
  · exact log.scores.trans ((arranged_perm entries).symm.map _)

def sinceEntries (since : Int) (entries : List CacheEntry) : List CacheEntry :=
  (arranged entries).filter (fun entry => Binary64.ofInt since ≤ Binary64.ofInt entry.id.timestamp)

theorem origin_of_entry (entries : List CacheEntry) (entry : CacheEntry) (distinct : (entries.map CacheEntry.id).Nodup)
    (inside : entry ∈ entries) : originOf (entries.map CacheEntry.meta) entry.id.text = entry.meta.origin := by
  unfold originOf
  cases found : (entries.map CacheEntry.meta).reverse.find? (fun item => item.id = entry.id.text) with
  | none =>
      rw [List.find?_eq_none] at found
      exact absurd (decide_eq_true rfl) (found entry.meta (by simpa using ⟨entry, inside, rfl⟩))
  | some item =>
      have named : item.id = entry.id.text := by simpa using List.find?_some found
      obtain ⟨other, member, rfl⟩ := List.mem_map.mp (List.mem_reverse.mp (List.mem_of_find?_eq_some found))
      have same := List.inj_on_of_nodup_map distinct member inside (cache_id_text_injective _ _ named)
      rw [same]

theorem cache_rows_eq (keyspace : Bytes) (db : Db) (topic : Bytes) (entries : List CacheEntry)
    (distinct : (entries.map CacheEntry.id).Nodup)
    (payloads : ∀ entry ∈ entries, db.hget (cacheDataPath keyspace topic) entry.id.text = some entry.payload) :
    cacheRows keyspace db topic (entries.map CacheEntry.meta) = entries.map (CacheEntry.item topic) := by
  have rows : (entries.map CacheEntry.meta).zip (db.hmget (cacheDataPath keyspace topic)
      ((entries.map CacheEntry.meta).map CacheItemMeta.id)) =
        entries.map (fun entry => (entry.meta, some entry.payload)) := by
    rw [Db.hmget, List.map_map, List.map_map, List.zip_map']
    apply List.map_congr_left
    intro entry inside
    simp only [Function.comp, Prod.mk.injEq, true_and]
    exact payloads entry inside
  rw [cacheRows, rows, List.filterMap_map]
  refine (List.filterMap_congr (g := some ∘ CacheEntry.item topic) ?_).trans (congrFun List.filterMap_eq_map entries)
  intro entry inside
  simp only [Function.comp, Option.map_some, CacheEntry.item]
  rw [show entry.meta.id = entry.id.text from rfl, origin_of_entry entries entry distinct inside]
  rfl

-- The three commands with which cacheMessage stores an entry.
def storeEntry (keyspace topic : Bytes) (db : Db) (entry : CacheEntry) : Db :=
  ((db.hset (cacheDataPath keyspace topic) entry.id.text entry.payload).zadd (cacheScorePath keyspace topic) entry.member
    (Binary64.ofInt entry.id.timestamp)).hincrby (pubCountKey keyspace) topic 1

theorem cache_steps_store (keyspace : Bytes) (config : CacheConfig) (first second third : Nat) (db : Db) (args : CacheArgs)
    (entry : CacheEntry) (payload : args.payload = entry.payload) :
    let stored := cacheStep keyspace config first db args (.prepared entry.id entry.member)
    let scored := cacheStep keyspace config second stored.1 args stored.2
    cacheStep keyspace config third scored.1 args scored.2 = (storeEntry keyspace args.topic db entry, .returned entry.id) := by
  simp only [cacheStep, storeEntry, payload]

theorem empty_log (keyspace topic : Bytes) : TopicLog keyspace Db.empty topic [] :=
  ⟨List.nodup_nil, List.Perm.refl _, by simp⟩

theorem store_logs (keyspace topic : Bytes) (db : Db) (entries : List CacheEntry) (entry : CacheEntry)
    (log : TopicLog keyspace db topic entries) (fresh : entry.id ∉ entries.map CacheEntry.id) :
    TopicLog keyspace (storeEntry keyspace topic db entry) topic (entry :: entries) := by
  have others : (db.zsets (cacheScorePath keyspace topic)).others entry.member = (db.zsets (cacheScorePath keyspace topic)).entries := by
    rw [ZSet.others, List.filter_eq_self]
    intro stored inside
    obtain ⟨other, member, rfl⟩ := List.mem_map.mp (log.scores.mem_iff.mp inside)
    refine decide_eq_true (fun same => fresh ?_)
    have parsed := congrArg CacheItemMeta.ofStr same
    rw [show other.zentry.member = other.member from rfl, member_parses, member_parses, Option.some.injEq] at parsed
    rw [← cache_id_text_injective _ _ (congrArg CacheItemMeta.id parsed)]
    exact List.mem_map_of_mem member
  constructor
  · rw [List.map_cons, List.nodup_cons]
    exact ⟨fresh, log.distinct⟩
  · have added : ((storeEntry keyspace topic db entry).zsets (cacheScorePath keyspace topic)).entries =
        (db.zsets (cacheScorePath keyspace topic)).entries.orderedInsert ZEntry.Le entry.zentry := by
      simp only [storeEntry, Db.hincrby, Db.zadd, Db.hset, Function.update_self, ZSet.add, others]
      rfl
    rw [added, List.map_cons]
    exact (List.perm_orderedInsert _ _ _).trans (log.scores.cons _)
  · have read (other : CacheEntry) : (storeEntry keyspace topic db entry).hget (cacheDataPath keyspace topic) other.id.text =
        (db.hset (cacheDataPath keyspace topic) entry.id.text entry.payload).hget (cacheDataPath keyspace topic) other.id.text := rfl
    rw [List.forall_mem_cons]
    refine ⟨?_, fun other inside => ?_⟩
    · rw [read, hget_hset]
    · rw [read, hget_hset_ne _ _ _ _ _ _ (fun same => fresh ?_), log.payloads other inside]
      rw [← cache_id_text_injective _ _ (Prod.mk.inj same).2]
      exact List.mem_map_of_mem inside

theorem stored_log (keyspace topic : Bytes) (entries : List CacheEntry) (distinct : (entries.map CacheEntry.id).Nodup) :
    TopicLog keyspace (entries.foldr (fun entry db => storeEntry keyspace topic db entry) Db.empty) topic entries := by
  induction entries with
  | nil => exact empty_log keyspace topic
  | cons entry entries ih =>
      rw [List.map_cons, List.nodup_cons] at distinct
      exact store_logs keyspace topic _ entries entry (ih distinct.2) distinct.1

end Eventhub.Redis
