import Eventhub.Redis.Shelf
import Eventhub.Session.CacheRuns

set_option autoImplicit false

namespace Eventhub.Session

open Hub

def LimitWithin (max : Int) : Command → Prop
  | .getCacheSince _ _ limit _ => 0 ≤ limit ∧ limit ≤ max
  | .getCacheSinceId _ _ limit _ => 0 ≤ limit ∧ limit ≤ max
  | _ => True

section

variable (valid : Bytes → Prop) (dump : Json → Except Failure Bytes) (req : Request) (topic : Bytes)

-- The runs of subscribe and eventlog for the same parameters.
structure Mirrors (steps logSteps : List (Sigma Answer)) : Prop where
  same : served steps = served logSteps
  replayed : (∀ item ∈ served steps, ItemTexts valid item) → ItemsReplayed dump req topic (served steps) (sent steps)
  returned : (∀ item ∈ served logSteps, ItemTexts valid item) → ItemsReturned dump req topic (served logSteps) (sent logSteps)

end

structure ReplayWindow (valid : Bytes → Prop) (dump : Json → Except Failure Bytes) (config : Config) (controller : AccessController)
    (req : Request) (now : Nat) : Prop where
  subscribe : (handleSubscribe dump config controller req).Uses (LimitWithin config.maxCacheRequestLimit)
  eventlog : (handleEventlog dump config controller req).Uses (LimitWithin config.maxCacheRequestLimit)
  stream : ∀ request, (handleSse dump config controller request).Uses (LimitWithin config.maxCacheRequestLimit)
  agree : ∀ topic, Eligible controller req.params topic → ∀ cache bits logBits steps last logSteps logLast,
    (handleSubscribe dump config controller req).Takes (Serves config cache now bits) steps last →
    (handleEventlog dump config controller req).Takes (Serves config cache now logBits) logSteps logLast →
    Mirrors valid dump req topic steps logSteps

-- get<long>() and get<long long>() read the same.
def OrdinaryLimit (params : Parameter) : Prop :=
  match params.get (str "limit") with
  | .ok (.boolean _) => False
  | .ok (.float bits) => -2 ^ 63 ≤ Json.truncated bits ∧ Json.truncated bits < 2 ^ 63
  | _ => True

inductive SameWindow (config : Config) (params : Parameter) (topic : Bytes) (now : Nat) : Prop where
  | disabled (off : config.enableCache = false)
  | nothingAsked (absent : sinceIdOf params = [])
      (zero : ∀ since, (params.get (str "since")).bind Json.getLongLong = .ok since → since = 0 ∨ since = -now)
  | unknownId (given : sinceIdOf params ≠ []) (unread : ∀ pivot, Redis.splitIdAndSeq (sinceIdOf params) = some pivot → pivot.1 = 0)
  | ordinary (limit : OrdinaryLimit params)
  | closed (zero : config.maxCacheRequestLimit = 0)
  | single (one : config.maxCacheRequestLimit = 1) (limit : params.get (str "limit") = .ok (.boolean true))
  | behindSingle (one : config.maxCacheRequestLimit = 1) (given : sinceIdOf params ≠ []) (plain : isValidTopicFilter topic = false)

section

variable (config : Config) (nonnegative : 0 ≤ config.maxCacheRequestLimit) (isInt : config.maxCacheRequestLimit < 2 ^ 31)

include nonnegative isInt

theorem unsigned_max : unsigned64 config.maxCacheRequestLimit = config.maxCacheRequestLimit.toNat := by
  rw [unsigned64, Int.emod_eq_of_lt nonnegative (by omega)]

theorem small_signed (number : Nat) (small : number ≤ config.maxCacheRequestLimit.toNat) : Int.bmod number (2 ^ 64) = number := by
  apply Int.bmod_eq_of_le
  · omega
  · omega

theorem window_limit_eq (limit : Int) :
    windowLimit config limit = (min (unsigned64 limit) config.maxCacheRequestLimit.toNat : Nat) := by
  have clamped : clampLimit config (unsigned64 limit) = min (unsigned64 limit) config.maxCacheRequestLimit.toNat := by
    rw [clampLimit, unsigned_max config nonnegative isInt]
    generalize unsigned64 limit = count
    split <;> omega
  have small := small_signed config nonnegative isInt _ (Nat.min_le_right (unsigned64 limit) _)
  exact (congrArg (fun count : Nat => Int.bmod count (2 ^ 64)) clamped).trans small

theorem window_limit_within (limit : Int) : 0 ≤ windowLimit config limit ∧ windowLimit config limit ≤ config.maxCacheRequestLimit := by
  rw [window_limit_eq config nonnegative isInt]
  generalize unsigned64 limit = count
  omega

theorem window_limit_small (limit : Int) (low : 0 ≤ limit) (high : limit ≤ config.maxCacheRequestLimit) : windowLimit config limit = limit := by
  have read : unsigned64 limit = limit.toNat := by rw [unsigned64, Int.emod_eq_of_lt low (by omega)]
  rw [window_limit_eq config nonnegative isInt, read]
  omega

theorem sse_limit_within (limitStr : Bytes) : 0 ≤ sseLimit config limitStr ∧ sseLimit config limitStr ≤ config.maxCacheRequestLimit := by
  unfold sseLimit
  split
  · exact ⟨nonnegative, Int.le_refl _⟩
  · rename_i limitParam _
    rw [Int.emod_eq_of_lt nonnegative (by omega)]
    split
    · rw [small_signed config nonnegative isInt limitParam (by omega)]
      omega
    · exact ⟨nonnegative, Int.le_refl _⟩

theorem limits_bounded (dump : Json → Except Failure Bytes) (controller : AccessController) (req : Request) :
    (handleSubscribe dump config controller req).Uses (LimitWithin config.maxCacheRequestLimit) ∧
      (handleEventlog dump config controller req).Uses (LimitWithin config.maxCacheRequestLimit) ∧
      ∀ request, (handleSse dump config controller request).Uses (LimitWithin config.maxCacheRequestLimit) := by
  have within := window_limit_within config nonnegative isInt
  have streamed := sse_limit_within config nonnegative isInt
  have reads : ReadsCache (LimitWithin config.maxCacheRequestLimit) config controller :=
    ⟨fun _ => trivial, trivial, trivial, fun _ _ limit _ _ => within limit, fun _ _ limit _ _ => within limit⟩
  refine ⟨uses_subscribing _ dump config controller reads req (fun _ _ _ => trivial), uses_reading_log _ dump config controller reads req, ?_⟩
  intro request
  exact uses_streaming _ dump config controller (fun _ => trivial) request trivial trivial (fun _ _ _ => trivial)
    (fun _ _ limitStr _ _ => streamed limitStr) (fun _ _ limitStr _ _ => streamed limitStr)

end

theorem long_long_range (value : Json) (number : Int) (read : value.getLongLong = .ok number) : -2 ^ 63 ≤ number ∧ number < 2 ^ 63 := by
  cases value with
  | boolean flag =>
      cases read
      cases flag <;> decide
  | integer whole =>
      simp only [Json.getLongLong, Json.getLong, Except.ok.injEq] at read
      have low := Int.le_bmod (x := whole) (m := 2 ^ 64) (by norm_num)
      have high := Int.bmod_lt (x := whole) (m := 2 ^ 64) (by norm_num)
      rw [read] at low high
      omega
  | float bits =>
      simp only [Json.getLongLong, Json.getLong] at read
      split at read
      · rename_i inside
        cases read
        exact inside
      · cases read
  | _ => cases read

theorem since_zero_iff (now : Nat) (clock : now < 2 ^ 63) (params : Parameter) :
    sinceAt now params = 0 ↔ ∀ since, (params.get (str "since")).bind Json.getLongLong = .ok since → since = 0 ∨ since = -now := by
  unfold sinceAt
  cases read : (params.get (str "since")).bind Json.getLongLong with
  | error failure => exact ⟨fun _ since same => (nomatch same), fun _ => rfl⟩
  | ok since =>
      obtain ⟨value, _, converted⟩ := except_bind_ok _ _ _ read
      have range := long_long_range value since converted
      have only : (∀ other, (Except.ok since : Except Failure Int) = .ok other → other = 0 ∨ other = -now) ↔ since = 0 ∨ since = -now := by
        constructor
        · exact fun all => all since rfl
        · intro known other same
          cases same
          exact known
      rw [only]
      dsimp only
      by_cases positive : since ≥ 0
      · rw [if_pos positive]
        omega
      · rw [if_neg positive, unsigned64]
        omega

section

variable (config : Config) (cache : Cache) (now : Nat) (params : Parameter) (topic : Bytes) (limit : Int)

theorem window_disabled (off : config.enableCache = false) : windowItems config cache now params topic limit = [] := if_pos off

theorem window_unasked (absent : sinceIdOf params = []) (zero : sinceAt now params = 0) :
    windowItems config cache now params topic limit = [] := by
  rw [windowItems, absent, zero]
  simp

theorem window_enabled (enabled : config.enableCache = true) (asked : sinceIdOf params ≠ [] ∨ sinceAt now params ≠ 0) :
    windowItems config cache now params topic limit =
      lookedUp config cache now topic (sinceIdOf params) (Int.bmod (sinceAt now params) (2 ^ 64)) limit := by
  have wanted : ¬ ((sinceIdOf params).isEmpty && sinceAt now params == 0) = true := by
    rw [Bool.and_eq_true, List.isEmpty_iff, beq_iff_eq]
    exact fun both => asked.elim (fun given => given both.1) (fun nonzero => nonzero both.2)
  rw [windowItems, if_neg (by rw [enabled]; decide), if_neg wanted]

theorem window_by_id (enabled : config.enableCache = true) (given : sinceIdOf params ≠ []) :
    windowItems config cache now params topic limit =
      cacheSinceId config cache now topic (sinceIdOf params) limit (isValidTopicFilter topic) := by
  rw [window_enabled config cache now params topic limit enabled (.inl given), lookedUp, if_pos (by simpa using given)]

theorem window_unknown_id (given : sinceIdOf params ≠ [])
    (unread : ∀ pivot, Redis.splitIdAndSeq (sinceIdOf params) = some pivot → pivot.1 = 0) :
    windowItems config cache now params topic limit = [] := by
  cases enabled : config.enableCache with
  | false => exact window_disabled config cache now params topic limit enabled
  | true =>
      rw [window_by_id config cache now params topic limit enabled given, cacheSinceId, Redis.getCacheSinceId]
      cases read : Redis.splitIdAndSeq (sinceIdOf params) with
      | none => simp
      | some pivot => simp [unread pivot read]

theorem window_behind_single (given : sinceIdOf params ≠ []) (plain : isValidTopicFilter topic = false) (low : 0 ≤ limit) (one : limit ≤ 1) :
    windowItems config cache now params topic limit = [] := by
  cases enabled : config.enableCache with
  | false => exact window_disabled config cache now params topic limit enabled
  | true =>
      rw [window_by_id config cache now params topic limit enabled given, plain]
      exact Redis.cache_since_id_single _ _ _ _ _ _ _ _ low one

end

theorem ordinary_limit_read (params : Parameter) (bits logBits fallback : Int) (ordinary : OrdinaryLimit params) :
    limitRead ((params.get (str "limit")).bind Json.getLongLong) bits fallback =
      limitRead ((params.get (str "limit")).bind Json.getLong) logBits fallback := by
  unfold OrdinaryLimit at ordinary
  cases read : params.get (str "limit") with
  | error failure =>
      obtain ⟨what, thrown⟩ := thrown_get params (str "limit") failure read
      rw [thrown]
      rfl
  | ok value =>
      rw [read] at ordinary
      cases value with
      | boolean flag => exact ordinary.elim
      | float number =>
          have inside : (Json.float number).getLong = .ok (Json.truncated number) := if_pos ordinary
          simp only [Except.bind, Json.getLongLong, inside, limitRead]
      | _ => rfl

section

variable (config : Config) (nonnegative : 0 ≤ config.maxCacheRequestLimit) (isInt : config.maxCacheRequestLimit < 2 ^ 31)

include nonnegative isInt

theorem same_window (cache : Cache) (now : Nat) (clock : now < 2 ^ 63) (params : Parameter) (topic : Bytes) (bits logBits : Int)
    (same : SameWindow config params topic now) :
    windowItems config cache now params topic (subscribeLimit config params bits) =
      windowItems config cache now params topic (logLimit config params logBits) := by
  have within := window_limit_within config nonnegative isInt
  cases same with
  | disabled off => rw [window_disabled _ _ _ _ _ _ off, window_disabled _ _ _ _ _ _ off]
  | nothingAsked absent zero =>
      have unasked := (since_zero_iff now clock params).mpr zero
      rw [window_unasked _ _ _ _ _ _ absent unasked, window_unasked _ _ _ _ _ _ absent unasked]
  | unknownId given unread => rw [window_unknown_id _ _ _ _ _ _ given unread, window_unknown_id _ _ _ _ _ _ given unread]
  | ordinary limit => rw [subscribeLimit, logLimit, ordinary_limit_read params bits logBits _ limit]
  | closed zero =>
      rw [zero] at within
      have none : ∀ limit, windowLimit config limit = 0 := fun limit => Int.le_antisymm (within limit).2 (within limit).1
      rw [subscribeLimit, logLimit, none, none]
  | single one limit =>
      rw [subscribeLimit, logLimit, limit, one]
      rfl
  | behindSingle one given plain =>
      rw [one] at within
      rw [subscribeLimit, logLimit, window_behind_single _ _ _ _ _ _ given plain (within _).1 (within _).2,
        window_behind_single _ _ _ _ _ _ given plain (within _).1 (within _).2]

end

-- A cache with messages in one topic, and one with messages in two.
def shelfCache (topic : Bytes) (base : Int) (ids : List Redis.CacheId) (distinct : ids.Nodup) : Cache where
  keyspace := []
  defaultCacheTtl := 0
  db := Redis.fillTopic [] Redis.Db.empty topic base ids distinct
  allTopics := [topic]
  answered := by
    rw [Redis.filled_topics [] Redis.Db.empty topic base ids distinct (AList.notMem_empty _)]
    exact .refl _

def pairCache (first second : Bytes) (different : first ≠ second) (base : Int) (firstIds secondIds : List Redis.CacheId)
    (firstDistinct : firstIds.Nodup) (secondDistinct : secondIds.Nodup) : Cache where
  keyspace := []
  defaultCacheTtl := 0
  db := Redis.fillTopic [] (Redis.fillTopic [] Redis.Db.empty second base secondIds secondDistinct) first base firstIds firstDistinct
  allTopics := [first, second]
  answered := by
    have topics := Redis.filled_topics [] Redis.Db.empty second base secondIds secondDistinct (AList.notMem_empty _)
    rw [Redis.filled_topics, topics]
    · exact .refl _
    · rw [AList.mem_keys, topics]
      exact fun inside => different (List.mem_singleton.mp inside)

def targetTopic (topic : Bytes) : Bytes := if isValidTopicFilter topic then letterTopic 97 topic else topic

section

variable (config : Config) (enabled : config.enableCache = true) (now : Nat) (clock : now < 2 ^ 63) (topic : Bytes)

include enabled

theorem cache_since_topics (cache : Cache) (since limit : Int) (topics : List Bytes)
    (seen : (if isValidTopicFilter topic then Redis.getTopicsSeen cache.allTopics topic else [topic]) = topics) :
    cacheSince config cache now topic since limit (isValidTopicFilter topic) =
      topics.flatMap (Redis.topicCache cache.keyspace cache.db now since limit) := by
  have on : ¬ (!config.enableCache) = true := by simp [enabled]
  rw [cacheSince, Redis.getCacheSince, if_neg on]
  dsimp only
  rw [seen]

theorem cache_since_resumes (cache : Cache) (sinceId : Bytes) (limit : Int) (isPattern : Bool) (pivot : Int × Int)
    (read : Redis.splitIdAndSeq sinceId = some pivot) (nonzero : pivot.1 ≠ 0) :
    cacheSinceId config cache now topic sinceId limit isPattern =
      Redis.resumeResult pivot.1 pivot.2 (cacheSince config cache now topic pivot.1 limit isPattern) := by
  have on : ¬ (!config.enableCache) = true := by simp [enabled]
  rw [cacheSinceId, Redis.getCacheSinceId, if_neg on, read]
  dsimp only
  rw [if_neg nonzero, cacheSince]
  split
  · rename_i nothing
    rw [nothing]
    rfl
  · rfl

include clock

theorem shelf_since (since base limit : Int) (ids : List Redis.CacheId) (distinct : ids.Nodup)
    (reached : Binary64.ofInt since ≤ base) (limited : 0 ≤ limit) :
    cacheSince config (shelfCache (targetTopic topic) base ids distinct) now topic since limit (isValidTopicFilter topic) =
      (ids.rtake limit.toNat).map (Redis.CacheId.row (targetTopic topic)) := by
  have seen : (if isValidTopicFilter topic then Redis.getTopicsSeen [targetTopic topic] topic else [topic]) = [targetTopic topic] := by
    unfold targetTopic
    by_cases wild : isValidTopicFilter topic = true
    · rw [if_pos wild, if_pos wild, Redis.getTopicsSeen, List.filter_cons_of_pos (letter_topic_matched 97 (by decide) topic)]
      rfl
    · rw [if_neg wild, if_neg wild]
  rw [cache_since_topics config enabled now topic _ since limit [targetTopic topic] seen, List.flatMap_cons, List.flatMap_nil, List.append_nil]
  exact Redis.topic_cache_shelf [] _ now (by omega) _ since base limit ids (Redis.filled_shelved [] _ _ _ _ _) reached limited

theorem pair_since (first second : Bytes) (different : first ≠ second) (wild : isValidTopicFilter topic = true)
    (firstMatched : isFilterMatched topic first = true) (secondMatched : isFilterMatched topic second = true) (since limit : Int)
    (firstIds secondIds : List Redis.CacheId) (firstDistinct : firstIds.Nodup) (secondDistinct : secondIds.Nodup) (limited : 0 ≤ limit) :
    cacheSince config (pairCache first second different (Binary64.ofInt since) firstIds secondIds firstDistinct secondDistinct) now topic since
        limit (isValidTopicFilter topic) =
      (firstIds.rtake limit.toNat).map (Redis.CacheId.row first) ++ (secondIds.rtake limit.toNat).map (Redis.CacheId.row second) := by
  have seen : (if isValidTopicFilter topic then Redis.getTopicsSeen [first, second] topic else [topic]) = [first, second] := by
    rw [if_pos wild, Redis.getTopicsSeen, List.filter_cons_of_pos firstMatched, List.filter_cons_of_pos secondMatched]
    rfl
  have filled := Redis.filled_shelved [] Redis.Db.empty second (Binary64.ofInt since) secondIds secondDistinct
  rw [cache_since_topics config enabled now topic _ since limit [first, second] seen, List.flatMap_cons, List.flatMap_cons, List.flatMap_nil,
    List.append_nil]
  congr 1
  · exact Redis.topic_cache_shelf [] _ now (by omega) _ since _ limit _ (Redis.filled_shelved [] _ _ _ _ _) (Int.le_refl _) limited
  · exact Redis.topic_cache_shelf [] _ now (by omega) _ since _ limit _
      (Redis.filled_elsewhere [] _ _ _ _ _ _ _ _ (Ne.symm different) filled) (Int.le_refl _) limited

theorem since_windows_differ (params : Parameter) (absent : sinceIdOf params = []) (asked : sinceAt now params ≠ 0) (low high : Int)
    (limited : 0 ≤ low) (less : low < high) :
    ∃ cache, windowItems config cache now params topic low ≠ windowItems config cache now params topic high := by
  refine ⟨shelfCache (targetTopic topic) (Binary64.ofInt (Int.bmod (sinceAt now params) (2 ^ 64))) (Redis.otherIds 0 high.toNat)
    (Redis.other_ids_distinct 0 high.toNat), fun same => ?_⟩
  have read : ∀ limit, 0 ≤ limit →
      (windowItems config (shelfCache (targetTopic topic) (Binary64.ofInt (Int.bmod (sinceAt now params) (2 ^ 64))) (Redis.otherIds 0 high.toNat)
        (Redis.other_ids_distinct 0 high.toNat)) now params topic limit).length = min limit.toNat high.toNat := by
    intro limit positive
    rw [window_enabled _ _ _ _ _ _ enabled (.inr asked), lookedUp, if_neg (by simp [absent]),
      shelf_since config enabled now clock topic _ _ _ _ _ (Int.le_refl _) positive, List.length_map, ListLemmas.rtake_length,
      Redis.other_ids_length]
  have lengths := congrArg List.length same
  rw [read low limited, read high (by omega)] at lengths
  omega

section

variable (params : Parameter) (pivot : Int × Int) (given : sinceIdOf params ≠ [])
  (read : Redis.splitIdAndSeq (sinceIdOf params) = some pivot) (nonzero : pivot.1 ≠ 0)

include given read nonzero

theorem id_windows_differ (low high : Int) (limited : 0 ≤ low) (less : low < high) (two : 2 ≤ high) (small : high < 2 ^ 31) :
    ∃ cache, windowItems config cache now params topic low ≠ windowItems config cache now params topic high := by
  obtain ⟨id, readable, named⟩ := Redis.split_names _ pivot read
  have others := Redis.other_id pivot.1 (high.toNat - 1) (by omega)
  have fresh : id ∉ Redis.otherIds pivot.1 (high.toNat - 1) := fun inside => (others id inside).2 (congrArg Prod.fst named)
  have distinct : (id :: Redis.otherIds pivot.1 (high.toNat - 1)).Nodup :=
    List.nodup_cons.mpr ⟨fresh, Redis.other_ids_distinct pivot.1 (high.toNat - 1)⟩
  have length : (id :: Redis.otherIds pivot.1 (high.toNat - 1)).length = high.toNat := by
    rw [List.length_cons, Redis.other_ids_length]
    omega
  have splits : ∀ entry ∈ id :: Redis.otherIds pivot.1 (high.toNat - 1),
      Redis.splitIdAndSeq (Redis.CacheId.row (targetTopic topic) entry).id = some entry.readKey :=
    List.forall_mem_cons.mpr ⟨Redis.split_readable id readable, fun entry inside => Redis.split_readable entry (others entry inside).1⟩
  have fetched : ∀ limit, 0 ≤ limit →
      windowItems config (shelfCache (targetTopic topic) (Binary64.ofInt pivot.1) _ distinct) now params topic limit =
      Redis.resumeResult pivot.1 pivot.2 (((id :: Redis.otherIds pivot.1 (high.toNat - 1)).rtake limit.toNat).map
        (Redis.CacheId.row (targetTopic topic))) := by
    intro limit positive
    rw [window_by_id _ _ _ _ _ _ enabled given, cache_since_resumes config enabled now topic _ _ _ _ pivot read nonzero,
      shelf_since config enabled now clock topic _ _ _ _ _ (Int.le_refl _) positive]
  have all : windowItems config (shelfCache (targetTopic topic) (Binary64.ofInt pivot.1) _ distinct) now params topic high =
      (Redis.otherIds pivot.1 (high.toNat - 1)).map (Redis.CacheId.row (targetTopic topic)) := by
    have whole : (id :: Redis.otherIds pivot.1 (high.toNat - 1)).rtake high.toNat = id :: Redis.otherIds pivot.1 (high.toNat - 1) := by
      rw [List.rtake, length, Nat.sub_self, List.drop_zero]
    rw [fetched high (by omega), whole]
    exact Redis.resume_behind _ _ pivot id _ splits named (fun entry inside => (others entry inside).2)
  have cut : windowItems config (shelfCache (targetTopic topic) (Binary64.ofInt pivot.1) _ distinct) now params topic low = [] := by
    have behind : ∀ entry ∈ (id :: Redis.otherIds pivot.1 (high.toNat - 1)).rtake low.toNat,
        entry ∈ Redis.otherIds pivot.1 (high.toNat - 1) := by
      intro entry inside
      have position : high.toNat - low.toNat = (high.toNat - low.toNat - 1) + 1 := by omega
      rw [List.rtake, length, position, List.drop_succ_cons] at inside
      exact List.mem_of_mem_drop inside
    rw [fetched low limited]
    exact Redis.resume_missing _ _ pivot _ (fun entry inside => splits entry (List.mem_cons_of_mem _ (behind entry inside)))
      (fun entry inside => (others entry (behind entry inside)).2)
  refine ⟨shelfCache (targetTopic topic) (Binary64.ofInt pivot.1) _ distinct, fun same => ?_⟩
  have lengths := congrArg List.length same
  rw [cut, all, List.length_map, Redis.other_ids_length, List.length_nil] at lengths
  omega

theorem pair_windows_differ (wild : isValidTopicFilter topic = true) :
    ∃ cache, windowItems config cache now params topic 0 ≠ windowItems config cache now params topic 1 := by
  obtain ⟨id, readable, named⟩ := Redis.split_names _ pivot read
  have others := Redis.other_id pivot.1 1 (by norm_num)
  have firstMatched := letter_topic_matched 97 (by decide) topic
  have secondMatched := letter_topic_matched 98 (by decide) topic
  have different := letter_topics_differ 97 98 (by decide) (by decide) (by decide) topic wild
  generalize letterTopic 97 topic = first at firstMatched different
  generalize letterTopic 98 topic = second at secondMatched different
  have later : ∀ entry ∈ (Redis.otherIds pivot.1 1).map (Prod.mk second), entry.2.Readable ∧ entry.2.readKey.1 ≠ pivot.1 := by
    intro entry inside
    obtain ⟨other, among, same⟩ := List.mem_map.mp inside
    rw [← same]
    exact others other among
  have splits : ∀ entry ∈ (first, id) :: (Redis.otherIds pivot.1 1).map (Prod.mk second),
      Redis.splitIdAndSeq (Redis.CacheId.row entry.1 entry.2).id = some entry.2.readKey :=
    List.forall_mem_cons.mpr ⟨Redis.split_readable id readable, fun entry inside => Redis.split_readable entry.2 (later entry inside).1⟩
  refine ⟨pairCache first second different (Binary64.ofInt pivot.1) [id] (Redis.otherIds pivot.1 1) (List.nodup_singleton id)
    (Redis.other_ids_distinct pivot.1 1), fun same => ?_⟩
  have resumed := Redis.resume_behind (fun entry : Bytes × Redis.CacheId => Redis.CacheId.row entry.1 entry.2) (fun entry => entry.2.readKey) pivot
    (first, id) _ splits named (fun entry inside => (later entry inside).2)
  have single : (Redis.otherIds pivot.1 1).rtake 1 = Redis.otherIds pivot.1 1 := rfl
  have shown := pair_since config enabled now clock topic first second different wild firstMatched secondMatched pivot.1 1 [id]
    (Redis.otherIds pivot.1 1) (List.nodup_singleton id) (Redis.other_ids_distinct pivot.1 1) (by decide)
  rw [show (1 : Int).toNat = 1 from rfl, single] at shown
  rw [window_by_id _ _ _ _ _ _ enabled given, window_by_id _ _ _ _ _ _ enabled given, cacheSinceId, Redis.cache_since_id_none,
    cache_since_resumes config enabled now topic _ _ _ _ pivot read nonzero, shown] at same
  rw [List.map_cons, List.map_map] at resumed
  have found := same.trans resumed
  cases found

end

end

section

variable (config : Config) (nonnegative : 0 ≤ config.maxCacheRequestLimit) (isInt : config.maxCacheRequestLimit < 2 ^ 31)

include nonnegative isInt

theorem limits_differ (params : Parameter) (odd : ¬ OrdinaryLimit params) (room : config.maxCacheRequestLimit ≠ 0)
    (several : config.maxCacheRequestLimit = 1 → params.get (str "limit") ≠ .ok (.boolean true)) :
    ∃ bits logBits low, 0 ≤ low ∧ low < config.maxCacheRequestLimit ∧ subscribeLimit config params bits = low ∧
      logLimit config params logBits = config.maxCacheRequestLimit := by
  have small := window_limit_small config nonnegative isInt
  have whole := small config.maxCacheRequestLimit nonnegative (Int.le_refl _)
  unfold OrdinaryLimit at odd
  unfold subscribeLimit logLimit
  cases read : params.get (str "limit") with
  | error failure =>
      rw [read] at odd
      exact absurd trivial odd
  | ok value =>
      rw [read] at odd several
      cases value with
      | boolean flag =>
          cases flag with
          | false => exact ⟨0, 0, 0, Int.le_refl 0, by omega, small 0 (Int.le_refl 0) nonnegative, whole⟩
          | true =>
              have two : config.maxCacheRequestLimit ≠ 1 := fun one => several one rfl
              exact ⟨0, 0, 1, by decide, by omega, small 1 (by decide) (by omega), whole⟩
      | float number =>
          have undefined : (Json.float number).getLong = .error .undefined := if_neg odd
          have last : signed64 config.maxCacheRequestLimit = config.maxCacheRequestLimit := Int.bmod_eq_of_le (by omega) (by omega)
          refine ⟨0, config.maxCacheRequestLimit, 0, Int.le_refl 0, by omega, ?_, ?_⟩
          · simp only [Except.bind, Json.getLongLong, undefined, limitRead]
            exact small 0 (Int.le_refl 0) nonnegative
          · simp only [Except.bind, undefined, limitRead, last]
            exact whole
      | _ => exact absurd trivial odd

theorem windows_differ (now : Nat) (clock : now < 2 ^ 63) (params : Parameter) (topic : Bytes)
    (apart : ¬ SameWindow config params topic now) :
    ∃ cache bits logBits,
      windowItems config cache now params topic (subscribeLimit config params bits) ≠
        windowItems config cache now params topic (logLimit config params logBits) := by
  have enabled : config.enableCache = true := by
    by_contra off
    exact apart (.disabled (by simpa using off))
  have room : config.maxCacheRequestLimit ≠ 0 := fun zero => apart (.closed zero)
  obtain ⟨bits, logBits, low, limited, less, lower, upper⟩ := limits_differ config nonnegative isInt params (fun same => apart (.ordinary same))
    room (fun one given => apart (.single one given))
  suffices differ : ∃ cache,
      windowItems config cache now params topic low ≠ windowItems config cache now params topic config.maxCacheRequestLimit by
    obtain ⟨cache, different⟩ := differ
    refine ⟨cache, bits, logBits, ?_⟩
    rw [lower, upper]
    exact different
  by_cases absent : sinceIdOf params = []
  · have asked : sinceAt now params ≠ 0 := fun zero => apart (.nothingAsked absent ((since_zero_iff now clock params).mp zero))
    exact since_windows_differ config enabled now clock topic params absent asked low _ limited less
  · have known : ∃ pivot, Redis.splitIdAndSeq (sinceIdOf params) = some pivot ∧ pivot.1 ≠ 0 := by
      by_contra unknown
      refine apart (.unknownId absent (fun pivot read => ?_))
      by_contra nonzero
      exact unknown ⟨pivot, read, nonzero⟩
    obtain ⟨pivot, read, nonzero⟩ := known
    by_cases one : config.maxCacheRequestLimit = 1
    · have wild : isValidTopicFilter topic = true := by
        by_contra plain
        exact apart (.behindSingle one absent (by simpa using plain))
      rw [one, show low = 0 by omega]
      exact pair_windows_differ config enabled now clock topic params pivot absent read nonzero wild
    · exact id_windows_differ config enabled now clock topic params pivot absent read nonzero low _ limited less (by omega) isInt

end

section

variable (valid : Bytes → Prop) (parse : Bytes → Except Failure Json) (dump : Json → Except Failure Bytes) (config : Config)
  (controller : AccessController) (library : JsonLibrary valid parse dump) (req : Request) (texts : (idJson req.id).Texts valid) (now : Nat)

include library texts

theorem replay_window_iff (nonnegative : 0 ≤ config.maxCacheRequestLimit) (isInt : config.maxCacheRequestLimit < 2 ^ 31)
    (clock : now < 2 ^ 63) :
    ReplayWindow valid dump config controller req now ↔
      ∀ topic, Eligible controller req.params topic → SameWindow config req.params topic now := by
  constructor
  · intro window topic eligible
    by_contra apart
    obtain ⟨cache, bits, logBits, different⟩ := windows_differ config nonnegative isInt now clock req.params topic apart
    obtain ⟨steps, last, logSteps, logLast, taken, logTaken, shown, logShown⟩ :=
      runs_show valid parse dump config controller library req texts now cache bits logBits topic eligible
    have mirrors := window.agree topic eligible cache bits logBits steps last logSteps logLast taken logTaken
    exact different (shown.symm.trans (mirrors.same.trans logShown))
  · intro same
    have bounded := limits_bounded config nonnegative isInt dump controller req
    refine ⟨bounded.1, bounded.2.1, bounded.2.2, ?_⟩
    intro topic eligible cache bits logBits steps last logSteps logLast taken logTaken
    have shown := Program.paths_takes _ _ _
      (subscribe_shows valid parse dump config controller library req texts cache now bits topic eligible) steps last taken
    have logShown := Program.paths_takes _ _ _
      (eventlog_shows valid parse dump config controller library req texts cache now logBits topic eligible) logSteps logLast logTaken
    refine ⟨?_, shown.2, logShown.2⟩
    rw [shown.1, logShown.1]
    exact same_window config nonnegative isInt cache now clock req.params topic bits logBits (same topic eligible)

end

def limitedRequest (limit : Json) : Request :=
  ⟨.integer 7, str "subscribe", .map [(str "topic", .string (str "t")), (str "since", .integer 1), (str "limit", limit)]⟩

def cachingConfig : Config := ⟨true, true, true, true, 100⟩

theorem limited_eligible (limit : Json) : Eligible openController (limitedRequest limit).params (str "t") where
  named := rfl
  valid := by decide
  allows := by decide
  defined := fun same => nomatch same
  above := by
    intro same
    have number := Except.ok.inj same
    exact absurd number (by decide)

theorem integer_limit_mirrored :
    ReplayWindow (fun _ => True) (fun value => .ok value.text) cachingConfig openController (limitedRequest (.integer (-1))) 50 :=
  (replay_window_iff (fun _ => True) _ _ cachingConfig openController (sample_library []) _ (.integer 7) 50 (by decide) (by decide)
    (by decide)).mpr (fun _ _ => .ordinary trivial)

def twoCached : Cache where
  keyspace := []
  defaultCacheTtl := 60
  db := Redis.sampleDb [Redis.sampleEntry 1 100, Redis.sampleEntry 2 100]
  allTopics := [str "t"]
  answered := by decide

-- limit: true is 1 to subscribe and no number to eventlog.
theorem boolean_limit_cuts_replay :
    Eligible openController (limitedRequest (.boolean true)).params (str "t") ∧ ∃ steps last logSteps logLast,
      (handleSubscribe (fun value => .ok value.text) cachingConfig openController (limitedRequest (.boolean true))).Takes
        (Serves cachingConfig twoCached 50 0) steps last ∧
      (handleEventlog (fun value => .ok value.text) cachingConfig openController (limitedRequest (.boolean true))).Takes
        (Serves cachingConfig twoCached 50 0) logSteps logLast ∧
      (served steps).map Redis.CacheItem.id = [str "2-0"] ∧ (served logSteps).map Redis.CacheItem.id = [str "1-0", str "2-0"] := by
  obtain ⟨steps, last, logSteps, logLast, taken, logTaken, shown, logShown⟩ :=
    runs_show (fun _ => True) _ _ cachingConfig openController (sample_library []) (limitedRequest (.boolean true)) (.integer 7) 50
      twoCached 0 0 (str "t") (limited_eligible _)
  refine ⟨limited_eligible _, steps, last, logSteps, logLast, taken, logTaken, ?_, ?_⟩
  · rw [shown]
    decide
  · rw [logShown]
    decide

end Eventhub.Session
