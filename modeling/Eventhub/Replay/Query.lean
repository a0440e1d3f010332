import Eventhub.Replay.Stored

set_option autoImplicit false

namespace Eventhub.Replay

open Redis

def recentEntries (keyspace : Bytes) (db : Db) (topic : Bytes) (since : Int) : List ZEntry :=
  (db.zsets (cacheScorePath keyspace topic)).entries.filter (fun entry => Binary64.ofInt since ≤ entry.score)

theorem mem_score_keys (keyspace : Bytes) (db : Db) (topic : Bytes) (since limit : Int) (entry : ZEntry)
    (recent : entry ∈ recentEntries keyspace db topic since)
    (room : ((recentEntries keyspace db topic since).length : Int) ≤ limit) :
    entry.member ∈ scoreKeys keyspace db topic since limit := by
  have nonnegative : ¬ limit < 0 := by omega
  simp only [scoreKeys, Db.zrevrangebyscore, List.mem_reverse, if_neg nonnegative]
  rw [← recentEntries, List.take_of_length_le (by rw [List.length_map, List.length_reverse]; omega)]
  exact List.mem_map_of_mem (List.mem_reverse.mpr recent)

theorem mem_cache_keys (now : Nat) (zcacheKeys : List Bytes) (zKey : Bytes) (item : CacheItemMeta) (inside : zKey ∈ zcacheKeys)
    (parsed : CacheItemMeta.ofStr zKey = some item) (live : now ≤ item.expireAt) : item ∈ cacheKeys now zcacheKeys :=
  List.mem_filter.mpr ⟨List.mem_filterMap.mpr ⟨zKey, inside, parsed⟩, decide_eq_true live⟩

theorem mem_cache_rows (keyspace : Bytes) (db : Db) (topic payload : Bytes) (items : List CacheItemMeta) (item : CacheItemMeta)
    (inside : item ∈ items) (stored : db.hget (cacheDataPath keyspace topic) item.id = some payload) :
    ⟨item.id, topic, payload, originOf items item.id⟩ ∈ cacheRows keyspace db topic items := by
  have rows : items.zip (db.hmget (cacheDataPath keyspace topic) (items.map CacheItemMeta.id)) =
      items.map (fun item => (item, db.hget (cacheDataPath keyspace topic) item.id)) := by
    rw [Db.hmget, List.map_map]
    conv_lhs => rw [← List.map_id items]
    rw [List.map_map, List.zip_map']
    rfl
  rw [cacheRows, rows]
  exact List.mem_filterMap.mpr ⟨_, List.mem_map_of_mem inside, by rw [stored]; rfl⟩

-- The clock reading that decides which entries have expired.
def ReplayPc.clock : ReplayPc → Option Nat
  | .started now => some now
  | .looking now _ _ => some now
  | .fetching now _ _ _ _ => some now
  | .finished now _ => some now
  | _ => none

-- The ids are distinct, nothing has expired, and no topic has more matching
-- entries than the limit.
structure Assumed (keyspace : Bytes) (request : Request) (world : World) : Prop where
  distinct : ∀ (first second : Nat) (left right : Publisher) (id : CacheId), world.publishers[first]? = some left →
    world.publishers[second]? = some right → left.id = some id → right.id = some id → first = second
  unexpired : ∀ started, world.replay.clock = some started → ∀ topic, isFilterMatched request.topicPattern topic = true →
    ∀ entry ∈ (world.db.zsets (cacheScorePath keyspace topic)).entries, ∀ item, CacheItemMeta.ofStr entry.member = some item →
      started ≤ item.expireAt
  room : ∀ topic, isFilterMatched request.topicPattern topic = true →
    ((recentEntries keyspace world.db topic request.since).length : Int) ≤ request.limit

theorem assumed_earlier (keyspace : Bytes) (request : Request) (before after : World) (assumed : Assumed keyspace request after)
    (grows : Grows before.db after.db)
    (ids : ∀ (index : Nat) (publisher : Publisher) (id : CacheId), before.publishers[index]? = some publisher →
      publisher.id = some id → ∃ next : Publisher, after.publishers[index]? = some next ∧ next.id = some id)
    (clock : ∀ started, before.replay.clock = some started → after.replay.clock = some started) :
    Assumed keyspace request before := by
  constructor
  · intro first second left right id atFirst atSecond leftId rightId
    obtain ⟨left', found, leftLater⟩ := ids first left id atFirst leftId
    obtain ⟨right', other, rightLater⟩ := ids second right id atSecond rightId
    exact assumed.distinct first second left' right' id found other leftLater rightLater
  · intro started reading topic matched entry inside
    exact assumed.unexpired started (clock started reading) topic matched entry (grows.entries _ inside)
  · intro topic matched
    refine Int.le_trans ?_ (assumed.room topic matched)
    have distinct : (recentEntries keyspace before.db topic request.since).Nodup :=
      (List.Nodup.of_map _ (before.db.zsets (cacheScorePath keyspace topic)).distinct).filter _
    have subset : recentEntries keyspace before.db topic request.since ⊆ recentEntries keyspace after.db topic request.since :=
      List.filter_subset _ (grows.entries _)
    exact_mod_cast (distinct.subperm subset).length_le

def Found (args : CacheArgs) (id : CacheId) (result : List CacheItem) : Prop :=
  ∃ origin, ⟨id.text, args.topic, args.payload, origin⟩ ∈ result

-- A message stored by now that the query has found or is still going to find.
def Captured (args : CacheArgs) (id : CacheId) : ReplayPc → Prop
  | .looking _ topics result => args.topic ∈ topics ∨ Found args id result
  | .fetching _ topic keys topics result =>
      args.topic ∈ topics ∨ Found args id result ∨ (args.topic = topic ∧ ∃ item ∈ keys, item.id = id.text)
  | .finished _ result => Found args id result
  | _ => True

section

variable (keyspace : Bytes) (config : CacheConfig) (request : Request)

theorem replay_step_clock (now started : Nat) (db : Db) (allTopics : List Bytes) (before after : ReplayPc)
    (step : replayStep keyspace config request now db allTopics before = some after) (reading : before.clock = some started) :
    after.clock = some started := by
  cases before with
  | started clock =>
      simp only [replayStep] at step
      split at step
      · split at step
        · rw [← Option.some.inj step]
          exact reading
        · cases step
      · rw [← Option.some.inj step]
        exact reading
  | looking clock topics result =>
      cases topics with
      | nil => rw [← Option.some.inj step]; exact reading
      | cons topic topics => rw [← Option.some.inj step]; exact reading
  | fetching clock topic keys topics result => rw [← Option.some.inj step]; exact reading
  | finished clock result => cases step
  | _ => cases reading

-- The list of topics is read after the message was counted in pub_count.
theorem started_captures (now started : Nat) (db : Db) (allTopics : List Bytes) (after : ReplayPc) (args : CacheArgs) (id : CacheId)
    (tallied : Tallied keyspace db args.topic) (matched : isFilterMatched request.topicPattern args.topic = true)
    (step : replayStep keyspace config request now db allTopics (.started started) = some after) : Captured args id after := by
  simp only [replayStep] at step
  by_cases pattern : isValidTopicFilter request.topicPattern = true
  · rw [if_pos pattern] at step
    by_cases whole : allTopics.Perm (db.tallies (pubCountKey keyspace)).keys
    · rw [if_pos whole, Option.some.injEq] at step
      rw [← step]
      exact .inl (List.mem_filter.mpr ⟨whole.mem_iff.mpr (AList.mem_keys.mp tallied), matched⟩)
    · rw [if_neg whole] at step
      cases step
  · rw [if_neg pattern, Option.some.injEq] at step
    have plain : isValidTopic request.topicPattern = true := by
      have valid := request.valid
      simpa [isValidTopicOrFilter, pattern] using valid
    rw [← step]
    exact .inl (by rw [(topic_matched_iff _ _ plain).mp matched]; exact List.mem_singleton_self _)

theorem captured_step (world : World) (allTopics : List Bytes) (after : ReplayPc) (args : CacheArgs) (id : CacheId)
    (assumed : Assumed keyspace request world) (kept : CacheKept keyspace world.db args (.returned id))
    (matched : isFilterMatched request.topicPattern args.topic = true) (recent : request.since ≤ id.timestamp)
    (step : replayStep keyspace config request world.now world.db allTopics world.replay = some after)
    (captured : Captured args id world.replay) : Captured args id after := by
  obtain ⟨hashed, ⟨member, spelled, scored⟩, tallied⟩ := kept
  have unexpired := assumed.unexpired
  generalize world.replay = before at step captured unexpired
  cases before with
  | waiting => cases step
  | skipped => cases step
  | finished started result => cases step
  | subscribed =>
      rw [← Option.some.inj step]
      split
      · trivial
      · trivial
  | started started => exact started_captures keyspace config request _ started _ allTopics after args id tallied matched step
  | looking started topics result =>
      cases topics with
      | nil =>
          rw [← Option.some.inj step]
          rcases captured with listed | found
          · cases listed
          · exact found
      | cons topic topics =>
          rw [← Option.some.inj step]
          rcases captured with listed | found
          · rcases List.mem_cons.mp listed with rfl | later
            · -- ZREVRANGEBYSCORE comes after the ZADD of the message.
              obtain ⟨item, parsed, named⟩ := spelled_parses id member spelled
              have entry : ⟨Binary64.ofInt id.timestamp, member⟩ ∈ recentEntries keyspace world.db args.topic request.since :=
                List.mem_filter.mpr ⟨scored, decide_eq_true (Binary64.of_int_mono _ _ recent)⟩
              refine .inr (.inr ⟨rfl, item, ?_, named⟩)
              exact mem_cache_keys started _ member item
                (mem_score_keys keyspace world.db args.topic request.since request.limit _ entry (assumed.room args.topic matched))
                parsed (unexpired started rfl args.topic matched _ scored item parsed)
            · exact .inl later
          · exact .inr (.inl found)
  | fetching started topic keys topics result =>
      rw [← Option.some.inj step]
      rcases captured with later | ⟨origin, found⟩ | ⟨rfl, item, inside, named⟩
      · exact .inl later
      · exact .inr ⟨origin, List.mem_append_left _ found⟩
      · have row := mem_cache_rows keyspace world.db args.topic args.payload keys item inside (by rw [named]; exact hashed)
        rw [named] at row
        exact .inr ⟨_, List.mem_append_right _ row⟩

end

end Eventhub.Replay
