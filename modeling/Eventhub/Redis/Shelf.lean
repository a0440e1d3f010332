import Eventhub.Redis.Resume

set_option autoImplicit false

namespace Eventhub.Redis

def CacheId.meta (id : CacheId) : CacheItemMeta := ⟨id.text, 2 ^ 64 - 1, []⟩

theorem meta_member (id : CacheId) : CacheItemMeta.ofStr id.meta.toStr = some id.meta :=
  meta_text_parses id (2 ^ 64 - 1) [] (by norm_num)

theorem member_injective (left right : CacheId) (same : left.meta.toStr = right.meta.toStr) : left = right := by
  have parsed := congrArg CacheItemMeta.ofStr same
  rw [meta_member, meta_member, Option.some.injEq] at parsed
  exact cache_id_text_injective _ _ (congrArg CacheItemMeta.id parsed)

def shelfEntries : Int → List CacheId → List ZEntry
  | _, [] => []
  | base, id :: ids => ⟨base, id.meta.toStr⟩ :: shelfEntries (base + 1) ids

theorem shelf_members (base : Int) (ids : List CacheId) :
    (shelfEntries base ids).map ZEntry.member = ids.map (fun id => id.meta.toStr) := by
  induction ids generalizing base with
  | nil => rfl
  | cons id ids ih => rw [shelfEntries, List.map_cons, List.map_cons, ih]

theorem shelf_scores (base : Int) (ids : List CacheId) : ∀ entry ∈ shelfEntries base ids, base ≤ entry.score := by
  induction ids generalizing base with
  | nil => exact fun entry inside => nomatch inside
  | cons id ids ih =>
      refine List.forall_mem_cons.mpr ⟨Int.le_refl base, fun entry inside => ?_⟩
      have later := ih (base + 1) entry inside
      omega

theorem shelf_ordered (base : Int) (ids : List CacheId) : (shelfEntries base ids).Pairwise ZEntry.Le := by
  induction ids generalizing base with
  | nil => exact .nil
  | cons id ids ih =>
      refine .cons (fun entry inside => ?_) (ih (base + 1))
      have later := shelf_scores (base + 1) ids entry inside
      exact Prod.Lex.toLex_le_toLex.mpr (.inl (by dsimp only; omega))

theorem shelf_distinct (base : Int) (ids : List CacheId) (distinct : ids.Nodup) :
    ((shelfEntries base ids).map ZEntry.member).Nodup := by
  rw [shelf_members]
  exact distinct.map member_injective

def shelf (base : Int) (ids : List CacheId) (distinct : ids.Nodup) : ZSet :=
  ⟨shelfEntries base ids, shelf_ordered base ids, shelf_distinct base ids distinct⟩

def shelfFields (ids : List CacheId) : Hash Bytes := ids.foldr (fun id hash => hash.insert id.text []) ∅

theorem shelf_field (ids : List CacheId) (id : CacheId) (inside : id ∈ ids) : (shelfFields ids).lookup id.text = some [] := by
  induction ids with
  | nil => cases inside
  | cons first ids ih =>
      rw [shelfFields, List.foldr_cons]
      by_cases same : id.text = first.text
      · rw [same, AList.lookup_insert]
      · rw [AList.lookup_insert_ne same]
        exact ih ((List.mem_cons.mp inside).resolve_left (fun equal => same (equal ▸ rfl)))

section

variable (keyspace : Bytes)

def fillTopic (db : Db) (topic : Bytes) (base : Int) (ids : List CacheId) (distinct : ids.Nodup) : Db where
  counters := db.counters
  hashes := Function.update db.hashes (cacheDataPath keyspace topic) (shelfFields ids)
  tallies := Function.update db.tallies (pubCountKey keyspace) ((db.tallies (pubCountKey keyspace)).insert topic ids.length)
  zsets := Function.update db.zsets (cacheScorePath keyspace topic) (shelf base ids distinct)

structure Shelved (db : Db) (topic : Bytes) (base : Int) (ids : List CacheId) : Prop where
  scores : (db.zsets (cacheScorePath keyspace topic)).entries = shelfEntries base ids
  fields : ∀ id ∈ ids, db.hget (cacheDataPath keyspace topic) id.text = some []

theorem filled_shelved (db : Db) (topic : Bytes) (base : Int) (ids : List CacheId) (distinct : ids.Nodup) :
    Shelved keyspace (fillTopic keyspace db topic base ids distinct) topic base ids where
  scores := by
    simp only [fillTopic, Function.update_self]
    rfl
  fields := by
    intro id inside
    simp only [Db.hget, fillTopic, Function.update_self]
    exact shelf_field ids id inside

theorem filled_elsewhere (db : Db) (topic other : Bytes) (base otherBase : Int) (ids otherIds : List CacheId) (distinct : ids.Nodup)
    (different : other ≠ topic) (shelved : Shelved keyspace db other otherBase otherIds) :
    Shelved keyspace (fillTopic keyspace db topic base ids distinct) other otherBase otherIds where
  scores := by
    have path : cacheScorePath keyspace other ≠ cacheScorePath keyspace topic := fun same => different (score_path_injective keyspace _ _ same)
    simp only [fillTopic, Function.update_of_ne path]
    exact shelved.scores
  fields := by
    have path : cacheDataPath keyspace other ≠ cacheDataPath keyspace topic := fun same => different (data_path_injective keyspace _ _ same)
    intro id inside
    simp only [Db.hget, fillTopic, Function.update_of_ne path]
    exact shelved.fields id inside

theorem filled_topics (db : Db) (topic : Bytes) (base : Int) (ids : List CacheId) (distinct : ids.Nodup)
    (fresh : topic ∉ db.tallies (pubCountKey keyspace)) :
    ((fillTopic keyspace db topic base ids distinct).tallies (pubCountKey keyspace)).keys =
      topic :: (db.tallies (pubCountKey keyspace)).keys := by
  simp only [fillTopic, Function.update_self, AList.insert_of_notMem fresh]
  rfl

def CacheId.row (topic : Bytes) (id : CacheId) : CacheItem := ⟨id.text, topic, [], []⟩

theorem cache_keys_shelf (now : Nat) (early : now < 2 ^ 64) (ids : List CacheId) :
    cacheKeys now (ids.map (fun id => id.meta.toStr)) = ids.map CacheId.meta := by
  have parsed : (ids.map (fun id => id.meta.toStr)).filterMap CacheItemMeta.ofStr = ids.map CacheId.meta := by
    rw [List.filterMap_map, ← List.filterMap_eq_map]
    exact List.filterMap_congr (fun id _ => meta_member id)
  rw [cacheKeys, parsed, List.filter_eq_self]
  intro item inside
  obtain ⟨id, _, rfl⟩ := List.mem_map.mp inside
  exact decide_eq_true (by simp only [CacheId.meta]; omega)

theorem cache_rows_shelf (db : Db) (topic : Bytes) (ids : List CacheId)
    (fields : ∀ id ∈ ids, db.hget (cacheDataPath keyspace topic) id.text = some []) :
    cacheRows keyspace db topic (ids.map CacheId.meta) = ids.map (CacheId.row topic) := by
  have anonymous : ∀ id, originOf (ids.map CacheId.meta) id = [] := by
    intro id
    unfold originOf
    split
    · rfl
    · rename_i item found
      obtain ⟨other, _, rfl⟩ := List.mem_map.mp (List.mem_reverse.mp (List.mem_of_find?_eq_some found))
      rfl
  have rows : (ids.map CacheId.meta).zip (db.hmget (cacheDataPath keyspace topic) ((ids.map CacheId.meta).map CacheItemMeta.id)) =
      ids.map (fun id => (id.meta, some [])) := by
    rw [Db.hmget, List.map_map, List.map_map, List.zip_map']
    apply List.map_congr_left
    intro id inside
    exact Prod.ext rfl (fields id inside)
  rw [cacheRows, rows, List.filterMap_map]
  refine (List.filterMap_congr (g := some ∘ CacheId.row topic) ?_).trans (congrFun List.filterMap_eq_map ids)
  intro id _
  simp only [Function.comp, Option.map_some, anonymous]
  rfl

theorem topic_cache_shelf (db : Db) (now : Nat) (early : now < 2 ^ 64) (topic : Bytes) (since base limit : Int) (ids : List CacheId)
    (shelved : Shelved keyspace db topic base ids) (reached : Binary64.ofInt since ≤ base) (limited : 0 ≤ limit) :
    topicCache keyspace db now since limit topic = (ids.rtake limit.toNat).map (CacheId.row topic) := by
  have all : (shelfEntries base ids).filter (fun entry => Binary64.ofInt since ≤ entry.score) = shelfEntries base ids := by
    rw [List.filter_eq_self]
    intro entry inside
    exact decide_eq_true (Int.le_trans reached (shelf_scores base ids entry inside))
  have keys : scoreKeys keyspace db topic since limit = (ids.rtake limit.toNat).map (fun id => id.meta.toStr) := by
    rw [scoreKeys, Db.zrevrangebyscore, shelved.scores, all, if_neg (by omega), List.map_reverse, shelf_members, ← List.map_reverse,
      ← List.map_take, ← List.map_reverse, ← List.rtake_eq_reverse_take_reverse]
  rw [topicCache, keys, cache_keys_shelf now early]
  exact cache_rows_shelf keyspace db topic _ (fun id inside => shelved.fields id (List.mem_of_mem_drop inside))

theorem topic_cache_length (db : Db) (now : Nat) (topic : Bytes) (since limit : Int) (limited : 0 ≤ limit) :
    (topicCache keyspace db now since limit topic).length ≤ limit.toNat := by
  have keys : (scoreKeys keyspace db topic since limit).length ≤ limit.toNat := by
    rw [scoreKeys, List.length_reverse, Db.zrevrangebyscore, if_neg (by omega)]
    exact List.length_take_le _ _
  have live : (cacheKeys now (scoreKeys keyspace db topic since limit)).length ≤ limit.toNat :=
    Nat.le_trans (List.length_filter_le _ _) (Nat.le_trans (List.length_filterMap_le _ _) keys)
  refine Nat.le_trans (List.length_filterMap_le _ _) ?_
  rw [List.length_zip]
  exact Nat.le_trans (Nat.min_le_left _ _) live

end

section

variable (keyspace : Bytes) (config : CacheConfig) (db : Db) (now : Nat) (allTopics : List Bytes) (topic : Bytes)

theorem cache_since_none (since : Int) (isPattern : Bool) :
    getCacheSince keyspace config db now allTopics topic since 0 isPattern = [] := by
  have nothing : topicCache keyspace db now since 0 = fun _ => [] := by
    funext other
    exact List.length_eq_zero_iff.mp (Nat.le_zero.mp (topic_cache_length keyspace db now other since 0 (Int.le_refl 0)))
  rw [getCacheSince, nothing]
  simp

theorem cache_since_id_none (sinceId : Bytes) (isPattern : Bool) :
    getCacheSinceId keyspace config db now allTopics topic sinceId 0 isPattern = [] := by
  unfold getCacheSinceId
  split
  · rfl
  · split
    · rfl
    · split
      · rfl
      · exact if_pos (cache_since_none keyspace config db now allTopics topic _ isPattern)

theorem resume_single (timestamp seqNo : Int) (result : List CacheItem) (single : result.length ≤ 1) :
    resumeResult timestamp seqNo result = [] := by
  match result, single with
  | [], _ => rfl
  | [elm], _ =>
      cases split : splitIdAndSeq elm.id with
      | none => simp [resumeResult, resumeLoop, split]
      | some read =>
          have same := resume_result_eq (fun item => item) (fun _ => read) (timestamp, seqNo) [elm] (by simpa using split)
          rw [List.map_id'] at same
          rw [same]
          by_cases pivot : read = (timestamp, seqNo)
          · have passed : Passed (timestamp, seqNo) read := by simp [Passed, pivot]
            simp [unpassed, passed]
          · simp [pivot]

theorem cache_since_id_single (sinceId : Bytes) (limit : Int) (limited : 0 ≤ limit) (one : limit ≤ 1) :
    getCacheSinceId keyspace config db now allTopics topic sinceId limit false = [] := by
  unfold getCacheSinceId
  split
  · rfl
  · rename_i enabled
    split
    · rfl
    · rename_i timestamp seqNo _
      split
      · rfl
      · have short : (getCacheSince keyspace config db now allTopics topic timestamp limit false).length ≤ 1 := by
          have bound := topic_cache_length keyspace db now topic timestamp limit limited
          rw [getCacheSince, if_neg enabled]
          simp only [Bool.false_eq_true, if_false, List.flatMap_cons, List.flatMap_nil, List.append_nil]
          omega
        dsimp only
        split
        · rfl
        · exact resume_single timestamp seqNo _ short

end

def CacheId.readKey (id : CacheId) : Int × Int := (toLongLong id.timestamp.toNat, toLongLong id.sequence)

structure CacheId.Readable (id : CacheId) : Prop where
  positive : 0 ≤ id.timestamp
  stampHigh : id.timestamp < 2 ^ 64
  countHigh : id.sequence < 2 ^ 64

theorem split_readable (id : CacheId) (readable : id.Readable) : splitIdAndSeq id.text = some id.readKey := by
  have stamp : (id.timestamp.toNat : Int) = id.timestamp := Int.toNat_of_nonneg readable.positive
  have high := readable.stampHigh
  have read := split_natural_text id.timestamp.toNat id.sequence (by omega) readable.countHigh
  rw [stamp] at read
  exact read

theorem stoull_below (text : Bytes) (number : Nat) (read : stoull text = some number) : number < 2 ^ 64 := by
  unfold stoull at read
  dsimp only at read
  generalize List.takeWhile Decimal.isDigit _ = digits at read
  by_cases empty : digits = []
  · rw [if_pos empty] at read
    cases read
  · rw [if_neg empty] at read
    by_cases large : 2 ^ 64 ≤ Decimal.value digits
    · rw [if_pos large] at read
      cases read
    · rw [if_neg large] at read
      by_cases negative : (text.dropWhile isspace).head? = some hyphen
      · rw [if_pos negative] at read
        rw [← Option.some.inj read]
        exact Nat.mod_lt _ (by norm_num)
      · rw [if_neg negative] at read
        rw [← Option.some.inj read]
        omega

theorem split_names (sinceId : Bytes) (pivot : Int × Int) (read : splitIdAndSeq sinceId = some pivot) :
    ∃ id : CacheId, id.Readable ∧ id.readKey = pivot := by
  unfold splitIdAndSeq at read
  dsimp only at read
  split at read
  · cases read
  · split at read
    · cases read
    · obtain ⟨timestamp, stamp, rest⟩ := Option.bind_eq_some_iff.mp read
      obtain ⟨seq, count, whole⟩ := Option.bind_eq_some_iff.mp rest
      refine ⟨⟨timestamp, seq⟩, ⟨Int.natCast_nonneg _, ?_, stoull_below _ _ count⟩, Option.some.inj whole⟩
      have high := stoull_below _ _ stamp
      dsimp only
      omega

def otherStamp (timestamp : Int) : Nat := if timestamp = 1 then 2 else 1

def otherIds (timestamp : Int) (count : Nat) : List CacheId := (List.range count).map (fun seq => ⟨otherStamp timestamp, seq⟩)

theorem other_ids_distinct (timestamp : Int) (count : Nat) : (otherIds timestamp count).Nodup :=
  List.nodup_range.map (fun _ _ same => congrArg CacheId.sequence same)

theorem other_ids_length (timestamp : Int) (count : Nat) : (otherIds timestamp count).length = count := by
  rw [otherIds, List.length_map, List.length_range]

theorem other_stamp (timestamp : Int) : otherStamp timestamp ≤ 2 ∧ (otherStamp timestamp : Int) ≠ timestamp := by
  unfold otherStamp
  split <;> omega

theorem other_id (timestamp : Int) (count : Nat) (small : count < 2 ^ 64) (id : CacheId) (inside : id ∈ otherIds timestamp count) :
    id.Readable ∧ id.readKey.1 ≠ timestamp := by
  obtain ⟨seq, below, rfl⟩ := List.mem_map.mp inside
  obtain ⟨bound, different⟩ := other_stamp timestamp
  have stamp : toLongLong (otherStamp timestamp) = otherStamp timestamp := if_pos (by omega)
  refine ⟨⟨Int.natCast_nonneg _, ?_, Nat.lt_trans (List.mem_range.mp below) small⟩, ?_⟩
  · dsimp only
    omega
  · rw [CacheId.readKey, Int.toNat_natCast, stamp]
    exact different

section

variable {α : Type} (item : α → CacheItem) (key : α → Int × Int) (pivot : Int × Int)

theorem resume_missing (entries : List α) (splits : ∀ entry ∈ entries, splitIdAndSeq (item entry).id = some (key entry))
    (others : ∀ entry ∈ entries, (key entry).1 ≠ pivot.1) : resumeResult pivot.1 pivot.2 (entries.map item) = [] := by
  have absent : ¬ ∃ entry ∈ entries, key entry = pivot := by
    intro found
    obtain ⟨entry, inside, same⟩ := found
    exact others entry inside (congrArg Prod.fst same)
  rw [resume_result_eq item key pivot entries splits, if_neg (fun both => absent both.2)]

theorem resume_behind (first : α) (entries : List α)
    (splits : ∀ entry ∈ first :: entries, splitIdAndSeq (item entry).id = some (key entry)) (named : key first = pivot)
    (others : ∀ entry ∈ entries, (key entry).1 ≠ pivot.1) :
    resumeResult pivot.1 pivot.2 ((first :: entries).map item) = entries.map item := by
  have ahead : surpassed key pivot (first :: entries) = false := if_pos named
  have passed : Passed pivot (key first) := named ▸ ⟨rfl, Int.le_refl _⟩
  have kept : unpassed key pivot entries = entries := by
    rw [unpassed, List.filter_eq_self]
    intro entry inside
    exact decide_eq_true (fun gone => others entry inside gone.1)
  rw [resume_result_eq item key pivot _ splits, if_pos ⟨ahead, first, List.mem_cons_self, named⟩, unpassed_drops key pivot first _ passed, kept]

end

end Eventhub.Redis
