import Eventhub.Redis.ResumeTopic

set_option autoImplicit false

namespace Eventhub.Redis

abbrev TopicEntries := Bytes × List CacheEntry

-- The cached topics with distinct ids throughout, nothing expired and room for
-- every log. A message without a timestamp gets the clock's, so none has zero.
structure CacheLogs (keyspace : Bytes) (config : CacheConfig) (db : Db) (now : Nat) (limit : Int) (logs : List TopicEntries) :
    Prop where
  enabled : config.enableCache = true
  topics : (logs.map Prod.fst).Nodup
  logged : ∀ log ∈ logs, TopicLog keyspace db log.1 log.2
  distinct : (logs.flatMap (fun log => log.2.map CacheEntry.id)).Nodup
  nonzero : ∀ log ∈ logs, ∀ entry ∈ log.2, entry.id.timestamp ≠ 0
  live : ∀ log ∈ logs, ∀ entry ∈ log.2, now ≤ entry.expireAt
  room : ∀ log ∈ logs, (log.2.length : Int) ≤ limit

def matching (pattern : Bytes) (logs : List TopicEntries) : List TopicEntries :=
  logs.filter (fun log => isFilterMatched pattern log.1)

def placed (since : Int) (logs : List TopicEntries) : List (Bytes × CacheEntry) :=
  logs.flatMap (fun log => (sinceEntries since log.2).map (Prod.mk log.1))

def placedItem (entry : Bytes × CacheEntry) : CacheItem := entry.2.item entry.1

def placedKey (entry : Bytes × CacheEntry) : Int × Int := entry.2.key

def newerItems (logs : List TopicEntries) (since : CacheEntry) : List CacheItem :=
  logs.flatMap (fun log => (log.2.filter (fun entry => Newer since.key entry.key)).map (CacheEntry.item log.1))

-- No other topic has anything newer than since.
def Undisturbed (logs : List TopicEntries) (log : TopicEntries) (since : CacheEntry) : Prop :=
  ∀ other ∈ logs, other.1 ≠ log.1 → ∀ entry ∈ other.2, ¬ Newer since.key entry.key

-- The sorted set of its own topic keeps since before everything newer.
def OwnFirst (log : TopicEntries) (since : CacheEntry) : Prop := ∀ entry ∈ log.2, Newer since.key entry.key → since.StoredBefore entry

section

variable {α β : Type} (key : α → Int × Int) (pivot : Int × Int)

theorem surpassed_append (first second : List α) :
    surpassed key pivot (first ++ second) = true ↔
      surpassed key pivot first = true ∨ ((∀ entry ∈ first, key entry ≠ pivot) ∧ surpassed key pivot second = true) := by
  induction first with
  | nil => simp [surpassed]
  | cons entry first ih =>
      rw [List.cons_append, surpassed, surpassed]
      by_cases same : key entry = pivot
      · simp [same]
      · by_cases newer : Newer pivot (key entry)
        · simp [same, newer]
        · simp [same, newer, ih]

theorem surpassed_map (f : β → α) (entries : List β) :
    surpassed key pivot (entries.map f) = surpassed (fun entry => key (f entry)) pivot entries := by
  induction entries with
  | nil => rfl
  | cons entry entries ih => simp only [List.map_cons, surpassed, ih]

theorem surpassed_without (entries : List α) (absent : ∀ entry ∈ entries, key entry ≠ pivot) :
    surpassed key pivot entries = true ↔ ∃ entry ∈ entries, Newer pivot (key entry) := by
  induction entries with
  | nil => simp [surpassed]
  | cons entry entries ih =>
      rw [List.forall_mem_cons] at absent
      rw [surpassed, if_neg absent.1]
      by_cases newer : Newer pivot (key entry)
      · simp [newer]
      · simp [newer, ih absent.2]

end

theorem mem_placed (since : Int) (logs : List TopicEntries) (entry : Bytes × CacheEntry) :
    entry ∈ placed since logs ↔ ∃ log ∈ logs, entry.1 = log.1 ∧ entry.2 ∈ log.2 ∧
      Binary64.ofInt since ≤ Binary64.ofInt entry.2.id.timestamp := by
  simp only [placed, List.mem_flatMap, List.mem_map]
  constructor
  · rintro ⟨log, inside, found, member, rfl⟩
    exact ⟨log, inside, rfl, (mem_since_entries _ _ _).mp member⟩
  · rintro ⟨log, inside, topic, member⟩
    exact ⟨log, inside, entry.2, (mem_since_entries _ _ _).mpr member, Prod.ext topic.symm rfl⟩

theorem newer_later (since entry : CacheEntry) (newer : Newer since.key entry.key) : since.id.timestamp ≤ entry.id.timestamp := by
  simp only [Newer, CacheEntry.key, CacheId.key] at newer
  omega

theorem mem_newer_items (logs : List TopicEntries) (since : CacheEntry) (item : CacheItem) :
    item ∈ newerItems logs since ↔
      ∃ log ∈ logs, ∃ entry ∈ log.2, Newer since.key entry.key ∧ entry.item log.1 = item := by
  simp only [newerItems, List.mem_flatMap, List.mem_map, List.mem_filter, decide_eq_true_eq, and_assoc]

theorem newer_items_nil (logs : List TopicEntries) (since : CacheEntry) :
    newerItems logs since = [] ↔ ∀ log ∈ logs, ∀ entry ∈ log.2, ¬ Newer since.key entry.key := by
  simp [newerItems]

theorem newer_unpassed (logs : List TopicEntries) (since entry : CacheEntry) (log : TopicEntries) (inside : log ∈ logs)
    (member : entry ∈ log.2) (newer : Newer since.key entry.key) :
    (log.1, entry) ∈ unpassed placedKey since.key (placed since.id.timestamp logs) := by
  refine List.mem_filter.mpr ⟨(mem_placed _ _ _).mpr ⟨log, inside, rfl, member, Binary64.of_int_mono _ _ (newer_later _ _ newer)⟩,
    decide_eq_true ?_⟩
  simp only [Passed, Newer, placedKey, CacheEntry.key, CacheId.key] at newer ⊢
  omega

theorem unpassed_placed (logs : List TopicEntries) (since : CacheEntry) (apart : ∀ log ∈ logs, ScoreApart log.2 since) :
    ((unpassed placedKey since.key (placed since.id.timestamp logs)).map placedItem).Perm (newerItems logs since) := by
  have blocks : (unpassed placedKey since.key (placed since.id.timestamp logs)).map placedItem =
      logs.flatMap (fun log => (unpassed CacheEntry.key since.key (sinceEntries since.id.timestamp log.2)).map (CacheEntry.item log.1)) := by
    simp only [unpassed, placed, List.filter_flatMap, List.map_flatMap, List.filter_map, List.map_map]
    rfl
  rw [blocks]
  exact List.Perm.flatMap_left logs (fun log inside => (apart_unpassed log.2 since (apart log inside)).map _)

section

variable (keyspace : Bytes) (config : CacheConfig) (db : Db) (now : Nat) (pattern sinceId : Bytes) (limit : Int)
  (logs : List TopicEntries)

theorem same_log (cache : CacheLogs keyspace config db now limit logs) (left right : TopicEntries) (first second : CacheEntry)
    (leftIn : left ∈ logs) (rightIn : right ∈ logs) (firstIn : first ∈ left.2) (secondIn : second ∈ right.2)
    (same : first.id = second.id) : left = right := by
  by_contra different
  have apart := (List.nodup_flatMap.mp cache.distinct).2
  rcases ListLemmas.pairwise_either _ logs apart left right leftIn rightIn different with disjoint | disjoint
  · exact disjoint (List.mem_map_of_mem firstIn) (same ▸ List.mem_map_of_mem secondIn)
  · exact disjoint (List.mem_map_of_mem secondIn) (same ▸ List.mem_map_of_mem firstIn)

def patternAnswer (order : List TopicEntries) : List CacheItem :=
  getCacheSinceId keyspace config db now (order.map Prod.fst) pattern sinceId limit true

theorem pattern_items (order : List TopicEntries) (since : Int) (cache : CacheLogs keyspace config db now limit logs)
    (same : order.Perm logs) :
    getCacheSince keyspace config db now (order.map Prod.fst) pattern since limit true =
      (placed since (matching pattern order)).map placedItem := by
  have topics : getTopicsSeen (order.map Prod.fst) pattern = (matching pattern order).map Prod.fst := by
    rw [getTopicsSeen, List.filter_map, matching]
    rfl
  have each : ∀ log ∈ matching pattern order,
      topicCache keyspace db now since limit log.1 = ((sinceEntries since log.2).map (Prod.mk log.1)).map placedItem := by
    intro log inside
    have member := same.mem_iff.mp (List.mem_of_mem_filter inside)
    have short : ((sinceEntries since log.2).length : Int) ≤ limit :=
      Int.le_trans (by exact_mod_cast since_entries_length since log.2) (cache.room log member)
    rw [topic_cache_eq keyspace db now log.1 log.2 since limit (cache.logged log member) (cache.live log member) short, List.map_map]
    rfl
  simp only [getCacheSince, cache.enabled, Bool.not_true, Bool.false_eq_true, if_false, if_true, topics, List.flatMap_map]
  rw [placed, List.map_flatMap]
  exact List.flatMap_congr each

theorem matching_perm (order : List TopicEntries) (same : order.Perm logs) : (matching pattern order).Perm (matching pattern logs) :=
  same.filter _

theorem placed_perm (since : Int) (first second : List TopicEntries) (same : first.Perm second) :
    (placed since first).Perm (placed since second) := same.flatMap_right _

theorem placed_positive (order : List TopicEntries) (since : Int) (positive : 0 < since)
    (nonzero : ∀ log ∈ order, ∀ entry ∈ log.2, entry.id.timestamp ≠ 0) (entry : Bytes × CacheEntry)
    (inside : entry ∈ placed since order) : 0 < entry.2.id.timestamp := by
  obtain ⟨log, member, _, among, score⟩ := (mem_placed since order entry).mp inside
  have other := nonzero log member entry.2 among
  by_contra negative
  have below := Binary64.of_int_mono entry.2.id.timestamp (-1) (by omega)
  have above := Binary64.of_int_mono 1 since (by omega)
  rw [Binary64.of_int_exact (-1) (by decide)] at below
  rw [Binary64.of_int_exact 1 (by decide)] at above
  omega

theorem answer_positive (cache : CacheLogs keyspace config db now limit logs) (order : List TopicEntries) (same : order.Perm logs)
    (pivot : Int × Int) (split : splitIdAndSeq sinceId = some pivot) (positive : 0 < pivot.1) :
    patternAnswer keyspace config db now pattern sinceId limit order =
      if surpassed placedKey pivot (placed pivot.1 (matching pattern order)) = false ∧
          ∃ entry ∈ placed pivot.1 (matching pattern order), placedKey entry = pivot then
        (unpassed placedKey pivot (placed pivot.1 (matching pattern order))).map placedItem
      else [] := by
  have splits : ∀ entry ∈ placed pivot.1 (matching pattern order), splitIdAndSeq (placedItem entry).id = some (placedKey entry) := by
    intro entry inside
    exact split_positive_text entry.2.id (placed_positive _ pivot.1 positive
      (fun log member => cache.nonzero log (same.mem_iff.mp (List.mem_of_mem_filter member))) entry inside) entry.2.stampHigh
      entry.2.countHigh
  have items := pattern_items keyspace config db now pattern limit logs order pivot.1 cache same
  rw [← resume_result_eq placedItem placedKey pivot _ splits, patternAnswer, getCacheSinceId, split]
  simp only [cache.enabled, Bool.not_true, Bool.false_eq_true, if_false, if_neg (Int.ne_of_gt positive), items]
  split
  · rename_i empty
    rw [empty]
    rfl
  · rfl

theorem answer_nonpositive (cache : CacheLogs keyspace config db now limit logs) (order : List TopicEntries) (same : order.Perm logs)
    (useless : ∀ pivot, splitIdAndSeq sinceId = some pivot → pivot.1 ≤ 0) :
    patternAnswer keyspace config db now pattern sinceId limit order = [] := by
  rw [patternAnswer, getCacheSinceId]
  simp only [cache.enabled, Bool.not_true, Bool.false_eq_true, if_false]
  cases split : splitIdAndSeq sinceId with
  | none => rfl
  | some pivot =>
      by_cases zero : pivot.1 = 0
      · simp only [zero, if_true]
      · have negative := useless pivot split
        have items := pattern_items keyspace config db now pattern limit logs order pivot.1 cache same
        simp only [if_neg zero, items]
        cases found : placed pivot.1 (matching pattern order) with
        | nil => rfl
        | cons entry rest =>
            obtain ⟨log, member, _, among, _⟩ := (mem_placed pivot.1 (matching pattern order) entry).mp (by rw [found]; simp)
            have stamp := cache.nonzero log (same.mem_iff.mp (List.mem_of_mem_filter member)) entry.2 among
            simp only [List.map_cons, reduceCtorEq, if_false, resumeResult]
            by_cases positive : 0 < entry.2.id.timestamp
            · have read := split_positive_text entry.2.id positive entry.2.stampHigh entry.2.countHigh
              have newer : Newer pivot (entry.2.id.timestamp, (entry.2.id.sequence : Int)) := .inl (by simp only; omega)
              rw [resume_loop_cons pivot false (placedItem entry) _ _ read, if_pos ⟨newer, rfl⟩]
            · have read : splitIdAndSeq (placedItem entry).id = none := split_negative_text entry.2.id (by omega)
              simp only [resumeLoop, read]

theorem placed_surpassed_iff (cache : CacheLogs keyspace config db now limit logs) (before after : List TopicEntries) (log : TopicEntries)
    (since : CacheEntry) (among : ∀ other ∈ before ++ log :: after, other ∈ logs) (nodup : (before ++ log :: after).Nodup)
    (inside : since ∈ log.2) :
    surpassed placedKey since.key (placed since.id.timestamp (before ++ log :: after)) = true ↔
      (∃ other ∈ before, ∃ entry ∈ other.2, Newer since.key entry.key) ∨ ¬ OwnFirst log since := by
  have logIn := among log (by simp)
  have absent : ∀ entry ∈ placed since.id.timestamp before, placedKey entry ≠ since.key := by
    intro entry found equal
    obtain ⟨other, early, _, member, _⟩ := (mem_placed _ _ _).mp found
    have same := same_log keyspace config db now limit logs cache other log entry.2 since (among other (by simp [early])) logIn member inside
      (key_is_id _ _ equal)
    rw [same] at early
    exact (List.nodup_append.mp nodup).2.2 log early log List.mem_cons_self rfl
  have own : surpassed placedKey since.key ((sinceEntries since.id.timestamp log.2).map (Prod.mk log.1)) =
      surpassed CacheEntry.key since.key (sinceEntries since.id.timestamp log.2) := surpassed_map _ _ _ _
  have present : ¬ ∀ entry ∈ (sinceEntries since.id.timestamp log.2).map (Prod.mk log.1), placedKey entry ≠ since.key := by
    intro clean
    exact clean (log.1, since) (List.mem_map_of_mem (since_entries_later _ _ _ inside (Int.le_refl _))) rfl
  have block : placed since.id.timestamp (before ++ log :: after) =
      placed since.id.timestamp before ++ ((sinceEntries since.id.timestamp log.2).map (Prod.mk log.1) ++
        placed since.id.timestamp after) := by
    simp [placed]
  rw [block, surpassed_append, surpassed_without placedKey since.key _ absent, surpassed_append, own,
    surpassed_topic_iff log.2 since (cache.logged log logIn).distinct inside]
  constructor
  · rintro (⟨entry, found, newer⟩ | ⟨_, ⟨entry, member, newer, misplaced⟩ | ⟨clean, _⟩⟩)
    · obtain ⟨other, early, _, member, _⟩ := (mem_placed _ _ _).mp found
      exact .inl ⟨other, early, entry.2, member, newer⟩
    · exact .inr (fun first => misplaced (first entry member newer))
    · exact absurd clean present
  · rintro (⟨other, early, entry, member, newer⟩ | unordered)
    · exact .inl ⟨(other.1, entry), (mem_placed _ _ _).mpr ⟨other, early, rfl, member, Binary64.of_int_mono _ _ (newer_later _ _ newer)⟩,
        newer⟩
    · simp only [OwnFirst, not_forall] at unordered
      obtain ⟨entry, member, newer, misplaced⟩ := unordered
      exact .inr ⟨absent, .inl ⟨entry, member, newer, misplaced⟩⟩

theorem front_order (log : TopicEntries) (inside : log ∈ matching pattern logs) :
    ∃ order rest, order.Perm logs ∧ matching pattern order = log :: rest := by
  obtain ⟨before, after, split⟩ := List.append_of_mem inside
  have front : (log :: (before ++ after)).Perm (matching pattern logs) := by
    rw [split]
    exact List.perm_middle.symm
  have matched : matching pattern (log :: (before ++ after)) = log :: (before ++ after) := by
    rw [matching, List.filter_eq_self]
    intro other member
    exact (List.mem_filter.mp (front.mem_iff.mp member)).2
  have rest : matching pattern (logs.filter (fun other => !isFilterMatched pattern other.1)) = [] := by
    rw [matching, List.filter_filter, List.filter_eq_nil_iff]
    simp
  refine ⟨log :: (before ++ after) ++ logs.filter (fun other => !isFilterMatched pattern other.1), before ++ after, ?_, ?_⟩
  · exact (front.append_right _).trans (List.filter_append_perm _ logs)
  · rw [matching, List.filter_append, ← matching, ← matching, matched, rest, List.append_nil]

theorem front_before (log other : TopicEntries) (logIn : log ∈ matching pattern logs) (otherIn : other ∈ matching pattern logs)
    (different : other.1 ≠ log.1) :
    ∃ order between after, order.Perm logs ∧ matching pattern order = (other :: between) ++ log :: after := by
  obtain ⟨order, rest, same, front⟩ := front_order pattern logs other otherIn
  have later : log ∈ rest := by
    have among := (matching_perm pattern logs order same).mem_iff.mpr logIn
    rw [front] at among
    exact (List.mem_cons.mp among).resolve_left (fun equal => different (congrArg Prod.fst equal).symm)
  obtain ⟨between, after, arrangement⟩ := List.append_of_mem later
  exact ⟨order, between, after, same, by rw [front, arrangement, List.cons_append]⟩

-- All enumerations give the same multiset.
def OrderIndependent : Prop :=
  ∀ left right, left.Perm logs → right.Perm logs →
    (patternAnswer keyspace config db now pattern sinceId limit left).Perm
      (patternAnswer keyspace config db now pattern sinceId limit right)

-- Everything newer than the entry with this id.
def PatternResumed : Prop :=
  ∀ log ∈ matching pattern logs, ∀ since ∈ log.2, since.id.text = sinceId → ∀ order, order.Perm logs →
    (patternAnswer keyspace config db now pattern sinceId limit order).Perm (newerItems (matching pattern logs) since)

structure ResumeCondition : Prop where
  exact : ∀ log ∈ matching pattern logs, ∀ since ∈ log.2, since.id.text = sinceId → 0 < since.id.timestamp →
    Undisturbed (matching pattern logs) log since ∧ OwnFirst log since ∧ ∀ other ∈ matching pattern logs, ScoreApart other.2 since
  negative : ∀ log ∈ matching pattern logs, ∀ since ∈ log.2, since.id.text = sinceId → since.id.timestamp < 0 →
    ∀ other ∈ matching pattern logs, ∀ entry ∈ other.2, ¬ Newer since.key entry.key
  lenient : ∀ log ∈ matching pattern logs, ∀ since ∈ log.2, since.id.text ≠ sinceId → 0 < since.id.timestamp →
    splitIdAndSeq sinceId = some since.key → Undisturbed (matching pattern logs) log since ∨ ¬ OwnFirst log since

theorem answer_found (cache : CacheLogs keyspace config db now limit logs) (order before after : List TopicEntries)
    (log : TopicEntries) (since : CacheEntry) (same : order.Perm logs) (arrangement : matching pattern order = before ++ log :: after)
    (inside : since ∈ log.2) (split : splitIdAndSeq sinceId = some since.key) (positive : 0 < since.id.timestamp) :
    (((∃ other ∈ before, ∃ entry ∈ other.2, Newer since.key entry.key) ∨ ¬ OwnFirst log since) ∧
      patternAnswer keyspace config db now pattern sinceId limit order = []) ∨
    (¬ ((∃ other ∈ before, ∃ entry ∈ other.2, Newer since.key entry.key) ∨ ¬ OwnFirst log since) ∧
      (patternAnswer keyspace config db now pattern sinceId limit order).Perm
        ((unpassed placedKey since.key (placed since.id.timestamp (matching pattern logs))).map placedItem)) := by
  have among : ∀ other ∈ before ++ log :: after, other ∈ logs := by
    intro other member
    rw [← arrangement] at member
    exact same.mem_iff.mp (List.mem_of_mem_filter member)
  have nodup : (before ++ log :: after).Nodup := by
    rw [← arrangement]
    exact ((same.nodup_iff.mpr cache.topics.of_map).filter _)
  have lost := placed_surpassed_iff keyspace config db now limit logs cache before after log since among nodup inside
  have found : ∃ entry ∈ placed since.id.timestamp (matching pattern order), placedKey entry = since.key :=
    ⟨(log.1, since), (mem_placed _ _ _).mpr ⟨log, by rw [arrangement]; simp, rfl, inside, Int.le_refl _⟩, rfl⟩
  have answer := answer_positive keyspace config db now pattern sinceId limit logs cache order same
    since.key split positive
  rw [← arrangement] at lost
  rw [show since.key.1 = since.id.timestamp from rfl] at answer
  by_cases surpassing : surpassed placedKey since.key (placed since.id.timestamp (matching pattern order)) = true
  · refine .inl ⟨lost.mp surpassing, ?_⟩
    rw [answer, if_neg (fun kept => by rw [surpassing] at kept; cases kept.1)]
  · refine .inr ⟨fun either => surpassing (lost.mpr either), ?_⟩
    rw [answer, if_pos ⟨Bool.eq_false_iff.mpr surpassing, found⟩]
    exact ((placed_perm _ _ _ (matching_perm pattern logs order same)).filter _).map _

theorem other_topic (cache : CacheLogs keyspace config db now limit logs) (log other : TopicEntries) (logIn : log ∈ matching pattern logs)
    (otherIn : other ∈ matching pattern logs) (different : other ≠ log) : other.1 ≠ log.1 := by
  intro same
  exact different (List.inj_on_of_nodup_map cache.topics (List.mem_of_mem_filter otherIn) (List.mem_of_mem_filter logIn) same)

theorem resumed_not_surpassed (cache : CacheLogs keyspace config db now limit logs) (order before after : List TopicEntries)
    (log : TopicEntries) (since : CacheEntry) (same : order.Perm logs) (arrangement : matching pattern order = before ++ log :: after)
    (inside : since ∈ log.2) (split : splitIdAndSeq sinceId = some since.key) (positive : 0 < since.id.timestamp)
    (resumed : (patternAnswer keyspace config db now pattern sinceId limit order).Perm (newerItems (matching pattern logs) since)) :
    (∀ other ∈ before, ∀ entry ∈ other.2, ¬ Newer since.key entry.key) ∧ OwnFirst log since ∧
      ((unpassed placedKey since.key (placed since.id.timestamp (matching pattern logs))).map placedItem).Perm
        (newerItems (matching pattern logs) since) := by
  have ours : ∀ other ∈ before ++ log :: after, other ∈ matching pattern logs := by
    intro other member
    rw [← arrangement] at member
    exact (matching_perm pattern logs order same).mem_iff.mp member
  rcases answer_found keyspace config db now pattern sinceId limit logs cache order before after log since same arrangement inside
    split positive with ⟨lost, empty⟩ | ⟨kept, found⟩
  · rw [empty] at resumed
    have nothing := (newer_items_nil _ _).mp resumed.nil_eq.symm
    rcases lost with ⟨other, early, entry, member, newer⟩ | unordered
    · exact absurd newer (nothing other (ours other (by simp [early])) entry member)
    · exact absurd (fun entry member newer => absurd newer (nothing log (ours log (by simp)) entry member)) unordered
  · rw [not_or, not_not] at kept
    exact ⟨fun other early entry member newer => kept.1 ⟨other, early, entry, member, newer⟩, kept.2, found.symm.trans resumed⟩

theorem resumed_exact (cache : CacheLogs keyspace config db now limit logs) (log : TopicEntries) (since : CacheEntry)
    (logIn : log ∈ matching pattern logs) (inside : since ∈ log.2) (split : splitIdAndSeq sinceId = some since.key)
    (positive : 0 < since.id.timestamp) (resumed : ∀ order, order.Perm logs →
      (patternAnswer keyspace config db now pattern sinceId limit order).Perm (newerItems (matching pattern logs) since)) :
    Undisturbed (matching pattern logs) log since ∧ OwnFirst log since ∧ ∀ other ∈ matching pattern logs, ScoreApart other.2 since := by
  obtain ⟨order, rest, same, front⟩ := front_order pattern logs log logIn
  obtain ⟨_, first, kept⟩ := resumed_not_surpassed keyspace config db now pattern sinceId limit logs cache order [] rest log since
    same front inside split positive (resumed order same)
  refine ⟨?_, first, ?_⟩
  · intro other otherIn different entry member
    obtain ⟨order, between, after, same, front⟩ := front_before pattern logs log other logIn otherIn different
    exact (resumed_not_surpassed keyspace config db now pattern sinceId limit logs cache order (other :: between) after log since
      same front inside split positive (resumed order same)).1 other List.mem_cons_self entry member
  · intro other otherIn entry member older score
    have found : (other.1, entry) ∈ unpassed placedKey since.key (placed since.id.timestamp (matching pattern logs)) :=
      List.mem_filter.mpr ⟨(mem_placed _ _ _).mpr ⟨other, otherIn, rfl, member, Int.le_of_eq score.symm⟩,
        decide_eq_true (fun passed => absurd passed.1 (Int.ne_of_lt older))⟩
    have wanted := kept.mem_iff.mp (List.mem_map_of_mem found)
    obtain ⟨_, _, newest, _, newer, same⟩ := (mem_newer_items _ _ _).mp wanted
    have ids := cache_id_text_injective _ _ (congrArg CacheItem.id same)
    have late := newer_later since newest newer
    rw [ids] at late
    exact absurd older (Int.not_lt.mpr late)

theorem independent_lenient (cache : CacheLogs keyspace config db now limit logs)
    (independent : OrderIndependent keyspace config db now pattern sinceId limit logs) (log : TopicEntries) (since : CacheEntry)
    (logIn : log ∈ matching pattern logs) (inside : since ∈ log.2) (split : splitIdAndSeq sinceId = some since.key)
    (positive : 0 < since.id.timestamp) : Undisturbed (matching pattern logs) log since ∨ ¬ OwnFirst log since := by
  by_contra neither
  simp only [not_or, not_not, Undisturbed, not_forall] at neither
  obtain ⟨⟨other, otherIn, different, entry, member, newer⟩, first⟩ := neither
  obtain ⟨left, rest, leftSame, leftFront⟩ := front_order pattern logs log logIn
  obtain ⟨right, between, after, rightSame, rightFront⟩ := front_before pattern logs log other logIn otherIn different
  have empty : patternAnswer keyspace config db now pattern sinceId limit right = [] := by
    rcases answer_found keyspace config db now pattern sinceId limit logs cache right (other :: between) after log since rightSame
      rightFront inside split positive with ⟨_, empty⟩ | ⟨kept, _⟩
    · exact empty
    · exact absurd (Or.inl ⟨other, List.mem_cons_self, entry, member, newer⟩) kept
  have full : placedItem (other.1, entry) ∈ patternAnswer keyspace config db now pattern sinceId limit left := by
    rcases answer_found keyspace config db now pattern sinceId limit logs cache left [] rest log since leftSame leftFront inside
      split positive with ⟨⟨_, early, _⟩ | unordered, _⟩ | ⟨_, found⟩
    · exact absurd early List.not_mem_nil
    · exact absurd first unordered
    · exact found.mem_iff.mpr (List.mem_map_of_mem (newer_unpassed _ _ _ _ otherIn member newer))
  have shared := (independent left right leftSame rightSame).mem_iff.mp full
  rw [empty] at shared
  exact absurd shared List.not_mem_nil

theorem undisturbed_answer (cache : CacheLogs keyspace config db now limit logs) (order : List TopicEntries) (same : order.Perm logs)
    (log : TopicEntries) (since : CacheEntry) (logIn : log ∈ matching pattern logs) (inside : since ∈ log.2)
    (split : splitIdAndSeq sinceId = some since.key) (positive : 0 < since.id.timestamp)
    (alone : Undisturbed (matching pattern logs) log since) (first : OwnFirst log since) :
    (patternAnswer keyspace config db now pattern sinceId limit order).Perm
      ((unpassed placedKey since.key (placed since.id.timestamp (matching pattern logs))).map placedItem) := by
  have reordered := matching_perm pattern logs order same
  obtain ⟨before, after, arrangement⟩ := List.append_of_mem (reordered.mem_iff.mpr logIn)
  rcases answer_found keyspace config db now pattern sinceId limit logs cache order before after log since same arrangement
    inside split positive with ⟨⟨other, early, entry, member, newer⟩ | unordered, _⟩ | ⟨_, found⟩
  · have nodup : (before ++ log :: after).Nodup := by
      rw [← arrangement]
      exact (same.nodup_iff.mpr cache.topics.of_map).filter _
    have different : other ≠ log := fun equal => (List.nodup_append.mp nodup).2.2 other early log List.mem_cons_self equal
    have otherIn : other ∈ matching pattern logs := reordered.mem_iff.mp (by rw [arrangement]; simp [early])
    have topic := other_topic keyspace config db now pattern limit logs cache log other logIn otherIn different
    exact absurd newer (alone other otherIn topic entry member)
  · exact absurd first unordered
  · exact found

theorem disordered_answer (cache : CacheLogs keyspace config db now limit logs) (order : List TopicEntries) (same : order.Perm logs)
    (log : TopicEntries) (since : CacheEntry) (logIn : log ∈ matching pattern logs) (inside : since ∈ log.2)
    (split : splitIdAndSeq sinceId = some since.key) (positive : 0 < since.id.timestamp) (disordered : ¬ OwnFirst log since) :
    patternAnswer keyspace config db now pattern sinceId limit order = [] := by
  obtain ⟨before, after, arrangement⟩ := List.append_of_mem ((matching_perm pattern logs order same).mem_iff.mpr logIn)
  rcases answer_found keyspace config db now pattern sinceId limit logs cache order before after log since same arrangement
    inside split positive with ⟨_, empty⟩ | ⟨kept, _⟩
  · exact empty
  · exact absurd (Or.inr disordered) kept

theorem absent_answer (cache : CacheLogs keyspace config db now limit logs) (order : List TopicEntries) (same : order.Perm logs)
    (pivot : Int × Int) (split : splitIdAndSeq sinceId = some pivot) (positive : 0 < pivot.1)
    (absent : ¬ ∃ log ∈ matching pattern logs, ∃ since ∈ log.2, since.key = pivot) :
    patternAnswer keyspace config db now pattern sinceId limit order = [] := by
  rw [answer_positive keyspace config db now pattern sinceId limit logs cache order same pivot split positive, if_neg]
  rintro ⟨_, entry, found, key⟩
  obtain ⟨log, member, _, among, _⟩ := (mem_placed _ _ _).mp found
  exact absent ⟨log, (matching_perm pattern logs order same).mem_iff.mp member, entry.2, among, key⟩

theorem condition_independent (cache : CacheLogs keyspace config db now limit logs) (condition : ResumeCondition pattern sinceId logs) :
    OrderIndependent keyspace config db now pattern sinceId limit logs := by
  intro left right leftSame rightSame
  by_cases useless : ∀ pivot, splitIdAndSeq sinceId = some pivot → pivot.1 ≤ 0
  · have empty := answer_nonpositive keyspace config db now pattern sinceId limit logs cache
    rw [empty left leftSame useless, empty right rightSame useless]
  · simp only [not_forall, Int.not_le] at useless
    obtain ⟨pivot, split, positive⟩ := useless
    by_cases present : ∃ log ∈ matching pattern logs, ∃ since ∈ log.2, since.key = pivot
    · obtain ⟨log, logIn, since, inside, rfl⟩ := present
      have settled : Undisturbed (matching pattern logs) log since ∨ ¬ OwnFirst log since := by
        by_cases text : since.id.text = sinceId
        · exact .inl (condition.exact log logIn since inside text positive).1
        · exact condition.lenient log logIn since inside text positive split
      by_cases first : OwnFirst log since
      · have alone := settled.resolve_right (not_not_intro first)
        have answer := fun order same => undisturbed_answer keyspace config db now pattern sinceId limit logs cache order same log
          since logIn inside split positive alone first
        exact (answer left leftSame).trans (answer right rightSame).symm
      · have empty := fun order same => disordered_answer keyspace config db now pattern sinceId limit logs cache order same log
          since logIn inside split positive first
        rw [empty left leftSame, empty right rightSame]
    · have empty := fun order same => absent_answer keyspace config db now pattern sinceId limit logs cache order same pivot split
        positive present
      rw [empty left leftSame, empty right rightSame]

theorem negative_useless (since : CacheEntry) (text : since.id.text = sinceId) (negative : since.id.timestamp < 0) :
    ∀ pivot, splitIdAndSeq sinceId = some pivot → pivot.1 ≤ 0 := by
  rw [← text, split_negative_text since.id negative]
  intro pivot split
  cases split

theorem positive_split (since : CacheEntry) (text : since.id.text = sinceId) (positive : 0 < since.id.timestamp) :
    splitIdAndSeq sinceId = some since.key := by
  rw [← text]
  exact split_positive_text since.id positive since.stampHigh since.countHigh

theorem pattern_resume_iff (cache : CacheLogs keyspace config db now limit logs) :
    (OrderIndependent keyspace config db now pattern sinceId limit logs ∧
      PatternResumed keyspace config db now pattern sinceId limit logs) ↔
    ResumeCondition pattern sinceId logs := by
  constructor
  · rintro ⟨independent, resumed⟩
    refine ⟨?_, ?_, ?_⟩
    · intro log logIn since inside text positive
      exact resumed_exact keyspace config db now pattern sinceId limit logs cache log since logIn inside
        (positive_split sinceId since text positive) positive (resumed log logIn since inside text)
    · intro log logIn since inside text negative
      have answer := resumed log logIn since inside text logs (List.Perm.refl _)
      rw [answer_nonpositive keyspace config db now pattern sinceId limit logs cache logs (List.Perm.refl _)
        (negative_useless sinceId since text negative)] at answer
      exact (newer_items_nil _ _).mp answer.nil_eq.symm
    · intro log logIn since inside _ positive split
      exact independent_lenient keyspace config db now pattern sinceId limit logs cache independent log since logIn inside split positive
  · intro condition
    refine ⟨condition_independent keyspace config db now pattern sinceId limit logs cache condition, ?_⟩
    intro log logIn since inside text order same
    rcases Int.lt_or_gt_of_ne (cache.nonzero log (List.mem_of_mem_filter logIn) since inside) with negative | positive
    · rw [answer_nonpositive keyspace config db now pattern sinceId limit logs cache order same
          (negative_useless sinceId since text negative),
        (newer_items_nil _ _).mpr (condition.negative log logIn since inside text negative)]
    · obtain ⟨alone, first, apart⟩ := condition.exact log logIn since inside text positive
      have answer := undisturbed_answer keyspace config db now pattern sinceId limit logs cache order same log since logIn inside
        (positive_split sinceId since text positive) positive alone first
      exact answer.trans (unpassed_placed _ since apart)

end

def stampedEntry (stamp : Fin 16) : CacheEntry where
  id := ⟨stamp, 0⟩
  expireAt := 100
  origin := []
  payload := [UInt8.ofNat stamp]
  stampLow := (sampleEntry stamp 100).stampLow
  stampHigh := (sampleEntry stamp 100).stampHigh
  countHigh := (sampleEntry stamp 100).countHigh
  expireHigh := (sampleEntry stamp 100).expireHigh

def siblingLogs : List TopicEntries := [(str "a/x", [stampedEntry 1]), (str "a/y", [stampedEntry 2, stampedEntry 3])]

def siblingDb : Db :=
  siblingLogs.foldr (fun log db => log.2.foldr (fun entry db => storeEntry [] log.1 db entry) db) Db.empty

theorem sibling_cache : CacheLogs [] ⟨true, 60⟩ siblingDb 50 10 siblingLogs where
  enabled := rfl
  topics := by decide
  logged := by
    intro log inside
    refine ⟨?_, ?_, ?_⟩
    · revert log
      decide
    · revert log
      decide
    · revert log
      decide
  distinct := by decide
  nonzero := by decide
  live := by decide
  room := by decide

theorem newest_topic_resumes :
    OrderIndependent [] ⟨true, 60⟩ siblingDb 50 (str "a/+") (str "2-0") 10 siblingLogs ∧
      PatternResumed [] ⟨true, 60⟩ siblingDb 50 (str "a/+") (str "2-0") 10 siblingLogs := by
  refine (pattern_resume_iff [] ⟨true, 60⟩ siblingDb 50 (str "a/+") (str "2-0") 10 siblingLogs sibling_cache).mpr ⟨?_, ?_, ?_⟩
  · simp only [Undisturbed, OwnFirst, ScoreApart]
    decide
  · decide
  · simp only [Undisturbed, OwnFirst]
    decide

theorem sibling_order_loses :
    CacheLogs [] ⟨true, 60⟩ siblingDb 50 10 siblingLogs ∧ matching (str "a/+") siblingLogs = siblingLogs ∧
      (stampedEntry 1).id.text = str "1-0" ∧
      ¬ OrderIndependent [] ⟨true, 60⟩ siblingDb 50 (str "a/+") (str "1-0") 10 siblingLogs ∧
      ¬ PatternResumed [] ⟨true, 60⟩ siblingDb 50 (str "a/+") (str "1-0") 10 siblingLogs := by
  have reversed : patternAnswer [] ⟨true, 60⟩ siblingDb 50 (str "a/+") (str "1-0") 10 siblingLogs.reverse = [] := by decide
  have matched : matching (str "a/+") siblingLogs = siblingLogs := List.filter_eq_self.mpr (by decide)
  refine ⟨sibling_cache, matched, by decide, ?_, ?_⟩
  · intro independent
    have shared := independent siblingLogs siblingLogs.reverse (List.Perm.refl _) (List.reverse_perm _)
    rw [reversed] at shared
    exact absurd shared.length_eq (by decide)
  · intro resumed
    have answer := resumed (str "a/x", [stampedEntry 1]) (by rw [matched]; simp [siblingLogs]) (stampedEntry 1) (by simp) (by decide)
      siblingLogs.reverse (List.reverse_perm _)
    rw [reversed] at answer
    exact absurd answer.length_eq (by decide)

end Eventhub.Redis
