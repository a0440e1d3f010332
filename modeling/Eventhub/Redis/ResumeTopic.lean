import Eventhub.Redis.Resume

set_option autoImplicit false

namespace Eventhub.Redis

def CacheId.key (id : CacheId) : Int × Int := (id.timestamp, (id.sequence : Int))

def CacheEntry.key (entry : CacheEntry) : Int × Int := entry.id.key

theorem key_is_id (left right : CacheId) (same : left.key = right.key) : left = right := by
  cases left
  cases right
  simpa [CacheId.key] using same

theorem newer_total (left right : Int × Int) : Newer left right ∨ left = right ∨ Newer right left := by
  simp only [Newer, Prod.ext_iff]
  omega

theorem newer_irrefl (key : Int × Int) : ¬ Newer key key := by
  simp [Newer]

theorem newer_asymm (left right : Int × Int) (first : Newer left right) (second : Newer right left) : False := by
  simp only [Newer] at first second
  omega

theorem newer_trans (first second third : Int × Int) (left : Newer first second) (right : Newer second third) : Newer first third := by
  simp only [Newer] at left right ⊢
  omega

-- Exactly the entries after since, each once, in increasing order.
def Resumed (topic : Bytes) (entries : List CacheEntry) (since : CacheEntry) (result : List CacheItem) : Prop :=
  ∃ expected : List CacheEntry, expected.Perm (entries.filter (fun entry => Newer since.key entry.key)) ∧
    expected.Pairwise (fun left right => Newer left.key right.key) ∧ result = expected.map (CacheEntry.item topic)

-- From since on, the sorted set keeps the entries in the order of their ids.
def StoredInIdOrder (entries : List CacheEntry) (since : CacheEntry) : Prop :=
  ∀ left ∈ entries, ∀ right ∈ entries, ¬ Newer left.key since.key → Newer left.key right.key → left.StoredBefore right

-- No older timestamp is rounded to the score of since.
def ScoreApart (entries : List CacheEntry) (since : CacheEntry) : Prop :=
  ∀ entry ∈ entries, entry.id.timestamp < since.id.timestamp →
    Binary64.ofInt entry.id.timestamp ≠ Binary64.ofInt since.id.timestamp

section

variable (keyspace : Bytes) (config : CacheConfig) (db : Db) (now : Nat) (allTopics : List Bytes) (topic : Bytes)
  (entries : List CacheEntry) (since : CacheEntry)

theorem window_positive (limit : Int) (positive : 0 < since.id.timestamp) (entry : CacheEntry)
    (member : entry ∈ window since.id.timestamp limit entries) : 0 < entry.id.timestamp := by
  have score := ((mem_since_entries _ _ _).mp (List.mem_of_mem_drop member)).2
  by_contra early
  have low := Binary64.of_int_mono entry.id.timestamp 0 (by omega)
  have high := Binary64.of_int_mono 1 since.id.timestamp (by omega)
  have between := high.trans (score.trans low)
  exact absurd between (by decide)

theorem since_topic_window (limit : Int) (enabled : config.enableCache = true) (log : TopicLog keyspace db topic entries)
    (positive : 0 < since.id.timestamp) (live : ∀ entry ∈ entries, now ≤ entry.expireAt) (nonnegative : 0 ≤ limit) :
    getCacheSinceId keyspace config db now allTopics topic since.id.text limit false =
      if surpassed CacheEntry.key since.key (window since.id.timestamp limit entries) = false ∧
          ∃ entry ∈ window since.id.timestamp limit entries, entry.key = since.key then
        (unpassed CacheEntry.key since.key (window since.id.timestamp limit entries)).map (CacheEntry.item topic)
      else [] := by
  have splits : ∀ entry ∈ window since.id.timestamp limit entries, splitIdAndSeq (entry.item topic).id = some entry.key := by
    intro entry member
    exact split_positive_text entry.id (window_positive entries since limit positive entry member) entry.stampHigh entry.countHigh
  have kept : (window since.id.timestamp limit entries).filter (fun entry => now ≤ entry.expireAt) =
      window since.id.timestamp limit entries := by
    rw [List.filter_eq_self]
    intro entry member
    exact decide_eq_true (live entry ((mem_since_entries _ _ _).mp (List.mem_of_mem_drop member)).1)
  have result := resume_result_eq (CacheEntry.item topic) CacheEntry.key since.key _ splits
  have empty : resumeResult since.id.timestamp since.id.sequence [] = [] := rfl
  rw [← result, getCacheSinceId, split_positive_text since.id positive since.stampHigh since.countHigh]
  simp only [enabled, Bool.not_true, Bool.false_eq_true, if_false, if_neg (Int.ne_of_gt positive), getCacheSince,
    List.flatMap_cons, List.flatMap_nil, List.append_nil,
    topic_cache_window keyspace db now topic entries _ limit log nonnegative, kept]
  split
  · rename_i nothing
    rw [nothing]
    exact empty.symm
  · rfl

theorem since_topic_eq (limit : Int) (enabled : config.enableCache = true) (log : TopicLog keyspace db topic entries)
    (positive : ∀ entry ∈ entries, 0 < entry.id.timestamp) (live : ∀ entry ∈ entries, now ≤ entry.expireAt)
    (inside : since ∈ entries) (room : ((sinceEntries since.id.timestamp entries).length : Int) ≤ limit) :
    getCacheSinceId keyspace config db now allTopics topic since.id.text limit false =
      if surpassed CacheEntry.key since.key (sinceEntries since.id.timestamp entries) = false then
        (unpassed CacheEntry.key since.key (sinceEntries since.id.timestamp entries)).map (CacheEntry.item topic)
      else [] := by
  have found : ∃ entry ∈ sinceEntries since.id.timestamp entries, entry.key = since.key :=
    ⟨since, since_entries_later _ _ _ inside (Int.le_refl _), rfl⟩
  rw [since_topic_window keyspace config db now allTopics topic entries since limit enabled log (positive since inside) live (by omega),
    window_whole _ _ _ room]
  simp only [found, and_true]

theorem apart_entries_later (apart : ScoreApart entries since) (entry : CacheEntry)
    (member : entry ∈ sinceEntries since.id.timestamp entries) : since.id.timestamp ≤ entry.id.timestamp := by
  obtain ⟨inside, score⟩ := (mem_since_entries _ _ _).mp member
  by_contra older
  have lower := Binary64.of_int_mono entry.id.timestamp since.id.timestamp (by omega)
  exact apart entry inside (by omega) (Int.le_antisymm lower score)

theorem apart_room (apart : ScoreApart entries since) :
    (sinceEntries since.id.timestamp entries).length =
      (entries.filter (fun entry => since.id.timestamp ≤ entry.id.timestamp)).length := by
  have same : sinceEntries since.id.timestamp entries =
      (arranged entries).filter (fun entry => since.id.timestamp ≤ entry.id.timestamp) := by
    apply List.filter_congr
    intro entry inside
    have member := (arranged_perm entries).mem_iff.mp inside
    rw [decide_eq_decide]
    constructor
    · intro score
      exact apart_entries_later entries since apart entry ((mem_since_entries _ _ _).mpr ⟨member, score⟩)
    · exact Binary64.of_int_mono _ _
  rw [same]
  exact ((arranged_perm entries).filter _).length_eq

theorem apart_unpassed (apart : ScoreApart entries since) :
    (unpassed CacheEntry.key since.key (sinceEntries since.id.timestamp entries)).Perm
      (entries.filter (fun entry => Newer since.key entry.key)) := by
  have same : unpassed CacheEntry.key since.key (sinceEntries since.id.timestamp entries) =
      (arranged entries).filter (fun entry => Newer since.key entry.key) := by
    rw [unpassed, sinceEntries, List.filter_filter]
    apply List.filter_congr
    intro entry inside
    have member := (arranged_perm entries).mem_iff.mp inside
    rw [← Bool.decide_and, decide_eq_decide]
    constructor
    · rintro ⟨unpassed, score⟩
      have later := apart_entries_later entries since apart entry ((mem_since_entries _ _ _).mpr ⟨member, score⟩)
      simp only [Passed, Newer, CacheEntry.key, CacheId.key] at unpassed ⊢
      omega
    · intro newer
      have later : since.id.timestamp ≤ entry.id.timestamp := by
        simp only [Newer, CacheEntry.key, CacheId.key] at newer
        omega
      refine ⟨?_, Binary64.of_int_mono _ _ later⟩
      simp only [Passed, Newer, CacheEntry.key, CacheId.key] at newer ⊢
      omega
  rw [same]
  exact (arranged_perm entries).filter _

theorem surpassed_topic_iff (distinct : (entries.map CacheEntry.id).Nodup) (inside : since ∈ entries) :
    surpassed CacheEntry.key since.key (sinceEntries since.id.timestamp entries) = true ↔
      ∃ entry ∈ entries, Newer since.key entry.key ∧ ¬ since.StoredBefore entry := by
  have sorted : (sinceEntries since.id.timestamp entries).Pairwise CacheEntry.StoredBefore := (arranged_ordered entries).filter _
  rw [surpassed_iff]
  constructor
  · rintro ⟨before, entry, after, split, newer, clean⟩
    rw [split] at sorted
    have member : entry ∈ entries := ((mem_since_entries _ _ _).mp (by rw [split]; simp)).1
    have here : since ∈ before ++ entry :: after := by
      rw [← split]
      exact since_entries_later _ _ _ inside (Int.le_refl _)
    refine ⟨entry, member, newer, fun forwards => ?_⟩
    rcases List.mem_append.mp here with early | late
    · exact clean since early rfl
    · rcases List.mem_cons.mp late with same | later
      · rw [same] at newer
        exact newer_irrefl _ newer
      · have backwards := (List.pairwise_cons.mp (List.pairwise_append.mp sorted).2.1).1 since later
        rw [CacheEntry.key, CacheEntry.key, stored_before_antisymm _ _ forwards backwards] at newer
        exact newer_irrefl _ newer
  · rintro ⟨entry, member, newer, misplaced⟩
    have later : since.id.timestamp ≤ entry.id.timestamp := by
      simp only [Newer, CacheEntry.key, CacheId.key] at newer
      omega
    obtain ⟨before, after, split⟩ := List.append_of_mem (since_entries_later _ _ _ member later)
    refine ⟨before, entry, after, split, newer, fun other early equal => ?_⟩
    have otherIn : other ∈ entries := ((mem_since_entries _ _ _).mp (by rw [split]; simp [early])).1
    have same : other = since := List.inj_on_of_nodup_map distinct otherIn inside (key_is_id _ _ equal)
    rw [split] at sorted
    rw [same] at early
    exact misplaced ((List.pairwise_append.mp sorted).2.2 since early entry List.mem_cons_self)

theorem ordered_unpassed (log : TopicLog keyspace db topic entries) (ordered : StoredInIdOrder entries since)
    (apart : ScoreApart entries since) :
    (unpassed CacheEntry.key since.key (sinceEntries since.id.timestamp entries)).Pairwise
      (fun left right => Newer left.key right.key) := by
  have sorted : (unpassed CacheEntry.key since.key (sinceEntries since.id.timestamp entries)).Pairwise CacheEntry.StoredBefore :=
    ((arranged_ordered entries).filter _).filter _
  have distinct : (unpassed CacheEntry.key since.key (sinceEntries since.id.timestamp entries)).Pairwise
      (fun left right => left.id ≠ right.id) := by
    have nodup := ((apart_unpassed entries since apart).map CacheEntry.id).nodup_iff.mpr
      (log.distinct.sublist (List.filter_sublist.map _))
    exact List.pairwise_map.mp nodup
  have chosen : ∀ entry ∈ unpassed CacheEntry.key since.key (sinceEntries since.id.timestamp entries),
      entry ∈ entries ∧ Newer since.key entry.key := by
    intro entry inside
    simpa using (apart_unpassed entries since apart).mem_iff.mp inside
  refine (sorted.and distinct).imp_of_mem (fun {left right} first second both => ?_)
  obtain ⟨member, newer⟩ := chosen right second
  rcases newer_total left.key right.key with forwards | same | backwards
  · exact forwards
  · exact absurd (key_is_id _ _ same) both.2
  · have stored := ordered right member left (chosen left first).1 (fun older => newer_asymm _ _ older newer) backwards
    exact absurd (stored_before_antisymm _ _ both.1 stored) both.2

theorem resumed_unpassed (result : List CacheItem) (resumed : Resumed topic entries since result)
    (answer : result = if surpassed CacheEntry.key since.key (sinceEntries since.id.timestamp entries) = false then
      (unpassed CacheEntry.key since.key (sinceEntries since.id.timestamp entries)).map (CacheEntry.item topic) else []) :
    surpassed CacheEntry.key since.key (sinceEntries since.id.timestamp entries) = false ∧
      (∀ entry ∈ unpassed CacheEntry.key since.key (sinceEntries since.id.timestamp entries), Newer since.key entry.key) ∧
      (unpassed CacheEntry.key since.key (sinceEntries since.id.timestamp entries)).Pairwise
        (fun left right => Newer left.key right.key) := by
  obtain ⟨expected, same, increasing, listed⟩ := resumed
  have found : surpassed CacheEntry.key since.key (sinceEntries since.id.timestamp entries) = false := by
    rw [Bool.eq_false_iff]
    intro lost
    obtain ⟨before, entry, after, split, newer, _⟩ := (surpassed_iff _ _ _).mp lost
    have member : entry ∈ entries := ((mem_since_entries _ _ _).mp (by rw [split]; simp)).1
    have wanted : entry ∈ expected := same.mem_iff.mpr (by simpa using ⟨member, newer⟩)
    rw [lost, if_neg (by decide), listed] at answer
    exact absurd (List.map_eq_nil_iff.mp answer) (List.ne_nil_of_mem wanted)
  rw [if_pos found, listed] at answer
  have keys : expected.map CacheEntry.key =
      (unpassed CacheEntry.key since.key (sinceEntries since.id.timestamp entries)).map CacheEntry.key := by
    have ids : expected.map CacheEntry.id =
        (unpassed CacheEntry.key since.key (sinceEntries since.id.timestamp entries)).map CacheEntry.id := by
      apply List.map_injective_iff.mpr cache_id_text_injective
      rw [List.map_map, List.map_map]
      have texts := congrArg (List.map CacheItem.id) answer
      rw [List.map_map, List.map_map] at texts
      exact texts
    have byKey := congrArg (List.map CacheId.key) ids
    rw [List.map_map, List.map_map] at byKey
    exact byKey
  refine ⟨found, fun entry inside => ?_, ?_⟩
  · obtain ⟨other, wanted, sameKey⟩ := List.mem_map.mp (by rw [keys]; exact List.mem_map_of_mem inside)
    rw [← sameKey]
    simpa using (List.mem_filter.mp (same.mem_iff.mp wanted)).2
  · have byKey : (expected.map CacheEntry.key).Pairwise Newer := List.pairwise_map.mpr increasing
    rw [keys] at byKey
    exact List.pairwise_map.mp byKey

theorem kept_apart (newer : ∀ entry ∈ unpassed CacheEntry.key since.key (sinceEntries since.id.timestamp entries),
    Newer since.key entry.key) : ScoreApart entries since := by
  intro entry inside older score
  have member : entry ∈ sinceEntries since.id.timestamp entries := (mem_since_entries _ _ _).mpr ⟨inside, by omega⟩
  have kept := newer entry (List.mem_filter.mpr ⟨member, decide_eq_true (fun passed => absurd passed.1 (Int.ne_of_lt older))⟩)
  simp only [Newer, CacheEntry.key, CacheId.key] at kept
  omega

theorem kept_ordered (log : TopicLog keyspace db topic entries) (inside : since ∈ entries) (apart : ScoreApart entries since)
    (found : surpassed CacheEntry.key since.key (sinceEntries since.id.timestamp entries) = false)
    (increasing : (unpassed CacheEntry.key since.key (sinceEntries since.id.timestamp entries)).Pairwise
      (fun left right => Newer left.key right.key)) : StoredInIdOrder entries since := by
  intro left leftIn right rightIn notOlder newer
  by_contra misplaced
  have backwards : right.StoredBefore left := (Std.Total.total left right).resolve_left misplaced
  rcases newer_total since.key left.key with after | same | before
  · have rightAfter := newer_trans _ _ _ after newer
    have kept := apart_unpassed entries since apart
    have sorted : (unpassed CacheEntry.key since.key (sinceEntries since.id.timestamp entries)).Pairwise CacheEntry.StoredBefore :=
      ((arranged_ordered entries).filter _).filter _
    have different : left ≠ right := fun equal => newer_irrefl right.key (equal ▸ newer)
    rcases ListLemmas.pairwise_either _ _ (sorted.and increasing) left right (kept.mem_iff.mpr (by simpa using ⟨leftIn, after⟩))
      (kept.mem_iff.mpr (by simpa using ⟨rightIn, rightAfter⟩)) different with forwards | reversed
    · exact misplaced forwards.1
    · exact newer_asymm _ _ newer reversed.2
  · have pivot : since = left := List.inj_on_of_nodup_map log.distinct inside leftIn (key_is_id _ _ same)
    subst pivot
    have lost := (surpassed_topic_iff entries since log.distinct inside).mpr ⟨right, rightIn, newer, misplaced⟩
    rw [found] at lost
    cases lost
  · exact notOlder before

theorem resume_topic_iff (enabled : config.enableCache = true) (log : TopicLog keyspace db topic entries)
    (positive : ∀ entry ∈ entries, 0 < entry.id.timestamp) (live : ∀ entry ∈ entries, now ≤ entry.expireAt)
    (inside : since ∈ entries) :
    (∀ limit : Int, ((entries.filter (fun entry => since.id.timestamp ≤ entry.id.timestamp)).length : Int) ≤ limit →
      Resumed topic entries since (getCacheSinceId keyspace config db now allTopics topic since.id.text limit false)) ↔
    StoredInIdOrder entries since ∧ ScoreApart entries since := by
  constructor
  · intro resumes
    have room : ((sinceEntries since.id.timestamp entries).length : Int) ≤ entries.length := by
      exact_mod_cast since_entries_length since.id.timestamp entries
    obtain ⟨found, newer, increasing⟩ := resumed_unpassed topic entries since _
      (resumes entries.length (by exact_mod_cast List.length_filter_le _ _))
      (since_topic_eq keyspace config db now allTopics topic entries since entries.length enabled log positive live inside room)
    have apart := kept_apart entries since newer
    exact ⟨kept_ordered keyspace db topic entries since log inside apart found increasing, apart⟩
  · rintro ⟨ordered, apart⟩ limit room
    have found : surpassed CacheEntry.key since.key (sinceEntries since.id.timestamp entries) = false := by
      rw [Bool.eq_false_iff, ne_eq, surpassed_topic_iff entries since log.distinct inside]
      rintro ⟨entry, member, newer, misplaced⟩
      exact misplaced (ordered since inside entry member (newer_irrefl _) newer)
    rw [← apart_room entries since apart] at room
    rw [since_topic_eq keyspace config db now allTopics topic entries since limit enabled log positive live inside room,
      if_pos found]
    exact ⟨_, apart_unpassed entries since apart, ordered_unpassed keyspace db topic entries since log ordered apart, rfl⟩

end

def burstEntry (sequence : Fin 16) : CacheEntry where
  id := ⟨1, sequence⟩
  expireAt := 100
  origin := []
  payload := [UInt8.ofNat sequence]
  stampLow := by norm_num
  stampHigh := by norm_num
  countHigh := Nat.lt_trans sequence.isLt (by norm_num)
  expireHigh := by norm_num

def burst (count : Fin 16) : List CacheEntry := (List.finRange count.val).map (fun place => burstEntry (Fin.ofNat 16 place))

def burstDb (count : Fin 16) : Db := (burst count).foldr (fun entry db => storeEntry [] (str "t") db entry) Db.empty

theorem burst_log (count : Fin 16) : TopicLog [] (burstDb count) (str "t") (burst count) := by
  apply stored_log
  revert count
  decide

theorem short_burst_resumes :
    Resumed (str "t") (burst 10) (burstEntry 1) (getCacheSinceId [] ⟨true, 60⟩ (burstDb 10) 50 [] (str "t") (str "1-1") 10 false) := by
  have resumes := resume_topic_iff [] ⟨true, 60⟩ (burstDb 10) 50 [] (str "t") (burst 10) (burstEntry 1) rfl (burst_log 10)
    (by decide) (by decide) (by simp [burst]; exact ⟨1, rfl⟩)
  refine resumes.mpr ⟨?_, ?_⟩ 10 (by decide)
  · unfold StoredInIdOrder
    decide
  · unfold ScoreApart
    decide

theorem long_burst_lost :
    TopicLog [] (burstDb 11) (str "t") (burst 11) ∧
      (∀ entry ∈ burst 11, 0 < entry.id.timestamp ∧ 50 ≤ entry.expireAt) ∧ (burstEntry 1).id ∈ (burst 11).map CacheEntry.id ∧
    ¬ Resumed (str "t") (burst 11) (burstEntry 1)
      (getCacheSinceId [] ⟨true, 60⟩ (burstDb 11) 50 [] (str "t") (str "1-1") 100 false) := by
  have answer : getCacheSinceId [] ⟨true, 60⟩ (burstDb 11) 50 [] (str "t") (str "1-1") 100 false = [] := by decide
  refine ⟨burst_log 11, by decide, by decide, ?_⟩
  rintro ⟨expected, same, _, listed⟩
  rw [answer] at listed
  have none : expected = [] := List.map_eq_nil_iff.mp listed.symm
  have size := same.length_eq
  rw [none] at size
  exact absurd size (by decide)

end Eventhub.Redis
