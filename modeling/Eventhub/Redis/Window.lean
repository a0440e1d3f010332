import Eventhub.Redis.TopicLog

set_option autoImplicit false

namespace Eventhub.Redis

theorem mem_since_entries (since : Int) (entries : List CacheEntry) (entry : CacheEntry) :
    entry ∈ sinceEntries since entries ↔ entry ∈ entries ∧ Binary64.ofInt since ≤ Binary64.ofInt entry.id.timestamp := by
  rw [sinceEntries, List.mem_filter, (arranged_perm entries).mem_iff, decide_eq_true_eq]

theorem since_entries_later (since : Int) (entries : List CacheEntry) (entry : CacheEntry) (inside : entry ∈ entries)
    (later : since ≤ entry.id.timestamp) : entry ∈ sinceEntries since entries :=
  (mem_since_entries since entries entry).mpr ⟨inside, Binary64.of_int_mono _ _ later⟩

theorem since_entries_length (since : Int) (entries : List CacheEntry) : (sinceEntries since entries).length ≤ entries.length :=
  (arranged_perm entries).length_eq ▸ List.length_filter_le _ _

-- The entries that the query reads: the newest of those with a score from
-- since on, oldest first.
def window (since limit : Int) (entries : List CacheEntry) : List CacheEntry := (sinceEntries since entries).rtake limit.toNat

theorem score_keys_window (keyspace : Bytes) (db : Db) (topic : Bytes) (entries : List CacheEntry) (since limit : Int)
    (log : TopicLog keyspace db topic entries) (nonnegative : 0 ≤ limit) :
    scoreKeys keyspace db topic since limit = (window since limit entries).map CacheEntry.member := by
  have hits : ((db.zsets (cacheScorePath keyspace topic)).entries.filter (fun entry => Binary64.ofInt since ≤ entry.score)).map
      ZEntry.member = (sinceEntries since entries).map CacheEntry.member := by
    rw [topic_log_entries keyspace db topic entries log, List.filter_map, List.map_map]
    rfl
  simp only [scoreKeys, Db.zrevrangebyscore, if_neg (Int.not_lt.mpr nonnegative), List.map_reverse, hits]
  rw [← List.rtake_eq_reverse_take_reverse, List.rtake, List.length_map, ← List.map_drop]
  rfl

theorem cache_keys_live (now : Nat) (entries : List CacheEntry) :
    cacheKeys now (entries.map CacheEntry.member) = (entries.filter (fun entry => now ≤ entry.expireAt)).map CacheEntry.meta := by
  have parsed : (entries.map CacheEntry.member).filterMap CacheItemMeta.ofStr = entries.map CacheEntry.meta := by
    rw [List.filterMap_map, ← List.filterMap_eq_map]
    congr 1
    funext entry
    exact member_parses entry
  rw [cacheKeys, parsed, List.filter_map]
  rfl

theorem window_sublist (since limit : Int) (entries : List CacheEntry) : (window since limit entries).Sublist (arranged entries) :=
  (List.drop_sublist _ _).trans List.filter_sublist

theorem sublist_ids (entries chosen : List CacheEntry) (distinct : (entries.map CacheEntry.id).Nodup)
    (part : chosen.Sublist (arranged entries)) : (chosen.map CacheEntry.id).Nodup ∧ ∀ entry ∈ chosen, entry ∈ entries :=
  ⟨((((arranged_perm entries).map CacheEntry.id).nodup_iff).mpr distinct).sublist (part.map _),
    fun _ inside => (arranged_perm entries).mem_iff.mp (part.mem inside)⟩

theorem topic_cache_window (keyspace : Bytes) (db : Db) (now : Nat) (topic : Bytes) (entries : List CacheEntry) (since limit : Int)
    (log : TopicLog keyspace db topic entries) (nonnegative : 0 ≤ limit) :
    topicCache keyspace db now since limit topic =
      ((window since limit entries).filter (fun entry => now ≤ entry.expireAt)).map (CacheEntry.item topic) := by
  obtain ⟨distinct, kept⟩ := sublist_ids entries _ log.distinct
    (List.filter_sublist.trans (window_sublist since limit entries) : (List.filter (fun entry => decide (now ≤ entry.expireAt)) _).Sublist _)
  rw [topicCache, score_keys_window keyspace db topic entries since limit log nonnegative, cache_keys_live,
    cache_rows_eq keyspace db topic _ distinct (fun entry inside => log.payloads entry (kept entry inside))]

theorem window_whole (since limit : Int) (entries : List CacheEntry) (room : ((sinceEntries since entries).length : Int) ≤ limit) :
    window since limit entries = sinceEntries since entries := by
  rw [window, List.rtake, Nat.sub_eq_zero_of_le (by omega), List.drop_zero]

theorem topic_cache_eq (keyspace : Bytes) (db : Db) (now : Nat) (topic : Bytes) (entries : List CacheEntry) (since limit : Int)
    (log : TopicLog keyspace db topic entries) (live : ∀ entry ∈ entries, now ≤ entry.expireAt)
    (room : ((sinceEntries since entries).length : Int) ≤ limit) :
    topicCache keyspace db now since limit topic = (sinceEntries since entries).map (CacheEntry.item topic) := by
  have kept : (sinceEntries since entries).filter (fun entry => now ≤ entry.expireAt) = sinceEntries since entries := by
    rw [List.filter_eq_self]
    exact fun entry inside => decide_eq_true (live entry ((mem_since_entries _ _ _).mp inside).1)
  rw [topic_cache_window keyspace db now topic entries since limit log (by omega), window_whole since limit entries room, kept]

-- Fewer than limit of the entries with a score from since on are stored after
-- this one.
def Reached (since limit : Int) (entries : List CacheEntry) (entry : CacheEntry) : Prop :=
  Binary64.ofInt since ≤ Binary64.ofInt entry.id.timestamp ∧
    ((entries.filter (fun other => Binary64.ofInt since ≤ Binary64.ofInt other.id.timestamp ∧ ¬ other.StoredBefore entry)).length : Int) <
      limit

instance reachedDecidable (since limit : Int) (entries : List CacheEntry) (entry : CacheEntry) :
    Decidable (Reached since limit entries entry) := inferInstanceAs (Decidable (_ ∧ _))

theorem stored_after (before after : List CacheEntry) (entry : CacheEntry)
    (ordered : (before ++ entry :: after).Pairwise CacheEntry.StoredBefore)
    (distinct : ((before ++ entry :: after).map CacheEntry.id).Nodup) :
    (before ++ entry :: after).filter (fun other => ¬ other.StoredBefore entry) = after := by
  obtain ⟨_, tail, across⟩ := List.pairwise_append.mp ordered
  have early : before.filter (fun other => ¬ other.StoredBefore entry) = [] := by
    rw [List.filter_eq_nil_iff]
    intro other inside
    simpa using across other inside entry List.mem_cons_self
  have itself : entry.StoredBefore entry := (Std.Total.total entry entry).elim id id
  have late : after.filter (fun other => ¬ other.StoredBefore entry) = after := by
    rw [List.filter_eq_self]
    intro other inside
    refine decide_eq_true (fun backwards => ?_)
    have same := stored_before_antisymm _ _ ((List.pairwise_cons.mp tail).1 other inside) backwards
    rw [List.map_append, List.map_cons] at distinct
    have fresh := (List.nodup_cons.mp (List.nodup_append.mp distinct).2.1).1
    exact fresh (same ▸ List.mem_map_of_mem inside)
  rw [List.filter_append, early, List.nil_append, List.filter_cons_of_neg (by simpa using itself), late]

theorem mem_window_iff (since limit : Int) (entries : List CacheEntry) (distinct : (entries.map CacheEntry.id).Nodup)
    (entry : CacheEntry) : entry ∈ window since limit entries ↔ entry ∈ entries ∧ Reached since limit entries entry := by
  by_cases hit : entry ∈ sinceEntries since entries
  · have whole := (mem_since_entries since entries entry).mp hit
    have ids := (sublist_ids entries (sinceEntries since entries) distinct List.filter_sublist).1
    have ordered : (sinceEntries since entries).Pairwise CacheEntry.StoredBefore := (arranged_ordered entries).filter _
    have counted : (entries.filter (fun other => Binary64.ofInt since ≤ Binary64.ofInt other.id.timestamp ∧ ¬ other.StoredBefore entry)).length =
        ((sinceEntries since entries).filter (fun other => ¬ other.StoredBefore entry)).length := by
      rw [sinceEntries, List.filter_filter]
      refine (((arranged_perm entries).filter _).length_eq).symm.trans (congrArg List.length (List.filter_congr fun other _ => ?_))
      rw [← Bool.decide_and, decide_eq_decide]
      exact and_comm
    obtain ⟨before, after, split⟩ := List.append_of_mem hit
    rw [Reached, counted, window]
    rw [split] at ids ordered ⊢
    have fresh : entry ∉ after := by
      intro inside
      rw [List.map_append, List.map_cons] at ids
      exact (List.nodup_cons.mp (List.nodup_append.mp ids).2.1).1 (List.mem_map_of_mem inside)
    rw [ListLemmas.mem_rtake_split before after entry _ fresh, stored_after before after entry ordered ids]
    constructor
    · exact fun few => ⟨whole.1, whole.2, by omega⟩
    · exact fun reached => by have few := reached.2.2; omega
  · refine iff_of_false (fun inside => hit (List.mem_of_mem_drop inside)) ?_
    exact fun reached => hit ((mem_since_entries since entries entry).mpr ⟨reached.1, reached.2.1⟩)

def CacheEntry.stored (topic : Bytes) (entry : CacheEntry) : CacheItem := ⟨entry.id.text, topic, entry.payload, entry.origin⟩

def Wanted (now : Nat) (since : Int) (entry : CacheEntry) : Prop := since ≤ entry.id.timestamp ∧ now ≤ entry.expireAt

instance wantedDecidable (now : Nat) (since : Int) (entry : CacheEntry) : Decidable (Wanted now since entry) :=
  inferInstanceAs (Decidable (_ ∧ _))

-- The newest min(limit, m) of the m entries that are wanted, in stored order.
def newestLive (now : Nat) (since limit : Int) (entries : List CacheEntry) : List CacheEntry :=
  ((arranged entries).filter (fun entry => Wanted now since entry)).rtake limit.toNat

theorem newest_live_since (now : Nat) (since limit : Int) (entries : List CacheEntry) :
    newestLive now since limit entries = ((sinceEntries since entries).filter (fun entry => Wanted now since entry)).rtake limit.toNat := by
  rw [newestLive, sinceEntries, List.filter_filter]
  congr 1
  apply List.filter_congr
  intro entry _
  rw [← Bool.decide_and, decide_eq_decide]
  exact ⟨fun wanted => ⟨wanted, Binary64.of_int_mono _ _ wanted.1⟩, fun both => both.1⟩

theorem item_is_stored (topic : Bytes) (entry : CacheEntry) : entry.item topic = entry.stored topic ↔ colon ∉ entry.origin := by
  rw [CacheEntry.item, CacheEntry.stored, CacheItem.mk.injEq]
  simp only [true_and, List.takeWhile_eq_self_iff, decide_eq_true_eq]
  exact ⟨fun plain inside => plain colon inside rfl, fun free byte inside same => free (same ▸ inside)⟩

section

variable (now : Nat) (topic : Bytes) (since limit : Int) (entries : List CacheEntry)

-- Every live entry that the query reads is from since on.
def NoneRounded : Prop := ∀ entry ∈ entries, Reached since limit entries entry → now ≤ entry.expireAt → since ≤ entry.id.timestamp

def NoneCrowded : Prop :=
  (∀ entry ∈ entries, Wanted now since entry → Reached since limit entries entry) ∨
    ∀ entry ∈ entries, Reached since limit entries entry → now ≤ entry.expireAt

def OriginsPlain : Prop := ∀ entry ∈ entries, Reached since limit entries entry → now ≤ entry.expireAt → colon ∉ entry.origin

theorem window_wanted (distinct : (entries.map CacheEntry.id).Nodup) (exact : NoneRounded now since limit entries) :
    (window since limit entries).filter (fun entry => now ≤ entry.expireAt) =
      (window since limit entries).filter (fun entry => Wanted now since entry) := by
  apply List.filter_congr
  intro entry inside
  obtain ⟨member, reached⟩ := (mem_window_iff since limit entries distinct entry).mp inside
  rw [decide_eq_decide]
  exact ⟨fun live => ⟨exact entry member reached live, live⟩, fun wanted => wanted.2⟩

theorem window_newest_iff (distinct : (entries.map CacheEntry.id).Nodup) (exact : NoneRounded now since limit entries) :
    (window since limit entries).filter (fun entry => Wanted now since entry) = newestLive now since limit entries ↔
      NoneCrowded now since limit entries := by
  have reached := mem_window_iff since limit entries distinct
  have parts : (sinceEntries since entries).rdrop limit.toNat ++ window since limit entries = sinceEntries since entries :=
    ListLemmas.rdrop_append_rtake _ _
  have disjoint : ∀ entry ∈ (sinceEntries since entries).rdrop limit.toNat, entry ∉ window since limit entries := by
    have ids := (sublist_ids entries (sinceEntries since entries) distinct List.filter_sublist).1
    rw [← parts, List.map_append, List.nodup_append] at ids
    exact fun entry early late => ids.2.2 _ (List.mem_map_of_mem early) _ (List.mem_map_of_mem late) rfl
  rw [newest_live_since, window, ListLemmas.filter_rtake_iff, ← window, NoneCrowded]
  refine or_congr ?_ ?_
  · rw [List.filter_eq_nil_iff]
    constructor
    · intro none entry member wanted
      have hit := since_entries_later since entries entry member wanted.1
      rw [← parts] at hit
      rcases List.mem_append.mp hit with early | late
      · exact absurd (decide_eq_true wanted) (none entry early)
      · exact ((reached entry).mp late).2
    · intro all entry early wanted
      have member := ((mem_since_entries since entries entry).mp (List.mem_of_mem_take early)).1
      exact disjoint entry early ((reached entry).mpr ⟨member, all entry member (of_decide_eq_true wanted)⟩)
  · rw [List.filter_eq_self]
    constructor
    · exact fun all entry member inside => (of_decide_eq_true (all entry ((reached entry).mpr ⟨member, inside⟩))).2
    · intro live entry inside
      obtain ⟨member, near⟩ := (reached entry).mp inside
      exact decide_eq_true ⟨exact entry member near (live entry member near), live entry member near⟩

end

theorem cache_since_iff (keyspace : Bytes) (config : CacheConfig) (db : Db) (now : Nat) (allTopics : List Bytes) (topic : Bytes)
    (entries : List CacheEntry) (since limit : Int) (enabled : config.enableCache = true) (log : TopicLog keyspace db topic entries)
    (nonnegative : 0 ≤ limit) :
    getCacheSince keyspace config db now allTopics topic since limit false =
        (newestLive now since limit entries).map (CacheEntry.stored topic) ↔
      NoneRounded now since limit entries ∧ NoneCrowded now since limit entries ∧ OriginsPlain now since limit entries := by
  have answer : getCacheSince keyspace config db now allTopics topic since limit false =
      ((window since limit entries).filter (fun entry => now ≤ entry.expireAt)).map (CacheEntry.item topic) := by
    simp only [getCacheSince, enabled, Bool.not_true, Bool.false_eq_true, if_false, List.flatMap_cons, List.flatMap_nil, List.append_nil]
    exact topic_cache_window keyspace db now topic entries since limit log nonnegative
  have inWindow (entry : CacheEntry) : entry ∈ (window since limit entries).filter (fun entry => now ≤ entry.expireAt) ↔
      entry ∈ entries ∧ Reached since limit entries entry ∧ now ≤ entry.expireAt := by
    rw [List.mem_filter, mem_window_iff since limit entries log.distinct, decide_eq_true_eq, and_assoc]
  rw [answer]
  constructor
  · intro same
    have ids := congrArg (List.map CacheItem.id) same
    rw [List.map_map, List.map_map] at ids
    have entriesSame := ListLemmas.map_cancel (fun entry : CacheEntry => entry.id.text) _ (newestLive now since limit entries) ?_ ids
    · have exact : NoneRounded now since limit entries := by
        intro entry member near live
        have inside := (inWindow entry).mpr ⟨member, near, live⟩
        rw [entriesSame] at inside
        exact (of_decide_eq_true (List.mem_filter.mp (List.mem_of_mem_drop inside)).2).1
      refine ⟨exact, ?_, ?_⟩
      · rw [window_wanted now since limit entries log.distinct exact] at entriesSame
        exact (window_newest_iff now since limit entries log.distinct exact).mp entriesSame
      · intro entry member near live
        have inside := (inWindow entry).mpr ⟨member, near, live⟩
        rw [← entriesSame] at same
        exact (item_is_stored topic entry).mp (List.map_inj_left.mp same entry inside)
    · intro left leftIn right rightIn text
      have member := (arranged_perm entries).mem_iff.mp (List.mem_of_mem_filter (List.mem_of_mem_drop rightIn))
      exact List.inj_on_of_nodup_map log.distinct ((inWindow left).mp leftIn).1 member (cache_id_text_injective _ _ text)
  · rintro ⟨exact, uncrowded, plain⟩
    have newest := (window_newest_iff now since limit entries log.distinct exact).mpr uncrowded
    rw [← window_wanted now since limit entries log.distinct exact] at newest
    rw [← newest]
    apply List.map_congr_left
    intro entry inside
    obtain ⟨member, near, live⟩ := (inWindow entry).mp inside
    exact (item_is_stored topic entry).mpr (plain entry member near live)

instance sampleStamps : NeZero 16 := ⟨by decide⟩
instance sampleExpiries : NeZero 128 := ⟨by decide⟩

def sampleEntry (timestamp : Fin 16) (expireAt : Fin 128) : CacheEntry where
  id := ⟨timestamp, 0⟩
  expireAt := expireAt
  origin := str "o"
  payload := [UInt8.ofNat timestamp]
  stampLow := by dsimp only; omega
  stampHigh := by dsimp only; omega
  countHigh := by norm_num
  expireHigh := by omega

def sampleDb (entries : List CacheEntry) : Db := entries.foldr (fun entry db => storeEntry [] (str "t") db entry) Db.empty

theorem newest_of_two_read :
    getCacheSince [] ⟨true, 60⟩ (sampleDb [sampleEntry 1 100, sampleEntry 2 100]) 50 [] (str "t") 1 1 false =
      (newestLive 50 1 1 [sampleEntry 1 100, sampleEntry 2 100]).map (CacheEntry.stored (str "t")) := by
  have log : TopicLog [] (sampleDb [sampleEntry 1 100, sampleEntry 2 100]) (str "t") [sampleEntry 1 100, sampleEntry 2 100] :=
    stored_log [] (str "t") _ (by decide)
  refine (cache_since_iff [] ⟨true, 60⟩ _ 50 [] (str "t") _ 1 1 rfl log (by decide)).mpr ⟨?_, ?_, ?_⟩
  · unfold NoneRounded
    decide
  · unfold NoneCrowded
    decide
  · unfold OriginsPlain
    decide

theorem expired_entry_crowds :
    TopicLog [] (sampleDb [sampleEntry 1 100, sampleEntry 2 10]) (str "t") [sampleEntry 1 100, sampleEntry 2 10] ∧
      getCacheSince [] ⟨true, 60⟩ (sampleDb [sampleEntry 1 100, sampleEntry 2 10]) 50 [] (str "t") 1 1 false = [] ∧
      newestLive 50 1 1 [sampleEntry 1 100, sampleEntry 2 10] = [sampleEntry 1 100] := by
  refine ⟨stored_log [] (str "t") _ (by decide), by decide, rfl⟩

end Eventhub.Redis
