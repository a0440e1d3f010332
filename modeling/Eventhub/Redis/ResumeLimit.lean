import Eventhub.Redis.ResumeTopic

set_option autoImplicit false

namespace Eventhub.Redis

section

variable {α : Type} (key : α → Int × Int) (pivot : Int × Int)

theorem surpassed_before (before after : List α) (entry : α) (same : key entry = pivot) (clean : ∀ other ∈ before, key other ≠ pivot) :
    surpassed key pivot (before ++ entry :: after) = before.any (fun other => Newer pivot (key other)) := by
  induction before with
  | nil => rw [List.nil_append, surpassed, if_pos same, List.any_nil]
  | cons other before ih =>
      rw [List.forall_mem_cons] at clean
      rw [List.cons_append, surpassed, if_neg clean.1, ih clean.2, List.any_cons]
      by_cases newer : Newer pivot (key other)
      · rw [if_pos newer, decide_eq_true newer, Bool.true_or]
      · rw [if_neg newer, decide_eq_false newer, Bool.false_or]

end

def later (entries : List CacheEntry) (since : CacheEntry) : List CacheEntry :=
  entries.filter (fun entry => since.id.timestamp < entry.id.timestamp)

-- The newest min(n, limit) of the n entries after since, oldest first.
def NewestResumed (topic : Bytes) (entries : List CacheEntry) (since : CacheEntry) (limit : Int) (result : List CacheItem) : Prop :=
  ∃ expected : List CacheEntry, expected.Perm (later entries since) ∧
    expected.Pairwise (fun left right => left.id.timestamp < right.id.timestamp) ∧
    result = (expected.rtake limit.toNat).map (CacheEntry.item topic)

-- An older timestamp with the score of since.
def Rounded (since entry : CacheEntry) : Prop :=
  entry.id.timestamp < since.id.timestamp ∧ Binary64.ofInt entry.id.timestamp = Binary64.ofInt since.id.timestamp

instance roundedDecidable (since entry : CacheEntry) : Decidable (Rounded since entry) := inferInstanceAs (Decidable (_ ∧ _))

structure LimitSuffices (entries : List CacheEntry) (since : CacheEntry) (limit : Int) : Prop where
  fits : ((later entries since).length : Int) < limit
  ordered : ∀ left ∈ entries, ∀ right ∈ entries, since.id.timestamp ≤ left.id.timestamp → left.id.timestamp < right.id.timestamp →
    left.StoredBefore right
  behind : ∀ entry ∈ entries, Rounded since entry → entry.StoredBefore since
  full : ∀ entry ∈ entries, Rounded since entry → limit = (later entries since).length + 1

-- With nothing to return, the entry of sinceId may also be out of reach.
def OutOfReach (entries : List CacheEntry) (since : CacheEntry) (limit : Int) : Prop :=
  limit ≤ (entries.filter (fun entry => Rounded since entry ∧ ¬ entry.StoredBefore since)).length

def Resumable (entries : List CacheEntry) (since : CacheEntry) (limit : Int) : Prop :=
  if since.id.timestamp ≤ 0 then later entries since = []
  else LimitSuffices entries since limit ∨ later entries since = [] ∧ OutOfReach entries since limit

section

variable (entries : List CacheEntry) (since : CacheEntry)

structure Around (before after : List CacheEntry) : Prop where
  split : sinceEntries since.id.timestamp entries = before ++ since :: after
  early : ∀ entry ∈ before, entry ∈ entries ∧ entry.StoredBefore since ∧ entry.id.timestamp ≠ since.id.timestamp
  late : ∀ entry ∈ after, entry ∈ entries ∧ since.StoredBefore entry ∧ entry.id.timestamp ≠ since.id.timestamp
  either : ∀ entry ∈ entries, since.id.timestamp < entry.id.timestamp ∨ Rounded since entry → entry ∈ before ∨ entry ∈ after
  scores : ∀ entry ∈ before ++ after, since.id.timestamp < entry.id.timestamp ∨ Rounded since entry
  sorted : after.Pairwise CacheEntry.StoredBefore
  single : (after.map (fun entry => entry.id.timestamp)).Nodup

theorem around (single : (entries.map (fun entry => entry.id.timestamp)).Nodup) (inside : since ∈ entries) :
    ∃ before after, Around entries since before after := by
  have ordered : (sinceEntries since.id.timestamp entries).Pairwise CacheEntry.StoredBefore := (arranged_ordered entries).filter _
  have stamps : ((sinceEntries since.id.timestamp entries).map (fun entry => entry.id.timestamp)).Nodup :=
    ((((arranged_perm entries).map _).nodup_iff).mpr single).sublist (List.filter_sublist.map _)
  obtain ⟨before, after, split⟩ := List.append_of_mem (since_entries_later _ _ _ inside (Int.le_refl _))
  have member : ∀ entry, entry ∈ before ++ since :: after →
      entry ∈ entries ∧ Binary64.ofInt since.id.timestamp ≤ Binary64.ofInt entry.id.timestamp := by
    intro entry among
    rw [← split] at among
    exact (mem_since_entries _ _ _).mp among
  rw [split] at ordered stamps
  obtain ⟨_, tail, across⟩ := List.pairwise_append.mp ordered
  rw [List.map_append, List.map_cons, List.nodup_append, List.nodup_cons] at stamps
  obtain ⟨_, ⟨fresh, lateStamps⟩, apart⟩ := stamps
  have early : ∀ entry ∈ before, entry.id.timestamp ≠ since.id.timestamp := fun entry among =>
    apart _ (List.mem_map_of_mem among) _ List.mem_cons_self
  have late : ∀ entry ∈ after, entry.id.timestamp ≠ since.id.timestamp := fun entry among same =>
    fresh (same ▸ List.mem_map_of_mem among)
  refine ⟨before, after, split, fun entry among => ?_, fun entry among => ?_, fun entry among kind => ?_, fun entry among => ?_,
    (List.pairwise_cons.mp tail).2, lateStamps⟩
  · exact ⟨(member entry (by simp [among])).1, across entry among since List.mem_cons_self, early entry among⟩
  · exact ⟨(member entry (by simp [among])).1, (List.pairwise_cons.mp tail).1 entry among, late entry among⟩
  · have hit : entry ∈ sinceEntries since.id.timestamp entries := by
      refine (mem_since_entries _ _ _).mpr ⟨among, ?_⟩
      rcases kind with newer | ⟨_, same⟩
      · exact Binary64.of_int_mono _ _ (Int.le_of_lt newer)
      · exact Int.le_of_eq same.symm
    rw [split, List.mem_append, List.mem_cons] at hit
    rcases hit with first | rfl | last
    · exact .inl first
    · rcases kind with newer | older
      · exact absurd newer (Int.lt_irrefl _)
      · exact absurd older.1 (Int.lt_irrefl _)
    · exact .inr last
  · have score : Binary64.ofInt since.id.timestamp ≤ Binary64.ofInt entry.id.timestamp := by
      rcases List.mem_append.mp among with first | last
      · exact (member entry (by simp [first])).2
      · exact (member entry (by simp [last])).2
    have different : entry.id.timestamp ≠ since.id.timestamp := by
      rcases List.mem_append.mp among with first | last
      · exact early entry first
      · exact late entry last
    rcases Int.lt_or_gt_of_ne different with older | newer
    · exact .inr ⟨older, Int.le_antisymm (Binary64.of_int_mono _ _ (Int.le_of_lt older)) score⟩
    · exact .inl newer

theorem unpassed_around (before after : List CacheEntry) (early : ∀ entry ∈ before, entry.id.timestamp ≠ since.id.timestamp)
    (late : ∀ entry ∈ after, entry.id.timestamp ≠ since.id.timestamp) :
    unpassed CacheEntry.key since.key (before ++ since :: after) = before ++ after := by
  have kept (part : List CacheEntry) (apart : ∀ entry ∈ part, entry.id.timestamp ≠ since.id.timestamp) :
      part.filter (fun entry => ¬ Passed since.key entry.key) = part := by
    rw [List.filter_eq_self]
    exact fun entry among => decide_eq_true (fun passed => apart entry among passed.1)
  have itself : Passed since.key since.key := ⟨rfl, Int.le_refl _⟩
  rw [unpassed, List.filter_append, kept before early, List.filter_cons_of_neg (by simpa using itself), kept after late]

def reread (before after : List CacheEntry) (limit : Int) : List CacheEntry := before.rtake (limit.toNat - (after.length + 1))

theorem resume_around (keyspace : Bytes) (config : CacheConfig) (db : Db) (now : Nat) (allTopics : List Bytes) (topic : Bytes)
    (limit : Int) (enabled : config.enableCache = true) (log : TopicLog keyspace db topic entries)
    (positive : 0 < since.id.timestamp) (live : ∀ entry ∈ entries, now ≤ entry.expireAt) (nonnegative : 0 ≤ limit)
    (before after : List CacheEntry) (near : Around entries since before after) :
    getCacheSinceId keyspace config db now allTopics topic since.id.text limit false =
      if (after.length : Int) < limit ∧ ∀ entry ∈ reread before after limit, ¬ since.id.timestamp < entry.id.timestamp then
        (reread before after limit ++ after).map (CacheEntry.item topic)
      else [] := by
  have late : ∀ entry ∈ after, entry.id.timestamp ≠ since.id.timestamp := fun entry among => (near.late entry among).2.2
  rw [since_topic_window keyspace config db now allTopics topic entries since limit enabled log positive live nonnegative, window, near.split]
  by_cases inside : (after.length : Int) < limit
  · have early : ∀ entry ∈ reread before after limit, entry.id.timestamp ≠ since.id.timestamp := fun entry among =>
      (near.early entry (List.mem_of_mem_drop among)).2.2
    have clean : ∀ entry ∈ reread before after limit, entry.key ≠ since.key := fun entry among same =>
      early entry among (congrArg Prod.fst same)
    have found : ∃ entry ∈ reread before after limit ++ since :: after, entry.key = since.key := ⟨since, by simp, rfl⟩
    have passes : surpassed CacheEntry.key since.key (reread before after limit ++ since :: after) = false ↔
        ∀ entry ∈ reread before after limit, ¬ since.id.timestamp < entry.id.timestamp := by
      rw [surpassed_before _ _ _ _ _ rfl clean, List.any_eq_false]
      refine forall_congr' fun entry => forall_congr' fun among => not_congr (decide_eq_true_iff.trans ?_)
      have different := early entry among
      simp only [Newer, CacheEntry.key, CacheId.key]
      omega
    rw [ListLemmas.rtake_append before (since :: after) limit.toNat (by rw [List.length_cons]; omega), List.length_cons]
    rw [← reread, unpassed_around since _ _ early late]
    simp only [found, and_true, passes, inside, true_and]
  · have skipped : (before ++ since :: after).rtake limit.toNat = after.rtake limit.toNat := by
      rw [List.append_cons before since after, ListLemmas.rtake_append_short _ _ _ (by omega)]
    rw [skipped, if_neg, if_neg (fun both => inside both.1)]
    rintro ⟨_, entry, among, same⟩
    exact late entry (List.mem_of_mem_drop among) (congrArg Prod.fst same)

theorem stored_apart (left right : CacheEntry) (first : left.StoredBefore right) (second : right.StoredBefore left)
    (different : left.id.timestamp ≠ right.id.timestamp) : False :=
  different (congrArg CacheId.timestamp (stored_before_antisymm _ _ first second))

variable (limit : Int) (before after : List CacheEntry) (near : Around entries since before after)

include near

theorem enough_sides (inside : since ∈ entries) (enough : LimitSuffices entries since limit) :
    (∀ entry ∈ before, Rounded since entry) ∧ ∀ entry ∈ after, since.id.timestamp < entry.id.timestamp := by
  constructor
  · intro entry among
    obtain ⟨member, stored, different⟩ := near.early entry among
    refine (near.scores entry (List.mem_append_left _ among)).resolve_left fun newer => ?_
    exact stored_apart _ _ stored (enough.ordered since inside entry member (Int.le_refl _) newer) different
  · intro entry among
    obtain ⟨member, stored, different⟩ := near.late entry among
    refine (near.scores entry (List.mem_append_right _ among)).resolve_right fun rounded => ?_
    exact stored_apart _ _ (enough.behind entry member rounded) stored different

theorem after_is_later (single : (entries.map (fun entry => entry.id.timestamp)).Nodup)
    (older : ∀ entry ∈ before, ¬ since.id.timestamp < entry.id.timestamp)
    (newer : ∀ entry ∈ after, since.id.timestamp < entry.id.timestamp) : after.Perm (later entries since) := by
  have listed : (later entries since).Nodup := single.of_map.filter _
  refine (List.perm_ext_iff_of_nodup near.single.of_map listed).mpr fun entry => ?_
  rw [later, List.mem_filter, decide_eq_true_eq]
  constructor
  · exact fun among => ⟨(near.late entry among).1, newer entry among⟩
  · exact fun wanted => (near.either entry wanted.1 (.inl wanted.2)).resolve_left fun among => older entry among wanted.2

theorem enough_resumes (topic : Bytes) (single : (entries.map (fun entry => entry.id.timestamp)).Nodup) (inside : since ∈ entries)
    (enough : LimitSuffices entries since limit) :
    reread before after limit = [] ∧ (after.length : Int) < limit ∧
      NewestResumed topic entries since limit (after.map (CacheEntry.item topic)) := by
  obtain ⟨rounded, newer⟩ := enough_sides entries since limit before after near inside enough
  have same := after_is_later entries since before after near single (fun entry among => Int.not_lt.mpr (Int.le_of_lt (rounded entry among).1)) newer
  have size := same.length_eq
  have fits := enough.fits
  refine ⟨?_, by omega, after, same, ?_, ?_⟩
  · cases before with
    | nil => exact List.rtake_nil _
    | cons entry rest =>
        have full := enough.full entry (near.early entry List.mem_cons_self).1 (rounded entry List.mem_cons_self)
        rw [reread, show limit.toNat - (after.length + 1) = 0 by omega, List.rtake_zero]
  · refine (near.sorted.and (List.pairwise_map.mp near.single)).imp_of_mem fun {left right} first second both => ?_
    by_contra disordered
    have swapped := enough.ordered right (near.late right second).1 left (near.late left first).1 (Int.le_of_lt (newer right second))
      (by have different := both.2; omega)
    exact stored_apart _ _ both.1 swapped both.2
  · rw [List.rtake, Nat.sub_eq_zero_of_le (by omega), List.drop_zero]

theorem resumed_enough (single : (entries.map (fun entry => entry.id.timestamp)).Nodup) (inside : since ∈ entries)
    (expected : List CacheEntry) (same : expected.Perm (later entries since))
    (increasing : expected.Pairwise (fun left right => left.id.timestamp < right.id.timestamp)) (room : (after.length : Int) < limit)
    (older : ∀ entry ∈ reread before after limit, ¬ since.id.timestamp < entry.id.timestamp)
    (answer : reread before after limit ++ after = expected.rtake limit.toNat) : LimitSuffices entries since limit := by
  have newer : ∀ entry ∈ expected, since.id.timestamp < entry.id.timestamp := by
    intro entry among
    exact of_decide_eq_true (List.mem_filter.mp (same.mem_iff.mp among)).2
  have nothing : reread before after limit = [] := by
    rw [List.eq_nil_iff_forall_not_mem]
    intro entry among
    refine older entry among (newer entry (List.mem_of_mem_drop (?_ : entry ∈ expected.rtake limit.toNat)))
    rw [← answer]
    exact List.mem_append_left _ among
  rw [nothing, List.nil_append] at answer
  have sizes := congrArg List.length answer
  rw [ListLemmas.rtake_length] at sizes
  have whole : after = expected := by
    rw [answer, List.rtake, Nat.sub_eq_zero_of_le (by omega), List.drop_zero]
  have count := same.length_eq
  have among (entry : CacheEntry) (member : entry ∈ entries) (wanted : since.id.timestamp < entry.id.timestamp) : entry ∈ after := by
    rw [whole, same.mem_iff, later, List.mem_filter]
    exact ⟨member, decide_eq_true wanted⟩
  have first (entry : CacheEntry) (member : entry ∈ entries) (rounded : Rounded since entry) : entry ∈ before := by
    refine (near.either entry member (.inr rounded)).resolve_right fun late => ?_
    rw [whole] at late
    exact absurd (newer entry late) (Int.not_lt.mpr (Int.le_of_lt rounded.1))
  refine ⟨by rw [← count, ← whole]; exact room, ?_, ?_, ?_⟩
  · intro left leftIn right rightIn notOlder less
    have rightLate := among right rightIn (by omega)
    rcases Int.lt_or_eq_of_le notOlder with newLeft | equal
    · have different : left ≠ right := fun equal => by rw [equal] at less; exact absurd less (Int.lt_irrefl _)
      rw [whole] at rightLate
      have leftLate := among left leftIn newLeft
      rw [whole] at leftLate
      have pairs := near.sorted
      rw [whole] at pairs
      rcases ListLemmas.pairwise_either _ _ (pairs.and increasing) left right leftLate rightLate different with forwards | backwards
      · exact forwards.1
      · exact absurd backwards.2 (Int.not_lt.mpr (Int.le_of_lt less))
    · rw [List.inj_on_of_nodup_map single leftIn inside equal.symm]
      exact (near.late right rightLate).2.1
  · exact fun entry member rounded => (near.early entry (first entry member rounded)).2.1
  · intro entry member rounded
    have size := congrArg List.length nothing
    rw [reread, ListLemmas.rtake_length, List.length_nil] at size
    have some := List.length_pos_of_mem (first entry member rounded)
    rw [← count, ← whole]
    omega

theorem out_of_reach_iff (single : (entries.map (fun entry => entry.id.timestamp)).Nodup) (none : later entries since = []) :
    OutOfReach entries since limit ↔ limit ≤ after.length := by
  have older : ∀ entry ∈ entries, ¬ since.id.timestamp < entry.id.timestamp := by
    intro entry member newer
    exact List.not_mem_nil (none ▸ List.mem_filter.mpr ⟨member, decide_eq_true newer⟩ : entry ∈ [])
  have listed : (entries.filter (fun entry => Rounded since entry ∧ ¬ entry.StoredBefore since)).Nodup := single.of_map.filter _
  have same : (entries.filter (fun entry => Rounded since entry ∧ ¬ entry.StoredBefore since)).Perm after := by
    refine (List.perm_ext_iff_of_nodup listed near.single.of_map).mpr fun entry => ?_
    rw [List.mem_filter, decide_eq_true_eq]
    constructor
    · rintro ⟨member, rounded, misplaced⟩
      exact (near.either entry member (.inr rounded)).resolve_left fun early => misplaced (near.early entry early).2.1
    · intro among
      obtain ⟨member, stored, different⟩ := near.late entry among
      have rounded := (near.scores entry (List.mem_append_right _ among)).resolve_left (older entry member)
      exact ⟨member, rounded, fun backwards => stored_apart _ _ backwards stored different⟩
  rw [OutOfReach, same.length_eq]

end

theorem resumed_nil_iff (topic : Bytes) (entries : List CacheEntry) (since : CacheEntry) (limit : Int) (positive : 1 ≤ limit) :
    NewestResumed topic entries since limit [] ↔ later entries since = [] := by
  constructor
  · rintro ⟨expected, same, _, answer⟩
    have sizes := congrArg List.length answer
    rw [List.length_map, ListLemmas.rtake_length, List.length_nil] at sizes
    rw [List.eq_nil_of_length_eq_zero (by omega : expected.length = 0)] at same
    exact List.nil_perm.mp same
  · intro none
    refine ⟨[], by rw [none], List.Pairwise.nil, ?_⟩
    rw [List.rtake_nil, List.map_nil]

theorem early_resume (keyspace : Bytes) (config : CacheConfig) (db : Db) (now : Nat) (allTopics : List Bytes) (topic : Bytes)
    (since : CacheEntry) (limit : Int) (early : since.id.timestamp ≤ 0) :
    getCacheSinceId keyspace config db now allTopics topic since.id.text limit false = [] := by
  unfold getCacheSinceId
  split
  · rfl
  · rcases Int.lt_or_eq_of_le early with negative | zero
    · rw [split_negative_text since.id negative]
    · rw [split_nonnegative_text since.id (Int.le_of_eq zero.symm) since.stampHigh since.countHigh]
      exact if_pos zero

theorem limited_resume_iff (keyspace : Bytes) (config : CacheConfig) (db : Db) (now : Nat) (allTopics : List Bytes) (topic : Bytes)
    (entries : List CacheEntry) (since : CacheEntry) (limit : Int) (enabled : config.enableCache = true)
    (log : TopicLog keyspace db topic entries) (live : ∀ entry ∈ entries, now ≤ entry.expireAt)
    (single : (entries.map (fun entry => entry.id.timestamp)).Nodup) (inside : since ∈ entries) (positive : 1 ≤ limit) :
    NewestResumed topic entries since limit (getCacheSinceId keyspace config db now allTopics topic since.id.text limit false) ↔
      Resumable entries since limit := by
  unfold Resumable
  by_cases early : since.id.timestamp ≤ 0
  · rw [if_pos early, early_resume keyspace config db now allTopics topic since limit early]
    exact resumed_nil_iff topic entries since limit positive
  · obtain ⟨before, after, near⟩ := around entries since single inside
    rw [if_neg early, resume_around entries since keyspace config db now allTopics topic limit enabled log (Int.not_le.mp early) live
      (by omega) before after near]
    constructor
    · intro resumed
      by_cases found : (after.length : Int) < limit ∧ ∀ entry ∈ reread before after limit, ¬ since.id.timestamp < entry.id.timestamp
      · rw [if_pos found] at resumed
        obtain ⟨expected, same, increasing, answer⟩ := resumed
        refine .inl (resumed_enough entries since limit before after near single inside expected same increasing found.1 found.2 ?_)
        have ids := congrArg (List.map CacheItem.id) answer
        rw [List.map_map, List.map_map] at ids
        refine ListLemmas.map_cancel (fun entry : CacheEntry => entry.id.text) _ _ (fun left leftIn right rightIn text => ?_) ids
        have leftMember : left ∈ entries := by
          rcases List.mem_append.mp leftIn with first | last
          · exact (near.early left (List.mem_of_mem_drop first)).1
          · exact (near.late left last).1
        have rightMember := List.mem_of_mem_filter (same.mem_iff.mp (List.mem_of_mem_drop rightIn))
        exact List.inj_on_of_nodup_map log.distinct leftMember rightMember (cache_id_text_injective _ _ text)
      · rw [if_neg found] at resumed
        have none := (resumed_nil_iff topic entries since limit positive).mp resumed
        refine .inr ⟨none, (out_of_reach_iff entries since limit before after near single none).mpr ?_⟩
        by_contra room
        refine found ⟨Int.not_le.mp room, fun entry among newer => ?_⟩
        have member := (near.early entry (List.mem_of_mem_drop among)).1
        exact List.not_mem_nil (none ▸ List.mem_filter.mpr ⟨member, decide_eq_true newer⟩ : entry ∈ [])
    · rintro (enough | ⟨none, far⟩)
      · obtain ⟨nothing, room, resumed⟩ := enough_resumes entries since limit before after near topic single inside enough
        rw [nothing, if_pos ⟨room, fun entry among => absurd among List.not_mem_nil⟩, List.nil_append]
        exact resumed
      · rw [out_of_reach_iff entries since limit before after near single none] at far
        rw [if_neg (fun found => by have room := found.1; omega)]
        exact (resumed_nil_iff topic entries since limit positive).mpr none

def threeEntries : List CacheEntry := [sampleEntry 1 100, sampleEntry 2 100, sampleEntry 3 100]

theorem one_missed_resumes :
    NewestResumed (str "t") threeEntries (sampleEntry 2 100) 2
      (getCacheSinceId [] ⟨true, 60⟩ (sampleDb threeEntries) 50 [] (str "t") (str "2-0") 2 false) := by
  refine (limited_resume_iff [] ⟨true, 60⟩ _ 50 [] (str "t") threeEntries (sampleEntry 2 100) 2 rfl
    (stored_log [] (str "t") _ (by decide)) (by decide) (by decide) (by simp [threeEntries]) (by decide)).mpr ?_
  rw [Resumable, if_neg (by decide)]
  exact .inl ⟨by decide, by decide, by decide, by decide⟩

theorem as_many_missed_as_limit_lost :
    TopicLog [] (sampleDb threeEntries) (str "t") threeEntries ∧
      getCacheSinceId [] ⟨true, 60⟩ (sampleDb threeEntries) 50 [] (str "t") (str "1-0") 2 false = [] ∧
      ¬ NewestResumed (str "t") threeEntries (sampleEntry 1 100) 2
        (getCacheSinceId [] ⟨true, 60⟩ (sampleDb threeEntries) 50 [] (str "t") (str "1-0") 2 false) := by
  have answer : getCacheSinceId [] ⟨true, 60⟩ (sampleDb threeEntries) 50 [] (str "t") (str "1-0") 2 false = [] := by decide
  refine ⟨stored_log [] (str "t") _ (by decide), answer, ?_⟩
  rw [answer, resumed_nil_iff _ _ _ _ (by decide)]
  exact List.cons_ne_nil (sampleEntry 2 100) [sampleEntry 3 100]

end Eventhub.Redis
