import Eventhub.AccessController

set_option autoImplicit false

namespace Eventhub

-- The levels of a subscription, read as the levels of a topic: a "+" stands
-- for any level, every other level only for itself.
def LevelsCover (general levels : List Bytes) : Prop :=
  List.Forall₂ (fun g level => g = level ∨ g = [plus]) general levels

theorem levels_cover_generalizes (filter : Bytes) (general levels : List Bytes) (covers : LevelsCover general levels) :
    Wildcard.Generalizes (filterPattern filter) general levels := by
  refine List.Forall₂.imp ?_ covers
  rintro g level (same | isPlus)
  · exact .inl same
  · exact .inr (isPlus ▸ plus_fresh filter)

theorem matches_levels_cover (general levels : List Bytes) (plain : [hash] ∉ general) :
    Wildcard.Matches (general.map classify) levels ↔ LevelsCover general levels := by
  induction general generalizing levels with
  | nil => cases levels <;> simp [Wildcard.Matches, LevelsCover]
  | cons g general ih =>
      have notHash : g ≠ [hash] := fun same => plain (by simp [same])
      have rest : [hash] ∉ general := fun member => plain (List.mem_cons_of_mem g member)
      have tail := fun more => ih more rest
      simp only [LevelsCover] at tail
      by_cases isPlus : g = [plus]
      · cases levels <;> simp [LevelsCover, classify, isPlus, Wildcard.Matches, tail, plus, hash]
      · cases levels <;> simp [LevelsCover, classify, isPlus, notHash, Wildcard.Matches, tail]

theorem filter_matches_covered (filter : Bytes) (general levels : List Bytes) (covers : LevelsCover general levels)
    (hit : Wildcard.Matches (filterPattern filter) general) : Wildcard.Matches (filterPattern filter) levels :=
  Wildcard.matches_of_general _ _ _ (levels_cover_generalizes filter general levels covers) hit

def endsInHash (pattern : Bytes) : Bool := (splitLevels pattern).getLast? = some [hash]

-- The subscription with its final "#" replaced by a number of "+" levels.
def expandLevels (pattern : Bytes) (count : Nat) : List Bytes :=
  (splitLevels pattern).dropLast ++ List.replicate count [plus]

def expandHash (pattern : Bytes) (count : Nat) : Bytes := joinLevels (expandLevels pattern count)

def longestFilter (acl : List Bytes) : Nat := (acl.map (fun filter => (splitLevels filter).length)).foldr max 0

-- Every expansion that has the shape of a topic is admitted by the list.
def HashCovered (acl : List Bytes) (pattern : Bytes) : Prop :=
  ∀ count ≤ longestFilter acl + 1,
    expandHash pattern count ≠ [] → (expandHash pattern count).getLast? ≠ some slash →
      ∃ filter ∈ acl, isFilterMatched filter (expandHash pattern count) = true

theorem longest_filter_bound (acl : List Bytes) (filter : Bytes) (member : filter ∈ acl) :
    (splitLevels filter).length ≤ longestFilter acl := by
  induction acl with
  | nil => simp at member
  | cons first acl ih =>
      simp only [longestFilter, List.map_cons, List.foldr_cons] at ih ⊢
      rcases List.mem_cons.mp member with rfl | later
      · exact Nat.le_max_left _ _
      · exact Nat.le_trans (ih later) (Nat.le_max_right _ _)

theorem join_levels_head (levels : List Bytes) (present : levels ≠ []) (plain : ∀ level ∈ levels, slash ∉ level) :
    (joinLevels levels = [] ∨ (joinLevels levels).head? = some slash) ↔ levels.head? = some [] := by
  cases levels with
  | nil => exact absurd rfl present
  | cons level levels =>
      have clean : level.head? ≠ some slash := fun same => plain level (by simp) (List.mem_of_head? same)
      cases levels with
      | nil => simp [joinLevels, clean]
      | cons next more =>
          rw [join_levels_cons level _ (by simp)]
          cases level with
          | nil => simp
          | cons c level => simpa using clean

theorem join_levels_last (levels : List Bytes) (present : levels ≠ []) (plain : ∀ level ∈ levels, slash ∉ level) :
    (joinLevels levels = [] ∨ (joinLevels levels).getLast? = some slash) ↔ levels.getLast? = some [] := by
  induction levels with
  | nil => exact absurd rfl present
  | cons level levels ih =>
      have clean : level.getLast? ≠ some slash := fun same => plain level (by simp) (List.mem_of_getLast? same)
      cases levels with
      | nil => simp [joinLevels, clean]
      | cons next more =>
          have rest := ih (by simp) (fun other member => plain other (List.mem_cons_of_mem level member))
          rw [join_levels_cons level _ (by simp), List.getLast?_cons_cons, ← rest, List.getLast?_append]
          cases tail : joinLevels (next :: more) with
          | nil => simp
          | cons c bytes => simp [List.getLast?_cons_cons]

theorem join_levels_shape (levels : List Bytes) (plain : ∀ level ∈ levels, slash ∉ level) :
    (joinLevels levels ≠ [] ∧ (joinLevels levels).head? ≠ some slash ∧ (joinLevels levels).getLast? ≠ some slash) ↔
      levels ≠ [] ∧ levels.head? ≠ some [] ∧ levels.getLast? ≠ some [] := by
  by_cases present : levels = []
  · simp [present, joinLevels]
  · have first := join_levels_head levels present plain
    have last := join_levels_last levels present plain
    tauto

theorem expand_levels_plain (pattern : Bytes) (count : Nat) : ∀ level ∈ expandLevels pattern count, slash ∉ level := by
  intro level member
  rcases List.mem_append.mp member with stem | holes
  · exact split_levels_plain pattern level (List.mem_of_mem_dropLast stem)
  · rw [(List.mem_replicate.mp holes).2]
    decide

theorem hash_pattern_levels (pattern : Bytes) (valid : isValidTopicOrFilter pattern = true)
    (ending : endsInHash pattern = true) :
    splitLevels pattern = (splitLevels pattern).dropLast ++ [[hash]] ∧ [hash] ∉ (splitLevels pattern).dropLast := by
  refine ⟨?_, (valid_name_levels pattern valid).1.2⟩
  have last : (splitLevels pattern).getLast? = some [hash] := by simpa [endsInHash] using ending
  exact (List.dropLast_append_getLast? _ last).symm

theorem plain_pattern_levels (pattern : Bytes) (valid : isValidTopicOrFilter pattern = true)
    (ending : endsInHash pattern = false) : [hash] ∉ splitLevels pattern := by
  intro member
  have levels := List.dropLast_append_getLast (split_levels_nonempty pattern)
  rw [← levels] at member
  rcases List.mem_append.mp member with stem | last
  · exact (valid_name_levels pattern valid).1.2 stem
  · have same : (splitLevels pattern).getLast? = some [hash] := by
      rw [List.getLast?_eq_some_getLast (split_levels_nonempty pattern), ← List.mem_singleton.mp last]
    simp [endsInHash, same] at ending

theorem hash_pattern_matches (pattern topic : Bytes) (valid : isValidTopicOrFilter pattern = true)
    (ending : endsInHash pattern = true) :
    isFilterMatched pattern topic = true ↔ ∃ count, LevelsCover (expandLevels pattern count) (splitLevels topic) := by
  obtain ⟨levels, plain⟩ := hash_pattern_levels pattern valid ending
  have shape : filterPattern pattern = (splitLevels pattern).dropLast.map classify ++ [.many] := by
    conv_lhs => rw [filterPattern, levels, List.map_append]
    simp [classify]
  have stem : Wildcard.Level.many ∉ (splitLevels pattern).dropLast.map classify := by
    intro member
    obtain ⟨level, inside, isMany⟩ := List.mem_map.mp member
    exact plain ((classify_many level).mp isMany ▸ inside)
  rw [filter_matched_iff, shape, Wildcard.matches_stem_many _ _ stem]
  refine exists_congr fun count => ?_
  have holes : List.replicate count Wildcard.Level.one = (List.replicate count [plus]).map classify := by
    simp [classify, plus, hash]
  rw [holes, ← List.map_append]
  refine matches_levels_cover _ _ ?_
  intro member
  rcases List.mem_append.mp member with inside | hole
  · exact plain inside
  · exact absurd (List.mem_replicate.mp hole).2 (by decide)

def freshLevel (acl : List Bytes) : Bytes := List.replicate (acl.flatten.length + 1) 97

theorem fresh_level_unnamed (acl : List Bytes) (filter : Bytes) (member : filter ∈ acl) :
    Wildcard.Level.word (freshLevel acl) ∉ filterPattern filter := by
  intro named
  obtain ⟨level, inside, same⟩ := List.mem_map.mp named
  have short := (split_level_sublist filter level inside).length_le
  have part := (List.sublist_flatten_of_mem member).length_le
  have size := congrArg List.length (classify_word level _ same).1
  simp only [freshLevel, List.length_replicate] at size
  omega

def fillLevel (acl : List Bytes) (level : Bytes) : Bytes := if level = [plus] then freshLevel acl else level

theorem fill_level_empty (acl : List Bytes) (level : Bytes) : fillLevel acl level = [] ↔ level = [] := by
  unfold fillLevel
  split
  · simp_all [freshLevel]
  · rfl

theorem fill_levels_cover (acl levels : List Bytes) : LevelsCover levels (levels.map (fillLevel acl)) := by
  rw [LevelsCover, List.forall₂_map_right_iff]
  refine List.forall₂_same.mpr ?_
  intro level _
  by_cases isPlus : level = [plus]
  · exact .inr isPlus
  · exact .inl (by simp [fillLevel, isPlus])

theorem fill_levels_generalize (acl levels : List Bytes) (filter : Bytes) (member : filter ∈ acl) :
    Wildcard.Generalizes (filterPattern filter) (levels.map (fillLevel acl)) levels := by
  rw [Wildcard.Generalizes, List.forall₂_map_left_iff]
  refine List.forall₂_same.mpr ?_
  intro level _
  by_cases isPlus : level = [plus]
  · exact .inr (by simpa [fillLevel, isPlus] using fresh_level_unnamed acl filter member)
  · exact .inl (by simp [fillLevel, isPlus])

theorem fill_level_chars (acl : List Bytes) (level : Bytes) (known : PlainLevel level ∨ level = [plus]) :
    PlainLevel (fillLevel acl level) := by
  unfold fillLevel
  split
  · intro c member
    rw [(List.mem_replicate.mp member).2]
    decide
  · rename_i notPlus
    exact known.resolve_right notPlus

theorem expand_levels_known (pattern : Bytes) (count : Nat) (valid : isValidTopicOrFilter pattern = true) :
    ∀ level ∈ expandLevels pattern count, PlainLevel level ∨ level = [plus] := by
  intro level member
  obtain ⟨known, ends⟩ := (valid_name_levels pattern valid).1
  rcases List.mem_append.mp member with stem | hole
  · rcases known level (List.mem_of_mem_dropLast stem) with plain | isPlus | isHash
    · exact .inl plain
    · exact .inr isPlus
    · exact absurd (isHash ▸ stem) ends
  · exact .inr (List.mem_replicate.mp hole).2

theorem expand_levels_head (pattern : Bytes) (count : Nat) (valid : isValidTopicOrFilter pattern = true) :
    (expandLevels pattern count).head? ≠ some [] := by
  obtain ⟨_, present, leading⟩ := valid_name_levels pattern valid
  have first : (splitLevels pattern).head? ≠ some [] := by
    intro empty
    have bad := (join_levels_head _ (split_levels_nonempty pattern) (split_levels_plain pattern)).mpr empty
    rw [join_split_levels] at bad
    exact bad.elim present leading
  unfold expandLevels
  cases levels : splitLevels pattern with
  | nil => cases count <;> simp [List.replicate_succ]
  | cons level more =>
      cases more with
      | nil => cases count <;> simp [List.replicate_succ]
      | cons next rest => simpa [levels] using first

theorem filled_topic_valid (acl general : List Bytes) (known : ∀ level ∈ general, PlainLevel level ∨ level = [plus])
    (present : general ≠ []) (first : general.head? ≠ some []) (last : general.getLast? ≠ some []) :
    isValidTopic (joinLevels (general.map (fillLevel acl))) = true ∧
      splitLevels (joinLevels (general.map (fillLevel acl))) = general.map (fillLevel acl) := by
  have chars : ∀ level ∈ general.map (fillLevel acl), PlainLevel level := by
    intro level member
    obtain ⟨original, inside, rfl⟩ := List.mem_map.mp member
    exact fill_level_chars acl original (known original inside)
  have plain : ∀ level ∈ general.map (fillLevel acl), slash ∉ level :=
    fun level member inside => absurd (chars level member slash inside) (by decide)
  obtain ⟨nonempty, head, final⟩ := (join_levels_shape _ plain).mpr
    ⟨by simpa using present, by simpa [fill_level_empty] using first, by simpa [fill_level_empty] using last⟩
  refine ⟨(valid_topic_iff _).mpr ⟨nonempty, head, final, ?_⟩, split_join_levels _ (by simpa using present) plain⟩
  intro c member
  rw [topic_char_level]
  rcases mem_join_levels _ c member with separator | ⟨level, inside, here⟩
  · exact .inr separator
  · exact .inl (chars level inside c here)

theorem fill_topic_valid (acl : List Bytes) (pattern : Bytes) (count : Nat) (valid : isValidTopicOrFilter pattern = true)
    (present : expandLevels pattern count ≠ []) (last : (expandLevels pattern count).getLast? ≠ some []) :
    isValidTopic (joinLevels ((expandLevels pattern count).map (fillLevel acl))) = true ∧
      splitLevels (joinLevels ((expandLevels pattern count).map (fillLevel acl))) =
        (expandLevels pattern count).map (fillLevel acl) :=
  filled_topic_valid acl _ (expand_levels_known pattern count valid) present (expand_levels_head pattern count valid) last

theorem expand_hash_levels (pattern : Bytes) (count : Nat) (present : expandLevels pattern count ≠ []) :
    splitLevels (expandHash pattern count) = expandLevels pattern count :=
  split_join_levels _ present (expand_levels_plain pattern count)

theorem expand_hash_shape (pattern : Bytes) (count : Nat) :
    (expandHash pattern count ≠ [] ∧ (expandHash pattern count).getLast? ≠ some slash) ↔
      expandLevels pattern count ≠ [] ∧ (expandLevels pattern count).getLast? ≠ some [] := by
  by_cases present : expandLevels pattern count = []
  · simp [expandHash, present, joinLevels]
  · have last := join_levels_last _ present (expand_levels_plain pattern count)
    unfold expandHash
    tauto

theorem cover_last (general levels : List Bytes) (covers : LevelsCover general levels)
    (last : levels.getLast? ≠ some []) : general.getLast? ≠ some [] := by
  rw [← List.head?_reverse] at last ⊢
  have mirrored := List.forall₂_reverse_iff.mpr covers
  intro empty
  obtain ⟨rest, reversed⟩ := List.head?_eq_some_iff.mp empty
  rw [reversed] at mirrored
  obtain ⟨level, more, related, _, shape⟩ := List.forall₂_cons_left_iff.mp mirrored
  rcases related with same | isPlus
  · exact last (by simp [shape, ← same])
  · exact absurd isPlus (by decide)

theorem hash_contained_of_covered (acl : List Bytes) (pattern topic : Bytes) (valid : isValidTopicOrFilter pattern = true)
    (ending : endsInHash pattern = true) (covered : HashCovered acl pattern) (validTopic : isValidTopic topic = true)
    (hit : isFilterMatched pattern topic = true) : ∃ filter ∈ acl, isFilterMatched filter topic = true := by
  obtain ⟨count, covers⟩ := (hash_pattern_matches pattern topic valid ending).mp hit
  obtain ⟨present, head, final, _⟩ := (valid_topic_iff topic).mp validTopic
  have shape := (join_levels_shape _ (split_levels_plain topic)).mp (by simpa only [join_split_levels] using ⟨present, head, final⟩)
  -- Beyond the longest filter a match has used a tail hole, so the longest
  -- expansion the list is asked about answers for all later ones.
  have admitted (bounded : Nat) (bound : bounded ≤ longestFilter acl + 1) (nonempty : expandLevels pattern bounded ≠ [])
      (last : (expandLevels pattern bounded).getLast? ≠ some []) :
      ∃ filter ∈ acl, Wildcard.Matches (filterPattern filter) (expandLevels pattern bounded) := by
    obtain ⟨shaped, ended⟩ := (expand_hash_shape pattern bounded).mpr ⟨nonempty, last⟩
    obtain ⟨filter, member, found⟩ := covered bounded bound shaped ended
    rw [filter_matched_iff, expand_hash_levels pattern bounded nonempty] at found
    exact ⟨filter, member, found⟩
  have accepted : ∃ filter ∈ acl, Wildcard.Matches (filterPattern filter) (expandLevels pattern count) := by
    by_cases bound : count ≤ longestFilter acl + 1
    · have nonempty : expandLevels pattern count ≠ [] := by
        intro empty
        rw [empty] at covers
        exact shape.1 (List.forall₂_nil_left_iff.mp covers)
      exact admitted count bound nonempty (cover_last _ _ covers shape.2.2)
    · obtain ⟨filter, member, found⟩ := admitted (longestFilter acl + 1) le_rfl (by simp [expandLevels])
        (by simp [expandLevels, List.replicate_succ', ← List.append_assoc])
      have longest := longest_filter_bound acl filter member
      have longer : (filterPattern filter).length < (expandLevels pattern (longestFilter acl + 1)).length := by
        simp only [filterPattern, List.length_map, expandLevels, List.length_append, List.length_replicate]
        omega
      have extended := Wildcard.matches_extend _ _ (List.replicate (count - (longestFilter acl + 1)) [plus])
        (Nat.le_of_lt longer) found (.inl longer)
      refine ⟨filter, member, ?_⟩
      simpa only [expandLevels, List.append_assoc, List.replicate_append_replicate,
        Nat.add_sub_cancel' (Nat.le_of_not_le bound)] using extended
  obtain ⟨filter, member, found⟩ := accepted
  exact ⟨filter, member, (filter_matched_iff _ _).mpr (filter_matches_covered filter _ _ covers found)⟩

theorem hash_covered_of_contained (acl : List Bytes) (pattern : Bytes) (valid : isValidTopicOrFilter pattern = true)
    (ending : endsInHash pattern = true)
    (contained : ∀ topic, isValidTopic topic = true → isFilterMatched pattern topic = true →
      ∃ filter ∈ acl, isFilterMatched filter topic = true) : HashCovered acl pattern := by
  intro count _ shaped ended
  obtain ⟨present, last⟩ := (expand_hash_shape pattern count).mp ⟨shaped, ended⟩
  obtain ⟨topicValid, topicLevels⟩ := fill_topic_valid acl pattern count valid present last
  obtain ⟨filter, member, found⟩ := contained _ topicValid
    ((hash_pattern_matches pattern _ valid ending).mpr ⟨count, by rw [topicLevels]; exact fill_levels_cover acl _⟩)
  refine ⟨filter, member, ?_⟩
  rw [filter_matched_iff, topicLevels] at found
  rw [filter_matched_iff, expand_hash_levels pattern count present]
  exact Wildcard.matches_of_general _ _ _ (fill_levels_generalize acl _ filter member) found

theorem plain_pattern_contained (acl : List Bytes) (pattern topic : Bytes) (valid : isValidTopicOrFilter pattern = true)
    (ending : endsInHash pattern = false) (allowed : ∃ filter ∈ acl, isFilterMatched filter pattern = true)
    (hit : isFilterMatched pattern topic = true) : ∃ filter ∈ acl, isFilterMatched filter topic = true := by
  have covers : LevelsCover (splitLevels pattern) (splitLevels topic) :=
    (matches_levels_cover _ _ (plain_pattern_levels pattern valid ending)).mp ((filter_matched_iff _ _).mp hit)
  obtain ⟨filter, member, found⟩ := allowed
  rw [filter_matched_iff] at found
  exact ⟨filter, member, (filter_matched_iff _ _).mpr (filter_matches_covered filter _ _ covers found)⟩

theorem allowed_subscription_contained_iff (controller : AccessController) (pattern : Bytes)
    (enabled : controller.disableAuth = false) (loaded : controller.tokenLoaded = true)
    (valid : isValidTopicOrFilter pattern = true) (allowed : allowSubscribe controller pattern = true) :
    (∀ topic, isValidTopic topic = true → isFilterMatched pattern topic = true →
      ∃ filter ∈ controller.subscribeAcl, isFilterMatched filter topic = true) ↔
      endsInHash pattern = false ∨ HashCovered controller.subscribeAcl pattern := by
  have admitted := (acl_allows_iff controller controller.subscribeAcl pattern enabled loaded).mp allowed
  cases ending : endsInHash pattern with
  | false => simpa using fun topic _ hit => plain_pattern_contained _ pattern topic valid ending admitted hit
  | true =>
      refine ⟨fun contained => .inr (hash_covered_of_contained _ pattern valid ending contained), ?_⟩
      rintro (absent | covered) topic validTopic hit
      · cases absent
      · exact hash_contained_of_covered _ pattern topic valid ending covered validTopic hit

def readController (acl : List Bytes) : AccessController := ⟨false, true, [], [], acl, []⟩

theorem allowed_plus_subscription_contained :
    allowSubscribe (readController [str "a/#"]) (str "a/+") = true ∧
      ∀ topic, isValidTopic topic = true → isFilterMatched (str "a/+") topic = true →
        ∃ filter ∈ [str "a/#"], isFilterMatched filter topic = true :=
  ⟨by decide, (allowed_subscription_contained_iff (readController [str "a/#"]) (str "a/+") rfl rfl (by decide)
    (by decide)).mpr (.inl (by decide))⟩

theorem hash_request_escapes_plus_filter :
    ¬ ∀ (controller : AccessController) (pattern topic : Bytes), controller.disableAuth = false →
      controller.tokenLoaded = true → (∀ filter ∈ controller.subscribeAcl, isValidTopicOrFilter filter = true) →
      isValidTopicOrFilter pattern = true → allowSubscribe controller pattern = true → isValidTopic topic = true →
      isFilterMatched pattern topic = true → ∃ filter ∈ controller.subscribeAcl, isFilterMatched filter topic = true := by
  intro contained
  have escaped := contained (readController [str "a/+"]) (str "a/#") (str "a/b/c") rfl rfl (by decide) (by decide)
    (by decide) (by decide) (by decide)
  exact absurd escaped (by decide)

end Eventhub
