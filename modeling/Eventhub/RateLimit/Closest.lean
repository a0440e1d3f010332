import Eventhub.AclContainment
import Eventhub.RateLimit.Config

set_option autoImplicit false

namespace Eventhub

def topicsOf (filterName : Bytes) : Set Bytes := {topic | isValidTopic topic = true ∧ isFilterMatched filterName topic = true}

-- Behind no level or an empty one, a "#" has no parent that is a topic.
def orphaned (filterName : Bytes) : Bool :=
  (splitLevels filterName).dropLast = [] || (splitLevels filterName).dropLast.getLast? = some []

-- The filter's levels, where an orphaned "#" stands for "+/#".
def topicPattern (filterName : Bytes) : List (Wildcard.Level Bytes) :=
  if endsInHash filterName && orphaned filterName then (splitLevels filterName).dropLast.map classify ++ [.one, .many]
  else filterPattern filterName

-- By their levels, the topics of one filter are among those of the other.
def within (narrow wide : Bytes) : Bool := Wildcard.covers (topicPattern wide) (topicPattern narrow)

def narrower (filterName other : Bytes) : Bool := within filterName other && !within other filterName

theorem stem_plain (filterName : Bytes) (valid : isValidTopicOrFilter filterName = true) (ending : endsInHash filterName = true) :
    Wildcard.Level.many ∉ (splitLevels filterName).dropLast.map classify := by
  intro member
  obtain ⟨level, inside, isMany⟩ := List.mem_map.mp member
  exact (hash_pattern_levels filterName valid ending).2 ((classify_many level).mp isMany ▸ inside)

theorem hash_filter_pattern (filterName : Bytes) (valid : isValidTopicOrFilter filterName = true) (ending : endsInHash filterName = true) :
    filterPattern filterName = (splitLevels filterName).dropLast.map classify ++ [.many] := by
  conv_lhs => rw [filterPattern, (hash_pattern_levels filterName valid ending).1, List.map_append]
  simp [classify]

theorem orphan_unmatched (filterName : Bytes) (path : List Bytes) (valid : isValidTopicOrFilter filterName = true)
    (ending : endsInHash filterName = true) (orphan : orphaned filterName = true) (present : path ≠ []) (last : path.getLast? ≠ some []) :
    ¬ Wildcard.Matches ((splitLevels filterName).dropLast.map classify) path := by
  rw [matches_levels_cover _ _ (hash_pattern_levels filterName valid ending).2]
  intro covers
  rw [orphaned, Bool.or_eq_true, decide_eq_true_eq, decide_eq_true_eq] at orphan
  rcases orphan with lone | empty
  · rw [lone] at covers
    exact present (List.forall₂_nil_left_iff.mp covers)
  · exact cover_last _ _ covers last empty

theorem topic_pattern_matches (filterName : Bytes) (path : List Bytes) (valid : isValidTopicOrFilter filterName = true)
    (present : path ≠ []) (last : path.getLast? ≠ some []) :
    Wildcard.Matches (topicPattern filterName) path ↔ Wildcard.Matches (filterPattern filterName) path := by
  by_cases opened : (endsInHash filterName && orphaned filterName) = true
  · rw [topicPattern, if_pos opened]
    obtain ⟨ending, orphan⟩ := Bool.and_eq_true_iff.mp opened
    have plain := stem_plain filterName valid ending
    have longer : Wildcard.Level.many ∉ (splitLevels filterName).dropLast.map classify ++ [.one] := by
      rw [List.mem_append, not_or]
      exact ⟨plain, by simp⟩
    rw [hash_filter_pattern filterName valid ending, List.append_cons _ Wildcard.Level.one, Wildcard.matches_stem_many _ _ longer,
      Wildcard.matches_stem_many _ _ plain]
    constructor
    · rintro ⟨extra, hit⟩
      exact ⟨extra + 1, by rwa [List.replicate_succ, List.append_cons]⟩
    · rintro ⟨extra, hit⟩
      cases extra with
      | zero =>
          rw [List.replicate_zero, List.append_nil] at hit
          exact absurd hit (orphan_unmatched filterName path valid ending orphan present last)
      | succ extra => exact ⟨extra, by rwa [List.replicate_succ, List.append_cons] at hit⟩
  · rw [topicPattern, if_neg opened]

theorem topic_path (topic : Bytes) (valid : isValidTopic topic = true) :
    splitLevels topic ≠ [] ∧ (splitLevels topic).getLast? ≠ some [] := by
  obtain ⟨present, head, final, _⟩ := (valid_topic_iff topic).mp valid
  have shape := (join_levels_shape _ (split_levels_plain topic)).mp (by rw [join_split_levels]; exact ⟨present, head, final⟩)
  exact ⟨shape.1, shape.2.2⟩

theorem topic_matched_pattern (filterName topic : Bytes) (valid : isValidTopicOrFilter filterName = true)
    (validTopic : isValidTopic topic = true) :
    isFilterMatched filterName topic = true ↔ Wildcard.Matches (topicPattern filterName) (splitLevels topic) := by
  obtain ⟨present, last⟩ := topic_path topic validTopic
  rw [filter_matched_iff, topic_pattern_matches filterName _ valid present last]

theorem within_subset (narrow wide : Bytes) (validNarrow : isValidTopicOrFilter narrow = true)
    (validWide : isValidTopicOrFilter wide = true) (covered : within narrow wide = true) : topicsOf narrow ⊆ topicsOf wide := by
  rintro topic ⟨valid, matched⟩
  refine ⟨valid, (topic_matched_pattern wide topic validWide valid).mpr ?_⟩
  exact Wildcard.covers_matches _ _ _ covered ((topic_matched_pattern narrow topic validNarrow valid).mp matched)

theorem fill_plain_levels (levels : List Bytes) (count : Nat) (plain : [hash] ∉ levels) :
    Wildcard.fillHoles [plus] count (levels.map classify) = levels := by
  induction levels with
  | nil => rfl
  | cons level levels ih =>
      have notHash : level ≠ [hash] := fun same => plain (same ▸ List.mem_cons_self)
      have rest := ih (fun member => plain (List.mem_cons_of_mem level member))
      rw [List.map_cons, classify, if_neg notHash]
      by_cases isPlus : level = [plus]
      · rw [if_pos isPlus, Wildcard.fillHoles, rest, isPlus]
      · rw [if_neg isPlus, Wildcard.fillHoles, rest]

structure Opened (filterName : Bytes) (general : List Bytes) : Prop where
  known : ∀ level ∈ general, PlainLevel level ∨ level = [plus]
  present : general ≠ []
  first : general.head? ≠ some []
  last : general.getLast? ≠ some []
  own : ∀ topic, LevelsCover general (splitLevels topic) → isFilterMatched filterName topic = true

theorem fill_hash_pattern (filterName : Bytes) (count : Nat) (valid : isValidTopicOrFilter filterName = true)
    (ending : endsInHash filterName = true) :
    Wildcard.fillHoles [plus] count (topicPattern filterName) =
      expandLevels filterName (if orphaned filterName = true then count + 1 else count) := by
  have filled := fill_plain_levels (splitLevels filterName).dropLast count (hash_pattern_levels filterName valid ending).2
  have split := fun pattern => Wildcard.fill_holes_append [plus] count _ pattern (stem_plain filterName valid ending)
  by_cases orphan : orphaned filterName = true
  · rw [topicPattern, if_pos (by rw [ending, orphan]; rfl), split, filled, if_pos orphan, expandLevels, List.replicate_succ]
    rfl
  · rw [topicPattern, if_neg (by rw [ending, Bool.true_and]; exact orphan), hash_filter_pattern filterName valid ending, split, filled,
      if_neg orphan, expandLevels]
    rfl

theorem hash_opened (filterName : Bytes) (count : Nat) (valid : isValidTopicOrFilter filterName = true)
    (ending : endsInHash filterName = true) :
    Opened filterName (Wildcard.fillHoles [plus] count (topicPattern filterName)) := by
  rw [fill_hash_pattern filterName count valid ending]
  generalize extra : (if orphaned filterName = true then count + 1 else count) = levels
  have shape : expandLevels filterName levels ≠ [] ∧ (expandLevels filterName levels).getLast? ≠ some [] := by
    cases levels with
    | succ levels =>
        rw [expandLevels, List.replicate_succ', ← List.append_assoc]
        simp
    | zero =>
        have parent : ¬ orphaned filterName = true := by
          intro orphan
          rw [if_pos orphan] at extra
          cases extra
        rw [orphaned, Bool.or_eq_true, decide_eq_true_eq, decide_eq_true_eq, not_or] at parent
        rw [expandLevels, List.replicate_zero, List.append_nil]
        exact parent
  refine ⟨expand_levels_known filterName levels valid, shape.1, expand_levels_head filterName levels valid, shape.2, ?_⟩
  intro topic covers
  exact (hash_pattern_matches filterName topic valid ending).mpr ⟨levels, covers⟩

theorem plain_opened (filterName topic : Bytes) (count : Nat) (valid : isValidTopicOrFilter filterName = true)
    (ending : endsInHash filterName = false) (validTopic : isValidTopic topic = true) (matched : isFilterMatched filterName topic = true) :
    Opened filterName (Wildcard.fillHoles [plus] count (topicPattern filterName)) := by
  have plain := plain_pattern_levels filterName valid ending
  have own : ∀ topic, isFilterMatched filterName topic = true ↔ LevelsCover (splitLevels filterName) (splitLevels topic) :=
    fun topic => (filter_matched_iff filterName topic).trans (matches_levels_cover _ _ plain)
  rw [topicPattern, if_neg (by rw [ending]; exact Bool.false_ne_true), filterPattern, fill_plain_levels _ count plain]
  obtain ⟨⟨known, _⟩, present, leading⟩ := valid_name_levels filterName valid
  refine ⟨?_, split_levels_nonempty filterName, ?_, cover_last _ _ ((own topic).mp matched) (topic_path topic validTopic).2, ?_⟩
  · intro level member
    rcases known level member with clean | isPlus | isHash
    · exact .inl clean
    · exact .inr isPlus
    · exact absurd (isHash ▸ member) plain
  · intro empty
    have bad := (join_levels_head _ (split_levels_nonempty filterName) (split_levels_plain filterName)).mpr empty
    rw [join_split_levels] at bad
    exact bad.elim present leading
  · exact fun other => (own other).mpr

theorem pattern_opened (filterName topic : Bytes) (count : Nat) (valid : isValidTopicOrFilter filterName = true)
    (validTopic : isValidTopic topic = true) (matched : isFilterMatched filterName topic = true) :
    Opened filterName (Wildcard.fillHoles [plus] count (topicPattern filterName)) := by
  cases ending : endsInHash filterName with
  | true => exact hash_opened filterName count valid ending
  | false => exact plain_opened filterName topic count valid ending validTopic matched

theorem opened_matched (narrow wide : Bytes) (general : List Bytes) (validWide : isValidTopicOrFilter wide = true)
    (opened : Opened narrow general) (subset : topicsOf narrow ⊆ topicsOf wide) :
    Wildcard.Matches (topicPattern wide) general := by
  obtain ⟨valid, levels⟩ := filled_topic_valid [wide] general opened.known opened.present opened.first opened.last
  have taken := (subset ⟨valid, opened.own _ (by rw [levels]; exact fill_levels_cover [wide] general)⟩).2
  rw [filter_matched_iff, levels] at taken
  rw [topic_pattern_matches wide general validWide opened.present opened.last]
  exact Wildcard.matches_of_general _ _ _ (fill_levels_generalize [wide] general wide (List.mem_singleton_self wide)) taken

theorem plus_unnamed (filterName : Bytes) : Wildcard.Level.word [plus] ∉ topicPattern filterName := by
  have fresh := plus_fresh filterName
  rw [topicPattern]
  split
  · intro member
    rcases List.mem_append.mp member with stem | tail
    · refine fresh ?_
      obtain ⟨level, inside, same⟩ := List.mem_map.mp stem
      exact List.mem_map.mpr ⟨level, List.mem_of_mem_dropLast inside, same⟩
    · simp at tail
  · exact fresh

theorem subset_iff_within (narrow wide topic : Bytes) (validNarrow : isValidTopicOrFilter narrow = true)
    (validWide : isValidTopicOrFilter wide = true) (validTopic : isValidTopic topic = true)
    (matched : isFilterMatched narrow topic = true) : topicsOf narrow ⊆ topicsOf wide ↔ within narrow wide = true := by
  refine ⟨fun subset => ?_, within_subset narrow wide validNarrow validWide⟩
  have taken := fun count => opened_matched narrow wide _ validWide
    (pattern_opened narrow topic count validNarrow validTopic matched) subset
  exact Wildcard.covers_of_fills _ _ [plus] (plus_unnamed wide) (taken 0) (taken 1)

theorem ssubset_iff_narrower (narrow wide topic : Bytes) (validNarrow : isValidTopicOrFilter narrow = true)
    (validWide : isValidTopicOrFilter wide = true) (validTopic : isValidTopic topic = true)
    (matchedNarrow : isFilterMatched narrow topic = true) (matchedWide : isFilterMatched wide topic = true) :
    topicsOf narrow ⊂ topicsOf wide ↔ narrower narrow wide = true := by
  rw [ssubset_iff_subset_not_subset, narrower, Bool.and_eq_true, Bool.not_eq_true',
    subset_iff_within narrow wide topic validNarrow validWide validTopic matchedNarrow,
    subset_iff_within wide narrow topic validWide validNarrow validTopic matchedWide, Bool.not_eq_true]

-- "#" and "+/#" have the same topics.
example : within (str "#") (str "+/#") = true ∧ within (str "+/#") (str "#") = true := by decide

def matching (limits : List RlimitConfig) (topic : Bytes) : List RlimitConfig :=
  limits.filter (fun limit => isFilterMatched limit.topic topic)

def ClosestWins (controller : AccessController) (topic : Bytes) : Prop :=
  ∀ limit, getRateLimitForTopic controller topic = some limit →
    ∀ other ∈ matching controller.limitConfigs topic, ¬ topicsOf other.topic ⊂ topicsOf limit.topic

def Narrowest (limits : List RlimitConfig) (topic : Bytes) (limit : RlimitConfig) : Prop :=
  limit ∈ matching limits topic ∧ ∀ other ∈ matching limits topic, other ≠ limit → topicsOf limit.topic ⊂ topicsOf other.topic

def OrderFree (controller : AccessController) (topic : Bytes) : Prop :=
  ∀ limit, Narrowest controller.limitConfigs topic limit → ∀ permuted, permuted.Perm controller.limitConfigs →
    getRateLimitForTopic { controller with limitConfigs := permuted } topic = getRateLimitForTopic controller topic

def Outranked (topic : Bytes) (before : List RlimitConfig) (limit : RlimitConfig) (after : List RlimitConfig) : Prop :=
  (∃ other ∈ matching before topic, limit.topic.length ≤ other.topic.length) ∨
    ∃ other ∈ matching after topic, limit.topic.length < other.topic.length

structure LengthDecides (limits : List RlimitConfig) (topic : Bytes) : Prop where
  outranked : ∀ before wide after, limits = before ++ wide :: after → isFilterMatched wide.topic topic = true →
    (∃ narrow ∈ matching limits topic, narrower narrow.topic wide.topic = true) → Outranked topic before wide after
  longest : ∀ narrow ∈ matching limits topic,
    (∀ other ∈ matching limits topic, other ≠ narrow → narrower narrow.topic other.topic = true) →
      ∀ other ∈ matching limits topic, other ≠ narrow → other.topic.length < narrow.topic.length

theorem matching_iff (limits : List RlimitConfig) (topic : Bytes) (limit : RlimitConfig) :
    limit ∈ matching limits topic ↔ limit ∈ limits ∧ isFilterMatched limit.topic topic = true :=
  List.mem_filter

theorem first_longest_not_outranked (limits : List RlimitConfig) (topic : Bytes) (limit : RlimitConfig) (before after : List RlimitConfig)
    (first : FirstLongest limits topic limit before after) : ¬ Outranked topic before limit after := by
  rintro (⟨other, inside, longer⟩ | ⟨other, inside, longer⟩)
  · obtain ⟨earlier, matched⟩ := (matching_iff before topic other).mp inside
    exact Nat.not_le_of_lt (first.earlier other earlier matched) longer
  · obtain ⟨later, matched⟩ := (matching_iff after topic other).mp inside
    exact Nat.not_lt_of_le (first.later other later matched) longer

theorem unranked_first_longest (limits : List RlimitConfig) (topic : Bytes) (limit : RlimitConfig) (before after : List RlimitConfig)
    (split : limits = before ++ limit :: after) (matched : isFilterMatched limit.topic topic = true)
    (best : ¬ Outranked topic before limit after) : FirstLongest limits topic limit before after := by
  rw [Outranked, not_or] at best
  refine ⟨split, matched, ?_, ?_⟩
  · intro other earlier hit
    by_contra longer
    exact best.1 ⟨other, (matching_iff before topic other).mpr ⟨earlier, hit⟩, Nat.le_of_not_lt longer⟩
  · intro other later hit
    by_contra longer
    exact best.2 ⟨other, (matching_iff after topic other).mpr ⟨later, hit⟩, Nat.lt_of_not_le longer⟩

theorem first_longest_unique (limits : List RlimitConfig) (topic : Bytes) (left right : RlimitConfig)
    (leftBefore leftAfter rightBefore rightAfter : List RlimitConfig) (leftFirst : FirstLongest limits topic left leftBefore leftAfter)
    (rightFirst : FirstLongest limits topic right rightBefore rightAfter) : left = right := by
  have leftBound := fun inside => first_longest_bound limits topic left leftBefore leftAfter leftFirst right inside rightFirst.matched
  have rightBound := fun inside => first_longest_bound limits topic right rightBefore rightAfter rightFirst left inside leftFirst.matched
  have leftInside : left ∈ limits := by rw [leftFirst.split]; simp
  have rightInside : right ∈ limits := by rw [rightFirst.split]; simp
  have same := Nat.le_antisymm (rightBound leftInside) (leftBound rightInside)
  rcases List.append_eq_append_iff.mp (leftFirst.split.symm.trans rightFirst.split) with ⟨middle, before, after⟩ | ⟨middle, before, after⟩
  · cases middle with
    | nil => exact (List.cons.inj after).1
    | cons head middle =>
        have early := rightFirst.earlier left (by rw [before, (List.cons.inj after).1]; simp) leftFirst.matched
        omega
  · cases middle with
    | nil => exact (List.cons.inj after).1.symm
    | cons head middle =>
        have early := leftFirst.earlier right (by rw [before, (List.cons.inj after).1]; simp) rightFirst.matched
        omega

theorem not_narrower_than_topic (limits : List RlimitConfig) (topic : Bytes) (limit other : RlimitConfig) (valid : isValidTopic topic = true)
    (equal : limit.topic = topic) (hit : other ∈ matching limits topic) : ¬ topicsOf other.topic ⊂ topicsOf limit.topic := by
  intro smaller
  obtain ⟨name, ⟨_, matched⟩, outside⟩ := Set.exists_of_ssubset smaller
  rw [equal, topic_matched_iff topic name valid] at matched
  exact outside (matched ▸ ⟨valid, ((matching_iff limits topic other).mp hit).2⟩)

theorem equal_matching (limits : List RlimitConfig) (topic : Bytes) (limit : RlimitConfig) (valid : isValidTopic topic = true)
    (inside : limit ∈ limits) (equal : limit.topic = topic) : limit ∈ matching limits topic := by
  rw [matching_iff, equal, topic_matched_iff topic topic valid]
  exact ⟨inside, rfl⟩

theorem narrowest_is_equal (limits : List RlimitConfig) (topic : Bytes) (limit equal : RlimitConfig) (valid : isValidTopic topic = true)
    (narrowest : Narrowest limits topic limit) (inside : equal ∈ limits) (same : equal.topic = topic) : equal = limit := by
  by_contra different
  have hit := equal_matching limits topic equal valid inside same
  exact not_narrower_than_topic limits topic equal limit valid same narrowest.1 (narrowest.2 equal hit different)

theorem matching_found (controller : AccessController) (topic : Bytes) (limit : RlimitConfig) (valid : isValidTopic topic = true)
    (hit : limit ∈ matching controller.limitConfigs topic) :
    ∃ chosen, getRateLimitForTopic controller topic = some chosen ∧ chosen ∈ matching controller.limitConfigs topic ∧
      (chosen.topic = topic ∨ (∀ other ∈ controller.limitConfigs, other.topic ≠ topic) ∧
        ∃ before after, FirstLongest controller.limitConfigs topic chosen before after) := by
  have found := rate_limit_found controller topic
  obtain ⟨inside, matched⟩ := (matching_iff _ topic limit).mp hit
  generalize getRateLimitForTopic controller topic = result at found
  cases found with
  | missing nothing =>
      rw [(nothing limit inside).2] at matched
      cases matched
  | equal chosen first =>
      obtain ⟨present, same⟩ := find_equal controller.limitConfigs topic chosen first
      exact ⟨chosen, rfl, equal_matching _ topic chosen valid present same, .inl same⟩
  | longest chosen before after unequal first =>
      have present : chosen ∈ controller.limitConfigs := by rw [first.split]; simp
      exact ⟨chosen, rfl, (matching_iff _ topic chosen).mpr ⟨present, first.matched⟩, .inr ⟨unequal, before, after, first⟩⟩

theorem narrowest_found (controller : AccessController) (topic : Bytes) (limit : RlimitConfig) (valid : isValidTopic topic = true)
    (narrowest : Narrowest controller.limitConfigs topic limit)
    (longest : (∀ other ∈ controller.limitConfigs, other.topic ≠ topic) →
      ∀ other ∈ matching controller.limitConfigs topic, other ≠ limit → other.topic.length < limit.topic.length) :
    getRateLimitForTopic controller topic = some limit := by
  obtain ⟨inside, matched⟩ := (matching_iff _ topic limit).mp narrowest.1
  obtain ⟨chosen, result, hit, same | ⟨unequal, before, after, first⟩⟩ := matching_found controller topic limit valid narrowest.1
  · rw [result, narrowest_is_equal _ topic limit chosen valid narrowest ((matching_iff _ topic chosen).mp hit).1 same]
  · have bound := first_longest_bound _ topic chosen before after first limit inside matched
    by_contra different
    have shorter := longest unequal chosen hit (fun same => different (same ▸ result))
    omega

theorem matching_perm (limits permuted : List RlimitConfig) (topic : Bytes) (order : permuted.Perm limits) (limit : RlimitConfig) :
    limit ∈ matching permuted topic ↔ limit ∈ matching limits topic := by
  rw [matching_iff, matching_iff, order.mem_iff]

theorem narrowest_perm (limits permuted : List RlimitConfig) (topic : Bytes) (order : permuted.Perm limits) (limit : RlimitConfig)
    (narrowest : Narrowest limits topic limit) : Narrowest permuted topic limit := by
  refine ⟨(matching_perm limits permuted topic order limit).mpr narrowest.1, ?_⟩
  intro other hit
  exact narrowest.2 other ((matching_perm limits permuted topic order other).mp hit)

theorem closest_wins_finds (controller : AccessController) (topic : Bytes) (limit : RlimitConfig) (valid : isValidTopic topic = true)
    (wins : ClosestWins controller topic) (narrowest : Narrowest controller.limitConfigs topic limit) :
    getRateLimitForTopic controller topic = some limit := by
  obtain ⟨chosen, result, hit, _⟩ := matching_found controller topic limit valid narrowest.1
  by_contra different
  exact wins chosen result limit narrowest.1 (narrowest.2 chosen hit (fun same => different (same ▸ result)))

theorem order_free_longest (controller : AccessController) (topic : Bytes) (limit other : RlimitConfig) (valid : isValidTopic topic = true)
    (unequal : ∀ other ∈ controller.limitConfigs, other.topic ≠ topic) (wins : ClosestWins controller topic) (free : OrderFree controller topic)
    (narrowest : Narrowest controller.limitConfigs topic limit) (hit : other ∈ matching controller.limitConfigs topic)
    (different : other ≠ limit) : other.topic.length < limit.topic.length := by
  obtain ⟨inside, matched⟩ := (matching_iff _ topic other).mp hit
  have order := (List.perm_cons_erase inside).symm
  have kept := free limit narrowest _ order
  rw [closest_wins_finds controller topic limit valid wins narrowest] at kept
  have still := (narrowest_perm _ _ topic order limit narrowest).1
  obtain ⟨chosen, result, _, same | ⟨_, before, after, first⟩⟩ :=
    matching_found { controller with limitConfigs := other :: controller.limitConfigs.erase other } topic limit valid still
  · rw [kept] at result
    cases result
    exact absurd same (unequal limit ((matching_iff _ topic limit).mp narrowest.1).1)
  · rw [kept] at result
    cases result
    have split := first.split
    cases before with
    | nil => exact absurd (List.cons.inj split).1 different
    | cons head before =>
        refine first.earlier other ?_ matched
        rw [(List.cons.inj split).1]
        exact List.mem_cons_self

theorem matching_narrower_iff (limits : List RlimitConfig) (topic : Bytes) (narrow wide : RlimitConfig)
    (validLimits : ∀ limit ∈ limits, isValidTopicOrFilter limit.topic = true) (valid : isValidTopic topic = true)
    (narrowHit : narrow ∈ matching limits topic) (wideHit : wide ∈ matching limits topic) :
    topicsOf narrow.topic ⊂ topicsOf wide.topic ↔ narrower narrow.topic wide.topic = true := by
  obtain ⟨narrowInside, narrowMatched⟩ := (matching_iff limits topic narrow).mp narrowHit
  obtain ⟨wideInside, wideMatched⟩ := (matching_iff limits topic wide).mp wideHit
  exact ssubset_iff_narrower _ _ topic (validLimits narrow narrowInside) (validLimits wide wideInside) valid narrowMatched wideMatched

theorem wins_outranked (controller : AccessController) (topic : Bytes) (before after : List RlimitConfig) (wide narrow : RlimitConfig)
    (valid : isValidTopic topic = true) (unequal : ∀ other ∈ controller.limitConfigs, other.topic ≠ topic)
    (wins : ClosestWins controller topic) (split : controller.limitConfigs = before ++ wide :: after)
    (matched : isFilterMatched wide.topic topic = true) (hit : narrow ∈ matching controller.limitConfigs topic)
    (smaller : topicsOf narrow.topic ⊂ topicsOf wide.topic) : Outranked topic before wide after := by
  by_contra best
  have first := unranked_first_longest _ topic wide before after split matched best
  obtain ⟨chosen, result, chosenHit, same | ⟨_, chosenBefore, chosenAfter, chosenFirst⟩⟩ := matching_found controller topic narrow valid hit
  · exact unequal chosen ((matching_iff _ topic chosen).mp chosenHit).1 same
  · rw [first_longest_unique _ topic chosen wide _ _ _ _ chosenFirst first] at result
    exact wins wide result narrow hit smaller

theorem length_decides_wins (controller : AccessController) (topic : Bytes)
    (validLimits : ∀ limit ∈ controller.limitConfigs, isValidTopicOrFilter limit.topic = true) (valid : isValidTopic topic = true)
    (decides : (∀ limit ∈ controller.limitConfigs, limit.topic ≠ topic) → LengthDecides controller.limitConfigs topic) :
    ClosestWins controller topic := by
  intro limit result other hit smaller
  obtain ⟨chosen, same, chosenHit, equal | ⟨unequal, before, after, first⟩⟩ := matching_found controller topic other valid hit
  · rw [result] at same
    cases same
    exact not_narrower_than_topic _ topic limit other valid equal hit smaller
  · rw [result] at same
    cases same
    have syntactic := (matching_narrower_iff _ topic other limit validLimits valid hit chosenHit).mp smaller
    exact first_longest_not_outranked _ topic limit before after first
      ((decides unequal).outranked before limit after first.split first.matched ⟨other, hit, syntactic⟩)

theorem narrowest_iff (limits : List RlimitConfig) (topic : Bytes) (limit : RlimitConfig)
    (validLimits : ∀ limit ∈ limits, isValidTopicOrFilter limit.topic = true) (valid : isValidTopic topic = true)
    (hit : limit ∈ matching limits topic) :
    Narrowest limits topic limit ↔ ∀ other ∈ matching limits topic, other ≠ limit → narrower limit.topic other.topic = true := by
  have syntactic := fun other => matching_narrower_iff limits topic limit other validLimits valid hit
  refine ⟨fun narrowest other inside different => ?_, fun narrowest => ⟨hit, fun other inside different => ?_⟩⟩
  · exact (syntactic other inside).mp (narrowest.2 other inside different)
  · exact (syntactic other inside).mpr (narrowest other inside different)

theorem length_decides_order_free (controller : AccessController) (topic : Bytes)
    (validLimits : ∀ limit ∈ controller.limitConfigs, isValidTopicOrFilter limit.topic = true) (valid : isValidTopic topic = true)
    (decides : (∀ limit ∈ controller.limitConfigs, limit.topic ≠ topic) → LengthDecides controller.limitConfigs topic) :
    OrderFree controller topic := by
  intro limit narrowest permuted order
  have smallest := (narrowest_iff _ topic limit validLimits valid narrowest.1).mp narrowest
  have longest : (∀ other ∈ controller.limitConfigs, other.topic ≠ topic) →
      ∀ other ∈ matching controller.limitConfigs topic, other ≠ limit → other.topic.length < limit.topic.length :=
    fun unequal => (decides unequal).longest limit narrowest.1 smallest
  rw [narrowest_found controller topic limit valid narrowest longest]
  refine narrowest_found _ topic limit valid (narrowest_perm _ permuted topic order limit narrowest) ?_
  intro unequal other hit
  exact longest (fun other inside => unequal other (order.mem_iff.mpr inside)) other ((matching_perm _ permuted topic order other).mp hit)

theorem closest_limit_iff (controller : AccessController) (topic : Bytes)
    (validLimits : ∀ limit ∈ controller.limitConfigs, isValidTopicOrFilter limit.topic = true) (valid : isValidTopic topic = true) :
    ClosestWins controller topic ∧ OrderFree controller topic ↔
      ((∀ limit ∈ controller.limitConfigs, limit.topic ≠ topic) → LengthDecides controller.limitConfigs topic) := by
  constructor
  · intro ⟨wins, free⟩ unequal
    refine ⟨?_, ?_⟩
    · rintro before wide after split matched ⟨narrow, hit, smaller⟩
      have wideHit : wide ∈ matching controller.limitConfigs topic := (matching_iff _ topic wide).mpr ⟨by rw [split]; simp, matched⟩
      exact wins_outranked controller topic before after wide narrow valid unequal wins split matched hit
        ((matching_narrower_iff _ topic narrow wide validLimits valid hit wideHit).mpr smaller)
    · intro narrow hit smallest other otherHit different
      exact order_free_longest controller topic narrow other valid unequal wins free
        ((narrowest_iff _ topic narrow validLimits valid hit).mpr smallest) otherHit different
  · intro decides
    exact ⟨length_decides_wins controller topic validLimits valid decides, length_decides_order_free controller topic validLimits valid decides⟩

def limitedTo (limitConfigs : List RlimitConfig) : AccessController :=
  { disableAuth := false, tokenLoaded := true, subject := [], publishAcl := [], subscribeAcl := [], limitConfigs }

-- "a/#" is as long as "a/+" and stands before it.
theorem hash_before_plus_chosen :
    ∃ wide narrow : RlimitConfig, (∀ limit ∈ [wide, narrow], isValidTopicOrFilter limit.topic = true) ∧ isValidTopic (str "a/b") = true ∧
      getRateLimitForTopic (limitedTo [wide, narrow]) (str "a/b") = some wide ∧ isFilterMatched narrow.topic (str "a/b") = true ∧
      topicsOf narrow.topic ⊂ topicsOf wide.topic := by
  refine ⟨⟨str "a/#", 10, 1⟩, ⟨str "a/+", 10, 5⟩, by decide, by decide, by decide, by decide, ?_⟩
  exact (ssubset_iff_narrower _ _ (str "a/b") (by decide) (by decide) (by decide) (by decide) (by decide)).mpr (by decide)

theorem longer_entry_closest :
    ClosestWins (limitedTo [⟨str "a/#", 10, 1⟩, ⟨str "a/b/+", 10, 5⟩]) (str "a/b/c") ∧
      OrderFree (limitedTo [⟨str "a/#", 10, 1⟩, ⟨str "a/b/+", 10, 5⟩]) (str "a/b/c") := by
  refine (closest_limit_iff _ _ (by decide) (by decide)).mpr (fun _ => ⟨?_, by decide⟩)
  intro before wide after split _ narrow
  cases before with
  | nil =>
      obtain ⟨rfl, rfl⟩ := List.cons.inj split
      exact .inr (by decide)
  | cons head before =>
      have last := (List.cons.inj split).2
      cases before with
      | nil =>
          obtain ⟨rfl, _⟩ := List.cons.inj last
          exact absurd narrow (by decide)
      | cons head before => simp at last

end Eventhub
