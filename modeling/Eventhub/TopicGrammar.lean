import Eventhub.AclContainment

set_option autoImplicit false

namespace Eventhub

-- [A-Za-z0-9_/-]
def TopicByte (c : UInt8) : Prop :=
  (65 ≤ c ∧ c ≤ 90) ∨ (97 ≤ c ∧ c ≤ 122) ∨ (48 ≤ c ∧ c ≤ 57) ∨ c = underscore ∨ c = slash ∨ c = hyphen

def isWildcard (c : UInt8) : Bool := c = plus || c = hash

structure TopicGrammar (name : Bytes) : Prop where
  present : name ≠ []
  starts : name.head? ≠ some slash
  ends : name.getLast? ≠ some slash
  bytes : ∀ c ∈ name, TopicByte c

-- The documented rules for a filter, apart from the one about its last byte.
structure FilterRules (name : Bytes) : Prop where
  present : name ≠ []
  starts : name.head? ≠ some slash
  bytes : ∀ c ∈ name, TopicByte c ∨ isWildcard c = true
  wildcard : ∃ c ∈ name, isWildcard c = true
  whole : ∀ level ∈ name.splitOn slash, (∃ c ∈ level, isWildcard c = true) → level = [plus] ∨ level = [hash]
  hashLast : [hash] ∉ (name.splitOn slash).dropLast

structure FilterGrammar (name : Bytes) : Prop extends FilterRules name where
  ends : name.getLast? ≠ some slash

theorem topic_byte_iff (c : UInt8) : TopicByte c ↔ topicChar c = true := by
  simp only [TopicByte, topicChar, isalnum, isalpha, isdigit, Bool.or_eq_true, Bool.and_eq_true, decide_eq_true_eq]
  tauto

theorem level_char_plain (c : UInt8) (plain : levelChar c = true) : isWildcard c = false := by
  rw [isWildcard, Bool.or_eq_false_iff]
  constructor
  · exact decide_eq_false (fun same => absurd plain (by rw [same]; decide))
  · exact decide_eq_false (fun same => absurd plain (by rw [same]; decide))

theorem topic_char_plain (c : UInt8) (known : topicChar c = true) : isWildcard c = false := by
  rcases (topic_char_level c).mp known with plain | separator
  · exact level_char_plain c plain
  · rw [separator]
    decide

theorem filter_loop_wildcard (prev : Option UInt8) (hasWildcard result : Bool) (rest : Bytes)
    (accepted : filterLoop prev hasWildcard rest = some result) : result = (hasWildcard || rest.any isWildcard) := by
  induction rest generalizing prev hasWildcard with
  | nil =>
      rw [filterLoop, Option.some.injEq] at accepted
      simp [accepted]
  | cons c rest ih =>
      rcases (filter_loop_cons prev hasWildcard result c rest).mp accepted with ⟨isPlus, _, _, next⟩ | ⟨isHash, _, _, next⟩ | ⟨known, next⟩
      · rw [ih _ _ next, List.any_cons, isPlus]
        simp [isWildcard]
      · rw [ih _ _ next, List.any_cons, isHash]
        simp [isWildcard]
      · rw [ih _ _ next, List.any_cons, topic_char_plain c known, Bool.false_or]

theorem split_loop_head (level rest : Bytes) :
    ∃ more, splitLoop level rest = (level ++ rest.takeWhile (· ≠ slash)) :: more ∧
      (more = [] ↔ rest.dropWhile (· ≠ slash) = []) := by
  induction rest generalizing level with
  | nil => exact ⟨[], by simp [splitLoop], by simp⟩
  | cons c rest ih =>
      by_cases separator : c = slash
      · refine ⟨splitLoop [] rest, by simp [splitLoop, separator], ?_⟩
        rw [split_loop_spec]
        simp [separator, List.splitOn_ne_nil]
      · obtain ⟨more, shape, last⟩ := ih (level ++ [c])
        refine ⟨more, ?_, ?_⟩
        · rw [splitLoop, if_neg separator, shape]
          simp [separator]
        · rw [last]
          simp [separator]

theorem take_while_nil (rest : Bytes) (closed : rest.takeWhile (· ≠ slash) = []) : rest = [] ∨ rest.head? = some slash := by
  cases rest with
  | nil => exact .inl rfl
  | cons c rest =>
      by_cases separator : c = slash
      · exact .inr (by rw [separator]; rfl)
      · simp [separator] at closed

theorem opens_level (level rest : Bytes) (c only : UInt8) (whole : level ++ [c] ++ rest.takeWhile (· ≠ slash) = [only]) :
    level = [] ∧ c = only ∧ (rest = [] ∨ rest.head? = some slash) := by
  have size := congrArg List.length whole
  simp only [List.length_append, List.length_singleton] at size
  have opening : level = [] := List.length_eq_zero_iff.mp (by omega)
  have closed : rest.takeWhile (· ≠ slash) = [] := List.length_eq_zero_iff.mp (by omega)
  rw [opening, closed] at whole
  exact ⟨opening, (List.cons.inj whole).1, take_while_nil rest closed⟩

theorem filter_loop_accepts (prev : Option UInt8) (hasWildcard : Bool) (level rest : Bytes)
    (fresh : (prev = none ∨ prev = some slash) ↔ level = []) (levels : WildLevels (splitLoop level rest)) :
    ∃ result, filterLoop prev hasWildcard rest = some result := by
  induction rest generalizing prev hasWildcard level with
  | nil => exact ⟨hasWildcard, rfl⟩
  | cons c rest ih =>
      by_cases separator : c = slash
      · rw [splitLoop, if_pos separator] at levels
        have later : WildLevels (splitLoop [] rest) := by
          refine ⟨fun other member => levels.1 other (List.mem_cons_of_mem level member), fun member => levels.2 ?_⟩
          rw [List.dropLast_cons_of_ne_nil (by rw [split_loop_spec]; simp [List.splitOn_ne_nil])]
          exact List.mem_cons_of_mem level member
        obtain ⟨result, accepted⟩ := ih (some c) hasWildcard [] (by simp [separator]) later
        exact ⟨result, (filter_loop_cons _ _ _ _ _).mpr (.inr (.inr ⟨by rw [separator]; decide, accepted⟩))⟩
      · rw [splitLoop, if_neg separator] at levels
        have continues : (some c = none ∨ some c = some slash) ↔ level ++ [c] = [] := by simp [separator]
        have next := fun wildcard => ih (some c) wildcard (level ++ [c]) continues levels
        obtain ⟨more, shape, last⟩ := split_loop_head (level ++ [c]) rest
        have first : level ++ [c] ++ rest.takeWhile (· ≠ slash) ∈ splitLoop (level ++ [c]) rest := by
          rw [shape]
          exact List.mem_cons_self
        rcases levels.1 _ first with plain | isPlus | isHash
        · obtain ⟨result, accepted⟩ := next hasWildcard
          refine ⟨result, (filter_loop_cons _ _ _ _ _).mpr (.inr (.inr ⟨?_, accepted⟩))⟩
          exact (topic_char_level c).mpr (.inl (plain c (by simp)))
        · obtain ⟨opening, same, closed⟩ := opens_level level rest c plus isPlus
          obtain ⟨result, accepted⟩ := next true
          exact ⟨result, (filter_loop_cons _ _ _ _ _).mpr (.inl ⟨same, fresh.mpr opening, closed, accepted⟩)⟩
        · obtain ⟨opening, same, closed⟩ := opens_level level rest c hash isHash
          obtain ⟨result, accepted⟩ := next true
          refine ⟨result, (filter_loop_cons _ _ _ _ _).mpr (.inr (.inl ⟨same, fresh.mpr opening, ?_, accepted⟩))⟩
          -- A separator would leave the "#" before another level.
          refine closed.resolve_right (fun separated => levels.2 ?_)
          have others : more ≠ [] := by
            intro none
            cases rest with
            | nil => cases separated
            | cons d rest =>
                have slashed : d = slash := Option.some.inj separated
                simp [slashed] at last
                exact last none
          rw [shape, List.dropLast_cons_of_ne_nil others, isHash]
          exact List.mem_cons_self

theorem wild_levels_bytes (name : Bytes) (levels : WildLevels (splitLevels name)) (c : UInt8) (inside : c ∈ name) :
    TopicByte c ∨ isWildcard c = true := by
  rw [← join_split_levels name] at inside
  rcases mem_join_levels _ c inside with separator | ⟨level, member, here⟩
  · exact .inl (.inr (.inr (.inr (.inr (.inl separator)))))
  · rcases levels.1 level member with plain | isPlus | isHash
    · exact .inl ((topic_byte_iff c).mpr ((topic_char_level c).mpr (.inl (plain c here))))
    · rw [isPlus, List.mem_singleton] at here
      exact .inr (by rw [here]; decide)
    · rw [isHash, List.mem_singleton] at here
      exact .inr (by rw [here]; decide)

theorem valid_filter_iff (name : Bytes) : isValidTopicFilter name = true ↔ FilterRules name := by
  constructor
  · intro valid
    obtain ⟨levels, present, starts⟩ := valid_name_levels name (by rw [isValidTopicOrFilter, valid, Bool.or_true])
    refine ⟨present, starts, wild_levels_bytes name levels, ?_, ?_, by rw [← split_levels_eq]; exact levels.2⟩
    · rw [isValidTopicFilter, if_neg (by simpa using present), if_neg starts] at valid
      cases accepted : filterLoop none false name with
      | none =>
          rw [accepted] at valid
          cases valid
      | some result =>
          rw [accepted, Option.getD_some, filter_loop_wildcard none false result name accepted, Bool.false_or, List.any_eq_true] at valid
          exact valid
    · rw [← split_levels_eq]
      rintro level member ⟨c, inside, wild⟩
      rcases levels.1 level member with plain | whole
      · have clean := level_char_plain c (plain c inside)
        rw [wild] at clean
        cases clean
      · exact whole
  · intro rules
    have levels : WildLevels (splitLevels name) := by
      rw [split_levels_eq]
      refine ⟨fun level member => ?_, rules.hashLast⟩
      by_cases wild : ∃ c ∈ level, isWildcard c = true
      · exact .inr (rules.whole level member wild)
      · refine .inl (fun c inside => ?_)
        rw [← split_levels_eq] at member
        have known := (rules.bytes c ((split_level_sublist name level member).mem inside)).resolve_right (fun bad => wild ⟨c, inside, bad⟩)
        refine ((topic_char_level c).mp ((topic_byte_iff c).mp known)).resolve_right (fun separator => ?_)
        exact split_levels_plain name level member (separator ▸ inside)
    obtain ⟨result, accepted⟩ := filter_loop_accepts none false [] name (by simp) levels
    have wildcard : result = true := by
      rw [filter_loop_wildcard none false result name accepted, Bool.false_or, List.any_eq_true]
      exact rules.wildcard
    rw [isValidTopicFilter, if_neg (by simpa using rules.present), if_neg rules.starts, accepted, wildcard]
    rfl

theorem known_byte_ascii (c : UInt8) (known : TopicByte c ∨ isWildcard c = true) : c < 128 := by
  rw [isWildcard, Bool.or_eq_true, decide_eq_true_eq, decide_eq_true_eq] at known
  rcases known with (⟨_, upper⟩ | ⟨_, upper⟩ | ⟨_, upper⟩ | rfl | rfl | rfl) | rfl | rfl
  · exact UInt8.lt_of_le_of_lt upper (by decide)
  · exact UInt8.lt_of_le_of_lt upper (by decide)
  · exact UInt8.lt_of_le_of_lt upper (by decide)
  all_goals decide

theorem valid_name_ascii (name : Bytes) (valid : isValidTopicOrFilter name = true) : ∀ c ∈ name, c < 128 := by
  obtain ⟨levels, _⟩ := valid_name_levels name valid
  exact fun c inside => known_byte_ascii c (wild_levels_bytes name levels c inside)

theorem valid_topic_grammar (name : Bytes) : isValidTopic name = true ↔ TopicGrammar name := by
  rw [valid_topic_iff]
  constructor
  · rintro ⟨present, starts, ends, chars⟩
    exact ⟨present, starts, ends, fun c inside => (topic_byte_iff c).mpr (chars c inside)⟩
  · intro grammar
    exact ⟨grammar.present, grammar.starts, grammar.ends, fun c inside => (topic_byte_iff c).mp (grammar.bytes c inside)⟩

-- The filter validator does not look at the last byte.
theorem validators_grammar_iff (name : Bytes) :
    ((isValidTopic name = true ↔ TopicGrammar name) ∧ (isValidTopicFilter name = true ↔ FilterGrammar name) ∧
      ¬ (isValidTopic name = true ∧ isValidTopicFilter name = true)) ↔
      name.getLast? ≠ some slash ∨ ¬ FilterRules name := by
  have apart : ¬ (isValidTopic name = true ∧ isValidTopicFilter name = true) := by
    rintro ⟨topic, filter⟩
    obtain ⟨c, inside, wild⟩ := ((valid_filter_iff name).mp filter).wildcard
    have clean := topic_char_plain c (((valid_topic_iff name).mp topic).2.2.2 c inside)
    rw [wild] at clean
    cases clean
  have grammar : FilterGrammar name ↔ FilterRules name ∧ name.getLast? ≠ some slash :=
    ⟨fun whole => ⟨whole.toFilterRules, whole.ends⟩, fun both => ⟨both.1, both.2⟩⟩
  rw [valid_filter_iff, grammar]
  have topic := valid_topic_grammar name
  rw [valid_filter_iff] at apart
  tauto

theorem trailing_separator_accepted : isValidTopicFilter (str "+/") = true ∧ ¬ FilterGrammar (str "+/") :=
  ⟨by decide, fun grammar => grammar.ends (by decide)⟩

def Filled (levels replaced : List Bytes) : Prop :=
  List.Forall₂ (fun level text => if level = [plus] then slash ∉ text else text = level) levels replaced

inductive Obtained (filterName topicName : Bytes) : Prop where
  | plain (replaced : List Bytes) (ends : (filterName.splitOn slash).getLast? ≠ some [hash])
      (filled : Filled (filterName.splitOn slash) replaced) (text : topicName = [slash].intercalate replaced)
  | lone (only : filterName = [hash])
  | parent (replaced : List Bytes) (stem : (filterName.splitOn slash).dropLast ≠ [])
      (ends : (filterName.splitOn slash).getLast? = some [hash])
      (filled : Filled (filterName.splitOn slash).dropLast replaced) (text : topicName = [slash].intercalate replaced)
  | below (replaced : List Bytes) (rest : Bytes) (stem : (filterName.splitOn slash).dropLast ≠ [])
      (ends : (filterName.splitOn slash).getLast? = some [hash])
      (filled : Filled (filterName.splitOn slash).dropLast replaced) (text : topicName = [slash].intercalate replaced ++ slash :: rest)

theorem join_levels_append (first second : List Bytes) (before : first ≠ []) (after : second ≠ []) :
    joinLevels (first ++ second) = joinLevels first ++ slash :: joinLevels second := by
  induction first with
  | nil => exact absurd rfl before
  | cons level rest ih =>
      cases rest with
      | nil =>
          rw [List.singleton_append, join_levels_cons level second after]
          simp [joinLevels]
      | cons next more =>
          rw [List.cons_append, join_levels_cons level _ (by simp), ih (by simp), join_levels_cons level _ (by simp), List.append_assoc,
            List.cons_append]

theorem filled_covers (levels replaced : List Bytes) (filled : Filled levels replaced) : LevelsCover levels replaced := by
  refine List.Forall₂.imp ?_ filled
  intro level text related
  split at related
  · exact .inr ‹_›
  · exact .inl related.symm

theorem filled_plain (levels replaced : List Bytes) (plain : ∀ level ∈ levels, slash ∉ level) (filled : Filled levels replaced) :
    ∀ text ∈ replaced, slash ∉ text := by
  induction filled with
  | nil => simp
  | cons related _ ih =>
      rename_i level text levels replaced
      rw [List.forall_mem_cons] at plain ⊢
      refine ⟨?_, ih plain.2⟩
      split at related
      · exact related
      · rw [related]
        exact plain.1

theorem covers_filled (levels replaced : List Bytes) (plain : ∀ text ∈ replaced, slash ∉ text) (covers : LevelsCover levels replaced) :
    Filled levels replaced := by
  induction covers with
  | nil => exact .nil
  | cons related _ ih =>
      rename_i level text levels replaced
      rw [List.forall_mem_cons] at plain
      refine .cons ?_ (ih plain.2)
      split
      · exact plain.1
      · exact (related.resolve_right ‹_›).symm

theorem filled_present (levels replaced : List Bytes) (present : levels ≠ []) (filled : Filled levels replaced) : replaced ≠ [] := by
  intro none
  rw [none] at filled
  exact present (List.forall₂_nil_right_iff.mp filled)

theorem holes_cover (levels : List Bytes) : LevelsCover (List.replicate levels.length [plus]) levels := by
  induction levels with
  | nil => exact .nil
  | cons level levels ih => exact .cons (.inr rfl) ih

theorem split_text (replaced : List Bytes) (present : replaced ≠ []) (plain : ∀ text ∈ replaced, slash ∉ text) (rest : Bytes) :
    splitLevels (joinLevels replaced ++ slash :: rest) = replaced ++ splitLevels rest := by
  have text : joinLevels replaced ++ slash :: rest = joinLevels (replaced ++ splitLevels rest) := by
    rw [join_levels_append replaced _ present (split_levels_nonempty rest), join_split_levels]
  rw [text]
  refine split_join_levels _ (List.append_ne_nil_of_left_ne_nil present _) ?_
  exact List.forall_mem_append.mpr ⟨plain, split_levels_plain rest⟩

theorem plain_obtained (filterName topicName : Bytes) (valid : isValidTopicOrFilter filterName = true)
    (ending : endsInHash filterName = false) : isFilterMatched filterName topicName = true ↔ Obtained filterName topicName := by
  have ends : (filterName.splitOn slash).getLast? ≠ some [hash] := by
    rw [← split_levels_eq]
    exact of_decide_eq_false ending
  rw [filter_matched_iff, filterPattern, matches_levels_cover _ _ (plain_pattern_levels filterName valid ending)]
  constructor
  · intro covers
    refine .plain (splitLevels topicName) ends ?_ (join_split_levels topicName).symm
    rw [← split_levels_eq]
    exact covers_filled _ _ (split_levels_plain topicName) covers
  · intro obtained
    cases obtained with
    | plain replaced _ filled text =>
        rw [← split_levels_eq] at filled
        have split : splitLevels topicName = replaced := by
          rw [text]
          exact split_join_levels replaced (filled_present _ _ (split_levels_nonempty filterName) filled)
            (filled_plain _ _ (split_levels_plain filterName) filled)
        rw [split]
        exact filled_covers _ _ filled
    | lone only =>
        rw [only] at ends
        exact absurd (by decide) ends
    | parent replaced stem hashed => exact absurd hashed ends
    | below replaced rest stem hashed => exact absurd hashed ends

theorem hash_obtained (filterName topicName : Bytes) (valid : isValidTopicOrFilter filterName = true)
    (ending : endsInHash filterName = true) : isFilterMatched filterName topicName = true ↔ Obtained filterName topicName := by
  have ends : (filterName.splitOn slash).getLast? = some [hash] := by
    rw [← split_levels_eq]
    exact of_decide_eq_true ending
  obtain ⟨levels, _⟩ := hash_pattern_levels filterName valid ending
  have plain : ∀ level ∈ (splitLevels filterName).dropLast, slash ∉ level :=
    fun level member => split_levels_plain filterName level (List.mem_of_mem_dropLast member)
  rw [hash_pattern_matches filterName topicName valid ending]
  constructor
  · rintro ⟨count, covers⟩
    have front := List.forall₂_take (splitLevels filterName).dropLast.length covers
    rw [expandLevels, List.take_left] at front
    generalize stem : (splitLevels filterName).dropLast = general at levels front
    generalize replaced : (splitLevels topicName).take general.length = texts at front
    have whole := List.take_append_drop general.length (splitLevels topicName)
    rw [replaced] at whole
    by_cases lone : general = []
    · refine .lone ?_
      rw [← join_split_levels filterName, levels, lone]
      rfl
    · have filled : Filled (filterName.splitOn slash).dropLast texts := by
        rw [← split_levels_eq, stem]
        refine covers_filled _ _ (fun text member => ?_) front
        exact split_levels_plain topicName text (List.mem_of_mem_take (replaced ▸ member))
      have longer : (filterName.splitOn slash).dropLast ≠ [] := by
        rw [← split_levels_eq, stem]
        exact lone
      by_cases ended : (splitLevels topicName).drop general.length = []
      · refine .parent texts longer ends filled ?_
        rw [ended, List.append_nil] at whole
        rw [← join_split_levels topicName, ← whole]
        rfl
      · refine .below texts (joinLevels ((splitLevels topicName).drop general.length)) longer ends filled ?_
        have text := join_levels_append texts _ (filled_present _ _ longer filled) ended
        rw [whole, join_split_levels] at text
        exact text
  · intro obtained
    cases obtained with
    | plain replaced notHashed => exact absurd ends notHashed
    | lone only =>
        refine ⟨(splitLevels topicName).length, ?_⟩
        rw [expandLevels, only, show (splitLevels [hash]).dropLast = [] by decide, List.nil_append]
        exact holes_cover _
    | parent replaced stem _ filled text =>
        rw [← split_levels_eq] at stem filled
        refine ⟨0, ?_⟩
        rw [expandLevels, List.replicate_zero, List.append_nil, text]
        rw [show [slash].intercalate replaced = joinLevels replaced from rfl,
          split_join_levels replaced (filled_present _ _ stem filled) (filled_plain _ _ plain filled)]
        exact filled_covers _ _ filled
    | below replaced rest stem _ filled text =>
        rw [← split_levels_eq] at stem filled
        refine ⟨(splitLevels rest).length, ?_⟩
        rw [text, expandLevels, show [slash].intercalate replaced = joinLevels replaced from rfl,
          split_text replaced (filled_present _ _ stem filled) (filled_plain _ _ plain filled)]
        exact List.rel_append (filled_covers _ _ filled) (holes_cover _)

theorem matched_iff_obtained (filterName topicName : Bytes) (valid : isValidTopicOrFilter filterName = true) :
    (isFilterMatched filterName topicName = true ↔ Obtained filterName topicName) ∧
      ((∀ c ∈ filterName, isWildcard c = false) → (isFilterMatched filterName topicName = true ↔ topicName = filterName)) := by
  constructor
  · cases ending : endsInHash filterName with
    | false => exact plain_obtained filterName topicName valid ending
    | true => exact hash_obtained filterName topicName valid ending
  · intro plain
    have topic : isValidTopic filterName = true := by
      rcases Bool.or_eq_true_iff.mp valid with topic | filter
      · exact topic
      · obtain ⟨c, inside, wild⟩ := ((valid_filter_iff filterName).mp filter).wildcard
        rw [plain c inside] at wild
        cases wild
    rw [topic_matched_iff filterName topicName topic]
    exact eq_comm

theorem plus_and_hash_obtained :
    isValidTopicOrFilter (str "a/+/#") = true ∧
      (isFilterMatched (str "a/+/#") (str "a/b") = true ↔ Obtained (str "a/+/#") (str "a/b")) :=
  ⟨by decide, (matched_iff_obtained (str "a/+/#") (str "a/b") (by decide)).1⟩

def letterLevel (letter : UInt8) (level : Bytes) : Bytes := if level = [plus] ∨ level = [hash] then [letter] else level

def letterTopic (letter : UInt8) (name : Bytes) : Bytes := joinLevels ((splitLevels name).map (letterLevel letter))

theorem letter_topic_levels (letter : UInt8) (plain : letter ≠ slash) (name : Bytes) :
    splitLevels (letterTopic letter name) = (splitLevels name).map (letterLevel letter) := by
  refine split_join_levels _ (fun none => split_levels_nonempty name (List.map_eq_nil_iff.mp none)) ?_
  intro filled inside
  obtain ⟨level, member, rfl⟩ := List.mem_map.mp inside
  unfold letterLevel
  split
  · exact fun among => plain (List.mem_singleton.mp among).symm
  · exact split_levels_plain name level member

theorem letter_levels_matched (letter : UInt8) (levels : List Bytes) : matchLoop levels (levels.map (letterLevel letter)) = true := by
  induction levels with
  | nil => rfl
  | cons level levels ih =>
      rw [List.map_cons, matchLoop]
      by_cases many : level = [hash]
      · rw [if_pos many]
      · rw [if_neg many]
        by_cases one : level = [plus]
        · rw [if_pos one]
          exact ih
        · have same : letterLevel letter level = level := if_neg (fun wild => wild.elim one many)
          rw [if_neg one, same, if_neg (fun different => different rfl)]
          exact ih

theorem letter_topic_matched (letter : UInt8) (plain : letter ≠ slash) (name : Bytes) : isFilterMatched name (letterTopic letter name) = true := by
  rw [isFilterMatched, letter_topic_levels letter plain]
  exact letter_levels_matched letter _

theorem letter_topics_differ (first second : UInt8) (firstPlain : first ≠ slash) (secondPlain : second ≠ slash) (different : first ≠ second)
    (name : Bytes) (wild : isValidTopicFilter name = true) : letterTopic first name ≠ letterTopic second name := by
  intro same
  have levels := congrArg splitLevels same
  rw [letter_topic_levels first firstPlain, letter_topic_levels second secondPlain] at levels
  obtain ⟨c, inside, wildcard⟩ := ((valid_filter_iff name).mp wild).wildcard
  rw [← join_split_levels name] at inside
  rcases mem_join_levels _ c inside with separator | ⟨level, member, here⟩
  · rw [separator] at wildcard
    cases wildcard
  · have whole := ((valid_filter_iff name).mp wild).whole level (by rw [← split_levels_eq]; exact member) ⟨c, here, wildcard⟩
    have filled := List.map_inj_left.mp levels level member
    rw [letterLevel, letterLevel, if_pos whole, if_pos whole] at filled
    exact different (List.singleton_inj.mp filled)

end Eventhub
