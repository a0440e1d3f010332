import Eventhub.Bytes
import Eventhub.Lib.Wildcard

set_option autoImplicit false

namespace Eventhub

-- The level under construction is the slice input[start, i).
def splitLoop (level : Bytes) : Bytes → List Bytes
  | [] => [level]
  | c :: rest => if c = slash then level :: splitLoop [] rest else splitLoop (level ++ [c]) rest

def splitLevels (input : Bytes) : List Bytes := splitLoop [] input

def topicChar (c : UInt8) : Bool := isalnum c || c = hyphen || c = underscore || c = slash

def validTopicLoop : Bytes → Bool
  | [] => true
  | c :: rest =>
      if !topicChar c then false
      else if rest.isEmpty && c = slash then false
      else validTopicLoop rest

def isValidTopic (topicName : Bytes) : Bool :=
  if topicName.isEmpty then false
  else if topicName.head? = some slash then false
  else if plus ∈ topicName || hash ∈ topicName then false
  else validTopicLoop topicName

-- prev is the byte before the iterator (none at begin()); the result is none
-- where the source returns false, else the final hasWildcard.
def filterLoop (prev : Option UInt8) (hasWildcard : Bool) : Bytes → Option Bool
  | [] => some hasWildcard
  | c :: rest =>
      if !(topicChar c || c = plus || c = hash) then none
      else if c = plus then
        let prevOk := prev = none || prev = some slash
        let nextOk := rest = [] || rest.head? = some slash
        if !prevOk || !nextOk then none else filterLoop (some c) true rest
      else if c = hash then
        let prevOk := prev = none || prev = some slash
        if !prevOk || rest ≠ [] then none else filterLoop (some c) true rest
      else filterLoop (some c) hasWildcard rest

def isValidTopicFilter (filterName : Bytes) : Bool :=
  if filterName.isEmpty then false
  else if filterName.head? = some slash then false
  else (filterLoop none false filterName).getD false

def isValidTopicOrFilter (topic : Bytes) : Bool := isValidTopic topic || isValidTopicFilter topic

-- filterIndex and topicIndex advance together, so the two remaining slices
-- stand for the two indices.
def matchLoop : List Bytes → List Bytes → Bool
  | [], topicLevels => topicLevels.isEmpty
  | filterLevel :: filterLevels, topicLevels =>
      if filterLevel = [hash] then true
      else match topicLevels with
        | [] => false
        | topicLevel :: topicRest =>
            if filterLevel = [plus] then matchLoop filterLevels topicRest
            else if filterLevel ≠ topicLevel then false
            else matchLoop filterLevels topicRest

def isFilterMatched (filterName topicName : Bytes) : Bool :=
  matchLoop (splitLevels filterName) (splitLevels topicName)

example : isFilterMatched (str "temperature/+/sensor1") (str "temperature/kitchen/sensor1") = true := by decide
example : isValidTopicFilter (str "test/#/+") = false := by decide

def joinLevels (levels : List Bytes) : Bytes := [slash].intercalate levels

theorem split_loop_spec (level input : Bytes) :
    splitLoop level input = (input.splitOn slash).modifyHead (level ++ ·) := by
  induction input generalizing level with
  | nil => simp [splitLoop]
  | cons c rest ih =>
      rw [splitLoop, List.splitOn_cons_eq_if_modifyHead]
      by_cases separator : c = slash
      · have whole : (rest.splitOn slash).modifyHead (fun part => part) = rest.splitOn slash := congrFun List.modifyHead_id _
        simp [separator, ih, whole]
      · simp [separator, ih, List.modifyHead_modifyHead, Function.comp_def]

theorem split_levels_eq (input : Bytes) : splitLevels input = input.splitOn slash := by
  rw [splitLevels, split_loop_spec]
  exact congrFun List.modifyHead_id _

theorem join_split_levels (input : Bytes) : joinLevels (splitLevels input) = input := by
  rw [joinLevels, split_levels_eq, List.intercalate_splitOn]

theorem split_join_levels (levels : List Bytes) (present : levels ≠ []) (plain : ∀ level ∈ levels, slash ∉ level) :
    splitLevels (joinLevels levels) = levels := by
  rw [joinLevels, split_levels_eq, List.splitOn_intercalate _ plain present]

theorem split_levels_injective (a b : Bytes) (same : splitLevels a = splitLevels b) : a = b := by
  rw [← join_split_levels a, ← join_split_levels b, same]

theorem split_levels_nonempty (input : Bytes) : splitLevels input ≠ [] := by
  rw [split_levels_eq]
  exact List.splitOn_ne_nil slash input

theorem split_levels_plain (input level : Bytes) (member : level ∈ splitLevels input) : slash ∉ level := by
  induction input generalizing level with
  | nil =>
      rw [split_levels_eq, List.splitOn_nil, List.mem_singleton] at member
      simp [member]
  | cons c rest ih =>
      rw [split_levels_eq, List.splitOn_cons_eq_if_modifyHead, ← split_levels_eq] at member
      by_cases separator : c = slash
      · rcases (by simpa [separator] using member : level = [] ∨ level ∈ splitLevels rest) with rfl | later
        · simp
        · exact ih level later
      · obtain ⟨first, more, parts⟩ := List.exists_cons_of_ne_nil (split_levels_nonempty rest)
        have cases : level = c :: first ∨ level ∈ more := by simpa [separator, parts] using member
        rcases cases with rfl | later
        · have clean := ih first (by simp [parts])
          simp [clean, Ne.symm separator]
        · exact ih level (by simp [parts, later])

-- The wildcard levels are the one-byte levels "+" and "#".
def classify (level : Bytes) : Wildcard.Level Bytes :=
  if level = [hash] then .many else if level = [plus] then .one else .word level

def filterPattern (filterName : Bytes) : List (Wildcard.Level Bytes) := (splitLevels filterName).map classify

theorem match_loop_matches (filterLevels topicLevels : List Bytes) :
    matchLoop filterLevels topicLevels = true ↔ Wildcard.Matches (filterLevels.map classify) topicLevels := by
  induction filterLevels generalizing topicLevels with
  | nil => cases topicLevels <;> simp [matchLoop, Wildcard.Matches]
  | cons filterLevel filterLevels ih =>
      by_cases isHash : filterLevel = [hash]
      · simp [matchLoop, classify, isHash, Wildcard.Matches]
      · by_cases isPlus : filterLevel = [plus]
        · cases topicLevels <;> simp [matchLoop, classify, isPlus, Wildcard.Matches, ih, plus, hash]
        · cases topicLevels <;> simp [matchLoop, classify, isPlus, isHash, Wildcard.Matches, ih]

theorem filter_matched_iff (filterName topicName : Bytes) :
    isFilterMatched filterName topicName = true ↔ Wildcard.Matches (filterPattern filterName) (splitLevels topicName) :=
  match_loop_matches _ _

theorem classify_word (level name : Bytes) (same : classify level = .word name) : level = name ∧ name ≠ [plus] := by
  unfold classify at same
  split at same
  · cases same
  · split at same
    · cases same
    · rename_i notPlus
      cases same
      exact ⟨rfl, notPlus⟩

theorem classify_many (level : Bytes) : classify level = .many ↔ level = [hash] := by
  unfold classify
  split
  · simpa
  · split <;> simp_all

theorem plus_fresh (filterName : Bytes) : Wildcard.Level.word [plus] ∉ filterPattern filterName := by
  intro member
  obtain ⟨level, _, named⟩ := List.mem_map.mp member
  exact (classify_word level [plus] named).2 rfl

def levelChar (c : UInt8) : Bool := isalnum c || c = hyphen || c = underscore

def PlainLevel (level : Bytes) : Prop := ∀ c ∈ level, levelChar c = true

theorem topic_char_level (c : UInt8) : topicChar c = true ↔ levelChar c = true ∨ c = slash := by
  simp [topicChar, levelChar, or_assoc]

theorem wildcard_not_topic_char (c : UInt8) (wild : c = plus ∨ c = hash) : topicChar c = false := by
  rcases wild with rfl | rfl <;> decide

theorem valid_topic_loop_iff (topicName : Bytes) :
    validTopicLoop topicName = true ↔ (∀ c ∈ topicName, topicChar c = true) ∧ topicName.getLast? ≠ some slash := by
  induction topicName with
  | nil => simp [validTopicLoop]
  | cons c rest ih =>
      by_cases good : topicChar c = true
      · cases rest with
        | nil => simp [validTopicLoop, good]
        | cons next more => simpa [validTopicLoop, good, List.getLast?_cons_cons] using ih
      · simp [validTopicLoop, good]

theorem valid_topic_iff (topicName : Bytes) :
    isValidTopic topicName = true ↔ topicName ≠ [] ∧ topicName.head? ≠ some slash ∧
      topicName.getLast? ≠ some slash ∧ ∀ c ∈ topicName, topicChar c = true := by
  have noWild (chars : ∀ c ∈ topicName, topicChar c = true) : plus ∉ topicName ∧ hash ∉ topicName :=
    ⟨fun member => by simpa [wildcard_not_topic_char plus (.inl rfl)] using chars _ member,
      fun member => by simpa [wildcard_not_topic_char hash (.inr rfl)] using chars _ member⟩
  unfold isValidTopic
  constructor
  · intro valid
    split_ifs at valid with empty leading wild
    obtain ⟨chars, last⟩ := (valid_topic_loop_iff topicName).mp valid
    exact ⟨by simpa using empty, leading, last, chars⟩
  · rintro ⟨present, leading, last, chars⟩
    obtain ⟨noPlus, noHash⟩ := noWild chars
    simpa [present, leading, noPlus, noHash, valid_topic_loop_iff, last] using chars

theorem filter_loop_cons (prev : Option UInt8) (hasWildcard result : Bool) (c : UInt8) (rest : Bytes) :
    filterLoop prev hasWildcard (c :: rest) = some result ↔
      (c = plus ∧ (prev = none ∨ prev = some slash) ∧ (rest = [] ∨ rest.head? = some slash) ∧
          filterLoop (some c) true rest = some result) ∨
        (c = hash ∧ (prev = none ∨ prev = some slash) ∧ rest = [] ∧ filterLoop (some c) true rest = some result) ∨
        (topicChar c = true ∧ filterLoop (some c) hasWildcard rest = some result) := by
  rw [filterLoop]
  by_cases isPlus : c = plus
  · simp [isPlus, wildcard_not_topic_char plus (.inl rfl), show plus ≠ hash by decide, and_assoc, or_iff_not_imp_left]
  · by_cases isHash : c = hash
    · simp [isHash, wildcard_not_topic_char hash (.inr rfl), show hash ≠ plus by decide, and_assoc, or_iff_not_imp_left]
    · simp [isPlus, isHash]

-- What one pass of the filter validator has established about the level under
-- construction: it is plain, or a wildcard whose closing byte is already known.
def LevelSoFar (level rest : Bytes) : Prop :=
  PlainLevel level ∨ (level = [plus] ∧ (rest = [] ∨ rest.head? = some slash)) ∨ (level = [hash] ∧ rest = [])

def WildLevels (levels : List Bytes) : Prop :=
  (∀ level ∈ levels, PlainLevel level ∨ level = [plus] ∨ level = [hash]) ∧ [hash] ∉ levels.dropLast

theorem wild_levels_cons (level : Bytes) (levels : List Bytes) (more : levels ≠ [])
    (known : PlainLevel level ∨ level = [plus]) (rest : WildLevels levels) : WildLevels (level :: levels) := by
  have notHash : level ≠ [hash] := by
    rintro rfl
    rcases known with plain | same
    · exact absurd (plain hash (by simp)) (by decide)
    · exact absurd same (by decide)
  refine ⟨?_, ?_⟩
  · intro other member
    rcases List.mem_cons.mp member with rfl | later
    · exact known.imp id Or.inl
    · exact rest.1 other later
  · rw [List.dropLast_cons_of_ne_nil more]
    simpa using ⟨Ne.symm notHash, rest.2⟩

theorem filter_loop_levels (prev : Option UInt8) (hasWildcard result : Bool) (level rest : Bytes)
    (accepted : filterLoop prev hasWildcard rest = some result)
    (fresh : (prev = none ∨ prev = some slash) ↔ level = []) (known : LevelSoFar level rest) :
    WildLevels (splitLoop level rest) := by
  induction rest generalizing prev hasWildcard level with
  | nil =>
      refine ⟨?_, by simp [splitLoop]⟩
      intro other member
      rcases (by simpa [splitLoop] using member : other = level) with rfl
      rcases known with plain | ⟨same, _⟩ | ⟨same, _⟩
      · exact .inl plain
      · exact .inr (.inl same)
      · exact .inr (.inr same)
  | cons c rest ih =>
      have turn := (filter_loop_cons prev hasWildcard result c rest).mp accepted
      by_cases separator : c = slash
      · rw [splitLoop, if_pos separator]
        have next : filterLoop (some c) hasWildcard rest = some result := by
          rcases turn with ⟨isPlus, _⟩ | ⟨isHash, _⟩ | ⟨_, next⟩
          · exact absurd (separator.symm.trans isPlus) (by decide)
          · exact absurd (separator.symm.trans isHash) (by decide)
          · exact next
        refine wild_levels_cons level _ (by rw [split_loop_spec]; simp [List.splitOn_ne_nil]) ?_
          (ih (some c) hasWildcard [] next (by simp [separator]) (.inl (by simp [PlainLevel])))
        rcases known with plain | ⟨same, _⟩ | ⟨_, ended⟩
        · exact .inl plain
        · exact .inr same
        · cases ended
      · -- the level continues, so it was plain, and a wildcard can only open it
        have plain : PlainLevel level := by
          rcases known with plain | ⟨_, ended | closing⟩ | ⟨_, ended⟩
          · exact plain
          · cases ended
          · exact absurd (by simpa using closing) separator
          · cases ended
        rw [splitLoop, if_neg separator]
        have continues : (some c = none ∨ some c = some slash) ↔ level ++ [c] = [] := by simp [separator]
        rcases turn with ⟨isPlus, before, closing, next⟩ | ⟨isHash, before, ended, next⟩ | ⟨char, next⟩
        · exact ih (some c) true (level ++ [c]) next continues (.inr (.inl ⟨by simp [fresh.mp before, isPlus], closing⟩))
        · exact ih (some c) true (level ++ [c]) next continues (.inr (.inr ⟨by simp [fresh.mp before, isHash], ended⟩))
        · refine ih (some c) hasWildcard (level ++ [c]) next continues (.inl ?_)
          intro other member
          rcases List.mem_append.mp member with earlier | here
          · exact plain other earlier
          · rw [List.mem_singleton.mp here]
            exact ((topic_char_level c).mp char).resolve_right separator

theorem join_levels_cons (level : Bytes) (levels : List Bytes) (more : levels ≠ []) :
    joinLevels (level :: levels) = level ++ slash :: joinLevels levels := by
  rw [joinLevels, List.intercalate_cons_of_ne_nil more, joinLevels]
  simp

theorem mem_join_levels (levels : List Bytes) (c : UInt8) :
    c ∈ joinLevels levels → c = slash ∨ ∃ level ∈ levels, c ∈ level := by
  induction levels with
  | nil => simp [joinLevels]
  | cons level levels ih =>
      cases levels with
      | nil => exact fun here => .inr ⟨level, by simp, by simpa [joinLevels] using here⟩
      | cons next more =>
          rw [join_levels_cons level _ (by simp), List.mem_append, List.mem_cons]
          rintro (here | separator | later)
          · exact .inr ⟨level, by simp, here⟩
          · exact .inl separator
          · refine (ih later).imp id ?_
            rintro ⟨other, member, inside⟩
            exact ⟨other, List.mem_cons_of_mem level member, inside⟩

theorem level_sublist_join (levels : List Bytes) (level : Bytes) (member : level ∈ levels) :
    level.Sublist (joinLevels levels) := by
  induction levels with
  | nil => simp at member
  | cons first levels ih =>
      cases levels with
      | nil => simp_all [joinLevels]
      | cons next more =>
          rw [join_levels_cons first _ (by simp)]
          rcases List.mem_cons.mp member with rfl | later
          · exact List.sublist_append_left _ _
          · exact ((ih later).trans (List.sublist_cons_self slash _)).trans (List.sublist_append_right _ _)

theorem split_level_sublist (input level : Bytes) (member : level ∈ splitLevels input) : level.Sublist input := by
  simpa only [join_split_levels] using level_sublist_join (splitLevels input) level member

theorem valid_topic_levels (topicName level : Bytes) (valid : isValidTopic topicName = true) (member : level ∈ splitLevels topicName) :
    PlainLevel level := by
  obtain ⟨_, _, _, chars⟩ := (valid_topic_iff topicName).mp valid
  intro c inside
  refine ((topic_char_level c).mp (chars c ((split_level_sublist topicName level member).mem inside))).resolve_right ?_
  rintro rfl
  exact split_levels_plain topicName level member inside

theorem topic_matched_iff (topicName other : Bytes) (valid : isValidTopic topicName = true) :
    isFilterMatched topicName other = true ↔ topicName = other := by
  have words : filterPattern topicName = (splitLevels topicName).map .word := by
    apply List.map_congr_left
    intro level member
    have plain := valid_topic_levels topicName level valid member
    have notHash : level ≠ [hash] := by
      rintro rfl
      exact absurd (plain hash (by simp)) (by decide)
    have notPlus : level ≠ [plus] := by
      rintro rfl
      exact absurd (plain plus (by simp)) (by decide)
    simp only [classify, notHash, notPlus, if_false]
  rw [filter_matched_iff, words, Wildcard.matches_words]
  exact ⟨split_levels_injective topicName other, congrArg splitLevels⟩

theorem valid_name_levels (name : Bytes) (valid : isValidTopicOrFilter name = true) :
    WildLevels (splitLevels name) ∧ name ≠ [] ∧ name.head? ≠ some slash := by
  rcases (by simpa [isValidTopicOrFilter] using valid : isValidTopic name = true ∨ isValidTopicFilter name = true) with
    topic | filter
  · obtain ⟨present, leading, _, _⟩ := (valid_topic_iff name).mp topic
    have plain := fun level => valid_topic_levels name level topic
    refine ⟨⟨fun level member => .inl (plain level member), ?_⟩, present, leading⟩
    intro member
    exact absurd (plain [hash] (List.mem_of_mem_dropLast member) hash (by simp)) (by decide)
  · unfold isValidTopicFilter at filter
    split_ifs at filter with empty leading
    cases accepted : filterLoop none false name with
    | none => simp [accepted] at filter
    | some result =>
        exact ⟨filter_loop_levels none false result [] name accepted (by simp) (.inl (by simp [PlainLevel])),
          by simpa using empty, leading⟩

end Eventhub
