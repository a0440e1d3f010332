import Eventhub.Config.Stream

set_option autoImplicit false

namespace Eventhub.Config

open Scan (take_while_stops drop_while_stops)

inductive Quoting where
  | bare
  | single
  | double

def Quoting.mark : Quoting → Bytes
  | .bare => []
  | .single => [apostrophe]
  | .double => [doubleQuote]

-- A line that gives a key its value, with the freedom the format leaves.
structure Setting where
  before : Bytes
  key : Bytes
  between : Bytes
  after : Bytes
  quoting : Quoting
  inner : Bytes
  value : Bytes
  beforeBlank : ∀ c ∈ before, isBlank c = true
  keySome : key ≠ []
  keyPlain : ∀ c ∈ key, keyByte c = true ∧ c ≠ lf
  keyOpens : key.head? ≠ some hash
  betweenBlank : ∀ c ∈ between, isBlank c = true
  afterBlank : ∀ c ∈ after, isBlank c = true
  innerBlank : ∀ c ∈ inner, isBlank c = true
  valueSome : value ≠ []
  valuePlain : ∀ c ∈ value, c ≠ lf ∧ c ≠ cr
  valueOpens : ∀ c ∈ value.head?, isBlank c = false ∧ isQuote c = false
  valueEnds : ∀ c ∈ value.getLast?, isQuote c = false

def Setting.text (setting : Setting) : Bytes :=
  setting.before ++ (setting.key ++ (setting.between ++ equals ::
    (setting.after ++ (setting.quoting.mark ++ (setting.inner ++ (setting.value ++ setting.quoting.mark))))))

inductive Item where
  | setting (setting : Setting)
  | blank (text : Bytes) (blanks : ∀ c ∈ text, isBlank c = true)
  | comment (before text : Bytes) (blanks : ∀ c ∈ before, isBlank c = true) (unbroken : lf ∉ text)

def Item.text : Item → Bytes
  | .setting given => given.text
  | .blank text _ => text
  | .comment before text _ _ => before ++ hash :: text

-- The last line may end without a line feed.
def fileText (ended : Bool) : List Item → Bytes
  | [] => []
  | [item] => item.text ++ (if ended then [lf] else [])
  | item :: items => item.text ++ lf :: fileText ended items

theorem blank_not_key (c : UInt8) (blank : isBlank c = true) : keyByte c = false := by
  rw [keyByte, blank]
  rfl

theorem blank_unbroken (text : Bytes) (blanks : ∀ c ∈ text, isBlank c = true) : lf ∉ text :=
  fun inside => absurd (blanks lf inside) (by decide)

theorem mark_quotes (quoting : Quoting) : ∀ c ∈ quoting.mark, isQuote c = true := by
  cases quoting with
  | bare => exact fun c inside => absurd inside List.not_mem_nil
  | single => exact List.forall_mem_singleton.mpr rfl
  | double => exact List.forall_mem_singleton.mpr rfl

theorem value_text_setting (setting : Setting) : valueText (setting.value ++ setting.quoting.mark) = setting.value := by
  have kept : setting.value.filter (· ≠ cr) = setting.value :=
    List.filter_eq_self.mpr (fun c inside => by simpa using (setting.valuePlain c inside).2)
  have closed : unquoted (setting.value ++ setting.quoting.mark) = setting.value := by
    cases setting.quoting with
    | bare =>
        have ends : setting.value.getLast?.any isQuote = false := by
          rw [Option.any_eq_false]
          exact setting.valueEnds
        rw [Quoting.mark, List.append_nil, unquoted, ends]
        rfl
    | single => simp [Quoting.mark, unquoted, isQuote]
    | double => simp [Quoting.mark, unquoted, isQuote]
  rw [valueText, closed, kept]

theorem setting_skipped (setting : Setting) :
    (setting.after ++ (setting.quoting.mark ++ (setting.inner ++ (setting.value ++ setting.quoting.mark)))).dropWhile skipped =
      setting.value ++ setting.quoting.mark := by
  have all : ∀ c ∈ setting.after ++ (setting.quoting.mark ++ setting.inner), skipped c = true := by
    intro c inside
    simp only [List.mem_append] at inside
    rcases inside with blank | quote | blank
    · rw [skipped, setting.afterBlank c blank, Bool.true_or]
    · rw [skipped, mark_quotes setting.quoting c quote, Bool.or_true]
    · rw [skipped, setting.innerBlank c blank, Bool.true_or]
  have stops : ∀ c ∈ (setting.value ++ setting.quoting.mark).head?, skipped c = false := by
    intro c head
    rw [List.head?_append_of_ne_nil _ setting.valueSome] at head
    obtain ⟨blank, quote⟩ := setting.valueOpens c head
    rw [skipped, blank, quote, Bool.or_false]
  have behind := drop_while_stops skipped _ _ all stops
  rwa [List.append_assoc, List.append_assoc] at behind

theorem setting_content (setting : Setting) : lineContent setting.text = .assignment setting.key setting.value := by
  obtain ⟨c, key, opens⟩ := List.exists_cons_of_ne_nil setting.keySome
  have named : ∀ c ∈ setting.key, keyByte c = true := fun c inside => (setting.keyPlain c inside).1
  have first := named c (by rw [opens]; exact List.mem_cons_self)
  have started : isBlank c = false := by
    by_contra blank
    rw [blank_not_key c (by simpa using blank)] at first
    cases first
  have uncommented : c ≠ hash := by
    rintro rfl
    exact setting.keyOpens (by rw [opens]; rfl)
  generalize rest : setting.after ++ (setting.quoting.mark ++ (setting.inner ++ (setting.value ++ setting.quoting.mark))) = behind
  have text : setting.text.dropWhile isBlank = setting.key ++ (setting.between ++ equals :: behind) := by
    rw [Setting.text, rest, drop_while_stops isBlank _ _ setting.beforeBlank]
    rw [opens]
    rintro _ ⟨⟩
    exact started
  have keyStops : ∀ c ∈ (setting.between ++ equals :: behind).head?, keyByte c = false := by
    intro c head
    cases between : setting.between with
    | nil =>
        rw [between] at head
        cases head
        rfl
    | cons d more =>
        rw [between] at head
        cases head
        exact blank_not_key c (setting.betweenBlank c (by rw [between]; exact List.mem_cons_self))
  have signed : (setting.between ++ equals :: behind).dropWhile (· ≠ equals) = equals :: behind := by
    apply drop_while_stops
    · intro c inside
      have blank := setting.betweenBlank c inside
      rw [decide_eq_true_eq]
      rintro rfl
      cases blank
    · rintro _ ⟨⟩
      rfl
  rw [lineContent, text, opens, List.cons_append]
  simp only [if_neg uncommented]
  rw [← List.cons_append, ← opens, optionContent, optionRest, take_while_stops keyByte _ _ named keyStops,
    drop_while_stops keyByte _ _ named keyStops, if_neg setting.keySome, signed, ← rest]
  simp only [setting_skipped, valueContent, value_text_setting, if_neg setting.valueSome]

theorem blank_content (text : Bytes) (blanks : ∀ c ∈ text, isBlank c = true) : lineContent text = .ignored := by
  rw [lineContent, List.dropWhile_eq_nil_iff.mpr blanks]

theorem comment_content (before text : Bytes) (blanks : ∀ c ∈ before, isBlank c = true) : lineContent (before ++ hash :: text) = .ignored := by
  have marked : (before ++ hash :: text).dropWhile isBlank = hash :: text := by
    apply drop_while_stops _ _ _ blanks
    rintro _ ⟨⟩
    rfl
  rw [lineContent, marked]
  exact if_pos rfl

theorem item_unbroken (item : Item) : lf ∉ item.text := by
  cases item with
  | setting setting =>
      have marked : lf ∉ setting.quoting.mark := fun inside => absurd (mark_quotes _ lf inside) (by decide)
      have keyed : lf ∉ setting.key := fun inside => (setting.keyPlain lf inside).2 rfl
      have valued : lf ∉ setting.value := fun inside => (setting.valuePlain lf inside).1 rfl
      have other : lf ≠ equals := by decide
      simp only [Item.text, Setting.text, List.mem_append, List.mem_cons, not_or]
      exact ⟨blank_unbroken _ setting.beforeBlank, keyed, blank_unbroken _ setting.betweenBlank, other, blank_unbroken _ setting.afterBlank,
        marked, blank_unbroken _ setting.innerBlank, valued, marked⟩
  | blank text blanks => exact blank_unbroken text blanks
  | comment before text blanks unbroken =>
      have other : lf ≠ hash := by decide
      simp only [Item.text, List.mem_append, List.mem_cons, not_or]
      exact ⟨blank_unbroken before blanks, other, unbroken⟩

def assign (options : Options) (key value : Bytes) : Options :=
  match options.lookup key with
  | none => options
  | some option => options.insert key { option with value := .string value, hasValue := true }

def Item.assigned (options : Options) : Item → Options
  | .setting given => assign options given.key given.value
  | .blank .. => options
  | .comment .. => options

def Item.valueOf (name : Bytes) : Item → Option Bytes
  | .setting given => if given.key = name then some given.value else none
  | .blank .. => none
  | .comment .. => none

def lastValue (name : Bytes) (items : List Item) : Option Bytes := (items.filterMap (Item.valueOf name)).getLast?

theorem string_option (options : Options) (key : Bytes) (defined : typeOf options key = some .string) :
    ∃ option text, options.lookup key = some option ∧ option.value = .string text := by
  obtain ⟨option, found, typed⟩ := Option.map_eq_some_iff.mp defined
  cases value : option.value with
  | int number =>
      rw [value] at typed
      cases typed
  | bool truth =>
      rw [value] at typed
      cases typed
  | string text => exact ⟨option, text, found, value⟩

theorem assign_string (options : Options) (key value other : Bytes) (defined : typeOf options other = some .string) :
    typeOf (assign options key value) other = some .string := by
  rw [assign]
  split
  · exact defined
  · by_cases same : other = key
    · rw [typeOf, same, AList.lookup_insert]
      rfl
    · rw [typeOf, AList.lookup_insert_ne same]
      exact defined

theorem item_applied (path : Bytes) (lineNo : Nat) (options : Options) (item : Item)
    (defined : ∀ setting, item = .setting setting → typeOf options setting.key = some .string) :
    (lineContent item.text).apply path lineNo options = .ok (item.assigned options) := by
  cases item with
  | setting setting =>
      obtain ⟨option, text, found, typed⟩ := string_option options setting.key (defined setting rfl)
      rw [Item.text, setting_content, Parsed.apply, found, Item.assigned, assign, found]
      simp only [ConfigOption.set, typed]
      rfl
  | blank text blanks => rw [Item.text, blank_content text blanks, Parsed.apply, Item.assigned]
  | comment before text blanks => rw [Item.text, comment_content before text blanks, Parsed.apply, Item.assigned]

theorem load_item (path : Bytes) (lineNo : Nat) (options : Options) (item : Item) (lines : List Bytes)
    (defined : ∀ setting, item = .setting setting → typeOf options setting.key = some .string) :
    loadLines path lineNo options (item.text :: lines) = loadLines path (lineNo + 1) (item.assigned options) lines := by
  rw [load_lines_cons, item_applied path (lineNo + 1) options item defined]

theorem assigned_string (options : Options) (item : Item) (key : Bytes) (defined : typeOf options key = some .string) :
    typeOf (item.assigned options) key = some .string := by
  cases item with
  | setting setting => exact assign_string options _ _ key defined
  | blank => exact defined
  | comment => exact defined

-- A last line without a line feed is no line at all when it is empty.
theorem empty_item (options : Options) (item : Item) (empty : item.text = []) : item.assigned options = options := by
  cases item with
  | setting setting =>
      have content := setting_content setting
      rw [show setting.text = [] from empty] at content
      cases content
  | blank => rfl
  | comment => rfl

theorem load_file (path : Bytes) (ended : Bool) (items : List Item) (lineNo : Nat) (options : Options)
    (defined : ∀ setting, .setting setting ∈ items → typeOf options setting.key = some .string) :
    loadLines path lineNo options ((getlines (fileText ended items)).map Line.text) = some ⟨items.foldl Item.assigned options, none⟩ := by
  induction items generalizing lineNo options with
  | nil => rfl
  | cons item items ih =>
      have here : ∀ setting, item = .setting setting → typeOf options setting.key = some .string := fun setting same =>
        defined setting (by rw [same]; exact List.mem_cons_self)
      have later : ∀ setting, .setting setting ∈ items → typeOf (item.assigned options) setting.key = some .string := fun setting inside =>
        assigned_string options item _ (defined setting (List.mem_cons_of_mem _ inside))
      cases items with
      | nil =>
          rw [fileText]
          cases ended with
          | true =>
              rw [if_pos rfl, getlines_ended item.text [] (item_unbroken item), List.map_cons, load_item path lineNo options item _ here]
              rfl
          | false =>
              rw [if_neg Bool.false_ne_true, List.append_nil]
              by_cases empty : item.text = []
              · rw [empty, List.foldl_cons, empty_item options item empty]
                rfl
              · rw [getlines_last item.text empty (item_unbroken item), List.map_cons, load_item path lineNo options item _ here]
                rfl
      | cons next items =>
          rw [fileText, getlines_ended item.text _ (item_unbroken item), List.map_cons, load_item path lineNo options item _ here,
            ih (lineNo + 1) _ later]
          · rfl
          · exact List.cons_ne_nil next items

theorem assign_lookup (options : Options) (key value name : Bytes) :
    (assign options key value).lookup name =
      if key = name then (options.lookup name).map (fun option => { option with value := .string value, hasValue := true })
      else options.lookup name := by
  rw [assign]
  by_cases same : key = name
  · rw [if_pos same, same]
    cases found : options.lookup name with
    | none => exact found
    | some option => exact AList.lookup_insert _
  · rw [if_neg same]
    split
    · rfl
    · exact AList.lookup_insert_ne (Ne.symm same)

theorem last_value_cons (name : Bytes) (item : Item) (items : List Item) :
    lastValue name (item :: items) = (lastValue name items).or (item.valueOf name) := by
  rw [lastValue, lastValue, List.filterMap_cons]
  cases item.valueOf name with
  | none => rw [Option.or_none]
  | some value =>
      rw [List.getLast?_cons]
      cases (items.filterMap (Item.valueOf name)).getLast? with
      | none => rfl
      | some last => rfl

theorem file_lookup (items : List Item) (options : Options) (name : Bytes) :
    (items.foldl Item.assigned options).lookup name =
      match lastValue name items with
      | none => options.lookup name
      | some value => (options.lookup name).map (fun option => { option with value := .string value, hasValue := true }) := by
  induction items generalizing options with
  | nil => rfl
  | cons item items ih =>
      have step : (item.assigned options).lookup name =
          match item.valueOf name with
          | none => options.lookup name
          | some value => (options.lookup name).map (fun option => { option with value := .string value, hasValue := true }) := by
        cases item with
        | setting setting =>
            rw [Item.assigned, assign_lookup, Item.valueOf]
            by_cases same : setting.key = name
            · rw [if_pos same, if_pos same]
            · rw [if_neg same, if_neg same]
        | blank => rfl
        | comment => rfl
      rw [List.foldl_cons, ih, last_value_cons, step]
      cases lastValue name items with
      | none => rfl
      | some last =>
          cases item.valueOf name with
          | none => rfl
          | some value => simp [Option.map_map, Function.comp_def]

theorem config_values_survive (path : Bytes) (options : Options) (items : List Item) (ended : Bool)
    (defined : ∀ setting, .setting setting ∈ items → typeOf options setting.key = some .string) :
    (∃ loaded, loadFromStream path options (fileText ended items) = some ⟨loaded, none⟩ ∧
      ∀ name, loaded.lookup name =
        match lastValue name items with
        | none => options.lookup name
        | some value => (options.lookup name).map (fun option => { option with value := .string value, hasValue := true })) ∧
      ∀ line, parseLine line ≠ none := by
  constructor
  · exact ⟨_, load_file path ended items 0 options defined, file_lookup items options⟩
  · intro line
    rw [parse_line_reads]
    exact Option.some_ne_none _

def hostSetting (quoting : Quoting) : Setting where
  before := str "  "
  key := str "redis_host"
  between := str " "
  after := str "  "
  quoting := quoting
  inner := []
  value := str "a = 'b' # c"
  beforeBlank := by decide +kernel
  keySome := by decide +kernel
  keyPlain := by decide +kernel
  keyOpens := by decide +kernel
  betweenBlank := by decide +kernel
  afterBlank := by decide +kernel
  innerBlank := by decide +kernel
  valueSome := by decide +kernel
  valuePlain := by decide +kernel
  valueOpens := by decide +kernel
  valueEnds := by decide +kernel

theorem quoted_host_survives :
    let options : Options := AList.singleton (str "redis_host") ⟨.required, .string (str "localhost"), true⟩
    let items := [.comment [] (str " 'Redis'") (by decide +kernel) (by decide +kernel), .setting (hostSetting .double),
      .blank [tab] (by decide +kernel)]
    ∃ loaded, loadFromStream [] options (fileText true items) = some ⟨loaded, none⟩ ∧
      (loaded.lookup (str "redis_host")).map ConfigOption.value = some (.string (str "a = 'b' # c")) := by
  intro options items
  have defined : ∀ setting, .setting setting ∈ items → typeOf options setting.key = some .string := by
    intro setting inside
    obtain rfl : setting = hostSetting .double := by simpa [items] using inside
    rfl
  obtain ⟨⟨loaded, same, values⟩, _⟩ := config_values_survive [] options items true defined
  exact ⟨loaded, same, by rw [values]; rfl⟩

end Eventhub.Config
