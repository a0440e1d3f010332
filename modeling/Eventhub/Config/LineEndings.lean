import Eventhub.Config.Stream

set_option autoImplicit false

namespace Eventhub.Config

-- Every LF replaced by CRLF.
def crlf (text : Bytes) : Bytes := text.flatMap (fun c => if c = lf then [cr, lf] else [c])

def Line.returned (line : Line) : Line := if line.ended then ⟨line.text ++ [cr], true⟩ else line

theorem getlines_crlf (text : Bytes) : getlines (crlf text) = (getlines text).map Line.returned := by
  induction text with
  | nil => rfl
  | cons c text ih =>
      by_cases feed : c = lf
      · have first : getlines (crlf (c :: text)) = ⟨[cr], true⟩ :: getlines (crlf text) := by
          rw [crlf, List.flatMap_cons, if_pos feed]
          exact getlines_ended [cr] (crlf text) (by decide)
        rw [first, ih, getlines, if_pos feed]
        rfl
      · rw [crlf, List.flatMap_cons, if_neg feed, List.singleton_append, ← crlf, getlines, if_neg feed, ih, getlines, if_neg feed]
        cases getlines text with
        | nil => rfl
        | cons line lines =>
            obtain ⟨line, ended⟩ := line
            cases ended with
            | true => rfl
            | false => rfl

-- Exceptions are told apart by their class.
inductive Kind where
  | syntaxError
  | invalidConfigOption
  | runtimeError
deriving DecidableEq

def Exception.kind : Exception → Kind
  | .syntaxError .. => .syntaxError
  | .invalidConfigOption .. => .invalidConfigOption
  | .invalidNumber _ => .runtimeError
  | .invalidBoolean _ => .runtimeError

def SameOutcome (first second : Load) : Prop :=
  match first.thrown, second.thrown with
  | none, none => ∀ name, first.options.lookup name = second.options.lookup name
  | some (lineNo, exception), some (otherNo, other) => lineNo = otherNo ∧ exception.kind = other.kind
  | _, _ => False

def BlankLine (line : Bytes) : Prop := ∀ c ∈ line, isBlank c = true

def lineRest (line : Bytes) : Option (Bytes × Bytes) :=
  match line.dropWhile isBlank with
  | [] => none
  | c :: rest => if c = hash then none else optionRest (c :: rest)

-- The line gives key a value that is closed by a quote.
def Quoted (line key body : Bytes) (quote : UInt8) : Prop := lineRest line = some (key, body ++ [quote]) ∧ isQuote quote = true

def Sets (line key : Bytes) : Prop := ∃ value, lineContent line = .assignment key value

theorem content_rest (line key rest : Bytes) (found : lineRest line = some (key, rest)) : lineContent line = valueContent key rest := by
  rw [lineRest] at found
  rw [lineContent]
  cases text : line.dropWhile isBlank with
  | nil =>
      rw [text] at found
      cases found
  | cons c more =>
      simp only [text] at found
      by_cases comment : c = hash
      · rw [if_pos comment] at found
        cases found
      · rw [if_neg comment] at found
        simp only [if_neg comment, optionContent, found]

theorem drop_while_closed (within : UInt8 → Bool) (text : Bytes) (c : UInt8) (stops : within c = false) :
    (text ++ [c]).dropWhile within = text.dropWhile within ++ [c] := by
  rw [List.dropWhile_append]
  split
  · rename_i empty
    rw [List.isEmpty_iff.mp empty, List.dropWhile_cons_of_neg (Bool.eq_false_iff.mp stops), List.nil_append]
  · rfl

theorem take_while_closed (within : UInt8 → Bool) (text : Bytes) (c : UInt8) (stops : within c = false) :
    (text ++ [c]).takeWhile within = text.takeWhile within := by
  rw [List.takeWhile_append]
  split
  · rename_i all
    rw [List.takeWhile_cons_of_neg (Bool.eq_false_iff.mp stops), List.append_nil, (List.takeWhile_prefix within).eq_of_length all]
  · rfl

theorem option_rest_returned (text : Bytes) : optionRest (text ++ [cr]) = (optionRest text).map (fun found => (found.1, found.2 ++ [cr])) := by
  have behind : ∀ rest : Bytes, (rest ++ [cr]).dropWhile skipped = rest.dropWhile skipped ++ [cr] :=
    fun rest => drop_while_closed skipped rest cr rfl
  cases after : text.dropWhile keyByte with
  | nil =>
      have all : (text ++ [cr]).dropWhile keyByte = [] := by
        rw [List.dropWhile_append, after]
        rfl
      have none : ∀ text : Bytes, text.dropWhile keyByte = [] → optionRest text = none := by
        intro text empty
        rw [optionRest, empty]
        split
        · rfl
        · rfl
      rw [none _ all, none _ after]
      rfl
  | cons d more =>
      have stops : ∀ c ∈ (d :: (more ++ [cr])).head?, keyByte c = false := by
        rintro c ⟨⟩
        exact Scan.drop_while_head keyByte text more d after
      have named : ∀ c ∈ text.takeWhile keyByte, keyByte c = true := fun c inside => List.mem_takeWhile_imp inside
      have split : text ++ [cr] = text.takeWhile keyByte ++ d :: (more ++ [cr]) := by
        rw [← List.cons_append, ← after, ← List.append_assoc, List.takeWhile_append_dropWhile]
      have taken : (text ++ [cr]).takeWhile keyByte = text.takeWhile keyByte := by
        rw [split]
        exact Scan.take_while_stops keyByte _ _ named stops
      have dropped : (text ++ [cr]).dropWhile keyByte = d :: more ++ [cr] := by
        rw [split]
        exact Scan.drop_while_stops keyByte _ _ named stops
      rw [optionRest, optionRest, taken, dropped, after]
      by_cases empty : text.takeWhile keyByte = []
      · rw [if_pos empty, if_pos empty]
        rfl
      · rw [if_neg empty, if_neg empty, List.dropWhile_append]
        cases sign : (d :: more).dropWhile (· ≠ equals) with
        | nil => rfl
        | cons e rest =>
            simp only [List.isEmpty_cons, Bool.false_eq_true, if_false, List.cons_append, behind, Option.map_some]

theorem line_rest_returned (line : Bytes) (some : ¬ BlankLine line) :
    lineRest (line ++ [cr]) = (lineRest line).map (fun found => (found.1, found.2 ++ [cr])) := by
  rw [lineRest, lineRest, drop_while_closed isBlank line cr rfl]
  cases text : line.dropWhile isBlank with
  | nil => exact absurd (List.dropWhile_eq_nil_iff.mp text) some
  | cons c rest =>
      simp only [List.cons_append]
      split
      · rfl
      · exact option_rest_returned (c :: rest)

theorem value_text_returned (rest : Bytes) : valueText (rest ++ [cr]) = rest.filter (· ≠ cr) := by
  have kept : unquoted (rest ++ [cr]) = rest ++ [cr] := by simp [unquoted, isQuote, cr, doubleQuote, apostrophe]
  rw [valueText, kept, List.filter_append]
  exact List.append_nil _

theorem blank_returned (line : Bytes) (blank : BlankLine line) : lineContent (line ++ [cr]) = .syntaxError := by
  rw [lineContent, drop_while_closed isBlank line cr rfl, List.dropWhile_eq_nil_iff.mpr blank]
  rfl

theorem quote_kept (quote : UInt8) (quoted : isQuote quote = true) : quote ≠ cr := by
  rintro rfl
  cases quoted

theorem value_text_quoted (body : Bytes) (quote : UInt8) (quoted : isQuote quote = true) :
    valueText (body ++ [quote]) = body.filter (· ≠ cr) := by
  simp [valueText, unquoted, quoted]

theorem filter_quoted (body : Bytes) (quote : UInt8) (quoted : isQuote quote = true) :
    (body ++ [quote]).filter (· ≠ cr) = body.filter (· ≠ cr) ++ [quote] := by
  rw [List.filter_append, List.filter_cons_of_pos (by simpa using quote_kept quote quoted), List.filter_nil]

theorem quoted_content (line key body : Bytes) (quote : UInt8) (quoted : Quoted line key body quote) :
    lineContent line = if body.filter (· ≠ cr) = [] then .syntaxError else .assignment key (body.filter (· ≠ cr)) := by
  rw [content_rest line key _ quoted.1, valueContent, value_text_quoted body quote quoted.2]

theorem quoted_returned (line key body : Bytes) (quote : UInt8) (some : ¬ BlankLine line) (quoted : Quoted line key body quote) :
    lineContent (line ++ [cr]) = .assignment key (body.filter (· ≠ cr) ++ [quote]) := by
  have rest : lineRest (line ++ [cr]) = Option.some (key, body ++ [quote] ++ [cr]) := by
    rw [line_rest_returned line some, quoted.1]
    rfl
  rw [content_rest _ key _ rest, valueContent, value_text_returned, filter_quoted body quote quoted.2, if_neg]
  exact List.append_ne_nil_of_right_ne_nil _ (List.cons_ne_nil _ _)

theorem unquoted_returned (line : Bytes) (some : ¬ BlankLine line) (plain : ∀ key body quote, ¬ Quoted line key body quote) :
    lineContent (line ++ [cr]) = lineContent line := by
  cases found : lineRest line with
  | none =>
      have rest := line_rest_returned line some
      rw [found] at rest
      rw [lineRest] at found rest
      rw [lineContent, lineContent]
      rw [drop_while_closed isBlank line cr rfl] at rest ⊢
      cases text : line.dropWhile isBlank with
      | nil => exact absurd (List.dropWhile_eq_nil_iff.mp text) some
      | cons c more =>
          simp only [text, List.cons_append] at found rest ⊢
          by_cases comment : c = hash
          · rw [if_pos comment, if_pos comment]
          · rw [if_neg comment] at found rest
            rw [if_neg comment, if_neg comment, optionContent, optionContent, found, rest]
            rfl
  | some parts =>
      obtain ⟨key, rest⟩ := parts
      have returned : lineRest (line ++ [cr]) = Option.some (key, rest ++ [cr]) := by
        rw [line_rest_returned line some, found]
        rfl
      have unclosed : unquoted rest = rest := by
        rcases List.eq_nil_or_concat rest with rfl | ⟨body, quote, rfl⟩
        · rfl
        · rw [unquoted, if_neg]
          intro closed
          exact plain key body quote ⟨by rwa [List.concat_eq_append] at found, by simpa using closed⟩
      rw [content_rest _ key _ returned, content_rest _ key _ found, valueContent, valueContent, value_text_returned, valueText, unclosed]

theorem stoi_quoted (value : Bytes) (quote : UInt8) (quoted : isQuote quote = true) : stoi (value ++ [quote]) = stoi value := by
  have other : Redis.isspace quote = false ∧ Decimal.isDigit quote = false ∧ quote ≠ hyphen ∧ quote ≠ plus := by
    revert quote
    apply every_byte
    decide +kernel
  obtain ⟨space, digit, minus, positive⟩ := other
  simp only [stoi, Redis.stoSigned, drop_while_closed Redis.isspace value quote space]
  cases value.dropWhile Redis.isspace with
  | nil => simp [minus, positive, digit]
  | cons c rest =>
      rw [List.cons_append, List.head?_cons, List.head?_cons, List.tail_cons, List.tail_cons]
      have digits : (if some c = some hyphen ∨ some c = some plus then rest ++ [quote] else c :: (rest ++ [quote])).takeWhile Decimal.isDigit =
          (if some c = some hyphen ∨ some c = some plus then rest else c :: rest).takeWhile Decimal.isDigit := by
        split
        · exact take_while_closed _ rest quote digit
        · exact take_while_closed _ (c :: rest) quote digit
      rw [digits]

theorem read_bool_quoted (value : Bytes) (quote : UInt8) (quoted : isQuote quote = true) : readBool (value ++ [quote]) = none := by
  have different : ∀ text : Bytes, text.getLast?.any isQuote = false → value ++ [quote] ≠ text := by
    rintro text unclosed rfl
    rw [List.getLast?_concat, Option.any_some, quoted] at unclosed
    cases unclosed
  have ends : ∀ text ∈ [str "true", str "TRUE", str "1", str "false", str "FALSE", str "0"], value ++ [quote] ≠ text := by
    intro text inside
    apply different
    revert text
    decide +kernel
  simp only [List.forall_mem_cons] at ends
  rw [readBool, if_neg (by simp [ends]), if_neg (by simp [ends])]

-- The options of two loads: some string options may have got another text.
def Agree (altered : Bytes → Prop) (first second : Options) : Prop :=
  ∀ name, (¬ altered name → first.lookup name = second.lookup name) ∧
    (altered name → ∃ (option : ConfigOption) (text other : Bytes), text ≠ other ∧ first.lookup name = some { option with value := .string text } ∧
      second.lookup name = some { option with value := .string other })

section

variable (altered : Bytes → Prop) (first second : Options) (agree : Agree altered first second)

include agree

theorem agree_congr (changed : Bytes → Prop) (same : ∀ name, changed name ↔ altered name) : Agree changed first second := by
  rwa [show changed = altered from funext (fun name => propext (same name))]

theorem agree_insert (key : Bytes) (option : ConfigOption) :
    Agree (fun name => altered name ∧ name ≠ key) (first.insert key option) (second.insert key option) := by
  intro name
  by_cases same : name = key
  · rw [same, AList.lookup_insert, AList.lookup_insert]
    exact ⟨fun _ => rfl, fun both => absurd rfl both.2⟩
  · rw [AList.lookup_insert_ne same, AList.lookup_insert_ne same]
    exact ⟨fun kept => (agree name).1 (fun changed => kept ⟨changed, same⟩), fun both => (agree name).2 both.1⟩

theorem agree_alter (key : Bytes) (option : ConfigOption) (text other : Bytes) (different : text ≠ other) :
    Agree (fun name => altered name ∨ name = key) (first.insert key { option with value := .string text })
      (second.insert key { option with value := .string other }) := by
  intro name
  by_cases same : name = key
  · rw [same, AList.lookup_insert, AList.lookup_insert]
    exact ⟨fun kept => absurd (.inr rfl) kept, fun _ => ⟨option, text, other, different, rfl, rfl⟩⟩
  · rw [AList.lookup_insert_ne same, AList.lookup_insert_ne same]
    exact ⟨fun kept => (agree name).1 (fun changed => kept (.inl changed)), fun either => (agree name).2 (either.resolve_right same)⟩

theorem agree_lookup (name : Bytes) :
    first.lookup name = second.lookup name ∨
      ∃ (option : ConfigOption) (text other : Bytes), first.lookup name = some { option with value := .string text } ∧
        second.lookup name = some { option with value := .string other } := by
  by_cases changed : altered name
  · obtain ⟨option, text, other, _, here, there⟩ := (agree name).2 changed
    exact .inr ⟨option, text, other, here, there⟩
  · exact .inl ((agree name).1 changed)

end

def SameTypes (options base : Options) : Prop := ∀ name, typeOf options name = typeOf base name

theorem set_returns (option : ConfigOption) (value : Bytes) :
    (∃ read : ConfigValue, option.set value = .ok { option with value := read, hasValue := true } ∧ read.type = option.value.type) ∨
      option.set value = .error (.invalidNumber value) ∨ option.set value = .error (.invalidBoolean value) := by
  obtain ⟨settings, old, hasValue⟩ := option
  cases old with
  | int number =>
      cases read : stoi value with
      | none => exact .inr (.inl (by simp only [ConfigOption.set, read]))
      | some other => exact .inl ⟨.int other, by simp only [ConfigOption.set, read], rfl⟩
  | bool truth =>
      cases read : readBool value with
      | none => exact .inr (.inr (by simp only [ConfigOption.set, read]))
      | some other => exact .inl ⟨.bool other, by simp only [ConfigOption.set, read], rfl⟩
  | string text => exact .inl ⟨.string value, rfl, rfl⟩

theorem set_type (option next : ConfigOption) (value : Bytes) (done : option.set value = .ok next) : next.value.type = option.value.type := by
  rcases set_returns option value with ⟨read, set, kept⟩ | refused | refused
  · cases set.symm.trans done
    exact kept
  · cases refused.symm.trans done
  · cases refused.symm.trans done

theorem lookup_type (options base : Options) (types : SameTypes options base) (key : Bytes) (option : ConfigOption)
    (found : options.lookup key = some option) : typeOf base key = some option.value.type := by
  rw [← types key, typeOf, found]
  rfl

theorem insert_types (options base : Options) (key : Bytes) (option next : ConfigOption) (found : options.lookup key = some option)
    (kept : next.value.type = option.value.type) (types : SameTypes options base) : SameTypes (options.insert key next) base := by
  intro name
  rw [← types name, typeOf, typeOf]
  by_cases same : name = key
  · rw [same, AList.lookup_insert, found, Option.map_some, Option.map_some, kept]
  · rw [AList.lookup_insert_ne same]

inductive Applied (path : Bytes) (lineNo : Nat) (base : Options) (changed : Bytes → Prop) (content other : Parsed) (first second : Options) :
    Prop where
  | thrown (exception caught : Exception) (here : content.apply path lineNo first = .error exception)
      (there : other.apply path lineNo second = .error caught) (same : exception.kind = caught.kind)
  | done (next last : Options) (here : content.apply path lineNo first = .ok next) (there : other.apply path lineNo second = .ok last)
      (agree : Agree changed next last) (types : SameTypes next base)

theorem apply_missing (path : Bytes) (lineNo : Nat) (options : Options) (key value : Bytes) (missing : options.lookup key = none) :
    (Parsed.assignment key value).apply path lineNo options = .error (.invalidConfigOption key path lineNo) := by
  rw [Parsed.apply, missing]

theorem apply_found (path : Bytes) (lineNo : Nat) (options : Options) (key value : Bytes) (option : ConfigOption)
    (found : options.lookup key = some option) :
    (Parsed.assignment key value).apply path lineNo options = (option.set value).map (options.insert key) := by
  rw [Parsed.apply, found]

section

variable (path : Bytes) (lineNo : Nat) (base : Options) (altered changed : Bytes → Prop) (first second : Options)
  (agree : Agree altered first second) (types : SameTypes first base) (key value other : Bytes)

theorem both_missing (here : first.lookup key = none) (there : second.lookup key = none) :
    Applied path lineNo base changed (.assignment key value) (.assignment key other) first second :=
  .thrown _ _ (apply_missing path lineNo first key value here) (apply_missing path lineNo second key other there) rfl

theorem both_refused (option old : ConfigOption) (here : first.lookup key = some option) (there : second.lookup key = some old)
    (exception caught : Exception) (refused : option.set value = .error exception) (also : old.set other = .error caught)
    (same : exception.kind = caught.kind) : Applied path lineNo base changed (.assignment key value) (.assignment key other) first second := by
  refine .thrown exception caught ?_ ?_ same
  · rw [apply_found path lineNo first key value option here, refused]
    rfl
  · rw [apply_found path lineNo second key other old there, also]
    rfl

include agree types

theorem both_set (option old next : ConfigOption) (here : first.lookup key = some option) (there : second.lookup key = some old)
    (done : option.set value = .ok next) (also : old.set other = .ok next) :
    Applied path lineNo base (fun name => altered name ∧ name ≠ key) (.assignment key value) (.assignment key other) first second := by
  refine .done (first.insert key next) (second.insert key next) ?_ ?_ (agree_insert altered first second agree key next)
    (insert_types first base key option next here (set_type option next value done) types)
  · rw [apply_found path lineNo first key value option here, done]
    rfl
  · rw [apply_found path lineNo second key other old there, also]
    rfl

theorem same_assigned :
    Applied path lineNo base (fun name => altered name ∧ name ≠ key) (.assignment key value) (.assignment key value) first second := by
  rcases agree_lookup altered first second agree key with equal | ⟨option, text, other, here, there⟩
  · cases found : first.lookup key with
    | none => exact both_missing path lineNo base _ first second key value value found (equal ▸ found)
    | some option =>
        cases done : option.set value with
        | error exception =>
            exact both_refused path lineNo base _ first second key value value option option found (equal ▸ found) _ _ done done rfl
        | ok next =>
            exact both_set path lineNo base altered first second agree types key value value option option next found
              (equal ▸ found) done done
  · exact both_set path lineNo base altered first second agree types key value value _ _ _ here there rfl rfl

theorem same_applied (content : Parsed) :
    Applied path lineNo base (fun name => altered name ∧ ∀ value, content ≠ .assignment name value) content content first second := by
  cases content with
  | ignored => exact .done first second rfl rfl (agree_congr altered first second agree _ (by simp)) types
  | syntaxError => exact .thrown _ _ rfl rfl rfl
  | assignment key value =>
      have kept : (fun name => altered name ∧ ∀ text, Parsed.assignment key value ≠ .assignment name text) =
          fun name => altered name ∧ name ≠ key := by
        funext name
        simp [eq_comm]
      rw [kept]
      exact same_assigned path lineNo base altered first second agree types key value

theorem quoted_string (quote : UInt8) (option : ConfigOption) (text old : Bytes)
    (here : first.lookup key = some { option with value := .string text })
    (there : second.lookup key = some { option with value := .string old }) :
    Applied path lineNo base (fun name => (altered name ∧ name ≠ key) ∨ (name = key ∧ typeOf base key = some .string))
      (.assignment key value) (.assignment key (value ++ [quote])) first second := by
  have longer : value ≠ value ++ [quote] := fun same => by simpa using congrArg List.length same
  have string := lookup_type first base types key _ here
  refine .done _ _ (apply_found path lineNo first key value _ here) (apply_found path lineNo second key _ _ there) ?_
    (insert_types first base key _ _ here rfl types)
  refine agree_congr _ _ _ (agree_alter altered first second agree key { option with hasValue := true } value _ longer) _ ?_
  intro name
  by_cases same : name = key
  · exact ⟨fun _ => .inr same, fun _ => .inr ⟨same, string⟩⟩
  · exact ⟨fun either => .inl (either.resolve_right (fun both => same both.1)).1, fun either => .inl ⟨either.resolve_right same, same⟩⟩

theorem quoted_number (quote : UInt8) (quoted : isQuote quote = true) (settings : ConfigValueSettings) (number : Int) (hasValue : Bool)
    (here : first.lookup key = some ⟨settings, .int number, hasValue⟩)
    (there : second.lookup key = some ⟨settings, .int number, hasValue⟩) :
    Applied path lineNo base (fun name => altered name ∧ name ≠ key) (.assignment key value) (.assignment key (value ++ [quote]))
      first second := by
  have reading := stoi_quoted value quote quoted
  cases read : stoi value with
  | none =>
      rw [read] at reading
      exact both_refused path lineNo base _ first second key value _ _ _ here there (.invalidNumber value)
        (.invalidNumber (value ++ [quote])) (by simp only [ConfigOption.set, read]) (by simp only [ConfigOption.set, reading]) rfl
  | some other =>
      rw [read] at reading
      exact both_set path lineNo base altered first second agree types key value _ _ _ ⟨settings, .int other, true⟩ here there
        (by simp only [ConfigOption.set, read]) (by simp only [ConfigOption.set, reading])

theorem quoted_assigned (quote : UInt8) (quoted : isQuote quote = true) (unread : typeOf base key = some .bool → readBool value = none) :
    Applied path lineNo base (fun name => (altered name ∧ name ≠ key) ∨ (name = key ∧ typeOf base key = some .string))
      (.assignment key value) (.assignment key (value ++ [quote])) first second := by
  rcases agree_lookup altered first second agree key with equal | ⟨option, text, old, here, there⟩
  · cases found : first.lookup key with
    | none => exact both_missing path lineNo base _ first second key value _ found (equal ▸ found)
    | some option =>
        have type := lookup_type first base types key option found
        have also : second.lookup key = some option := equal ▸ found
        obtain ⟨settings, old, hasValue⟩ := option
        cases old with
        | int number =>
            have kept : (fun name => (altered name ∧ name ≠ key) ∨ (name = key ∧ typeOf base key = some .string)) =
                fun name => altered name ∧ name ≠ key := by
              funext name
              simp [type, ConfigValue.type]
            rw [kept]
            exact quoted_number path lineNo base altered first second agree types key value quote quoted settings number hasValue found also
        | bool truth =>
            exact both_refused path lineNo base _ first second key value _ _ _ found also (.invalidBoolean value)
              (.invalidBoolean (value ++ [quote])) (by simp only [ConfigOption.set, unread type])
              (by simp only [ConfigOption.set, read_bool_quoted value quote quoted]) rfl
        | string text =>
            exact quoted_string path lineNo base altered first second agree types key value quote ⟨settings, .string text, hasValue⟩
              text text found also
  · exact quoted_string path lineNo base altered first second agree types key value quote option text old here there

end

-- What a CR at its end breaks: a blank line is none any more, an empty value
-- becomes the quote, a truth value is not understood.
inductive Breaks (options : Options) (line : Bytes) : Prop where
  | blank (blank : BlankLine line)
  | empty (key body : Bytes) (quote : UInt8) (quoted : Quoted line key body quote) (nothing : body.filter (· ≠ cr) = [])
  | truth (key body : Bytes) (quote : UInt8) (quoted : Quoted line key body quote) (typed : typeOf options key = some .bool)
      (read : readBool (body.filter (· ≠ cr)) ≠ none)

-- And what it only changes: a string gets the quote at its end.
def Alters (options : Options) (line key : Bytes) : Prop := ∃ body quote, Quoted line key body quote ∧ typeOf options key = some .string

def changedBy (options : Options) (line : Line) (altered : Bytes → Prop) (name : Bytes) : Prop :=
  (altered name ∧ ¬ Sets line.text name) ∨ (line.ended = true ∧ Alters options line.text name)

theorem assignment_kind (path : Bytes) (lineNo : Nat) (options : Options) (key value : Bytes) (exception : Exception)
    (thrown : (Parsed.assignment key value).apply path lineNo options = .error exception) : exception.kind ≠ .syntaxError := by
  cases found : options.lookup key with
  | none =>
      rw [apply_missing path lineNo options key value found] at thrown
      cases thrown
      simp [Exception.kind]
  | some option =>
      rw [apply_found path lineNo options key value option found] at thrown
      rcases set_returns option value with ⟨read, set, _⟩ | refused | refused
      · rw [set] at thrown
        cases thrown
      · rw [refused] at thrown
        cases thrown
        simp [Exception.kind]
      · rw [refused] at thrown
        cases thrown
        simp [Exception.kind]

theorem quoted_line_rest (line key body : Bytes) (quote : UInt8) (quoted : Quoted line key body quote) : ¬ BlankLine line := by
  intro blank
  have rest := quoted.1
  rw [lineRest, List.dropWhile_eq_nil_iff.mpr blank] at rest
  cases rest

section

variable (path : Bytes) (lineNo : Nat) (base : Options) (altered : Bytes → Prop) (first second : Options)
  (agree : Agree altered first second) (types : SameTypes first base)

include agree types

theorem line_applied (line : Line) (kept : line.ended = true → ¬ Breaks base line.text) :
    Applied path lineNo base (changedBy base line altered) (lineContent line.text) (lineContent line.returned.text) first second := by
  obtain ⟨text, ended⟩ := line
  have same := same_applied path lineNo base altered first second agree types (lineContent text)
  cases ended with
  | false =>
      have changed : changedBy base ⟨text, false⟩ altered = fun name => altered name ∧ ∀ value, lineContent text ≠ .assignment name value := by
        funext name
        simp [changedBy, Sets]
      rw [changed]
      exact same
  | true =>
      have whole : ¬ Breaks base text := kept rfl
      have some : ¬ BlankLine text := fun blank => whole (.blank blank)
      by_cases closed : ∃ key body quote, Quoted text key body quote
      · obtain ⟨key, body, quote, quoted⟩ := closed
        have content := quoted_content text key body quote quoted
        rw [if_neg (fun nothing => whole (.empty key body quote quoted nothing))] at content
        have changed : changedBy base ⟨text, true⟩ altered =
            fun name => (altered name ∧ name ≠ key) ∨ (name = key ∧ typeOf base key = Option.some .string) := by
          funext name
          have sets : Sets text name ↔ name = key := by simp [Sets, content, eq_comm]
          have alters : Alters base text name ↔ name = key ∧ typeOf base key = Option.some .string := by
            constructor
            · rintro ⟨_, _, other, typed⟩
              obtain ⟨rfl, _⟩ := Prod.mk.inj (Option.some.inj (other.1.symm.trans quoted.1))
              exact ⟨rfl, typed⟩
            · rintro ⟨rfl, typed⟩
              exact ⟨body, quote, quoted, typed⟩
          simp only [changedBy, sets, alters, true_and]
        rw [changed, content, Line.returned, if_pos rfl, quoted_returned text key body quote some quoted]
        refine quoted_assigned path lineNo base altered first second agree types key _ quote quoted.2 (fun typed => ?_)
        by_contra read
        exact whole (.truth key body quote quoted typed read)
      · have changed : changedBy base ⟨text, true⟩ altered = fun name => altered name ∧ ∀ value, lineContent text ≠ .assignment name value := by
          funext name
          have never : ¬ Alters base text name := fun ⟨body, quote, quoted, _⟩ => closed ⟨name, body, quote, quoted⟩
          simp [changedBy, Sets, never]
        rw [changed, Line.returned, if_pos rfl, unquoted_returned text some (fun key body quote quoted => closed ⟨key, body, quote, quoted⟩)]
        exact same

theorem breaks_differ (line : Bytes) (breaks : Breaks base line) :
    (∃ next caught, (lineContent line).apply path lineNo first = .ok next ∧
        (lineContent (line ++ [cr])).apply path lineNo second = .error caught) ∨
      ∃ exception, (lineContent line).apply path lineNo first = .error exception ∧ exception.kind = .syntaxError ∧
        ∀ caught, (lineContent (line ++ [cr])).apply path lineNo second = .error caught → caught.kind ≠ .syntaxError := by
  cases breaks with
  | blank blank =>
      refine .inl ⟨first, .syntaxError path lineNo, ?_, ?_⟩
      · rw [lineContent, List.dropWhile_eq_nil_iff.mpr blank]
        rfl
      · rw [blank_returned line blank]
        rfl
  | empty key body quote quoted nothing =>
      refine .inr ⟨.syntaxError path lineNo, ?_, rfl, ?_⟩
      · rw [quoted_content line key body quote quoted, if_pos nothing]
        rfl
      · intro caught thrown
        rw [quoted_returned line key body quote (quoted_line_rest line key body quote quoted) quoted] at thrown
        exact assignment_kind path lineNo second key _ caught thrown
  | truth key body quote quoted typed read =>
      obtain ⟨option, found, bool⟩ := Option.map_eq_some_iff.mp ((types key).trans typed)
      obtain ⟨settings, old, hasValue⟩ := option
      cases old with
      | int number => cases bool
      | string text => cases bool
      | bool truth =>
          have also : second.lookup key = some ⟨settings, .bool truth, hasValue⟩ := by
            rcases agree_lookup altered first second agree key with equal | ⟨option, text, other, here, _⟩
            · rw [← equal, found]
            · rw [found] at here
              cases here
          have some : body.filter (· ≠ cr) ≠ [] := by
            intro nothing
            rw [nothing] at read
            exact read rfl
          obtain ⟨truth, valid⟩ := Option.ne_none_iff_exists'.mp read
          refine .inl ⟨first.insert key ⟨settings, .bool truth, true⟩, .invalidBoolean (body.filter (· ≠ cr) ++ [quote]), ?_, ?_⟩
          · rw [quoted_content line key body quote quoted, if_neg some, apply_found path lineNo first key _ _ found]
            simp only [ConfigOption.set, valid]
            rfl
          · rw [quoted_returned line key body quote (quoted_line_rest line key body quote quoted) quoted,
              apply_found path lineNo second key _ _ also]
            simp only [ConfigOption.set, read_bool_quoted _ quote quoted.2]
            rfl

end

def stillAltered (options : Options) : List Line → (Bytes → Prop) → Bytes → Prop
  | [], altered => altered
  | line :: lines, altered => stillAltered options lines (changedBy options line altered)

theorem still_altered_iff (options : Options) (lines : List Line) (altered : Bytes → Prop) (name : Bytes) :
    stillAltered options lines altered name ↔
      (altered name ∧ ∀ line ∈ lines, ¬ Sets line.text name) ∨
        ∃ before line after, lines = before ++ line :: after ∧ line.ended = true ∧ Alters options line.text name ∧
          ∀ later ∈ after, ¬ Sets later.text name := by
  induction lines generalizing altered with
  | nil => simp [stillAltered]
  | cons line lines ih =>
      rw [stillAltered, ih, changedBy]
      constructor
      · rintro (⟨⟨old, kept⟩ | ⟨ended, alters⟩, later⟩ | ⟨before, other, after, rfl, found⟩)
        · exact .inl ⟨old, List.forall_mem_cons.mpr ⟨kept, later⟩⟩
        · exact .inr ⟨[], line, lines, rfl, ended, alters, later⟩
        · exact .inr ⟨line :: before, other, after, rfl, found⟩
      · rintro (⟨old, all⟩ | ⟨before, other, after, split, ended, alters, later⟩)
        · exact .inl ⟨.inl ⟨old, all line List.mem_cons_self⟩, fun next inside => all next (List.mem_cons_of_mem _ inside)⟩
        · cases before with
          | nil =>
              cases split
              exact .inl ⟨.inr ⟨ended, alters⟩, later⟩
          | cons head before =>
              cases split
              exact .inr ⟨before, other, after, rfl, ended, alters, later⟩

-- The exception that ConfigOption::_set throws for a value of another type.
def misread : ConfigValueType → Bytes → Bool
  | .int, value => (stoi value).isNone
  | .bool, value => (readBool value).isNone
  | .string, _ => false

def refused (options : Options) (line : Bytes) : Bool :=
  match lineContent line with
  | .ignored => false
  | .syntaxError => true
  | .assignment key value =>
      match typeOf options key with
      | none => true
      | some type => misread type value

-- The lines up to the first that is refused.
def lookedAt (options : Options) : List Line → List Line
  | [] => []
  | line :: lines => if refused options line.text then [line] else line :: lookedAt options lines

theorem set_misread (option : ConfigOption) (value : Bytes) :
    misread option.value.type value = true ↔ ∃ exception, option.set value = .error exception := by
  obtain ⟨settings, old, hasValue⟩ := option
  cases old with
  | int number => cases read : stoi value <;> simp [misread, ConfigOption.set, ConfigValue.type, read]
  | bool truth => cases read : readBool value <;> simp [misread, ConfigOption.set, ConfigValue.type, read]
  | string text => simp [misread, ConfigOption.set, ConfigValue.type]

theorem refused_iff (path : Bytes) (lineNo : Nat) (options base : Options) (types : SameTypes options base) (line : Bytes) :
    refused base line = true ↔ ∃ exception, (lineContent line).apply path lineNo options = .error exception := by
  unfold refused
  cases lineContent line with
  | ignored => simp [Parsed.apply]
  | syntaxError => simp [Parsed.apply]
  | assignment key value =>
      dsimp only
      rw [← types key, typeOf]
      cases found : options.lookup key with
      | none => simp [apply_missing path lineNo options key value found]
      | some option =>
          rw [apply_found path lineNo options key value option found, Option.map_some]
          dsimp only
          rw [set_misread option value]
          cases option.set value with
          | error exception => exact ⟨fun _ => ⟨exception, rfl⟩, fun _ => ⟨exception, rfl⟩⟩
          | ok next => simp [Except.map]

theorem thrown_later (path : Bytes) (lines : List Bytes) (lineNo : Nat) (options : Options) (load : Load)
    (loaded : loadLines path lineNo options lines = some load) (thrownAt : Nat) (exception : Exception)
    (thrown : load.thrown = some (thrownAt, exception)) : lineNo < thrownAt := by
  induction lines generalizing lineNo options with
  | nil =>
      cases loaded
      cases thrown
  | cons line lines ih =>
      rw [load_lines_cons] at loaded
      split at loaded
      · cases loaded
        cases thrown
        omega
      · have later := ih (lineNo + 1) _ loaded
        omega

theorem parted (path : Bytes) (lineNo : Nat) (options : Options) (lines : List Bytes) (load : Load)
    (loaded : loadLines path lineNo options lines = some load) (left : Options) (exception : Exception) :
    ¬ SameOutcome load ⟨left, some (lineNo, exception)⟩ ∧ ¬ SameOutcome ⟨left, some (lineNo, exception)⟩ load := by
  cases thrown : load.thrown with
  | none => exact ⟨by simp [SameOutcome, thrown], by simp [SameOutcome, thrown]⟩
  | some point =>
      have later := thrown_later path lines lineNo options load loaded point.1 point.2 thrown
      have different : point.1 ≠ lineNo ∧ lineNo ≠ point.1 := by omega
      exact ⟨by simp [SameOutcome, thrown, different], by simp [SameOutcome, thrown, different]⟩

theorem agree_everywhere_iff (altered : Bytes → Prop) (first second : Options) (agree : Agree altered first second) :
    (∀ name, first.lookup name = second.lookup name) ↔ ∀ name, ¬ altered name := by
  refine forall_congr' (fun name => ⟨fun equal changed => ?_, (agree name).1⟩)
  obtain ⟨option, text, other, different, here, there⟩ := (agree name).2 changed
  rw [here, there] at equal
  cases equal
  exact different rfl

theorem broken_line_parts (path : Bytes) (base : Options) (lineNo : Nat) (altered : Bytes → Prop) (first second : Options)
    (agree : Agree altered first second) (types : SameTypes first base) (line : Bytes) (breaks : Breaks base line)
    (rest others : List Bytes) (load other : Load) (loaded : loadLines path lineNo first (line :: rest) = some load)
    (also : loadLines path lineNo second ((line ++ [cr]) :: others) = some other) : ¬ SameOutcome load other := by
  rw [load_lines_cons] at loaded also
  rcases breaks_differ path (lineNo + 1) base altered first second agree types line breaks with
    ⟨next, caught, here, there⟩ | ⟨exception, here, syntactic, there⟩
  · rw [here] at loaded
    rw [there] at also
    cases also
    exact (parted path (lineNo + 1) next _ load loaded second caught).1
  · rw [here] at loaded
    cases loaded
    cases applied : (lineContent (line ++ [cr])).apply path (lineNo + 1) second with
    | error caught =>
        rw [applied] at also
        cases also
        rintro ⟨_, same⟩
        exact there caught applied (same.symm.trans syntactic)
    | ok next =>
        rw [applied] at also
        exact (parted path (lineNo + 1) next _ other also first exception).2

theorem loads_agree_iff (path : Bytes) (base : Options) (lines : List Line) (lineNo : Nat) (altered : Bytes → Prop) (first second : Options)
    (agree : Agree altered first second) (types : SameTypes first base) (load other : Load)
    (loaded : loadLines path lineNo first (lines.map Line.text) = some load)
    (also : loadLines path lineNo second ((lines.map Line.returned).map Line.text) = some other) :
    SameOutcome load other ↔
      (∀ line ∈ lookedAt base lines, line.ended = true → ¬ Breaks base line.text) ∧
        ((∀ line ∈ lines, refused base line.text = false) → ∀ name, ¬ stillAltered base lines altered name) := by
  induction lines generalizing lineNo altered first second with
  | nil =>
      cases loaded
      cases also
      have same := agree_everywhere_iff altered first second agree
      simpa [SameOutcome, lookedAt, stillAltered] using same
  | cons line lines ih =>
      have thrown := refused_iff path (lineNo + 1) first base types line.text
      have head : line ∈ lookedAt base (line :: lines) := by
        rw [lookedAt]
        split <;> exact List.mem_cons_self
      rw [List.map_cons] at loaded
      rw [List.map_cons, List.map_cons] at also
      by_cases breaks : line.ended = true ∧ Breaks base line.text
      · have returned : line.returned.text = line.text ++ [cr] := by rw [Line.returned, if_pos breaks.1]
        rw [returned] at also
        exact iff_of_false (broken_line_parts path base lineNo altered first second agree types line.text breaks.2 _ _ load other loaded also)
          (fun both => both.1 line head breaks.1 breaks.2)
      · have kept : line.ended = true → ¬ Breaks base line.text := fun ended broken => breaks ⟨ended, broken⟩
        rw [load_lines_cons] at loaded also
        cases line_applied path (lineNo + 1) base altered first second agree types line kept with
        | thrown exception caught here there same =>
            rw [here] at loaded
            rw [there] at also
            cases loaded
            cases also
            have last := thrown.mpr ⟨exception, here⟩
            rw [lookedAt, if_pos last]
            refine iff_of_true ⟨rfl, same⟩ ⟨List.forall_mem_singleton.mpr kept, fun all => ?_⟩
            exact Bool.noConfusion (last.symm.trans (all line List.mem_cons_self))
        | done next last here there agree types =>
            rw [here] at loaded
            rw [there] at also
            have passed : refused base line.text = false := by
              rw [Bool.eq_false_iff, ne_eq, thrown, here]
              rintro ⟨_, never⟩
              cases never
            rw [ih (lineNo + 1) _ next last agree types loaded also, stillAltered, lookedAt, if_neg (Bool.eq_false_iff.mp passed),
              List.forall_mem_cons, and_iff_right kept, List.forall_mem_cons, and_iff_right passed]

theorem line_endings_iff (path : Bytes) (options : Options) (text : Bytes) :
    ∃ load other, loadFromStream path options text = some load ∧ loadFromStream path options (crlf text) = some other ∧
      (SameOutcome load other ↔
        (∀ line ∈ lookedAt options (getlines text), line.ended = true → ¬ Breaks options line.text) ∧
          ((∀ line ∈ getlines text, refused options line.text = false) → ∀ before line after key, getlines text = before ++ line :: after →
            line.ended = true → Alters options line.text key → ∃ later ∈ after, Sets later.text key)) := by
  obtain ⟨load, loaded⟩ := load_lines_defined path 0 options ((getlines text).map Line.text)
  obtain ⟨other, also⟩ := load_lines_defined path 0 options (((getlines text).map Line.returned).map Line.text)
  refine ⟨load, other, loaded, by rw [loadFromStream, getlines_crlf, also], ?_⟩
  have agree : Agree (fun _ => False) options options := fun name => ⟨fun _ => rfl, False.elim⟩
  rw [loads_agree_iff path options (getlines text) 0 _ options options agree (fun _ => rfl) load other loaded also]
  refine and_congr_right (fun _ => imp_congr_right (fun _ => ?_))
  simp only [still_altered_iff, false_and, false_or]
  constructor
  · intro never before line after key split ended alters
    by_contra unset
    exact never key ⟨before, line, after, split, ended, alters, fun later inside sets => unset ⟨later, inside, sets⟩⟩
  · rintro later name ⟨before, line, after, split, ended, alters, unset⟩
    obtain ⟨next, inside, sets⟩ := later before line after name split ended alters
    exact unset next inside sets

theorem blank_line_refused :
    let path := str "eventhub.conf"
    let options : Options := AList.insert (str "redis_host") ⟨.required, .string [], false⟩ ∅
    let text := str "redis_host = a\n\n"
    ∃ load other, loadFromStream path options text = some load ∧ loadFromStream path options (crlf text) = some other ∧
      load.thrown = none ∧ other.thrown = some (2, .syntaxError path 2) ∧ ¬ SameOutcome load other := by
  intro path options text
  have lines : (getlines text).map Line.text = [str "redis_host = a", []] := by decide +kernel
  have returned : (getlines (crlf text)).map Line.text = [str "redis_host = a\r", [cr]] := by decide +kernel
  have content : lineContent (str "redis_host = a") = .assignment (str "redis_host") (str "a") := by decide +kernel
  have same : lineContent (str "redis_host = a\r") = .assignment (str "redis_host") (str "a") := by decide +kernel
  have skipped : lineContent [] = .ignored := by decide +kernel
  have refused : lineContent [cr] = .syntaxError := by decide +kernel
  have applied : (Parsed.assignment (str "redis_host") (str "a")).apply path 1 options =
      .ok (options.insert (str "redis_host") ⟨.required, .string (str "a"), true⟩) :=
    apply_found path 1 options _ _ _ (AList.lookup_insert _)
  have first : loadFromStream path options text = some ⟨options.insert (str "redis_host") ⟨.required, .string (str "a"), true⟩, none⟩ := by
    rw [loadFromStream, lines, load_lines_cons, content, applied]
    simp only [load_lines_cons, skipped, Parsed.apply]
    rfl
  have second : loadFromStream path options (crlf text) =
      some ⟨options.insert (str "redis_host") ⟨.required, .string (str "a"), true⟩, some (2, .syntaxError path 2)⟩ := by
    rw [loadFromStream, returned, load_lines_cons, same, applied]
    simp only [load_lines_cons, refused, Parsed.apply]
  exact ⟨_, _, first, second, rfl, rfl, fun never => never⟩

end Eventhub.Config
