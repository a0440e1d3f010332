import Eventhub.Lib.Decimal
import Eventhub.Lib.Scan
import Eventhub.Redis.GetCache

set_option autoImplicit false

namespace Eventhub.Config

def space : UInt8 := 32
def tab : UInt8 := 9
def equals : UInt8 := 61
def doubleQuote : UInt8 := 34
def apostrophe : UInt8 := 39
def cr : UInt8 := 13
def lf : UInt8 := 10

def isBlank (c : UInt8) : Bool := c == space || c == tab
def isQuote (c : UInt8) : Bool := c == doubleQuote || c == apostrophe
def skipped (c : UInt8) : Bool := isBlank c || isQuote c

inductive ConfigValueSettings where
  | required
  | optional

inductive ConfigValueType where
  | int
  | bool
  | string
deriving DecidableEq

-- std::variant<int, bool, std::string>
inductive ConfigValue where
  | int (number : Int)
  | bool (truth : Bool)
  | string (text : Bytes)
deriving DecidableEq

def ConfigValue.type : ConfigValue → ConfigValueType
  | .int _ => .int
  | .bool _ => .bool
  | .string _ => .string

inductive Exception where
  | syntaxError (path : Bytes) (lineNo : Nat)
  | invalidConfigOption (optName path : Bytes) (lineNo : Nat)
  | invalidNumber (value : Bytes)
  | invalidBoolean (value : Bytes)

def Exception.what : Exception → Bytes
  | .syntaxError path lineNo => str "Invalid syntax at " ++ path ++ colon :: Decimal.text lineNo
  | .invalidConfigOption optName path lineNo =>
      if path ≠ [] ∧ lineNo > 0 then str "Invalid config option \"" ++ optName ++ str "\" at " ++ path ++ colon :: Decimal.text lineNo
      else str "Invalid config option \"" ++ optName
  | .invalidNumber value => str "Invalid number: " ++ value
  | .invalidBoolean value => str "Invalid boolean value: " ++ value

def stoi (text : Bytes) : Option Int := Redis.stoSigned 31 text

structure ConfigOption where
  settings : ConfigValueSettings
  value : ConfigValue
  hasValue : Bool

def readBool (value : Bytes) : Option Bool :=
  if value = str "true" ∨ value = str "TRUE" ∨ value = str "1" then some true
  else if value = str "false" ∨ value = str "FALSE" ∨ value = str "0" then some false
  else none

-- The alternative that the variant holds decides how the value is read.
def ConfigOption.set (option : ConfigOption) (value : Bytes) : Except Exception ConfigOption :=
  match option.value with
  | .int _ =>
      match stoi value with
      | some number => .ok { option with value := .int number, hasValue := true }
      | none => .error (.invalidNumber value)
  | .bool _ =>
      match readBool value with
      | some truth => .ok { option with value := .bool truth, hasValue := true }
      | none => .error (.invalidBoolean value)
  | .string _ => .ok { option with value := .string value, hasValue := true }

abbrev Options := AList (fun _ : Bytes => ConfigOption)

def typeOf (options : Options) (name : Bytes) : Option ConfigValueType := (options.lookup name).map (·.value.type)

-- line[pos]: the character behind the last one is a NUL, what lies beyond it
-- must not be read.
def charAt (line : Bytes) (pos : Nat) : Option UInt8 := (line ++ [0])[pos]?

section

variable (line : Bytes)

-- for (char c = line[pos]; pos < line.length() && within(c); c = line[++pos]);
def skip (within : UInt8 → Bool) (pos : Nat) : Option Nat := do
  let c ← charAt line pos
  if _inside : pos < line.length ∧ within c = true then skip within (pos + 1) else pure pos
termination_by line.length - pos

def readKey (parsedKey : Bytes) (pos : Nat) : Option (Bytes × Nat) := do
  let c ← charAt line pos
  if _inside : pos < line.length then
    if isBlank c || c == equals then pure (parsedKey, pos) else readKey (parsedKey ++ [c]) (pos + 1)
  else pure (parsedKey, pos)
termination_by line.length - pos

def readValue (parsedValue : Bytes) (pos : Nat) : Option Bytes :=
  if _inside : pos < line.length then do
    let c ← charAt line pos
    if pos + 1 = line.length ∧ isQuote c = true then pure parsedValue
    else readValue (if c ≠ cr then parsedValue ++ [c] else parsedValue) (pos + 1)
  else pure parsedValue
termination_by line.length - pos

end

inductive Parsed where
  | ignored
  | syntaxError
  | assignment (parsedKey parsedValue : Bytes)
deriving DecidableEq

-- From the equal sign on, at pos.
def parseValue (line parsedKey : Bytes) (pos : Nat) : Option Parsed := do
  let pos ← skip line skipped (pos + 1)
  let parsedValue ← readValue line [] pos
  if parsedValue.isEmpty then pure .syntaxError else pure (.assignment parsedKey parsedValue)

def parseOption (line : Bytes) (pos : Nat) : Option Parsed := do
  let (parsedKey, pos) ← readKey line [] pos
  if parsedKey.isEmpty then pure .syntaxError
  else
    let pos ← skip line (· ≠ equals) pos
    let c ← charAt line pos
    if c ≠ equals then pure .syntaxError else parseValue line parsedKey pos

def parseLine (line : Bytes) : Option Parsed := do
  let pos ← skip line isBlank 0
  if pos = line.length then pure .ignored
  else
    let c ← charAt line pos
    if c = hash then pure .ignored else parseOption line pos

def Parsed.apply (path : Bytes) (lineNo : Nat) (options : Options) : Parsed → Except Exception Options
  | .ignored => .ok options
  | .syntaxError => .error (.syntaxError path lineNo)
  | .assignment parsedKey parsedValue =>
      match options.lookup parsedKey with
      | none => .error (.invalidConfigOption parsedKey path lineNo)
      | some option => (option.set parsedValue).map (options.insert parsedKey)

-- The options as the load leaves them, and the line at which it threw.
structure Load where
  options : Options
  thrown : Option (Nat × Exception)

def loadLines (path : Bytes) : (lineNo : Nat) → Options → List Bytes → Option Load
  | _, options, [] => some ⟨options, none⟩
  | lineNo, options, line :: lines => do
      let parsed ← parseLine line
      match parsed.apply path (lineNo + 1) options with
      | .error exception => pure ⟨options, some (lineNo + 1, exception)⟩
      | .ok options => loadLines path (lineNo + 1) options lines

-- What one std::getline gives, and whether a line feed ended it.
structure Line where
  text : Bytes
  ended : Bool

def getlines : Bytes → List Line
  | [] => []
  | c :: rest =>
      if c = lf then ⟨[], true⟩ :: getlines rest
      else
        match getlines rest with
        | [] => [⟨[c], false⟩]
        | line :: lines => ⟨c :: line.text, line.ended⟩ :: lines

def loadFromStream (path : Bytes) (options : Options) (data : Bytes) : Option Load :=
  loadLines path 0 options ((getlines data).map Line.text)

section

variable (front rest : Bytes)

theorem char_at_end : charAt front front.length = some 0 := by
  rw [charAt, List.getElem?_append_right (Nat.le_refl _), Nat.sub_self]
  rfl

theorem char_at_next (c : UInt8) : charAt (front ++ c :: rest) front.length = some c := by
  rw [charAt, List.append_assoc, List.getElem?_append_right (Nat.le_refl _), Nat.sub_self]
  rfl

theorem next_inside (c : UInt8) : front.length < (front ++ c :: rest).length := by
  rw [List.length_append, List.length_cons]
  omega

theorem skip_reads (within : UInt8 → Bool) :
    skip (front ++ rest) within front.length = some (front ++ rest.takeWhile within).length := by
  induction rest generalizing front with
  | nil =>
      rw [List.append_nil, skip, char_at_end, List.takeWhile_nil, List.append_nil]
      simp
  | cons c rest ih =>
      rw [skip, char_at_next, Option.bind_eq_bind, Option.bind_some]
      by_cases inside : within c = true
      · have later := ih (front ++ [c])
        rw [List.append_assoc, List.singleton_append, List.length_append, List.length_singleton] at later
        rw [dif_pos ⟨next_inside front rest c, inside⟩, later, List.takeWhile_cons_of_pos inside, List.append_assoc, List.singleton_append]
      · rw [dif_neg (fun both => inside both.2), List.takeWhile_cons_of_neg inside, List.append_nil]
        rfl

def keyByte (c : UInt8) : Bool := !(isBlank c || c == equals)

theorem read_key_reads (parsedKey : Bytes) :
    readKey (front ++ rest) parsedKey front.length =
      some (parsedKey ++ rest.takeWhile keyByte, (front ++ rest.takeWhile keyByte).length) := by
  induction rest generalizing front parsedKey with
  | nil =>
      rw [List.append_nil, readKey, char_at_end, List.takeWhile_nil, List.append_nil, List.append_nil]
      simp
  | cons c rest ih =>
      rw [readKey, char_at_next, Option.bind_eq_bind, Option.bind_some, dif_pos (next_inside front rest c)]
      by_cases ends : (isBlank c || c == equals) = true
      · rw [if_pos ends, List.takeWhile_cons_of_neg (by simp [keyByte, ends]), List.append_nil, List.append_nil]
        rfl
      · have later := ih (front ++ [c]) (parsedKey ++ [c])
        rw [List.append_assoc, List.singleton_append, List.length_append, List.length_singleton] at later
        rw [if_neg ends, later, List.takeWhile_cons_of_pos (by simpa [keyByte] using ends)]
        simp only [List.append_assoc, List.singleton_append]

-- A quote at the very end does not belong to the value.
def unquoted (text : Bytes) : Bytes := if text.getLast?.any isQuote then text.dropLast else text

def valueText (text : Bytes) : Bytes := (unquoted text).filter (· ≠ cr)

theorem value_text_cons (c d : UInt8) : valueText (c :: d :: rest) = (if c ≠ cr then [c] else []) ++ valueText (d :: rest) := by
  have kept : unquoted (c :: d :: rest) = c :: unquoted (d :: rest) := by
    rw [unquoted, unquoted, List.getLast?_cons_cons, List.dropLast_cons_cons]
    split
    · rfl
    · rfl
  rw [valueText, kept, valueText]
  by_cases returned : c = cr
  · simp [returned]
  · simp [returned]

theorem read_value_reads (parsedValue : Bytes) :
    readValue (front ++ rest) parsedValue front.length = some (parsedValue ++ valueText rest) := by
  induction rest generalizing front parsedValue with
  | nil =>
      rw [List.append_nil, readValue, dif_neg (Nat.lt_irrefl _)]
      simp [valueText, unquoted]
  | cons c rest ih =>
      have later := fun value => ih (front ++ [c]) value
      simp only [List.append_assoc, List.singleton_append, List.length_append, List.length_singleton] at later
      rw [readValue, dif_pos (next_inside front rest c), char_at_next, Option.bind_eq_bind, Option.bind_some, later]
      cases rest with
      | nil =>
          rw [List.length_append, List.length_singleton]
          by_cases closing : isQuote c = true
          · rw [if_pos ⟨rfl, closing⟩]
            simp [valueText, unquoted, closing]
          · rw [if_neg (fun both => closing both.2)]
            by_cases returned : c = cr
            · simp [valueText, unquoted, returned]
            · simp [valueText, unquoted, closing, returned]
      | cons d rest =>
          rw [if_neg (fun both => by simp at both), value_text_cons]
          by_cases returned : c = cr
          · simp [returned]
          · simp [returned]

end

def valueContent (key rest : Bytes) : Parsed := if valueText rest = [] then .syntaxError else .assignment key (valueText rest)

def optionRest (text : Bytes) : Option (Bytes × Bytes) :=
  if text.takeWhile keyByte = [] then none
  else
    match (text.dropWhile keyByte).dropWhile (· ≠ equals) with
    | [] => none
    | _ :: rest => some (text.takeWhile keyByte, rest.dropWhile skipped)

def optionContent (text : Bytes) : Parsed :=
  match optionRest text with
  | none => .syntaxError
  | some (key, rest) => valueContent key rest

def lineContent (line : Bytes) : Parsed :=
  match line.dropWhile isBlank with
  | [] => .ignored
  | c :: rest => if c = hash then .ignored else optionContent (c :: rest)

theorem parse_value_reads (front rest key : Bytes) :
    parseValue (front ++ equals :: rest) key front.length = some (valueContent key (rest.dropWhile skipped)) := by
  have start : (front ++ [equals]).length = front.length + 1 := by rw [List.length_append, List.length_singleton]
  have whole : front ++ [equals] ++ rest = front ++ equals :: rest := by rw [List.append_assoc, List.singleton_append]
  have skips := skip_reads (front ++ [equals]) rest skipped
  have reads := read_value_reads (front ++ [equals] ++ rest.takeWhile skipped) (rest.dropWhile skipped) []
  rw [whole, start] at skips
  rw [List.append_assoc _ (List.takeWhile _ _), List.takeWhile_append_dropWhile, whole, List.nil_append] at reads
  simp only [parseValue, skips, Option.bind_eq_bind, Option.bind_some, reads, valueContent, List.isEmpty_iff]
  split
  · rfl
  · rfl

theorem parse_option_reads (front text : Bytes) : parseOption (front ++ text) front.length = some (optionContent text) := by
  have named := read_key_reads front text []
  have signs := skip_reads (front ++ text.takeWhile keyByte) (text.dropWhile keyByte) (· ≠ equals)
  have behind : front ++ text.takeWhile keyByte ++ (text.dropWhile keyByte).takeWhile (· ≠ equals) ++
      (text.dropWhile keyByte).dropWhile (· ≠ equals) = front ++ text := by
    rw [List.append_assoc, List.takeWhile_append_dropWhile, List.append_assoc, List.takeWhile_append_dropWhile]
  rw [List.append_assoc _ (List.takeWhile _ _), List.takeWhile_append_dropWhile] at signs
  simp only [parseOption, named, Option.bind_eq_bind, Option.bind_some, signs, List.nil_append, List.isEmpty_iff, optionContent, optionRest]
  by_cases empty : text.takeWhile keyByte = []
  · simp only [if_pos empty, Option.pure_def]
  · simp only [if_neg empty]
    cases found : (text.dropWhile keyByte).dropWhile (· ≠ equals) with
    | nil =>
        rw [found, List.append_nil] at behind
        rw [← behind, char_at_end]
        rfl
    | cons c rest =>
        have sign : c = equals := by simpa using Scan.drop_while_head _ _ _ _ found
        rw [found, sign] at behind
        rw [← behind, char_at_next, Option.bind_some, if_neg (by simp), parse_value_reads]

theorem parse_line_reads (line : Bytes) : parseLine line = some (lineContent line) := by
  have skips : skip line isBlank 0 = some (line.takeWhile isBlank).length := skip_reads [] line isBlank
  have whole : line.takeWhile isBlank ++ line.dropWhile isBlank = line := List.takeWhile_append_dropWhile
  simp only [parseLine, skips, Option.bind_eq_bind, Option.bind_some, lineContent]
  cases found : line.dropWhile isBlank with
  | nil =>
      rw [found, List.append_nil] at whole
      rw [if_pos (by rw [whole])]
      rfl
  | cons c rest =>
      rw [found] at whole
      have inside := next_inside (line.takeWhile isBlank) rest c
      have opens := char_at_next (line.takeWhile isBlank) rest c
      have option := parse_option_reads (line.takeWhile isBlank) (c :: rest)
      rw [whole] at inside opens option
      rw [if_neg (Nat.ne_of_lt inside), opens, Option.bind_some, option]
      by_cases comment : c = hash
      · simp only [if_pos comment, Option.pure_def]
      · simp only [if_neg comment]

theorem load_lines_cons (path : Bytes) (lineNo : Nat) (options : Options) (line : Bytes) (lines : List Bytes) :
    loadLines path lineNo options (line :: lines) =
      match (lineContent line).apply path (lineNo + 1) options with
      | .error exception => some ⟨options, some (lineNo + 1, exception)⟩
      | .ok options => loadLines path (lineNo + 1) options lines := by
  rw [loadLines, parse_line_reads]
  rfl

theorem load_lines_defined (path : Bytes) (lineNo : Nat) (options : Options) (lines : List Bytes) :
    ∃ load, loadLines path lineNo options lines = some load := by
  induction lines generalizing lineNo options with
  | nil => exact ⟨_, rfl⟩
  | cons line lines ih =>
      rw [load_lines_cons]
      split
      · exact ⟨_, rfl⟩
      · exact ih _ _

theorem getlines_ended (line rest : Bytes) (unbroken : lf ∉ line) : getlines (line ++ lf :: rest) = ⟨line, true⟩ :: getlines rest := by
  induction line with
  | nil => rfl
  | cons c line ih =>
      rw [List.mem_cons, not_or] at unbroken
      rw [List.cons_append, getlines, if_neg (Ne.symm unbroken.1), ih unbroken.2]

theorem getlines_last (line : Bytes) (some : line ≠ []) (unbroken : lf ∉ line) : getlines line = [⟨line, false⟩] := by
  induction line with
  | nil => exact absurd rfl some
  | cons c line ih =>
      rw [List.mem_cons, not_or] at unbroken
      rw [getlines, if_neg (Ne.symm unbroken.1)]
      cases line with
      | nil => rfl
      | cons d line => rw [ih (List.cons_ne_nil _ _) unbroken.2]

end Eventhub.Config
