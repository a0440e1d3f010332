import Eventhub.Bytes
import Eventhub.Lib.Decimal

set_option autoImplicit false

namespace Eventhub.Hub

inductive Json where
  | null
  | boolean (value : Bool)
  | integer (value : Int)
  | float (bits : BitVec 64)
  | string (text : Bytes)
  | array (items : List Json)
  | object (fields : List (Bytes × Json))

-- How a C++ expression can fail: it throws, and what() is the text, or it has
-- no defined result (a failed assert, an unrepresentable conversion).
inductive Failure where
  | thrown (what : Bytes)
  | undefined
deriving DecidableEq

namespace Json

def typeName : Json → Bytes
  | .null => str "null"
  | .boolean _ => str "boolean"
  | .integer _ => str "number"
  | .float _ => str "number"
  | .string _ => str "string"
  | .array _ => str "array"
  | .object _ => str "object"

def typeError (wanted : Bytes) (value : Json) : Failure :=
  .thrown (str "[json.exception.type_error.302] type must be " ++ wanted ++ str ", but is " ++ value.typeName)

-- get<std::string>()
def getString : Json → Except Failure Bytes
  | .string text => .ok text
  | value => .error (value.typeError (str "string"))

-- get<std::vector<std::string>>()
def getStrings : Json → Except Failure (List Bytes)
  | .array items => items.mapM getString
  | value => .error (value.typeError (str "array"))

-- The integer part of a finite double; the parser makes no other.
def truncated (bits : BitVec 64) : Int :=
  let exponent := (bits.extractLsb' 52 11).toNat
  let significand := (if exponent = 0 then 0 else 2 ^ 52) + (bits.extractLsb' 0 52).toNat
  let magnitude := if 1075 ≤ exponent then significand * 2 ^ (exponent - 1075) else significand / 2 ^ (1075 - exponent)
  if bits.msb then -(magnitude : Int) else magnitude

-- get<long>()
def getLong : Json → Except Failure Int
  | .integer value => .ok (Int.bmod value (2 ^ 64))
  | .float bits => if -2 ^ 63 ≤ truncated bits ∧ truncated bits < 2 ^ 63 then .ok (truncated bits) else .error .undefined
  | value => .error (value.typeError (str "number"))

-- get<long long>(): not the library's own integer type, so booleans convert.
def getLongLong : Json → Except Failure Int
  | .boolean value => .ok (if value then 1 else 0)
  | value => value.getLong

-- get<unsigned long>(): integers are converted modulo 2^64.
def getUnsignedLong : Json → Except Failure Nat
  | .integer value => .ok (value % 2 ^ 64).toNat
  | .float bits => if 0 ≤ truncated bits ∧ truncated bits < 2 ^ 64 then .ok (truncated bits).toNat else .error .undefined
  | value => .error (value.typeError (str "number"))

end Json

-- Every string in a value, the names of members included.
inductive Json.Texts (valid : Bytes → Prop) : Json → Prop where
  | null : Texts valid .null
  | boolean (value : Bool) : Texts valid (.boolean value)
  | integer (value : Int) : Texts valid (.integer value)
  | float (bits : BitVec 64) : Texts valid (.float bits)
  | string (text : Bytes) (accepted : valid text) : Texts valid (.string text)
  | array (items : List Json) (inside : ∀ item ∈ items, Texts valid item) : Texts valid (.array items)
  | object (fields : List (Bytes × Json)) (names : ∀ field ∈ fields, valid field.1) (values : ∀ field ∈ fields, Texts valid field.2) :
      Texts valid (.object fields)

-- The contract of nlohmann::json. parse refuses strings that are not UTF-8,
-- and dump throws type_error.316 for those; valid is being UTF-8.
structure JsonLibrary (valid : Bytes → Prop) (parse : Bytes → Except Failure Json) (dump : Json → Except Failure Bytes) : Prop where
  ascii : ∀ text : Bytes, (∀ c ∈ text, c < 128) → valid text
  parsed : ∀ text value, parse text = .ok value → value.Texts valid
  dumped : ∀ value, value.Texts valid → ∃ text, dump value = .ok text
  throws : ∀ value failure, dump value = .error failure → ∃ what, failure = .thrown what

-- Over the list as a Bool, which the kernel evaluates far faster.
theorem JsonLibrary.plain_text {valid : Bytes → Prop} {parse : Bytes → Except Failure Json} {dump : Json → Except Failure Bytes}
    (library : JsonLibrary valid parse dump) (text : Bytes) (ascii : text.all (fun c => c < 128) = true) : valid text :=
  library.ascii text (List.all_iff_forall_prop.mp ascii)

theorem JsonLibrary.plain_field {valid : Bytes → Prop} {parse : Bytes → Except Failure Json} {dump : Json → Except Failure Bytes}
    (library : JsonLibrary valid parse dump) (name text : Bytes) (named : name.all (fun c => c < 128) = true)
    (ascii : text.all (fun c => c < 128) = true) : valid name ∧ (Json.string text).Texts valid :=
  ⟨library.plain_text name named, .string text (library.plain_text text ascii)⟩

-- dump() of a value without doubles whose strings are UTF-8, for the samples.
def Json.escape (c : UInt8) : Bytes :=
  match [(34, 34), (92, 92), (8, 98), (9, 116), (10, 110), (12, 102), (13, 114)].lookup c with
  | some mark => [92, mark]
  | none => if c < 32 then str "\\u00" ++ [48 + c / 16, (str "0123456789abcdef").getD (c % 16).toNat 0] else [c]

def Json.quote (text : Bytes) : Bytes := 34 :: text.flatMap Json.escape ++ [34]

mutual

def Json.text : Json → Bytes
  | .null => str "null"
  | .boolean value => if value then str "true" else str "false"
  | .integer value => Decimal.signedText value
  | .float _ => str "0.0"
  | .string text => Json.quote text
  | .array items => str "[" ++ Json.itemTexts items ++ str "]"
  | .object fields => str "\x7b" ++ Json.fieldTexts fields ++ str "\x7d"

def Json.itemTexts : List Json → Bytes
  | [] => []
  | [item] => item.text
  | item :: items => item.text ++ str "," ++ Json.itemTexts items

def Json.fieldTexts : List (Bytes × Json) → Bytes
  | [] => []
  | [(name, value)] => Json.quote name ++ str ":" ++ value.text
  | (name, value) :: fields => Json.quote name ++ str ":" ++ value.text ++ str "," ++ Json.fieldTexts fields

end

-- parse() of the texts of these values.
def Json.parseOf (values : List Json) (text : Bytes) : Except Failure Json :=
  match values.find? (fun value => value.text = text) with
  | some value => .ok value
  | none => .error (.thrown (str "[json.exception.parse_error.101] parse error at line 1, column 1: syntax error"))

theorem parse_of_text (values : List Json) (distinct : (values.map Json.text).Nodup) (value : Json) (inside : value ∈ values) :
    Json.parseOf values value.text = .ok value := by
  have found : values.find? (fun other => other.text = value.text) = some value := by
    induction values with
    | nil => exact absurd inside List.not_mem_nil
    | cons first values ih =>
        obtain ⟨fresh, rest⟩ := List.nodup_cons.mp distinct
        rcases List.mem_cons.mp inside with rfl | later
        · exact List.find?_cons_of_pos (decide_eq_true rfl)
        · have other : first.text ≠ value.text := fun same => fresh (same ▸ List.mem_map_of_mem later)
          rw [List.find?_cons_of_neg (by simpa using other)]
          exact ih rest later
  rw [Json.parseOf, found]

theorem any_texts : (value : Json) → value.Texts (fun _ => True)
  | .null => .null
  | .boolean value => .boolean value
  | .integer value => .integer value
  | .float bits => .float bits
  | .string text => .string text trivial
  | .array items => .array items (fun item _inside => any_texts item)
  | .object fields => .object fields (fun _ _ => trivial) (fun field _inside => any_texts field.2)
decreasing_by
  · have smaller := List.sizeOf_lt_of_mem _inside
    simp only [Json.array.sizeOf_spec]
    omega
  · have smaller := List.sizeOf_lt_of_mem _inside
    obtain ⟨name, value⟩ := field
    simp only [Json.object.sizeOf_spec, Prod.mk.sizeOf_spec] at smaller ⊢
    omega

theorem sample_library (values : List Json) :
    JsonLibrary (fun _ => True) (Json.parseOf values) (fun value => .ok value.text) where
  ascii := fun _ _ => trivial
  parsed := fun _ value _ => any_texts value
  dumped := fun value _ => ⟨value.text, rfl⟩
  throws := fun _ _ thrown => by cases thrown

example : (Json.object [(str "id", .integer 12), (str "m", .array [.string (str "a\n"), .null])]).text =
    str "\x7b\"id\":12,\"m\":[\"a\\n\",null]\x7d" := by decide +kernel

-- 2.5
example : Json.truncated 0x4004000000000000 = 2 := by decide

end Eventhub.Hub
