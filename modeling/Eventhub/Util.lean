import Eventhub.Bytes

set_option autoImplicit false

namespace Eventhub.Util

def tolower (c : UInt8) : UInt8 := if 65 ≤ c && c ≤ 90 then c + 32 else c
def toupper (c : UInt8) : UInt8 := if 97 ≤ c && c ≤ 122 then c - 32 else c
def isxdigit (c : UInt8) : Bool := isdigit c || (65 ≤ c && c ≤ 70) || (97 ≤ c && c ≤ 102)

def strToLower (s : Bytes) : Bytes := s.map tolower

def percent : UInt8 := 37

-- The characters that stand for themselves.
def unescaped (c : UInt8) : Bool := isalnum c || decide (c ∈ str "-_.~*/+")

def hexDigit (c : UInt8) : UInt8 := if isdigit c then c - 48 else toupper c - 65 + 10

-- none is the return of an empty string.
def uriDecodeLoop : Bytes → Option Bytes
  | [] => some []
  | c :: rest =>
      if unescaped c then (uriDecodeLoop rest).map (List.cons c)
      else if c = percent then
        match rest with
        | ch1 :: ch2 :: rest =>
            if isxdigit ch1 && isxdigit ch2 then (uriDecodeLoop rest).map (List.cons (hexDigit ch1 <<< 4 + hexDigit ch2)) else none
        | _ => none
      else none

def uriDecode (text : Bytes) : Bytes := (uriDecodeLoop text).getD []

example : uriDecode (str "a%2F+") = str "a/+" := by decide +kernel

-- Characters that stand for themselves, and percent signs with two hexadecimal
-- digits behind them.
inductive Escaped : Bytes → Prop where
  | nil : Escaped []
  | plain (c : UInt8) (rest : Bytes) (itself : unescaped c = true) (later : Escaped rest) : Escaped (c :: rest)
  | escape (ch1 ch2 : UInt8) (rest : Bytes) (high : isxdigit ch1 = true) (low : isxdigit ch2 = true) (later : Escaped rest) :
      Escaped (percent :: ch1 :: ch2 :: rest)

theorem decode_plain (c : UInt8) (rest : Bytes) (itself : unescaped c = true) :
    uriDecodeLoop (c :: rest) = (uriDecodeLoop rest).map (List.cons c) := by
  rw [uriDecodeLoop.eq_def]
  exact if_pos itself

theorem decode_escape (ch1 ch2 : UInt8) (rest : Bytes) :
    uriDecodeLoop (percent :: ch1 :: ch2 :: rest) =
      if isxdigit ch1 && isxdigit ch2 then (uriDecodeLoop rest).map (List.cons (hexDigit ch1 <<< 4 + hexDigit ch2)) else none := by
  rw [uriDecodeLoop.eq_def]
  rfl

theorem decode_refused (c : UInt8) (rest : Bytes) (reserved : ¬ unescaped c = true) (other : c ≠ percent) :
    uriDecodeLoop (c :: rest) = none := by
  rw [uriDecodeLoop.eq_def]
  exact (if_neg reserved).trans (if_neg other)

theorem escaped_decodes (text : Bytes) (escaped : Escaped text) : ∃ decoded, uriDecodeLoop text = some decoded := by
  induction escaped with
  | nil => exact ⟨[], rfl⟩
  | plain c rest itself _ ih =>
      obtain ⟨decoded, found⟩ := ih
      exact ⟨c :: decoded, by rw [decode_plain c rest itself, found, Option.map_some]⟩
  | escape ch1 ch2 rest high low _ ih =>
      obtain ⟨decoded, found⟩ := ih
      exact ⟨_, by rw [decode_escape, high, low, Bool.and_self, if_pos rfl, found, Option.map_some]⟩

theorem decoded_escaped (text decoded : Bytes) (found : uriDecodeLoop text = some decoded) : Escaped text := by
  induction text using uriDecodeLoop.induct generalizing decoded with
  | case1 => exact .nil
  | case2 c rest itself ih =>
      rw [decode_plain c rest itself] at found
      obtain ⟨tail, read, _⟩ := Option.map_eq_some_iff.mp found
      exact .plain c rest itself (ih tail read)
  | case3 ch1 ch2 rest digits _ ih =>
      rw [decode_escape, if_pos digits] at found
      obtain ⟨tail, read, _⟩ := Option.map_eq_some_iff.mp found
      obtain ⟨high, low⟩ := Bool.and_eq_true_iff.mp digits
      exact .escape ch1 ch2 rest high low (ih tail read)
  | case4 ch1 ch2 rest digits _ =>
      rw [decode_escape, if_neg digits] at found
      cases found
  | case5 rest short _ =>
      -- Fewer than two characters follow the percent sign.
      cases rest with
      | nil => cases found
      | cons ch1 rest =>
          cases rest with
          | nil => cases found
          | cons ch2 rest => exact absurd rfl (short ch1 ch2 rest)
  | case6 c rest reserved other =>
      rw [decode_refused c rest reserved other] at found
      cases found

theorem uri_decode_nonempty (text : Bytes) : uriDecode text ≠ [] ↔ text ≠ [] ∧ Escaped text := by
  constructor
  · intro nonempty
    cases found : uriDecodeLoop text with
    | none => exact absurd (by rw [uriDecode, found]; rfl) nonempty
    | some decoded =>
        refine ⟨fun empty => nonempty ?_, decoded_escaped text decoded found⟩
        rw [empty]
        rfl
  · rintro ⟨nonempty, escaped⟩
    cases escaped with
    | nil => exact absurd rfl nonempty
    | plain c rest itself later =>
        obtain ⟨decoded, found⟩ := escaped_decodes rest later
        rw [uriDecode, decode_plain c rest itself, found]
        exact List.cons_ne_nil _ _
    | escape ch1 ch2 rest high low later =>
        obtain ⟨decoded, found⟩ := escaped_decodes rest later
        rw [uriDecode, decode_escape, high, low, Bool.and_self, if_pos rfl, found]
        exact List.cons_ne_nil _ _

def hexValue (c : UInt8) : Option Nat := (str "0123456789abcdef").idxOf? c <|> (str "0123456789ABCDEF").idxOf? c

-- Percent-encoding: a byte stands for itself where it may, or is two digits
-- behind a percent sign.
inductive Encodes : Bytes → Bytes → Prop where
  | nil : Encodes [] []
  | plain (c : UInt8) (text encoded : Bytes) (itself : unescaped c = true) (later : Encodes text encoded) :
      Encodes (c :: text) (c :: encoded)
  | escape (c ch1 ch2 : UInt8) (high low : Nat) (text encoded : Bytes) (first : hexValue ch1 = some high) (second : hexValue ch2 = some low)
      (value : c.toNat = 16 * high + low) (later : Encodes text encoded) : Encodes (c :: text) (percent :: ch1 :: ch2 :: encoded)

theorem hex_digit_value (ch : UInt8) : isxdigit ch = (hexValue ch).isSome ∧ ∀ value ∈ hexValue ch, value < 16 ∧ hexDigit ch = UInt8.ofNat value := by
  revert ch
  apply every_byte
  decide +kernel

theorem hex_pair_value (high low : Nat) (first : high < 16) (second : low < 16) :
    (UInt8.ofNat high <<< 4 + UInt8.ofNat low).toNat = 16 * high + low := by
  have every : ∀ high low : Fin 16, (UInt8.ofNat high <<< 4 + UInt8.ofNat low).toNat = 16 * high.val + low.val := by decide +kernel
  exact every ⟨high, first⟩ ⟨low, second⟩

theorem encoded_decodes (text encoded : Bytes) (encodes : Encodes text encoded) : uriDecodeLoop encoded = some text := by
  induction encodes with
  | nil => rfl
  | plain c text encoded itself _ ih => rw [decode_plain c encoded itself, ih, Option.map_some]
  | escape c ch1 ch2 high low text encoded first second value _ ih =>
      obtain ⟨digit1, values1⟩ := hex_digit_value ch1
      obtain ⟨digit2, values2⟩ := hex_digit_value ch2
      obtain ⟨small1, same1⟩ := values1 high first
      obtain ⟨small2, same2⟩ := values2 low second
      have byte : hexDigit ch1 <<< 4 + hexDigit ch2 = c := by
        apply UInt8.toNat_inj.mp
        rw [same1, same2, hex_pair_value high low small1 small2, value]
      rw [decode_escape, digit1, digit2, first, second, Option.isSome_some, Option.isSome_some, Bool.and_self, if_pos rfl, ih, byte,
        Option.map_some]

theorem escaped_encodes (encoded : Bytes) (escaped : Escaped encoded) : ∃ text, Encodes text encoded := by
  induction escaped with
  | nil => exact ⟨[], .nil⟩
  | plain c rest itself _ ih =>
      obtain ⟨text, encodes⟩ := ih
      exact ⟨c :: text, .plain c text rest itself encodes⟩
  | escape ch1 ch2 rest high low _ ih =>
      obtain ⟨text, encodes⟩ := ih
      obtain ⟨digit1, values1⟩ := hex_digit_value ch1
      obtain ⟨digit2, values2⟩ := hex_digit_value ch2
      rw [high] at digit1
      rw [low] at digit2
      obtain ⟨value1, first⟩ := Option.isSome_iff_exists.mp digit1.symm
      obtain ⟨value2, second⟩ := Option.isSome_iff_exists.mp digit2.symm
      have byte := hex_pair_value value1 value2 (values1 value1 first).1 (values2 value2 second).1
      exact ⟨_, .escape _ ch1 ch2 value1 value2 text rest first second byte encodes⟩

theorem uri_decode_inverts :
    (∀ text encoded, Encodes text encoded → uriDecode encoded = text) ∧
      ∀ encoded, (∀ text, ¬ Encodes text encoded) → uriDecode encoded = [] := by
  refine ⟨fun text encoded encodes => by rw [uriDecode, encoded_decodes text encoded encodes, Option.getD_some], ?_⟩
  intro encoded none
  cases found : uriDecodeLoop encoded with
  | none => rw [uriDecode, found, Option.getD_none]
  | some decoded =>
      obtain ⟨text, encodes⟩ := escaped_encodes encoded (decoded_escaped encoded decoded found)
      exact absurd encodes (none text)

theorem mixed_case_escape_decoded : uriDecode (str "a%2f%2B+") = str "a/++" :=
  uri_decode_inverts.1 _ _ (.plain _ _ _ (by decide) (.escape _ _ _ 2 15 _ _ (by decide) (by decide) (by decide)
    (.escape _ _ _ 2 11 _ _ (by decide) (by decide) (by decide) (.plain _ _ _ (by decide) .nil))))

end Eventhub.Util
