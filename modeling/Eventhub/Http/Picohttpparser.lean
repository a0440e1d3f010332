import Eventhub.Http.Parser
import Eventhub.Lib.Scan

set_option autoImplicit false

namespace Eventhub.Http

open Scan

def cr : UInt8 := 13
def lf : UInt8 := 10
def tab : UInt8 := 9

def httpRequestMaxHeaders : Nat := 100

def isBlank (c : UInt8) : Bool := c == blank || c == tab

def isLineEnd (c : UInt8) : Bool := c == cr || c == lf

def control (c : UInt8) : Bool := c < 32 || c == 127

def tokenByte (c : UInt8) : Bool := !(c == blank || control c)

def textByte (c : UInt8) : Bool := !(control c && c != tab)

-- token_char_map
def tokenChar (c : UInt8) : Bool := isalnum c || decide (c ∈ str "!\"#$%&'*+-.^_`|~")

-- *buf < ' ' compares plain chars, which may be signed.
def nameByte (charSigned : Bool) (c : UInt8) : Bool := !(c == colon || c < 32 || (charSigned && 128 ≤ c))

-- CR is always followed by EXPECT_CHAR('\012').
def lineEnd : Scanner UInt8 Unit := do
  let c ← expect isLineEnd
  if c = cr then do
    let _ ← expect (· == lf)
    pure ()
  else pure ()

-- ADVANCE_TOKEN and the ++buf behind it.
def advanceToken : Scanner UInt8 Bytes := do
  let token ← run tokenByte
  let _ ← expect (· == blank)
  pure token

-- The loop that takes eight characters at a time stops at the same character.
def getTokenToEol : Scanner UInt8 Bytes := do
  let token ← run textByte
  lineEnd
  pure token

def expectText : Bytes → Scanner UInt8 Unit
  | [] => pure ()
  | ch :: text => do
      let _ ← expect (· == ch)
      expectText text

-- parse_http_version and the end of its line; parse_int stops at the first
-- character that is no digit, and nothing reads the minor version.
def versionLine : Scanner UInt8 Unit := do
  expectText (str "HTTP/1.")
  let c ← peek
  if isdigit c then do
    let _ ← run isdigit
    lineEnd
  else refuse

section

variable (charSigned : Bool)

-- A line that begins with a blank continues the header before it.
def headerLine (first : Bool) : Scanner UInt8 (Bytes × Bytes) := do
  let c ← peek
  if first || !isBlank c then
    if tokenChar c then do
      let name ← run (nameByte charSigned)
      let _ ← expect (· == colon)
      let _ ← run isBlank
      let value ← getTokenToEol
      pure (name, value)
    else refuse
  else do
    let value ← getTokenToEol
    pure ([], value)

def headersOr (next : Scanner UInt8 (List (Bytes × Bytes))) : Scanner UInt8 (List (Bytes × Bytes)) := do
  let c ← peek
  if isLineEnd c then do
    lineEnd
    pure []
  else next

-- left is max_headers - *num_headers.
def parseHeaders : (left : Nat) → (first : Bool) → Scanner UInt8 (List (Bytes × Bytes))
  | 0, _ => headersOr refuse
  | left + 1, first => headersOr do
      let header ← headerLine charSigned first
      let headers ← parseHeaders left false
      pure (header :: headers)

structure PhrRequest where
  method : Bytes
  path : Bytes
  headers : List (Bytes × Bytes)

def requestHead : Scanner UInt8 PhrRequest := do
  let method ← advanceToken
  let path ← advanceToken
  versionLine
  let headers ← parseHeaders charSigned httpRequestMaxHeaders true
  pure ⟨method, path, headers⟩

-- Some clients add an empty line after the body of the request before.
def parseRequest : Scanner UInt8 PhrRequest := do
  let c ← peek
  if isLineEnd c then do
    lineEnd
    requestHead charSigned
  else requestHead charSigned

def completeLoop : (retCnt : Nat) → Bytes → Except Refusal Unit
  | _, [] => .error .incomplete
  | retCnt, c :: rest =>
      if c = cr then
        match rest with
        | [] => .error .incomplete
        | d :: rest => if d ≠ lf then .error .failed else if retCnt + 1 = 2 then .ok () else completeLoop (retCnt + 1) rest
      else if c = lf then if retCnt + 1 = 2 then .ok () else completeLoop (retCnt + 1) rest
      else completeLoop 0 rest

def isComplete (buf : Bytes) (lastLen : Nat) : Except Refusal Unit := completeLoop 0 (if lastLen < 3 then buf else buf.drop (lastLen - 3))

def refused : Refusal → PhrResult
  | .failed => .failed
  | .incomplete => .incomplete

def phrParseRequest (buf : Bytes) (lastLen : Nat) : PhrResult :=
  match (if lastLen ≠ 0 then isComplete buf lastLen else .ok ()) with
  | .error refusal => refused refusal
  | .ok () =>
      match parseRequest charSigned buf with
      | .error refusal => refused refusal
      | .ok (request, _) => .parsed request.method request.path request.headers

end

def LineEnd (text : Bytes) : Prop := text = [lf] ∨ text = [cr, lf]

inductive HeaderText (charSigned : Bool) : (first : Bool) → Bytes → Bytes × Bytes → Prop where
  | named (first : Bool) (c : UInt8) (more blanks value ending : Bytes) (opens : tokenChar c = true)
      (unfolded : first = true ∨ isBlank c = false) (plain : ∀ x ∈ c :: more, nameByte charSigned x = true)
      (skipped : ∀ x ∈ blanks, isBlank x = true) (starts : ∀ x ∈ value.head?, isBlank x = false)
      (printable : ∀ x ∈ value, textByte x = true) (ends : LineEnd ending) :
      HeaderText charSigned first (c :: more ++ colon :: blanks ++ value ++ ending) (c :: more, value)
  | folded (c : UInt8) (more ending : Bytes) (opens : isBlank c = true) (printable : ∀ x ∈ c :: more, textByte x = true)
      (ends : LineEnd ending) : HeaderText charSigned false (c :: more ++ ending) ([], c :: more)

inductive HeadersText (charSigned : Bool) : (left : Nat) → (first : Bool) → Bytes → List (Bytes × Bytes) → Prop where
  | done (left : Nat) (first : Bool) (ending : Bytes) (ends : LineEnd ending) : HeadersText charSigned left first ending []
  | more (left : Nat) (first : Bool) (line rest : Bytes) (header : Bytes × Bytes) (headers : List (Bytes × Bytes))
      (text : HeaderText charSigned first line header) (later : HeadersText charSigned left false rest headers) :
      HeadersText charSigned (left + 1) first (line ++ rest) (header :: headers)

inductive HeadText (charSigned : Bool) : Bytes → PhrRequest → Prop where
  | mk (method path digits ending rest : Bytes) (headers : List (Bytes × Bytes)) (first : ∀ x ∈ method, tokenByte x = true)
      (second : ∀ x ∈ path, tokenByte x = true) (some : digits ≠ []) (numeric : ∀ x ∈ digits, isdigit x = true) (ends : LineEnd ending)
      (text : HeadersText charSigned httpRequestMaxHeaders true rest headers) :
      HeadText charSigned (method ++ blank :: path ++ blank :: str "HTTP/1." ++ digits ++ ending ++ rest) ⟨method, path, headers⟩

def RequestText (charSigned : Bool) (text : Bytes) (request : PhrRequest) : Prop :=
  ∃ empty head, text = empty ++ head ∧ (empty = [] ∨ LineEnd empty) ∧ HeadText charSigned head request

theorem line_end_recognised : Recognises lineEnd (fun word _ => LineEnd word) := by
  have second : ∀ c : UInt8, Recognises (if c = cr then (do let _ ← expect (· == lf); pure ()) else pure () : Scanner UInt8 Unit)
      (fun word _ => if c = cr then word = [lf] else word = []) := by
    intro c
    split
    · exact recognises_congr _ _ _ (recognises_map _ _ (fun _ => ()) (recognises_expect _)) (by simp)
    · exact recognises_congr _ _ _ (recognises_pure ()) (by simp)
  refine recognises_congr _ _ _ (recognises_bind _ _ _ _ (recognises_expect isLineEnd) second) ?_
  intro word _
  constructor
  · rintro ⟨front, c, back, rfl, ⟨rfl, ends⟩, later⟩
    by_cases returned : c = cr
    · rw [if_pos returned] at later
      rw [later, returned]
      exact .inr rfl
    · rw [if_neg returned] at later
      have fed : c = lf := by simpa [isLineEnd, returned] using ends
      rw [later, fed]
      exact .inl rfl
  · rintro (rfl | rfl)
    · exact ⟨[lf], lf, [], rfl, ⟨rfl, rfl⟩, rfl⟩
    · exact ⟨[cr], cr, [lf], rfl, ⟨rfl, rfl⟩, rfl⟩

theorem line_end_value {Value : Type} (value : Value) :
    Recognises (do lineEnd; pure value : Scanner UInt8 Value) (fun word result => LineEnd word ∧ result = value) := by
  refine recognises_congr _ _ _ (recognises_map _ _ (fun _ => value) line_end_recognised) ?_
  exact fun word result => ⟨fun ⟨_, ends, same⟩ => ⟨ends, same⟩, fun ⟨ends, same⟩ => ⟨(), ends, same⟩⟩

theorem line_end_opens (ending : Bytes) (ends : LineEnd ending) : ∃ c rest, ending = c :: rest ∧ isLineEnd c = true := by
  rcases ends with rfl | rfl
  · exact ⟨lf, [], rfl, rfl⟩
  · exact ⟨cr, [lf], rfl, rfl⟩

theorem advance_token_recognised :
    Recognises advanceToken (fun word token => word = token ++ [blank] ∧ ∀ x ∈ token, tokenByte x = true) := by
  have second : ∀ token : Bytes, Recognises (do let _ ← expect (· == blank); pure token : Scanner UInt8 Bytes)
      (fun word value => word = [blank] ∧ value = token) := by
    intro token
    exact recognises_congr _ _ _ (recognises_map _ _ (fun _ => token) (recognises_expect _)) (by simp)
  refine recognises_congr _ _ _ (recognises_run tokenByte _ _ second (by simp)) ?_
  intro word token
  constructor
  · rintro ⟨symbols, c, back, rfl, all, _, ends, rfl⟩
    exact ⟨by rw [ends], all⟩
  · rintro ⟨rfl, all⟩
    exact ⟨token, blank, [], rfl, all, rfl, rfl, rfl⟩

theorem text_ended (c : UInt8) (ends : isLineEnd c = true) : textByte c = false := by
  revert c
  apply every_byte
  decide +kernel

theorem token_to_eol_recognised :
    Recognises getTokenToEol (fun word token => ∃ ending, word = token ++ ending ∧ LineEnd ending ∧ ∀ x ∈ token, textByte x = true) := by
  refine recognises_congr _ _ _ (recognises_run textByte _ _ line_end_value (by simp [LineEnd])) ?_
  intro word token
  constructor
  · rintro ⟨symbols, c, back, rfl, all, _, ends, rfl⟩
    exact ⟨c :: back, rfl, ends, all⟩
  · rintro ⟨ending, rfl, ends, all⟩
    obtain ⟨c, rest, rfl, opens⟩ := line_end_opens ending ends
    exact ⟨token, c, rest, rfl, all, text_ended c opens, ends, rfl⟩

theorem expect_text_recognised (text : Bytes) : Recognises (expectText text) (fun word _ => word = text) := by
  induction text with
  | nil => exact recognises_congr _ _ _ (recognises_pure ()) (by simp)
  | cons ch text ih =>
      refine recognises_congr _ _ _ (recognises_bind _ _ _ _ (recognises_expect _) (fun _ => ih)) ?_
      simp

theorem digits_ended (c : UInt8) (ends : isLineEnd c = true) : isdigit c = false := by
  revert c
  apply every_byte
  decide +kernel

theorem version_line_recognised :
    Recognises versionLine (fun word _ => ∃ digits ending, word = str "HTTP/1." ++ digits ++ ending ∧ digits ≠ [] ∧
      (∀ x ∈ digits, isdigit x = true) ∧ LineEnd ending) := by
  have number : Recognises (do let _ ← run isdigit; lineEnd : Scanner UInt8 Unit)
      (fun word _ => ∃ digits ending, word = digits ++ ending ∧ (∀ x ∈ digits, isdigit x = true) ∧ LineEnd ending) := by
    refine recognises_congr _ _ _ (recognises_run isdigit _ _ (fun _ => line_end_recognised) (by simp [LineEnd])) ?_
    intro word _
    constructor
    · rintro ⟨digits, c, back, rfl, all, _, ends⟩
      exact ⟨digits, c :: back, rfl, all, ends⟩
    · rintro ⟨digits, ending, rfl, all, ends⟩
      obtain ⟨c, rest, rfl, opens⟩ := line_end_opens ending ends
      exact ⟨digits, c, rest, rfl, all, digits_ended c opens, ends⟩
  have second : ∀ c : UInt8, Recognises (if isdigit c then (do let _ ← run isdigit; lineEnd) else refuse : Scanner UInt8 Unit)
      (fun word _ => isdigit c = true ∧ ∃ digits ending, word = digits ++ ending ∧ (∀ x ∈ digits, isdigit x = true) ∧ LineEnd ending) := by
    intro c
    split
    · rename_i digit
      exact recognises_congr _ _ _ number (by simp [digit])
    · rename_i other
      exact recognises_congr _ _ _ recognises_refuse (by simp [other])
  refine recognises_congr _ _ _ (recognises_bind _ _ _ _ (expect_text_recognised _) (fun _ =>
    recognises_peek _ _ second (by simp [LineEnd]))) ?_
  intro word _
  constructor
  · rintro ⟨front, _, back, rfl, rfl, c, rest, rfl, digit, digits, ending, split, all, ends⟩
    refine ⟨digits, ending, by rw [split, List.append_assoc], ?_, all, ends⟩
    rintro rfl
    obtain ⟨other, tail, rfl, opens⟩ := line_end_opens ending ends
    cases split
    rw [digits_ended c opens] at digit
    cases digit
  · rintro ⟨digits, ending, rfl, some, all, ends⟩
    obtain ⟨c, rest, rfl⟩ := List.exists_cons_of_ne_nil some
    refine ⟨str "HTTP/1.", (), (c :: rest) ++ ending, List.append_assoc _ _ _, rfl, c, rest ++ ending, rfl, all c List.mem_cons_self, ?_⟩
    exact ⟨c :: rest, ending, rfl, all, ends⟩

theorem blanks_ended (c : UInt8) (ends : isLineEnd c = true) : isBlank c = false := by
  revert c
  apply every_byte
  decide +kernel

section

variable (charSigned : Bool)

def ValueLine (name word : Bytes) (header : Bytes × Bytes) : Prop :=
  ∃ value ending, word = value ++ ending ∧ header = (name, value) ∧ (∀ x ∈ value, textByte x = true) ∧ LineEnd ending

theorem line_value_recognised (name : Bytes) :
    Recognises (do let value ← getTokenToEol; pure (name, value) : Scanner UInt8 (Bytes × Bytes)) (ValueLine name) := by
  refine recognises_congr _ _ _ (recognises_map _ _ (fun value => (name, value)) token_to_eol_recognised) ?_
  intro word header
  constructor
  · rintro ⟨value, ⟨ending, rfl, ends, all⟩, rfl⟩
    exact ⟨value, ending, rfl, rfl, all, ends⟩
  · rintro ⟨value, ending, rfl, rfl, all, ends⟩
    exact ⟨value, ⟨ending, rfl, ends, all⟩, rfl⟩

theorem line_value_nonempty (value ending : Bytes) (ends : LineEnd ending) : [] ≠ value ++ ending := by
  obtain ⟨c, rest, rfl, _⟩ := line_end_opens ending ends
  exact (List.append_ne_nil_of_right_ne_nil value (List.cons_ne_nil _ _)).symm

theorem header_value_recognised (name : Bytes) :
    Recognises (do let _ ← run isBlank; let value ← getTokenToEol; pure (name, value) : Scanner UInt8 (Bytes × Bytes))
      (fun word header => ∃ blanks value ending, word = blanks ++ value ++ ending ∧ header = (name, value) ∧
        (∀ x ∈ blanks, isBlank x = true) ∧ (∀ x ∈ value.head?, isBlank x = false) ∧ (∀ x ∈ value, textByte x = true) ∧ LineEnd ending) := by
  refine recognises_congr _ _ _ (recognises_run isBlank _ _ (fun _ => line_value_recognised name) ?_) ?_
  · rintro _ header ⟨value, ending, empty, _, _, ends⟩
    exact line_value_nonempty value ending ends empty
  · intro word header
    constructor
    · rintro ⟨blanks, c, back, rfl, all, stops, value, ending, split, rfl, printable, ends⟩
      refine ⟨blanks, value, ending, by rw [split, List.append_assoc], rfl, all, ?_, printable, ends⟩
      intro x head
      cases value with
      | nil => cases head
      | cons first more =>
          cases head
          cases split
          exact stops
    · rintro ⟨blanks, value, ending, rfl, rfl, all, starts, printable, ends⟩
      obtain ⟨e, rest, rfl, opens⟩ := line_end_opens ending ends
      have both : ∃ c back, value ++ e :: rest = c :: back ∧ isBlank c = false := by
        cases value with
        | nil => exact ⟨e, rest, rfl, blanks_ended e opens⟩
        | cons first more => exact ⟨first, more ++ e :: rest, rfl, starts first rfl⟩
      obtain ⟨c, back, split, stops⟩ := both
      exact ⟨blanks, c, back, by rw [List.append_assoc, split], all, stops, value, e :: rest, split.symm, rfl, printable, ends⟩

def NamedLine (word : Bytes) (header : Bytes × Bytes) : Prop :=
  ∃ name blanks value ending, word = name ++ colon :: blanks ++ value ++ ending ∧ header = (name, value) ∧
    (∀ x ∈ name, nameByte charSigned x = true) ∧ (∀ x ∈ blanks, isBlank x = true) ∧ (∀ x ∈ value.head?, isBlank x = false) ∧
    (∀ x ∈ value, textByte x = true) ∧ LineEnd ending

theorem named_header_recognised :
    Recognises (do
        let name ← run (nameByte charSigned)
        let _ ← expect (· == colon)
        let _ ← run isBlank
        let value ← getTokenToEol
        pure (name, value) : Scanner UInt8 (Bytes × Bytes)) (NamedLine charSigned) := by
  refine recognises_congr _ _ _ (recognises_run (nameByte charSigned) _ _ (fun name => recognises_bind _ _ _ _ (recognises_expect _)
    (fun _ => header_value_recognised name)) ?_) ?_
  · rintro name header ⟨front, c, back, empty, ⟨rfl, _⟩, _⟩
    cases empty
  · intro word header
    constructor
    · rintro ⟨name, c, back, rfl, all, _, front, d, rest, split, ⟨rfl, sign⟩, blanks, value, ending, rfl, rfl, others⟩
      cases split
      refine ⟨name, blanks, value, ending, ?_, rfl, all, others⟩
      rw [beq_iff_eq.mp sign]
      simp only [List.append_assoc, List.cons_append]
      rfl
    · rintro ⟨name, blanks, value, ending, rfl, rfl, all, others⟩
      refine ⟨name, colon, blanks ++ value ++ ending, by simp only [List.append_assoc, List.cons_append], all, ?_, ?_⟩
      · cases charSigned <;> rfl
      · exact ⟨[colon], colon, blanks ++ value ++ ending, rfl, ⟨rfl, rfl⟩, blanks, value, ending, rfl, rfl, others⟩

theorem named_line_nonempty (header : Bytes × Bytes) : ¬ NamedLine charSigned [] header := by
  rintro ⟨name, blanks, value, ending, empty, _, _, _, _, _, ends⟩
  exact line_value_nonempty _ ending ends empty

theorem value_line_nonempty (name : Bytes) (header : Bytes × Bytes) : ¬ ValueLine name [] header := by
  rintro ⟨value, ending, empty, _, _, ends⟩
  exact line_value_nonempty value ending ends empty

theorem named_line_iff (first : Bool) (c : UInt8) (back : Bytes) (header : Bytes × Bytes) (unfolded : (first || !isBlank c) = true) :
    (tokenChar c = true ∧ NamedLine charSigned (c :: back) header) ↔ HeaderText charSigned first (c :: back) header := by
  constructor
  · rintro ⟨opens, name, blanks, value, ending, split, rfl, plain, skipped, starts, printable, ends⟩
    cases name with
    | nil =>
        cases split
        cases opens
    | cons other more =>
        cases split
        exact .named first c more blanks value ending opens (by simpa using unfolded) plain skipped starts printable ends
  · intro text
    cases text with
    | named first c more blanks value ending opens _ plain skipped starts printable ends =>
        exact ⟨opens, c :: more, blanks, value, ending, rfl, rfl, plain, skipped, starts, printable, ends⟩
    | folded c more ending opens printable ends => simp [opens] at unfolded

theorem folded_line_iff (c : UInt8) (back : Bytes) (header : Bytes × Bytes) (folded : isBlank c = true) :
    ValueLine [] (c :: back) header ↔ HeaderText charSigned false (c :: back) header := by
  constructor
  · rintro ⟨value, ending, split, rfl, printable, ends⟩
    cases value with
    | nil =>
        obtain ⟨e, rest, rfl, opens⟩ := line_end_opens ending ends
        cases split
        rw [blanks_ended c opens] at folded
        cases folded
    | cons other more =>
        cases split
        exact .folded c more ending folded printable ends
  · intro text
    cases text with
    | named first c more blanks value ending opens unfolded plain skipped starts printable ends => simp [folded] at unfolded
    | folded c more ending opens printable ends => exact ⟨c :: more, ending, rfl, rfl, printable, ends⟩

theorem header_opens (first : Bool) (line : Bytes) (header : Bytes × Bytes) (text : HeaderText charSigned first line header) :
    ∃ c back, line = c :: back ∧ isLineEnd c = false := by
  have token : ∀ c, tokenChar c = true → isLineEnd c = false := by
    apply every_byte
    decide +kernel
  cases text with
  | named first c more blanks value ending opens =>
      exact ⟨c, more ++ colon :: blanks ++ value ++ ending, by simp only [List.cons_append, List.append_assoc], token c opens⟩
  | folded c more ending opens =>
      refine ⟨c, more ++ ending, rfl, Bool.eq_false_iff.mpr (fun ends => ?_)⟩
      rw [blanks_ended c ends] at opens
      cases opens

theorem header_line_recognised (first : Bool) : Recognises (headerLine charSigned first) (HeaderText charSigned first) := by
  have second : ∀ c : UInt8, Recognises (if first || !isBlank c then
        if tokenChar c then do
          let name ← run (nameByte charSigned)
          let _ ← expect (· == colon)
          let _ ← run isBlank
          let value ← getTokenToEol
          pure (name, value)
        else refuse
      else do
        let value ← getTokenToEol
        pure ([], value) : Scanner UInt8 (Bytes × Bytes))
      (fun word header => if first || !isBlank c then tokenChar c = true ∧ NamedLine charSigned word header else ValueLine [] word header) := by
    intro c
    split
    · split
      · rename_i opens
        exact recognises_congr _ _ _ (named_header_recognised charSigned) (fun _ _ => (and_iff_right opens).symm)
      · rename_i other
        exact recognises_congr _ _ _ recognises_refuse (fun _ _ => ⟨False.elim, fun all => other all.1⟩)
    · exact line_value_recognised []
  have same (c : UInt8) (back : Bytes) (header : Bytes × Bytes) :
      (if first || !isBlank c then tokenChar c = true ∧ NamedLine charSigned (c :: back) header else ValueLine [] (c :: back) header) ↔
        HeaderText charSigned first (c :: back) header := by
    by_cases unfolded : (first || !isBlank c) = true
    · rw [if_pos unfolded]
      exact named_line_iff charSigned first c back header unfolded
    · obtain ⟨rfl, folded⟩ : first = false ∧ isBlank c = true := by simpa using unfolded
      rw [if_neg unfolded]
      exact folded_line_iff charSigned c back header folded
  refine recognises_congr _ _ _ (recognises_peek _ _ second ?_) ?_
  · intro c header word
    split at word
    · exact named_line_nonempty charSigned header word.2
    · exact value_line_nonempty [] header word
  · intro word header
    constructor
    · rintro ⟨c, back, rfl, read⟩
      exact (same c back header).mp read
    · intro text
      obtain ⟨c, back, rfl, _⟩ := header_opens charSigned first word header text
      exact ⟨c, back, rfl, (same c back header).mpr text⟩

theorem headers_or_recognised (next : Scanner UInt8 (List (Bytes × Bytes))) (language : Bytes → List (Bytes × Bytes) → Prop)
    (recognises : Recognises next language) (opens : ∀ word headers, language word headers → ∃ c back, word = c :: back ∧ isLineEnd c = false) :
    Recognises (headersOr next) (fun word headers => (LineEnd word ∧ headers = []) ∨ language word headers) := by
  have second : ∀ c : UInt8, Recognises (if isLineEnd c then (do lineEnd; pure []) else next)
      (fun word headers => if isLineEnd c then LineEnd word ∧ headers = [] else language word headers) := by
    intro c
    split
    · exact line_end_value []
    · exact recognises
  refine recognises_congr _ _ _ (recognises_peek _ _ second ?_) ?_
  · intro c headers word
    split at word
    · obtain ⟨_, _, empty, _⟩ := line_end_opens [] word.1
      cases empty
    · obtain ⟨_, _, empty, _⟩ := opens [] headers word
      cases empty
  · intro word headers
    constructor
    · rintro ⟨c, back, rfl, read⟩
      split at read
      · exact .inl read
      · exact .inr read
    · rintro (⟨ends, rfl⟩ | text)
      · obtain ⟨c, back, rfl, opening⟩ := line_end_opens word ends
        exact ⟨c, back, rfl, by rw [if_pos opening]; exact ⟨ends, rfl⟩⟩
      · obtain ⟨c, back, rfl, other⟩ := opens word headers text
        exact ⟨c, back, rfl, by rw [if_neg (Bool.eq_false_iff.mp other)]; exact text⟩

theorem headers_recognised (left : Nat) (first : Bool) : Recognises (parseHeaders charSigned left first) (HeadersText charSigned left first) := by
  induction left generalizing first with
  | zero =>
      refine recognises_congr _ _ _ (headers_or_recognised refuse _ recognises_refuse (fun _ _ never => never.elim)) ?_
      intro word headers
      constructor
      · rintro (⟨ends, rfl⟩ | never)
        · exact .done 0 first word ends
        · exact never.elim
      · intro text
        cases text with
        | done _ _ _ ends => exact .inl ⟨ends, rfl⟩
  | succ left ih =>
      have more : Recognises (do
            let header ← headerLine charSigned first
            let headers ← parseHeaders charSigned left false
            pure (header :: headers))
          (fun word headers => ∃ line rest header later, word = line ++ rest ∧ headers = header :: later ∧
            HeaderText charSigned first line header ∧ HeadersText charSigned left false rest later) := by
        refine recognises_congr _ _ _ (recognises_bind _ _ _ _ (header_line_recognised charSigned first) (fun header =>
          recognises_map _ _ (header :: ·) (ih false))) ?_
        intro word headers
        constructor
        · rintro ⟨line, header, rest, rfl, text, later, texts, rfl⟩
          exact ⟨line, rest, header, later, rfl, rfl, text, texts⟩
        · rintro ⟨line, rest, header, later, rfl, rfl, text, texts⟩
          exact ⟨line, header, rest, rfl, text, later, texts, rfl⟩
      refine recognises_congr _ _ _ (headers_or_recognised _ _ more ?_) ?_
      · rintro word headers ⟨line, rest, header, later, rfl, _, text, _⟩
        obtain ⟨c, back, rfl, other⟩ := header_opens charSigned first line header text
        exact ⟨c, back ++ rest, rfl, other⟩
      · intro word headers
        constructor
        · rintro (⟨ends, rfl⟩ | ⟨line, rest, header, later, rfl, rfl, text, texts⟩)
          · exact .done (left + 1) first word ends
          · exact .more left first line rest header later text texts
        · intro text
          cases text with
          | done _ _ _ ends => exact .inl ⟨ends, rfl⟩
          | more _ _ line rest header later text texts => exact .inr ⟨line, rest, header, later, rfl, rfl, text, texts⟩

theorem request_head_recognised : Recognises (requestHead charSigned) (HeadText charSigned) := by
  refine recognises_congr _ _ _ (recognises_bind _ _ _ _ advance_token_recognised (fun method =>
    recognises_bind _ _ _ _ advance_token_recognised (fun path => recognises_bind _ _ _ _ version_line_recognised (fun _ =>
      recognises_map _ _ (PhrRequest.mk method path) (headers_recognised charSigned httpRequestMaxHeaders true))))) ?_
  intro word request
  constructor
  · rintro ⟨_, method, _, rfl, ⟨rfl, first⟩, _, path, _, rfl, ⟨rfl, second⟩, _, _, rest, rfl, ⟨digits, ending, rfl, some, numeric, ends⟩,
      headers, text, rfl⟩
    have head := HeadText.mk method path digits ending rest headers first second some numeric ends text
    simpa only [List.append_assoc, List.cons_append, List.nil_append, List.append_nil] using head
  · intro text
    cases text with
    | mk method path digits ending rest headers first second some numeric ends text =>
        refine ⟨method ++ [blank], method, path ++ blank :: str "HTTP/1." ++ digits ++ ending ++ rest, ?_, ⟨rfl, first⟩,
          path ++ [blank], path, str "HTTP/1." ++ digits ++ ending ++ rest, ?_, ⟨rfl, second⟩, str "HTTP/1." ++ digits ++ ending, (), rest, rfl,
          ⟨digits, ending, rfl, some, numeric, ends⟩, headers, text, rfl⟩
        · simp only [List.append_assoc, List.cons_append, List.nil_append]
        · simp only [List.append_assoc, List.cons_append, List.nil_append]

theorem head_opens (text : Bytes) (request : PhrRequest) (head : HeadText charSigned text request) :
    ∃ c back, text = c :: back ∧ isLineEnd c = false := by
  have token : ∀ c, tokenByte c = true → isLineEnd c = false := by
    apply every_byte
    decide +kernel
  cases head with
  | mk method path digits ending rest headers first =>
      cases method with
      | nil => exact ⟨blank, path ++ blank :: str "HTTP/1." ++ digits ++ ending ++ rest, rfl, rfl⟩
      | cons c more =>
          exact ⟨c, more ++ blank :: path ++ blank :: str "HTTP/1." ++ digits ++ ending ++ rest, rfl, token c (first c List.mem_cons_self)⟩

theorem request_recognised : Recognises (parseRequest charSigned) (RequestText charSigned) := by
  have second : ∀ c : UInt8, Recognises (if isLineEnd c then (do lineEnd; requestHead charSigned) else requestHead charSigned)
      (fun word request => if isLineEnd c then ∃ empty head, word = empty ++ head ∧ LineEnd empty ∧ HeadText charSigned head request
        else HeadText charSigned word request) := by
    intro c
    split
    · refine recognises_congr _ _ _ (recognises_bind _ _ _ _ line_end_recognised (fun _ => request_head_recognised charSigned)) ?_
      intro word request
      constructor
      · exact fun ⟨empty, _, head, same, ends, text⟩ => ⟨empty, head, same, ends, text⟩
      · exact fun ⟨empty, head, same, ends, text⟩ => ⟨empty, (), head, same, ends, text⟩
    · exact request_head_recognised charSigned
  refine recognises_congr _ _ _ (recognises_peek _ _ second ?_) ?_
  · intro c request word
    split at word
    · obtain ⟨empty, head, same, ends, _⟩ := word
      obtain ⟨_, _, rfl, _⟩ := line_end_opens empty ends
      cases same
    · obtain ⟨_, _, same, _⟩ := head_opens charSigned [] request word
      cases same
  · intro word request
    constructor
    · rintro ⟨c, back, rfl, read⟩
      split at read
      · obtain ⟨empty, head, same, ends, text⟩ := read
        exact ⟨empty, head, same, .inr ends, text⟩
      · exact ⟨[], c :: back, rfl, .inl rfl, read⟩
    · rintro ⟨empty, head, rfl, rfl | ends, text⟩
      · obtain ⟨c, back, rfl, other⟩ := head_opens charSigned head request text
        exact ⟨c, back, rfl, by rw [if_neg (Bool.eq_false_iff.mp other)]; exact text⟩
      · obtain ⟨c, back, rfl, opening⟩ := line_end_opens empty ends
        exact ⟨c, back ++ head, rfl, by rw [if_pos opening]; exact ⟨c :: back, head, rfl, ends, text⟩⟩

end

end Eventhub.Http
