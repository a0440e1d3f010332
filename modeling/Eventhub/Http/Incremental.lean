import Eventhub.Http.Picohttpparser

set_option autoImplicit false

namespace Eventhub.Http

open Scan

inductive Paired : Bytes → Prop where
  | nil : Paired []
  | plain (c : UInt8) (rest : Bytes) (other : c ≠ cr) (paired : Paired rest) : Paired (c :: rest)
  | ended (rest : Bytes) (paired : Paired rest) : Paired (cr :: lf :: rest)

theorem paired_plain (text : Bytes) (plain : ∀ c ∈ text, c ≠ cr) : Paired text := by
  induction text with
  | nil => exact .nil
  | cons c rest ih => exact .plain c rest (plain c List.mem_cons_self) (ih (fun x inside => plain x (List.mem_cons_of_mem c inside)))

theorem paired_append (front back : Bytes) (first : Paired front) (second : Paired back) : Paired (front ++ back) := by
  induction first with
  | nil => exact second
  | plain c rest other _ ih => exact .plain c (rest ++ back) other ih
  | ended rest _ ih => exact .ended (rest ++ back) ih

theorem paired_line_end (ending : Bytes) (ends : LineEnd ending) : Paired ending := by
  rcases ends with rfl | rfl
  · exact .plain lf [] (by decide) .nil
  · exact .ended [] .nil

theorem paired_drop (text : Bytes) (paired : Paired text) (count : Nat) : Paired (text.drop count) := by
  induction paired generalizing count with
  | nil =>
      rw [List.drop_nil]
      exact .nil
  | plain c rest other paired ih =>
      cases count with
      | zero => exact .plain c rest other paired
      | succ count => exact ih count
  | ended rest paired ih =>
      match count with
      | 0 => exact .ended rest paired
      | 1 => exact .plain lf rest (by decide) paired
      | count + 2 => exact ih count

def Closed (text : Bytes) : Prop := ∃ front first second, text = front ++ first ++ second ∧ Paired front ∧ LineEnd first ∧ LineEnd second

section

variable (charSigned : Bool)

theorem header_line_paired (first : Bool) (line : Bytes) (header : Bytes × Bytes) (text : HeaderText charSigned first line header) :
    ∃ front ending, line = front ++ ending ∧ Paired front ∧ LineEnd ending := by
  have name : ∀ c, nameByte charSigned c = true → c ≠ cr := by
    rintro c named rfl
    cases named
  have printed : ∀ c, textByte c = true → c ≠ cr := by
    rintro c printable rfl
    cases printable
  have blanked : ∀ c, isBlank c = true → c ≠ cr := by
    rintro c skipped rfl
    cases skipped
  cases text with
  | named first c more blanks value ending opens unfolded plain skipped starts printable ends =>
      refine ⟨c :: more ++ colon :: blanks ++ value, ending, rfl, ?_, ends⟩
      apply paired_append
      · apply paired_append
        · exact paired_plain _ (fun x inside => name x (plain x inside))
        · exact .plain colon blanks (by decide) (paired_plain _ (fun x inside => blanked x (skipped x inside)))
      · exact paired_plain _ (fun x inside => printed x (printable x inside))
  | folded c more ending opens printable ends =>
      exact ⟨c :: more, ending, rfl, paired_plain _ (fun x inside => printed x (printable x inside)), ends⟩

theorem headers_closed (left : Nat) (first : Bool) (rest : Bytes) (headers : List (Bytes × Bytes))
    (text : HeadersText charSigned left first rest headers) (front ending : Bytes) (paired : Paired front) (ends : LineEnd ending) :
    Closed (front ++ ending ++ rest) := by
  induction text generalizing front ending with
  | done left first last closing => exact ⟨front, ending, last, rfl, paired, ends, closing⟩
  | more left first line rest header headers text _ ih =>
      obtain ⟨body, close, rfl, plain, closing⟩ := header_line_paired charSigned first line header text
      have before : Paired (front ++ ending ++ body) := paired_append _ _ (paired_append _ _ paired (paired_line_end ending ends)) plain
      have closed := ih (front ++ ending ++ body) close before closing
      rwa [List.append_assoc _ body close, List.append_assoc _ (body ++ close) rest] at closed

theorem request_closed (text : Bytes) (request : PhrRequest) (accepted : RequestText charSigned text request) : Closed text := by
  have token : ∀ c, tokenByte c = true → c ≠ cr := by
    rintro c named rfl
    cases named
  have digit : ∀ c, isdigit c = true → c ≠ cr := by
    rintro c numeric rfl
    cases numeric
  obtain ⟨empty, head, rfl, skipped, accepted⟩ := accepted
  have opened : Paired empty := by
    rcases skipped with rfl | ends
    · exact .nil
    · exact paired_line_end empty ends
  cases accepted with
  | mk method path digits ending rest headers first second some numeric ends text =>
      have words : Paired (method ++ blank :: path ++ blank :: str "HTTP/1." ++ digits) := by
        apply paired_plain
        intro c inside
        simp only [List.append_assoc, List.mem_append, List.cons_append, List.mem_cons] at inside
        rcases inside with inside | rfl | inside | rfl | inside | inside
        · exact token c (first c inside)
        · decide
        · exact token c (second c inside)
        · decide
        · rintro rfl
          revert inside
          decide
        · exact digit c (numeric c inside)
      have closed := headers_closed charSigned httpRequestMaxHeaders true rest headers text _ ending (paired_append _ _ opened words) ends
      simpa only [List.append_assoc] using closed

end

theorem complete_loop_line (retCnt : Nat) (ending rest : Bytes) (ends : LineEnd ending) :
    completeLoop retCnt (ending ++ rest) = if retCnt + 1 = 2 then .ok () else completeLoop (retCnt + 1) rest := by
  rcases ends with rfl | rfl
  · rw [completeLoop.eq_def]
    rfl
  · rw [completeLoop.eq_def]
    rfl

theorem complete_loop_plain (retCnt : Nat) (c : UInt8) (rest : Bytes) (returned : c ≠ cr) (fed : c ≠ lf) :
    completeLoop retCnt (c :: rest) = completeLoop 0 rest := by
  rw [completeLoop.eq_def]
  simp only [if_neg returned, if_neg fed]

theorem complete_loop_closed (first second rest : Bytes) (opens : LineEnd first) (closes : LineEnd second) (retCnt : Nat)
    (few : retCnt < 2) : completeLoop retCnt (first ++ (second ++ rest)) = .ok () := by
  rw [complete_loop_line retCnt first _ opens]
  by_cases already : retCnt + 1 = 2
  · rw [if_pos already]
  · have none : retCnt = 0 := by omega
    rw [if_neg already, none, complete_loop_line _ second rest closes]
    rfl

theorem complete_loop_passes (front back : Bytes) (paired : Paired front) (passes : ∀ retCnt < 2, completeLoop retCnt back = .ok ())
    (retCnt : Nat) (few : retCnt < 2) : completeLoop retCnt (front ++ back) = .ok () := by
  induction paired generalizing retCnt with
  | nil => exact passes retCnt few
  | plain c rest other _ ih =>
      by_cases fed : c = lf
      · rw [List.cons_append, fed]
        have line := complete_loop_line retCnt [lf] (rest ++ back) (.inl rfl)
        rw [List.cons_append, List.nil_append] at line
        rw [line]
        split
        · rfl
        · exact ih (retCnt + 1) (by omega)
      · rw [List.cons_append, complete_loop_plain retCnt c _ other fed]
        exact ih 0 (by omega)
  | ended rest _ ih =>
      have line := complete_loop_line retCnt [cr, lf] (rest ++ back) (.inr rfl)
      rw [List.cons_append, List.cons_append, List.nil_append] at line
      rw [List.cons_append, List.cons_append, line]
      split
      · rfl
      · exact ih (retCnt + 1) (by omega)

theorem is_complete_closed (text rest : Bytes) (closed : Closed text) (lastLen : Nat) (beyond : lastLen < text.length) :
    isComplete (text ++ rest) lastLen = .ok () := by
  obtain ⟨front, first, second, rfl, paired, opens, closes⟩ := closed
  have short : ∀ ending : Bytes, LineEnd ending → ending.length ≤ 2 := by
    rintro ending (rfl | rfl)
    · decide
    · decide
  have within : (if lastLen < 3 then 0 else lastLen - 3) ≤ front.length := by
    have := short first opens
    have := short second closes
    rw [List.length_append, List.length_append] at beyond
    split
    · omega
    · omega
  have start : (if lastLen < 3 then (front ++ first ++ second ++ rest) else (front ++ first ++ second ++ rest).drop (lastLen - 3)) =
      front.drop (if lastLen < 3 then 0 else lastLen - 3) ++ (first ++ (second ++ rest)) := by
    rw [← List.drop_append_of_le_length within, List.append_assoc, List.append_assoc]
    split
    · rfl
    · rfl
  rw [isComplete, start]
  exact complete_loop_passes _ _ (paired_drop front paired _) (complete_loop_closed first second rest opens closes) 0 (by omega)

section

variable (charSigned : Bool)

theorem phr_parsed (buf rest : Bytes) (lastLen : Nat) (request : PhrRequest) (parsed : parseRequest charSigned buf = .ok (request, rest))
    (beyond : lastLen + rest.length < buf.length) :
    phrParseRequest charSigned buf lastLen = .parsed request.method request.path request.headers := by
  obtain ⟨used, rfl, text⟩ := (request_recognised charSigned buf request rest).mp parsed
  rw [List.length_append] at beyond
  have passed : (if lastLen ≠ 0 then isComplete (used ++ rest) lastLen else .ok ()) = .ok () := by
    split
    · exact is_complete_closed used rest (request_closed charSigned used request text) lastLen (by omega)
    · rfl
  rw [phrParseRequest, passed]
  simp only [parsed]

theorem phr_refused (buf : Bytes) (lastLen : Nat) (never : ∀ request rest, parseRequest charSigned buf ≠ .ok (request, rest)) :
    phrParseRequest charSigned buf lastLen = .failed ∨ phrParseRequest charSigned buf lastLen = .incomplete := by
  have either : ∀ refusal, refused refusal = .failed ∨ refused refusal = .incomplete := by
    intro refusal
    cases refusal with
    | failed => exact .inl rfl
    | incomplete => exact .inr rfl
  rw [phrParseRequest]
  split
  · exact either _
  · split
    · exact either _
    · rename_i request rest parsed
      exact absurd parsed (never request rest)

end

-- What each call reports, and the parser that call leaves behind.
def Parser.reports (phrParseRequest : Bytes → Nat → PhrResult) (parser : Parser) : List Bytes → List (Parser × RequestState)
  | [] => []
  | chunk :: chunks => parser.parse phrParseRequest chunk :: (parser.parse phrParseRequest chunk).1.reports phrParseRequest chunks

structure Pending (charSigned : Bool) (parser : Parser) (before : Bytes) : Prop where
  buf : parser.buf = before
  bytesRead : parser.bytesRead = before.length
  isComplete : parser.isComplete = false
  method : parser.method = []
  path : parser.path = []
  headers : parser.headers = ∅
  qsmap : parser.qsmap = ∅
  partly : ∀ request rest, parseRequest charSigned before ≠ .ok (request, rest)

def SameRequest (parser other : Parser) : Prop :=
  parser.method = other.method ∧ parser.path = other.path ∧ parser.headers = other.headers ∧ parser.qsmap = other.qsmap

theorem parse_continues (phrParseRequest : Bytes → Nat → PhrResult) (parser : Parser) (data : Bytes) (running : parser.isComplete = false)
    (fits : parser.bytesRead + data.length ≤ httpBufsiz) :
    let grown : Parser :=
      { parser with bytesReadPrev := parser.bytesRead, bytesRead := parser.bytesRead + data.length, buf := parser.buf ++ data }
    parser.parse phrParseRequest data =
      match phrParseRequest (parser.buf ++ data) parser.bytesRead with
      | .failed => ({ grown with errorMessage := str "REQ_FAILED: Parse failed." }, .reqFailed)
      | .incomplete => (grown, .reqIncomplete)
      | .parsed method path headers => (grown.store method path headers, .reqOk) := by
  have small : ¬ parser.bytesRead + data.length > httpBufsiz := not_lt.mpr fits
  have going : ¬ (parser.isComplete && data.isEmpty) = true := by rw [running]; exact Bool.false_ne_true
  have kept : (if parser.isComplete then Parser.reset else parser) = parser := if_neg (by rw [running]; exact Bool.false_ne_true)
  intro grown
  rw [Parser.parse, if_neg going, kept]
  exact if_neg small

section

variable (charSigned : Bool)

theorem reset_pending : Pending charSigned Parser.reset [] where
  buf := rfl
  bytesRead := rfl
  isComplete := rfl
  method := rfl
  path := rfl
  headers := rfl
  qsmap := rfl
  partly := fun _ _ parsed => (nomatch parsed)

theorem parse_pending (parser : Parser) (before data : Bytes) (pending : Pending charSigned parser before)
    (fits : (before ++ data).length ≤ httpBufsiz) (never : ∀ request rest, parseRequest charSigned (before ++ data) ≠ .ok (request, rest)) :
    (parser.parse (phrParseRequest charSigned) data).2 ≠ .reqOk ∧
      Pending charSigned (parser.parse (phrParseRequest charSigned) data).1 (before ++ data) := by
  have length : (before ++ data).length = parser.bytesRead + data.length := by rw [List.length_append, pending.bytesRead]
  rw [parse_continues _ parser data pending.isComplete (length ▸ fits), pending.buf]
  rcases phr_refused charSigned (before ++ data) parser.bytesRead never with refusal | refusal
  all_goals
    rw [refusal]
    constructor
    · simp
    · exact ⟨rfl, length.symm, pending.isComplete, pending.method, pending.path, pending.headers, pending.qsmap, never⟩

theorem parse_finishes (parser : Parser) (before data rest : Bytes) (request : PhrRequest) (pending : Pending charSigned parser before)
    (fits : (before ++ data).length ≤ httpBufsiz) (parsed : parseRequest charSigned (before ++ data) = .ok (request, rest)) :
    (parser.parse (phrParseRequest charSigned) data).2 = .reqOk ∧
      SameRequest (parser.parse (phrParseRequest charSigned) data).1 (Parser.reset.store request.method request.path request.headers) := by
  have length : (before ++ data).length = parser.bytesRead + data.length := by rw [List.length_append, pending.bytesRead]
  have beyond : parser.bytesRead + rest.length < (before ++ data).length := by
    obtain ⟨used, split, _, alone⟩ := recognised_alone _ _ (request_recognised charSigned) _ rest request parsed
    by_contra within
    have lengths : (before ++ data).length = used.length + rest.length := by rw [split, List.length_append]
    rw [pending.bytesRead] at within
    obtain ⟨later, rfl⟩ : used <+: before := List.prefix_of_prefix_length_le ⟨rest, split.symm⟩ ⟨data, rfl⟩ (by omega)
    exact pending.partly request later (alone later)
  rw [parse_continues _ parser data pending.isComplete (length ▸ fits), pending.buf,
    phr_parsed charSigned (before ++ data) rest parser.bytesRead request parsed beyond]
  refine ⟨rfl, ?_⟩
  simp only [SameRequest, Parser.store, pending.method, pending.path, pending.headers, pending.qsmap, Parser.reset, and_self]

theorem reports_pending (chunks : List Bytes) (parser : Parser) (before : Bytes) (pending : Pending charSigned parser before)
    (fits : (before ++ chunks.flatten).length ≤ httpBufsiz) :
    match parseRequest charSigned (before ++ chunks.flatten) with
    | .ok (request, _) => ∃ report, (parser.reports (phrParseRequest charSigned) chunks).find? (·.2 = .reqOk) = some report ∧
        SameRequest report.1 (Parser.reset.store request.method request.path request.headers)
    | .error _ => (parser.reports (phrParseRequest charSigned) chunks).find? (·.2 = .reqOk) = none := by
  induction chunks generalizing parser before with
  | nil =>
      rw [List.flatten_nil, List.append_nil]
      split
      · rename_i request rest parsed
        exact absurd parsed (pending.partly request rest)
      · rfl
  | cons chunk chunks ih =>
      rw [List.flatten_cons, ← List.append_assoc] at fits ⊢
      have part : (before ++ chunk).length ≤ httpBufsiz := by
        rw [List.length_append] at fits
        omega
      rw [Parser.reports]
      by_cases whole : ∃ request rest, parseRequest charSigned (before ++ chunk) = .ok (request, rest)
      · obtain ⟨request, rest, parsed⟩ := whole
        obtain ⟨used, split, _, alone⟩ := recognised_alone _ _ (request_recognised charSigned) _ rest request parsed
        obtain ⟨ok, same⟩ := parse_finishes charSigned parser before chunk rest request pending part parsed
        rw [split, List.append_assoc, alone, List.find?_cons_of_pos (by simpa using ok)]
        exact ⟨_, rfl, same⟩
      · obtain ⟨other, left⟩ := parse_pending charSigned parser before chunk pending part (fun request rest parsed =>
          whole ⟨request, rest, parsed⟩)
        rw [List.find?_cons_of_neg (by simpa using other)]
        exact ih _ _ left fits

theorem parse_renewed (phrParseRequest : Bytes → Nat → PhrResult) (parser : Parser) (complete : parser.isComplete = true) (chunk : Bytes)
    (given : chunk ≠ []) : parser.parse phrParseRequest chunk = Parser.reset.parse phrParseRequest chunk := by
  have some : chunk.isEmpty = false := List.isEmpty_eq_false_iff.mpr given
  simp only [Parser.parse, complete, some, Bool.and_false, if_true, Parser.reset]
  rfl

theorem reports_renewed (phrParseRequest : Bytes → Nat → PhrResult) (parser : Parser)
    (fresh : parser = Parser.reset ∨ parser.isComplete = true) (chunks : List Bytes) (given : ∀ chunk ∈ chunks, chunk ≠ []) :
    parser.reports phrParseRequest chunks = Parser.reset.reports phrParseRequest chunks := by
  rcases fresh with rfl | complete
  · rfl
  · cases chunks with
    | nil => rfl
    | cons chunk chunks => rw [Parser.reports, Parser.reports, parse_renewed _ parser complete chunk (given chunk List.mem_cons_self)]

theorem split_request_agrees (parser : Parser) (fresh : parser = Parser.reset ∨ parser.isComplete = true) (text : Bytes)
    (fits : text.length ≤ httpBufsiz) (chunks : List Bytes) (joined : chunks.flatten = text) (given : ∀ chunk ∈ chunks, chunk ≠ []) :
    let reports := parser.reports (phrParseRequest charSigned) chunks
    let whole := Parser.reset.parse (phrParseRequest charSigned) text
    ((∃ report ∈ reports, report.2 = .reqOk) ↔ whole.2 = .reqOk) ∧
      ∀ report, reports.find? (·.2 = .reqOk) = some report → SameRequest report.1 whole.1 := by
  intro reports whole
  have first := reports_pending charSigned chunks Parser.reset [] (reset_pending charSigned) (by rwa [List.nil_append, joined])
  have once := reports_pending charSigned [text] Parser.reset [] (reset_pending charSigned) (by simpa using fits)
  rw [List.nil_append, joined, ← reports_renewed _ parser fresh chunks given] at first
  rw [List.nil_append, List.flatten_singleton, Parser.reports, Parser.reports] at once
  have found : (∃ report ∈ reports, report.2 = .reqOk) ↔ (reports.find? (·.2 = .reqOk)).isSome := by simp
  cases parsed : parseRequest charSigned text with
  | error refusal =>
      rw [parsed] at first once
      have none : reports.find? (·.2 = .reqOk) = none := first
      have never : whole.2 ≠ .reqOk := by simpa using once
      rw [found, none]
      exact ⟨⟨fun some => absurd some (by decide), fun ok => absurd ok never⟩, fun _ some => by cases some⟩
  | ok result =>
      rw [parsed] at first once
      obtain ⟨report, reported, same⟩ := first
      obtain ⟨single, alone, agreed⟩ := once
      obtain ⟨ok, rfl⟩ : whole.2 = .reqOk ∧ whole = single := by simpa [List.find?_singleton] using alone
      have some : reports.find? (·.2 = .reqOk) = some report := reported
      rw [found, some]
      refine ⟨⟨fun _ => ok, fun _ => rfl⟩, ?_⟩
      rintro _ ⟨⟩
      exact ⟨same.1.trans agreed.1.symm, same.2.1.trans agreed.2.1.symm, same.2.2.1.trans agreed.2.2.1.symm,
        same.2.2.2.trans agreed.2.2.2.symm⟩

theorem cut_blank_line_agrees :
    let parser : Parser := { Parser.reset with isComplete := true, method := str "POST", bytesRead := 40 }
    let chunks := [str "GET /a HTTP/1.1\r\nHost: b\r", str "\n\r", str "\n"]
    ∃ report ∈ parser.reports (phrParseRequest true) chunks, report.2 = .reqOk := by
  intro parser chunks
  refine (split_request_agrees true parser (.inr rfl) chunks.flatten (by decide) chunks rfl (by decide)).1.mpr ?_
  decide +kernel

end

end Eventhub.Http
