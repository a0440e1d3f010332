import Eventhub.Util

set_option autoImplicit false

namespace Eventhub.Http

inductive RequestState where
  | reqFailed
  | reqIncomplete
  | reqToBig
  | reqOk
deriving DecidableEq

-- What phr_parse_request reports: -1, -2 or a request line and headers.
inductive PhrResult where
  | failed
  | incomplete
  | parsed (method path : Bytes) (headers : List (Bytes × Bytes))

def httpBufsiz : Nat := 8192

structure Parser where
  buf : Bytes
  bytesRead : Nat
  bytesReadPrev : Nat
  isComplete : Bool
  method : Bytes
  path : Bytes
  errorMessage : Bytes
  headers : AList (fun _ : Bytes => Bytes)
  qsmap : AList (fun _ : Bytes => Bytes)

-- The constructor calls _resetState as well.
def Parser.reset : Parser := ⟨[], 0, 0, false, [], [], [], ∅, ∅⟩

def question : UInt8 := 63
def equals : UInt8 := 61
def ampersand : UInt8 := 38
def blank : UInt8 := 32

def addParam (qsmap : AList (fun _ : Bytes => Bytes)) (param val : Bytes) : AList (fun _ : Bytes => Bytes) :=
  if param.isEmpty || val.isEmpty then qsmap else qsmap.insert (Util.strToLower param) val

-- rest is what begins at pos.
structure QueryLoop where
  qsmap : AList (fun _ : Bytes => Bytes)
  rest : Bytes

def queryTurn (loop : QueryLoop) : Option QueryLoop :=
  match loop.rest.dropWhile (· ≠ equals) with
  | [] => none
  | _ :: value =>
      some ⟨addParam loop.qsmap (loop.rest.takeWhile (· ≠ equals)) (value.takeWhile (· ≠ ampersand)),
        (value.dropWhile (· ≠ ampersand)).tail⟩

theorem query_turn_shorter (loop next : QueryLoop) (taken : queryTurn loop = some next) : next.rest.length < loop.rest.length := by
  have named := (List.dropWhile_suffix (p := (· ≠ equals)) (l := loop.rest)).length_le
  unfold queryTurn at taken
  split at taken
  · cases taken
  · rename_i sign value found
    cases taken
    have valued := (List.dropWhile_suffix (p := (· ≠ ampersand)) (l := value)).length_le
    rw [found, List.length_cons] at named
    rw [List.length_tail]
    omega

def parseQueryString (qsmap : AList (fun _ : Bytes => Bytes)) (rest : Bytes) : AList (fun _ : Bytes => Bytes) :=
  match _taken : queryTurn ⟨qsmap, rest⟩ with
  | none => qsmap
  | some loop => parseQueryString loop.qsmap loop.rest
termination_by rest.length
decreasing_by exact query_turn_shorter _ loop _taken

-- find_last_of(' ', 0) looks at the first character only.
def splitPath (rawPath : Bytes) : Bytes × Option Bytes :=
  if question ∈ rawPath then (rawPath.takeWhile (· ≠ question), some (rawPath.dropWhile (· ≠ question)).tail)
  else (if rawPath.head? = some blank then [] else rawPath, none)

def addHeaders (headers : AList (fun _ : Bytes => Bytes)) (parsed : List (Bytes × Bytes)) : AList (fun _ : Bytes => Bytes) :=
  parsed.foldl (fun headers header => headers.insert (Util.strToLower header.1) header.2) headers

def Parser.store (parser : Parser) (method rawPath : Bytes) (headers : List (Bytes × Bytes)) : Parser :=
  let split := splitPath rawPath
  { parser with
    method := method ++ parser.method
    path := if rawPath.isEmpty then parser.path else split.1
    qsmap := if rawPath.isEmpty then parser.qsmap else (split.2.map (parseQueryString parser.qsmap)).getD parser.qsmap
    headers := addHeaders parser.headers headers
    isComplete := true }

def Parser.parse (phrParseRequest : Bytes → Nat → PhrResult) (parser : Parser) (data : Bytes) : Parser × RequestState :=
  if parser.isComplete && data.isEmpty then (parser, .reqOk)
  else
    let cleared := if parser.isComplete then Parser.reset else parser
    let marked := { cleared with bytesReadPrev := cleared.bytesRead }
    if marked.bytesRead + data.length > httpBufsiz then
      ({ marked with errorMessage := str "REQ_TO_BIG: Request to large." }, .reqToBig)
    else
      let grown := { marked with bytesRead := marked.bytesRead + data.length, buf := marked.buf ++ data }
      match phrParseRequest grown.buf grown.bytesReadPrev with
      | .failed => ({ grown with errorMessage := str "REQ_FAILED: Parse failed." }, .reqFailed)
      | .incomplete => (grown, .reqIncomplete)
      | .parsed method path headers => (grown.store method path headers, .reqOk)

def Parser.getHeader (parser : Parser) (header : Bytes) : Bytes := (parser.headers.lookup (Util.strToLower header)).getD []

def Parser.getQueryString (parser : Parser) (param : Bytes) : Bytes := (parser.qsmap.lookup (Util.strToLower param)).getD []

end Eventhub.Http
