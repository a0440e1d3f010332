import Eventhub.AccessController
import Eventhub.Http.Parser
import Eventhub.Http.Response
import Eventhub.Session.Command

set_option autoImplicit false

namespace Eventhub.Session

open Hub

def writeResponse (response : Http.Response) : Handler Unit := write response.get

def respondAndClose (response : Http.Response) : Handler Unit := do
  writeResponse response
  shutdownAfterFlush

def badRequest (reason : Bytes) (statusCode : Nat) : Handler Unit :=
  respondAndClose (.make statusCode [(str "connection", str "close")]
    (str "<h1>" ++ Decimal.text statusCode ++ str " " ++ Http.getStatusMsg statusCode ++ str "</h1>" ++ [10] ++ reason ++ Http.crlf))

def corsHeader (req : Http.Parser) : Bytes × Bytes :=
  let origin := req.getHeader (str "Origin")
  (str "Access-Control-Allow-Origin", if origin.isEmpty then str "*" else origin)

section

variable (dump : Json → Except Failure Bytes) (config : Config) (controller : AccessController)

def sseError (message : Bytes) (statusCode : Nat) : Handler Unit := do
  let text ← Program.done (dump (.object [(str "error", .string message)]))
  respondAndClose (.make statusCode [] (text ++ [10]))

def sseOk : Handler Unit :=
  writeResponse (.make 200
    [(str "Access-Control-Allow-Headers", str "Accept, Cache-Control, X-Requested-With, Last-Event-ID"),
      (str "Access-Control-Allow-Origin", str "*"), (str "Cache-Control", str "no-cache"), (str "Connection", str "close"),
      (str "Content-Type", str "text/event-stream")] (str ":ok" ++ [10, 10]))

def sendEvent (id message : Bytes) : Handler Unit := write (str "id: " ++ id ++ [10] ++ str "data: " ++ message ++ [10, 10])

-- limit and limitParam are compared as unsigned long long.
def sseLimit (limitStr : Bytes) : Int :=
  match Redis.stoull limitStr with
  | none => config.maxCacheRequestLimit
  | some limitParam =>
      if limitParam < (config.maxCacheRequestLimit % 2 ^ 64).toNat then Int.bmod limitParam (2 ^ 64) else config.maxCacheRequestLimit

-- What result holds when the query returns or throws.
def sseCache (path lastEventId sinceStr : Bytes) (limit : Int) : Handler (List Redis.CacheItem) :=
  if !lastEventId.isEmpty then do
    let answer ← queryCache path lastEventId 0 limit
    .done (.ok answer.result)
  else if !sinceStr.isEmpty then
    match Redis.stoull sinceStr with
    | none => .done (.ok [])
    | some since => do
        let answer ← queryCache path [] (Int.bmod since (2 ^ 64)) limit
        .done (.ok answer.result)
  else .done (.ok [])

def sseSubscribe (req : Http.Parser) (path : Bytes) : Handler Unit := do
  let queryId := req.getQueryString (str "lastEventId")
  let lastEventId := if queryId.isEmpty then req.getHeader (str "Last-Event-ID") else queryId
  sseOk
  setState .sse
  subscribe path (.integer 0)
  let result ← sseCache path lastEventId (req.getQueryString (str "since")) (sseLimit config (req.getQueryString (str "limit")))
  Program.each (fun item => sendEvent item.id item.message) result

-- path.at(0)
def firstAt (path : Bytes) : Except Failure UInt8 :=
  match path with
  | [] => .error (.thrown (str "basic_string::at: __n (which is 0) >= this->size() (which is 0)"))
  | c :: _ => .ok c

-- sse::Handler::HandleRequest
def handleSse (req : Http.Parser) : Handler Unit := do
  let decoded := Util.uriDecode req.path
  let first ← Program.done (firstAt decoded)
  let path := if first = slash then decoded.tail else decoded
  if path.isEmpty || !isValidTopicOrFilter path then sseError dump (str "Invalid topic requested.") 404
  else if !allowSubscribe controller path then sseError dump (str "Insufficient access.") 401
  else sseSubscribe config req path

-- acceptKey is base64Encode of the SHA1 of the key and WS_MAGIC_STRING.
def websocketHandshake (acceptKey : Bytes → Bytes) (req : Http.Parser) : Handler Unit := do
  let secWsKey := req.getHeader (str "sec-websocket-key")
  let protocol := req.getHeader (str "Sec-WebSocket-Protocol")
  if req.getHeader (str "upgrade") ≠ str "websocket" ∨ secWsKey.isEmpty then badRequest (str "Invalid websocket request.") 400
  else do
    writeResponse (.make 101 ([(str "upgrade", str "websocket"), (str "connection", str "upgrade"),
      (str "sec-websocket-accept", acceptKey secWsKey)] ++
        (if protocol.isEmpty then [] else [(str "Sec-WebSocket-Protocol", protocol)])) [])
    setState .websocket

-- _handlePath up to the call of authenticate, with the token it is given.
inductive Route where
  | answered (response : Handler Unit)
  | authenticating (authToken : Bytes)

def metricsResponse (req : Http.Parser) : Handler Unit := do
  let json := req.getQueryString (str "format") = str "json"
  let m ← ask (.renderMetrics json)
  respondAndClose (.make 200 [corsHeader req, (str "Connection", str "close"),
    (str "Content-Type", if json then str "application/json" else str "text/plain")] m)

def routePath (req : Http.Parser) : Route :=
  let method := Util.strToLower req.method
  let authorization := req.getHeader (str "authorization")
  let auth := req.getQueryString (str "auth")
  if method = str "options" then
    .answered (respondAndClose (.make 204 [corsHeader req, (str "Access-Control-Allow-Methods", str "GET, OPTIONS"),
      (str "Connection", str "close")] []))
  else if method ≠ str "get" then
    .answered (respondAndClose (.make 405 [(str "Connection", str "close")] (str "<h1>405 Method not allowed</h1>" ++ Http.crlf)))
  else if req.path = str "/healthz" then
    .answered (respondAndClose (.make 200 [corsHeader req, (str "Content-Type", str "application/json"), (str "Connection", str "close")]
      (str "\x7b \"status\": \"ok\" \x7d" ++ Http.crlf)))
  else if req.path = str "/metrics" ∨ req.path = str "/metrics/" then .answered (metricsResponse req)
  else if !authorization.isEmpty then .authenticating authorization
  else if !auth.isEmpty then .authenticating (Util.uriDecode auth)
  else if !config.disableAuth then .answered (badRequest (str "No authentication token was given.") 401)
  else .authenticating []

-- The rest of _handlePath; controller is the one that authenticate leaves.
def answerPath (acceptKey : Bytes → Bytes) (verdict : Bool) (req : Http.Parser) : Handler Unit :=
  if !verdict then badRequest (str "Authentication failed.") 401
  else if req.getHeader (str "accept") = str "text/event-stream" then
    if !config.enableSse then badRequest (str "SSE is not enabled in this setup.") 501 else handleSse dump config controller req
  else if req.getHeader (str "upgrade") = str "websocket" then websocketHandshake acceptKey req
  else badRequest (str "Invalid request.") 400

end

end Eventhub.Session
