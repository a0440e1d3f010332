import Eventhub.AccessController
import Eventhub.Session.Command
import Eventhub.Util

set_option autoImplicit false

namespace Eventhub.Session

open Hub

-- jsonrpcpp::Parameter
inductive Parameter where
  | null
  | array (items : List Json)
  | map (fields : List (Bytes × Json))

structure Request where
  id : RpcId
  method : Bytes
  params : Parameter

-- param_map is empty unless the parameters are a map.
def Parameter.get (params : Parameter) (key : Bytes) : Except Failure Json :=
  match params with
  | .map fields =>
      match fields.lookup key with
      | some value => .ok value
      | none => .error (.thrown (str "map::at"))
  | _ => .error (.thrown (str "map::at"))

def Parameter.getString (params : Parameter) (key : Bytes) : Except Failure Bytes := (params.get key).bind Json.getString

-- try { text = params.get(key).get<std::string>(); } catch (...) {}
def Parameter.stringOr (params : Parameter) (key : Bytes) : Bytes := (params.getString key).toOption.getD []

-- The same with two assignments in one try block.
def Parameter.stringPair (params : Parameter) (first second : Bytes) : Bytes × Bytes :=
  match params.getString first with
  | .error _ => ([], [])
  | .ok text => (text, params.stringOr second)

def Parameter.ofJson : Json → Except Failure Parameter
  | .array items => .ok (.array items)
  | .object fields => .ok (.map fields)
  | value => .error (value.typeError (str "object"))

def idOfJson : Json → Except Failure RpcId
  | .null => .ok .null
  | .integer value => .ok (.integer (Int.bmod value (2 ^ 32)))
  | .string text => .ok (.string text)
  | _ => .error (.thrown (str "id must be integer, string or null"))

-- Request::parse_json; only that it throws matters to the caller.
def Request.ofFields (fields : List (Bytes × Json)) (id method : Json) : Except Failure Request := do
  let id ← idOfJson id
  let jsonrpc ← ((fields.lookup (str "jsonrpc")).getD .null).getString
  let method ← method.getString
  let params ← ((fields.lookup (str "params")).map Parameter.ofJson).getD (.ok .null)
  if jsonrpc ≠ str "2.0" ∨ method = [] then .error (.thrown (str "Invalid request")) else .ok ⟨id, method, params⟩

-- Parser::do_parse_json. A notification, a response and a batch are no
-- requests, and neither is what such a text is refused for.
def parseEntity : Json → Except Failure (Option Request)
  | .object fields =>
      match fields.lookup (str "method"), fields.lookup (str "id") with
      | some method, some id => (Request.ofFields fields id method).map some
      | _, _ => .ok none
  | _ => .ok none

section

variable (dump : Json → Except Failure Bytes) (config : Config) (controller : AccessController)

def successJson (id : RpcId) (result : Json) : Json :=
  .object [(str "id", idJson id), (str "jsonrpc", .string (str "2.0")), (str "result", result)]

-- data is left out if it is null.
def errorJson (id : RpcId) (code : Int) (message : Bytes) (data : Option Bytes) : Json :=
  .object [(str "error", .object ([(str "code", .integer code)] ++ (data.map (fun text => (str "data", Json.string text))).toList ++
    [(str "message", .string message)])), (str "id", idJson id), (str "jsonrpc", .string (str "2.0"))]

-- InvalidParamsException hands its data on by c_str().
def invalidParams (id : RpcId) (message : Bytes) : Json := errorJson id (-32602) (str "Invalid params") (some (cstr message))
def methodNotFound (id : RpcId) : Json := errorJson id (-32601) (str "Method not found") none
def invalidRequest : Json := errorJson .null (-32600) (str "Invalid request") (some (str "Invalid request"))

def sendJson (reply : Json) : Handler Unit := do
  let text ← Program.done (dump reply)
  sendData text .textFrame

def sendInvalidParamsError (req : Request) (message : Bytes) : Handler Unit := sendJson dump (invalidParams req.id message)

def sendSuccessResponse (req : Request) (result : Json) : Handler Unit := sendJson dump (successJson req.id result)

-- abs(since): the least long long has no absolute value.
def absolute (since : Int) : Handler Int := if since = -2 ^ 63 then ask .unspecified else .done (.ok since.natAbs)

def calculateRelativeSince (since : Int) : Handler Nat :=
  if since ≥ 0 then .done (.ok since.toNat)
  else do
    let now ← ask .getTimeSinceEpoch
    let magnitude ← absolute since
    .done (.ok (unsigned64 (now - magnitude)))

def sinceParam (params : Parameter) : Handler Nat :=
  match (params.get (str "since")).bind Json.getLongLong with
  | .ok since => calculateRelativeSince since
  | .error (.thrown _) => .done (.ok 0)
  | .error .undefined => do
      let since ← ask .unspecified
      calculateRelativeSince (signed64 since)

-- The bound is the configured int, converted to the unsigned type of limit.
def clampLimit (limit : Nat) : Nat :=
  if limit > unsigned64 config.maxCacheRequestLimit then unsigned64 config.maxCacheRequestLimit else limit

def cacheItemJson (item : Redis.CacheItem) : Json :=
  .object ([(str "id", .string item.id), (str "message", .string item.message)] ++
    (if item.origin = [] then [] else [(str "origin", .string item.origin)]) ++ [(str "topic", .string item.topic)])

def sendCacheToClient (req : Request) (topic : Bytes) : Handler Unit :=
  if !config.enableCache then skip
  else do
    let sinceEventId := req.params.stringOr (str "sinceEventId")
    let since ← sinceParam req.params
    if sinceEventId.isEmpty && since == 0 then skip
    else do
      let limit ← recovered ((req.params.get (str "limit")).bind Json.getLongLong) signed64 config.maxCacheRequestLimit
      catching (do
        let result ← lookUpCache topic sinceEventId (Int.bmod since (2 ^ 64)) (Int.bmod (clampLimit config (unsigned64 limit)) (2 ^ 64))
        Program.each (fun item => sendSuccessResponse dump req (cacheItemJson item)) result) (fun _ => skip)

def handleSubscribe (req : Request) : Handler Unit :=
  let topicName := req.params.stringOr (str "topic")
  if topicName.isEmpty then sendInvalidParamsError dump req (str "You must specify 'topic' to subscribe to.")
  else if !isValidTopicOrFilter topicName then sendInvalidParamsError dump req (str "Invalid topic in request: " ++ topicName)
  else if !allowSubscribe controller topicName then
    sendInvalidParamsError dump req (str "You are not allowed to subscribe to topic: " ++ topicName)
  else do
    subscribe topicName req.id
    sendSuccessResponse dump req
      (.object [(str "action", .string (str "subscribe")), (str "status", .string (str "ok")), (str "topic", .string topicName)])
    sendCacheToClient dump config req topicName

-- Each element is converted to a string before it is looked at.
def unsubscribeTopics : List Json → Nat → Handler Nat
  | [], count => .done (.ok count)
  | element :: topics, count => do
      let topic ← Program.done element.getString
      if !isValidTopicOrFilter topic || !allowSubscribe controller topic then unsubscribeTopics topics count
      else do
        let unsubscribed ← ask (.unsubscribe topic)
        unsubscribeTopics topics (if unsubscribed then count + 1 else count)

def unsubscribeCount (count : Nat) : Json := .object [(str "unsubscribe_count", .integer count)]

def handleUnsubscribe (req : Request) : Handler Unit :=
  match req.params with
  | .array topics => do
      let count ← unsubscribeTopics controller topics 0
      sendSuccessResponse dump req (unsubscribeCount count)
  | _ => sendInvalidParamsError dump req (str "Parameter is not array of topics to unsubscribe from.")

def handleUnsubscribeAll (req : Request) : Handler Unit := do
  let count ← ask .unsubscribeAll
  sendSuccessResponse dump req (unsubscribeCount count)

-- Whether the publisher is over a limit that its token has for the topic.
def checkRateLimit (topicName : Bytes) : Handler Bool :=
  if controller.subject.isEmpty then .done (.ok false)
  else
    match getRateLimitForTopic controller topicName with
    | none => .done (.ok false)
    | some limits => do
        let limited ← Program.done (← ask (.isRateLimited limits.topic controller.subject limits.max))
        if limited then .done (.ok true)
        else do
          Program.done (← ask (.incrementLimitCount limits.topic controller.subject limits.interval))
          .done (.ok false)

def cacheAndPublish (req : Request) (topicName message : Bytes) (timestamp : Int) (ttl : Nat) : Handler Unit := do
  let limited ← checkRateLimit controller topicName
  if limited then
    sendSuccessResponse dump req (.object [(str "action", .string (str "publish")),
      (str "status", .string (str "ERR_RATE_LIMIT_EXCEEDED")), (str "topic", .string topicName)])
  else do
    let id ← Program.done (← ask (.cacheMessage topicName message controller.subject timestamp ttl))
    if id.isEmpty then sendInvalidParamsError dump req (str "Failed to cache message in Redis, discarding.")
    else do
      Program.done (← ask (.publishMessage topicName id message controller.subject))
      sendSuccessResponse dump req (.object [(str "action", .string (str "publish")), (str "id", .string id),
        (str "status", .string (str "ok")), (str "topic", .string topicName)])

def handlePublish (req : Request) : Handler Unit :=
  let (topicName, message) := req.params.stringPair (str "topic") (str "message")
  if topicName.isEmpty || message.isEmpty then
    sendInvalidParamsError dump req (str "You need to specify topic and message to publish to.")
  else if !allowPublish controller topicName then
    sendInvalidParamsError dump req (str "Insufficient access to topic: " ++ topicName)
  else if !isValidTopic topicName then sendInvalidParamsError dump req (topicName ++ str " is not a valid topic.")
  else do
    let timestamp ← recovered ((req.params.get (str "timestamp")).bind Json.getLongLong) signed64 0
    let ttl ← recovered ((req.params.get (str "ttl")).bind Json.getUnsignedLong) unsigned64 0
    catching (cacheAndPublish dump controller req topicName message timestamp ttl) (fun what =>
      sendInvalidParamsError dump req (str "Error while publishing message: " ++ what))

def handleList (req : Request) : Handler Unit := do
  let subscriptions ← ask .listSubscriptions
  sendSuccessResponse dump req (.array (subscriptions.map Json.string))

def handleEventlog (req : Request) : Handler Unit :=
  if !config.enableCache then sendInvalidParamsError dump req (str "Cache is not enabled in server config")
  else do
    let (topicName, sinceEventId) := req.params.stringPair (str "topic") (str "sinceEventId")
    let since ← sinceParam req.params
    let limit ← recovered ((req.params.get (str "limit")).bind Json.getLong) signed64 config.maxCacheRequestLimit
    if sinceEventId.isEmpty && since == 0 then
      sendInvalidParamsError dump req (str "You must specify either 'since' or 'sinceEventId'.")
    else if topicName.isEmpty then sendInvalidParamsError dump req (str "You must specify topic.")
    else if !isValidTopicOrFilter topicName then sendInvalidParamsError dump req (str "Invalid topic in request: " ++ topicName)
    else if !allowSubscribe controller topicName then
      sendInvalidParamsError dump req (str "You are not allowed to read from topic: " ++ topicName)
    else do
      let answer ← queryCache topicName sinceEventId (Int.bmod since (2 ^ 64))
        (Int.bmod (clampLimit config (unsigned64 limit)) (2 ^ 64))
      match answer.exception with
      | some (.thrown what) => sendInvalidParamsError dump req (str "Error while looking up cache: " ++ what)
      | some .undefined => .done (.error .undefined)
      | none =>
          sendSuccessResponse dump req (.object [(str "action", .string (str "eventlog")),
            (str "items", .array (answer.result.map cacheItemJson)), (str "status", .string (str "ok")), (str "topic", .string topicName)])

-- What handleGet and handleDelete have around their own part.
def kvHandler (req : Request) (body : Handler Unit) : Handler Unit :=
  if !config.enableKvstore then sendInvalidParamsError dump req (str "KVStore is not enabled.")
  else catching body (sendInvalidParamsError dump req)

def handleGet (req : Request) : Handler Unit :=
  kvHandler dump config req (do
    let key ← Program.done (req.params.getString (str "key"))
    if !allowSubscribe controller key then sendInvalidParamsError dump req (str "You are not allowed to read key " ++ key)
    else do
      let val ← Program.done (← ask (.kvGet key))
      sendSuccessResponse dump req (.object [(str "action", .string (str "get")), (str "key", .string key), (str "value", .string val)]))

-- ttl is read before the other parameters, and outside their try block.
def handleSet (req : Request) : Handler Unit :=
  if !config.enableKvstore then sendInvalidParamsError dump req (str "KVStore is not enabled.")
  else do
    let ttl ← recovered ((req.params.get (str "ttl")).bind Json.getUnsignedLong) unsigned64 0
    catching (do
      let key ← Program.done (req.params.getString (str "key"))
      let value ← Program.done (req.params.getString (str "value"))
      if !allowPublish controller key then sendInvalidParamsError dump req (str "You are not allowed to write key " ++ key)
      else do
        let ret ← Program.done (← ask (.kvSet key value ttl))
        sendSuccessResponse dump req (.object [(str "action", .string (str "set")), (str "key", .string key), (str "success", .boolean ret)]))
      (sendInvalidParamsError dump req)

def handleDelete (req : Request) : Handler Unit :=
  kvHandler dump config req (do
    let key ← Program.done (req.params.getString (str "key"))
    if !allowPublish controller key then sendInvalidParamsError dump req (str "You are not allowed to delete key " ++ key)
    else do
      let ret ← ask (.kvDel key)
      sendSuccessResponse dump req
        (.object [(str "action", .string (str "del")), (str "key", .string key), (str "success", .boolean (decide (ret > 0)))]))

def handlePing (req : Request) : Handler Unit := do
  let now ← ask .getTimeSinceEpoch
  sendSuccessResponse dump req (.object [(str "pong", .integer now)])

def handleDisconnect (_ : Request) : Handler Unit := do
  sendData [] .closeFrame
  shutdown

def handlers : List (Bytes × (Request → Handler Unit)) :=
  [(str "subscribe", handleSubscribe dump config controller), (str "unsubscribe", handleUnsubscribe dump controller),
    (str "unsubscribeall", handleUnsubscribeAll dump), (str "publish", handlePublish dump controller), (str "list", handleList dump),
    (str "eventlog", handleEventlog dump config controller), (str "get", handleGet dump config controller),
    (str "set", handleSet dump config controller), (str "del", handleDelete dump config controller), (str "ping", handlePing dump),
    (str "disconnect", handleDisconnect)]

def getHandler (methodName : Bytes) : Except Failure (Request → Handler Unit) :=
  match (handlers dump config controller).lookup (Util.strToLower methodName) with
  | some handler => .ok handler
  | none => .error (.thrown (str "bad_function_call"))

-- parse is nlohmann::json::parse.
def handleTextFrame (parse : Bytes → Except Failure Json) (data : Bytes) : Handler Unit :=
  match (parse data).bind parseEntity with
  | .ok (some req) =>
      catching (do
        let handler ← Program.done (getHandler dump config controller req.method)
        ask (.enter req.method)
        handler req) (fun _ => sendJson dump (methodNotFound req.id))
  | _ => sendJson dump invalidRequest

-- websocket::Handler::HandleRequest
def handleRequest (parse : Bytes → Except Failure Json) (call : Websocket.ParserCall) : Handler Unit :=
  match call.status with
  | .parserOk =>
      match call.frameType with
      | .textFrame => handleTextFrame dump config controller parse call.data
      | .pingFrame => sendData call.data .pongFrame
      | .closeFrame => shutdown
      | _ => skip
  | _ => do
      sendData [] .closeFrame
      shutdown

end

end Eventhub.Session
