import Eventhub.Lib.Program
import Eventhub.Hub.Publish
import Eventhub.Redis.GetCache
import Eventhub.Websocket.Parser

set_option autoImplicit false

namespace Eventhub.Session

open Hub

structure Config where
  disableAuth : Bool
  enableCache : Bool
  enableSse : Bool
  enableKvstore : Bool
  maxCacheRequestLimit : Int

-- What the handlers ask of the connection, Redis, the key-value store and the
-- clock. enter marks the call of an RPC handler. unspecified asks for the value
-- of an expression that the language defines none for.
inductive Command where
  | write (data : Bytes)
  | sendData (data : Bytes) (frameType : Websocket.FrameType)
  | shutdown
  | shutdownAfterFlush
  | setState (newState : ConnectionState)
  | subscribe (topicPattern : Bytes) (subscriptionRequestId : RpcId)
  | unsubscribe (topicPattern : Bytes)
  | unsubscribeAll
  | listSubscriptions
  | isRateLimited (topic subject : Bytes) (max : Nat)
  | incrementLimitCount (topic subject : Bytes) (interval : Nat)
  | cacheMessage (topic payload origin : Bytes) (timestamp : Int) (ttl : Nat)
  | publishMessage (topic id payload origin : Bytes)
  | getCacheSince (topicPattern : Bytes) (since limit : Int) (isPattern : Bool)
  | getCacheSinceId (topicPattern sinceId : Bytes) (limit : Int) (isPattern : Bool)
  | kvGet (key : Bytes)
  | kvSet (key value : Bytes) (ttl : Nat)
  | kvDel (key : Bytes)
  | renderMetrics (json : Bool)
  | getTimeSinceEpoch
  | enter (method : Bytes)
  | unspecified

-- result and the exception that has left a cache query, if one has.
structure CacheAnswer where
  result : List Redis.CacheItem
  exception : Option Failure

abbrev Answer : Command → Type
  | .unsubscribe _ => Bool
  | .unsubscribeAll => Nat
  | .listSubscriptions => List Bytes
  | .isRateLimited _ _ _ => Except Failure Bool
  | .incrementLimitCount _ _ _ => Except Failure Unit
  | .cacheMessage _ _ _ _ _ => Except Failure Bytes
  | .publishMessage _ _ _ _ => Except Failure Unit
  | .getCacheSince _ _ _ _ => CacheAnswer
  | .getCacheSinceId _ _ _ _ => CacheAnswer
  | .kvGet _ => Except Failure Bytes
  | .kvSet _ _ _ => Except Failure Bool
  | .kvDel _ => Int
  | .renderMetrics _ => Bytes
  | .getTimeSinceEpoch => Int
  | .unspecified => Int
  | _ => Unit

abbrev Handler (α : Type) := Program Command Answer Failure α

def ask (command : Command) : Handler (Answer command) := .perform command

def skip : Handler Unit := .done (.ok ())

def write (data : Bytes) : Handler Unit := ask (.write data)
def sendData (data : Bytes) (frameType : Websocket.FrameType) : Handler Unit := ask (.sendData data frameType)
def shutdown : Handler Unit := ask .shutdown
def shutdownAfterFlush : Handler Unit := ask .shutdownAfterFlush
def setState (newState : ConnectionState) : Handler Unit := ask (.setState newState)
def subscribe (topicPattern : Bytes) (id : RpcId) : Handler Unit := ask (.subscribe topicPattern id)

-- try { body } catch (std::exception& e) { handler(e.what()) }
def catching {α : Type} (body : Handler α) (handler : Bytes → Handler α) : Handler α :=
  body.tryCatch (fun failure =>
    match failure with
    | .thrown what => handler what
    | .undefined => .done (.error .undefined))

-- try { value } catch (...) { fallback }, where converted brings a value that
-- the language leaves open into the range of the type.
def recovered {α : Type} (value : Except Failure α) (converted : Int → α) (fallback : α) : Handler α :=
  match value with
  | .ok value => .done (.ok value)
  | .error (.thrown _) => .done (.ok fallback)
  | .error .undefined => do
      let bits ← ask .unspecified
      .done (.ok (converted bits))

def signed64 (number : Int) : Int := Int.bmod number (2 ^ 64)

def unsigned64 (number : Int) : Nat := (number % 2 ^ 64).toNat

-- redis.getCacheSinceId(...) if there is an id, else redis.getCacheSince(...)
def queryCache (topic sinceEventId : Bytes) (since limit : Int) : Handler CacheAnswer :=
  if !sinceEventId.isEmpty then ask (.getCacheSinceId topic sinceEventId limit (isValidTopicFilter topic))
  else ask (.getCacheSince topic since limit (isValidTopicFilter topic))

-- The caller does not catch the exception here.
def lookUpCache (topic sinceEventId : Bytes) (since limit : Int) : Handler (List Redis.CacheItem) := do
  let answer ← queryCache topic sinceEventId since limit
  match answer.exception with
  | some failure => .done (.error failure)
  | none => .done (.ok answer.result)

end Eventhub.Session
