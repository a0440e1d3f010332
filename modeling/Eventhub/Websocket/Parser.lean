import Eventhub.Websocket.WsParser

set_option autoImplicit false

namespace Eventhub.Websocket

inductive FrameType where
  | continuationFrame
  | textFrame
  | binaryFrame
  | closeFrame
  | pingFrame
  | pongFrame
deriving DecidableEq, Repr

def FrameType.code : FrameType → UInt8
  | .continuationFrame => 0x0
  | .textFrame => 0x1
  | .binaryFrame => 0x2
  | .closeFrame => 0x8
  | .pingFrame => 0x9
  | .pongFrame => 0xA

-- The cast (FrameType)frameType; ws_parser_execute only passes the five codes
-- it has checked, so the last branch is never taken.
def frameTypeOf (code : UInt8) : FrameType :=
  if code = 0x1 then .textFrame
  else if code = 0x2 then .binaryFrame
  else if code = 0x8 then .closeFrame
  else if code = 0x9 then .pingFrame
  else if code = 0xA then .pongFrame
  else .continuationFrame

inductive ParserStatus where
  | parserOk
  | maxDataFrameSizeExceeded
  | maxControlFrameSizeExceeded
deriving DecidableEq, Repr

def maxDataFrameSize : Nat := (1024 * 1000) * 8
def wsMaxControlFrameSize : Nat := 1024

structure ParserCall where
  status : ParserStatus
  frameType : FrameType
  data : Bytes
deriving DecidableEq, Repr

-- calls logs the invocations of _callback, oldest first.
structure ParserData where
  dataPayloadBuf : Bytes
  controlPayloadBuf : Bytes
  dataFrameType : FrameType
  controlFrameType : FrameType
  calls : List ParserCall

def ParserData.callback (obj : ParserData) (status : ParserStatus) (frameType : FrameType) (data : Bytes) : ParserData :=
  { obj with calls := obj.calls ++ [⟨status, frameType, data⟩] }

def appendDataPayload (obj : ParserData) (data : Bytes) : ParserData :=
  let grown := { obj with dataPayloadBuf := obj.dataPayloadBuf ++ data }
  if grown.dataPayloadBuf.length > maxDataFrameSize then
    grown.callback .maxDataFrameSizeExceeded grown.dataFrameType grown.dataPayloadBuf
  else grown

-- The size-exceeded report passes the data buffer, as the source does.
def appendControlPayload (obj : ParserData) (data : Bytes) : ParserData :=
  let grown := { obj with controlPayloadBuf := obj.controlPayloadBuf ++ data }
  if grown.controlPayloadBuf.length > wsMaxControlFrameSize then
    grown.callback .maxControlFrameSizeExceeded grown.controlFrameType grown.dataPayloadBuf
  else grown

def parserOnDataBegin (obj : ParserData) (frameType : UInt8) : ParserData × Int :=
  ({ obj with dataPayloadBuf := [], dataFrameType := frameTypeOf frameType }, 0)

def parserOnDataPayload (obj : ParserData) (buff : Bytes) : ParserData × Int := (appendDataPayload obj buff, 0)

def parserOnDataEnd (obj : ParserData) : ParserData × Int :=
  (obj.callback .parserOk obj.dataFrameType obj.dataPayloadBuf, 0)

def parserOnControlBegin (obj : ParserData) (frameType : UInt8) : ParserData × Int :=
  ({ obj with controlPayloadBuf := [], controlFrameType := frameTypeOf frameType }, 0)

def parserOnControlPayload (obj : ParserData) (buff : Bytes) : ParserData × Int := (appendControlPayload obj buff, 0)

def parserOnControlEnd (obj : ParserData) : ParserData × Int :=
  (obj.callback .parserOk obj.controlFrameType obj.controlPayloadBuf, 0)

def parserCallbacks : WsCallbacks ParserData where
  onDataBegin := parserOnDataBegin
  onDataPayload := parserOnDataPayload
  onDataEnd := parserOnDataEnd
  onControlBegin := parserOnControlBegin
  onControlPayload := parserOnControlPayload
  onControlEnd := parserOnControlEnd

structure Parser where
  wsParser : WsParser
  data : ParserData

-- Parser::Parser(): the strings start empty, while the two frame types and
-- most of ws_parser_t keep what the allocation held.
def Parser.construct (allocated : WsParser) (dataFrameType controlFrameType : FrameType) : Parser :=
  ⟨wsParserInit allocated, ⟨[], [], dataFrameType, controlFrameType, []⟩⟩

def Parser.execute (parser : Parser) (buf : Bytes) : Int × WsRun ParserData :=
  wsParserExecute parserCallbacks parser.wsParser parser.data buf

-- Parser::parse drops the return code.
def Parser.parse (parser : Parser) (buf : Bytes) : Parser :=
  ⟨(parser.execute buf).2.parser, (parser.execute buf).2.data⟩

abbrev Message := FrameType × Bytes

def okCalls (calls : List ParserCall) : List Message :=
  (calls.filter (fun call => call.status = .parserOk)).map (fun call => (call.frameType, call.data))

end Eventhub.Websocket
