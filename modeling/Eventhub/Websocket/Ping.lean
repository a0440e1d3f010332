import Eventhub.Websocket.Limits

set_option autoImplicit false

namespace Eventhub.Websocket

-- Two deliveries driven by one run of the parser, which never looks at them.
def pairCallbacks : WsCallbacks (Delivery × Delivery) where
  onDataBegin data opcode := (((deliveryCallbacks.onDataBegin data.1 opcode).1, (deliveryCallbacks.onDataBegin data.2 opcode).1), 0)
  onDataPayload data payload := (((deliveryCallbacks.onDataPayload data.1 payload).1, (deliveryCallbacks.onDataPayload data.2 payload).1), 0)
  onDataEnd data := (((deliveryCallbacks.onDataEnd data.1).1, (deliveryCallbacks.onDataEnd data.2).1), 0)
  onControlBegin data opcode := (((deliveryCallbacks.onControlBegin data.1 opcode).1, (deliveryCallbacks.onControlBegin data.2 opcode).1), 0)
  onControlPayload data payload :=
    (((deliveryCallbacks.onControlPayload data.1 payload).1, (deliveryCallbacks.onControlPayload data.2 payload).1), 0)
  onControlEnd data := (((deliveryCallbacks.onControlEnd data.1).1, (deliveryCallbacks.onControlEnd data.2).1), 0)

theorem pair_left : CallbackMap pairCallbacks deliveryCallbacks Prod.fst := by
  constructor <;> intros <;> rfl

theorem pair_right : CallbackMap pairCallbacks deliveryCallbacks Prod.snd := by
  constructor <;> intros <;> rfl

theorem pair_accepting : Accepting pairCallbacks where
  dataBegin _ _ := rfl
  controlBegin _ _ := rfl
  payload control _ _ := by cases control <;> rfl
  ends control _ := by cases control <;> rfl

-- The left run has delivered one message more; apart from the buffer of a
-- finished control frame the two agree.
structure Apart (before : List Message) (extra : Message) (parser : WsParser) (data : Delivery × Delivery) : Prop where
  dataPayload : data.1.dataPayloadBuf = data.2.dataPayloadBuf
  dataType : data.1.dataFrameType = data.2.dataFrameType
  control : parser.state ≠ .opcode → parser.control = true →
    data.1.controlPayloadBuf = data.2.controlPayloadBuf ∧ data.1.controlFrameType = data.2.controlFrameType
  delivered : ∃ after, data.1.delivered = before ++ extra :: after ∧ data.2.delivered = before ++ after

theorem delivered_both (before : List Message) (extra : Message) (left right : List Message) (message : Message)
    (apart : ∃ after, left = before ++ extra :: after ∧ right = before ++ after) :
    ∃ after, left ++ [message] = before ++ extra :: after ∧ right ++ [message] = before ++ after := by
  obtain ⟨after, rfl, rfl⟩ := apart
  exact ⟨after ++ [message], by simp, by simp⟩

theorem apart_closed (before : List Message) (extra : Message) (parser : WsParser) (data : Delivery × Delivery) (buff : Bytes)
    (apart : Apart before extra parser data) :
    Apart before extra (closedRun pairCallbacks parser data buff).parser (closedRun pairCallbacks parser data buff).data := by
  unfold closedRun
  by_cases closes : parser.state = .payload ∧ parser.bytesRemaining = 0
  · rw [if_pos closes]
    have begun : parser.state ≠ .opcode := by simp [closes.1]
    cases kind : parser.control with
    | true =>
        obtain ⟨payload, frameType⟩ := apart.control begun kind
        refine ⟨apart.dataPayload, apart.dataType, fun begun => absurd rfl begun, ?_⟩
        have both := delivered_both before extra _ _ (data.2.controlFrameType, data.2.controlPayloadBuf) apart.delivered
        rw [← payload, ← frameType] at both
        simpa [WsCallbacks.onEnd, pairCallbacks, deliveryCallbacks, payload, frameType] using both
    | false =>
        cases final : parser.fin with
        | false => exact ⟨apart.dataPayload, apart.dataType, fun begun => absurd rfl begun, apart.delivered⟩
        | true =>
            refine ⟨apart.dataPayload, apart.dataType, fun begun => absurd rfl begun, ?_⟩
            have both := delivered_both before extra _ _ (data.2.dataFrameType, data.2.dataPayloadBuf) apart.delivered
            simpa [WsCallbacks.onEnd, pairCallbacks, deliveryCallbacks, apart.dataPayload, apart.dataType] using both
  · rw [if_neg closes]
    exact apart

theorem apart_header (before : List Message) (extra : Message) (parser : WsParser) (data : Delivery × Delivery) (cur : UInt8) (rest : Bytes)
    (run : WsRun (Delivery × Delivery)) (apart : Apart before extra parser data)
    (taken : HeaderTaken pairCallbacks parser data cur rest (.next run)) : Apart before extra run.parser run.data := by
  cases taken with
  | continued reserved opcode fragment => exact ⟨apart.dataPayload, apart.dataType, (fun _ control => nomatch control), apart.delivered⟩
  | controlBegun opcode => exact ⟨apart.dataPayload, apart.dataType, fun _ _ => ⟨rfl, rfl⟩, apart.delivered⟩
  | dataBegun opcode => exact ⟨rfl, rfl, (fun _ control => nomatch control), apart.delivered⟩

theorem apart_payload (before : List Message) (extra : Message) (parser next : WsParser) (data : Delivery × Delivery) (chunk : Bytes)
    (apart : Apart before extra parser data) (begun : parser.state ≠ .opcode) (kind : next.control = parser.control) :
    Apart before extra next (pairCallbacks.onPayload parser.control data chunk).1 := by
  cases control : parser.control with
  | false =>
      refine ⟨congrArg (· ++ chunk) apart.dataPayload, apart.dataType, fun _ isControl => ?_, apart.delivered⟩
      rw [kind, control] at isControl
      cases isControl
  | true =>
      obtain ⟨payload, frameType⟩ := apart.control begun control
      exact ⟨apart.dataPayload, apart.dataType, fun _ _ => ⟨congrArg (· ++ chunk) payload, frameType⟩, apart.delivered⟩

theorem apart_frame (before : List Message) (extra : Message) (parser : WsParser) (data : Delivery × Delivery) (cur : UInt8) (rest : Bytes)
    (run : WsRun (Delivery × Delivery)) (apart : Apart before extra parser data) (begun : parser.state ≠ .opcode)
    (taken : FrameTaken pairCallbacks parser data cur rest (.next run)) : Apart before extra run.parser run.data := by
  obtain ⟨next, handed, buff, rfl, moved⟩ := frame_moved pairCallbacks parser data cur rest run begun taken
  apply apart_closed
  rcases moved.handed with rfl | ⟨chunk, rfl⟩
  · exact ⟨apart.dataPayload, apart.dataType, fun _ control => apart.control begun (moved.control.symm.trans control), apart.delivered⟩
  · exact apart_payload before extra parser next data chunk apart begun moved.control

theorem apart_stopped (before : List Message) (extra : Message) (parser : WsParser) (data : Delivery × Delivery) (cur : UInt8) (rest : Bytes)
    (rc : Int) (run : WsRun (Delivery × Delivery)) (apart : Apart before extra parser data)
    (taken : TurnTaken pairCallbacks parser data cur rest (.stop rc run)) :
    ∃ after, run.data.1.delivered = before ++ extra :: after ∧ run.data.2.delivered = before ++ after := by
  cases taken with
  | header state taken =>
      cases taken
      exact apart.delivered
  | frame begun taken => cases taken <;> exact apart.delivered

theorem execute_apart (before : List Message) (extra : Message) (parser : WsParser) (left right : Delivery) (buff : Bytes)
    (apart : Apart before extra parser (left, right)) :
    (wsParserExecute deliveryCallbacks parser left buff).1 = (wsParserExecute deliveryCallbacks parser right buff).1 ∧
      ∃ after, (wsParserExecute deliveryCallbacks parser left buff).2.data.delivered = before ++ extra :: after ∧
        (wsParserExecute deliveryCallbacks parser right buff).2.data.delivered = before ++ after := by
  have held := execute_holds pairCallbacks (fun run => Apart before extra run.parser run.data)
    (fun _ run => ∃ after, run.data.1.delivered = before ++ extra :: after ∧ run.data.2.delivered = before ++ after) ?_
    parser (left, right) buff apart
  · have first := execute_map pairCallbacks deliveryCallbacks Prod.fst pair_left parser (left, right) buff
    have second := execute_map pairCallbacks deliveryCallbacks Prod.snd pair_right parser (left, right) buff
    rw [show left = (left, right).1 from rfl, first, show right = (left, right).2 from rfl, second]
    refine ⟨rfl, ?_⟩
    rcases held with ⟨_, _, after⟩ | after
    · exact after.delivered
    · exact after
  · intro parser data cur rest apart
    have taken := turn_taken pairCallbacks pair_accepting parser data cur rest
    generalize wsTurn pairCallbacks parser data cur rest = turn at taken ⊢
    cases turn with
    | stop rc run => exact apart_stopped before extra parser data cur rest rc run apart taken
    | next run =>
        cases taken with
        | header state taken => exact apart_header before extra parser data cur rest run apart taken
        | frame begun taken => exact apart_frame before extra parser data cur rest run apart begun taken

def StreamEnd.messages : StreamEnd ParserData → List Message
  | .live _ data => okCalls data.calls
  | .failed _ _ data => okCalls data.calls

def StreamEnd.failure : StreamEnd ParserData → Option Int
  | .live _ _ => none
  | .failed rc _ _ => some rc

-- No error so far, and the next byte is the first of a frame.
def Boundary (parser : Parser) (bytes : Bytes) : Prop :=
  (parser.execute bytes).1 = wsOk ∧ (parser.execute bytes).2.parser.state = .opcode

theorem stream_outcome (parser : Parser) (chunks : List Bytes) (ready : parser.wsParser.Ready) :
    (parseStream parser 0 chunks).messages =
        (wsParserExecute deliveryCallbacks parser.wsParser (deliver parser.data) chunks.flatten).2.data.delivered ∧
      (parseStream parser 0 chunks).failure =
        if (wsParserExecute deliveryCallbacks parser.wsParser (deliver parser.data) chunks.flatten).1 = wsOk then none
        else some (wsParserExecute deliveryCallbacks parser.wsParser (deliver parser.data) chunks.flatten).1 := by
  have stream := parse_stream_deliver parser 0 chunks ready
  simp only [runStream] at stream
  by_cases passed : (wsParserExecute deliveryCallbacks parser.wsParser (deliver parser.data) chunks.flatten).1 = wsOk
  · rw [if_pos passed] at stream ⊢
    cases parsed : parseStream parser 0 chunks with
    | live other data =>
        rw [parsed] at stream
        exact ⟨congrArg Delivery.delivered (StreamEnd.live.inj stream).2, rfl⟩
    | failed rc offset data =>
        rw [parsed] at stream
        cases stream
  · rw [if_neg passed] at stream ⊢
    cases parsed : parseStream parser 0 chunks with
    | live other data =>
        rw [parsed] at stream
        cases stream
    | failed rc offset data =>
        rw [parsed] at stream
        obtain ⟨code, _, data⟩ := StreamEnd.failed.inj stream
        exact ⟨congrArg Delivery.delivered data, congrArg some code⟩

theorem ping_frame_apart (ping : Frame) (parser : WsParser) (data : Delivery) (later : Bytes) (state : parser.state = .opcode)
    (isPing : ping.frameType = .pingFrame) (fin : ping.fin = true) (short : ping.payload.length ≤ 125) :
    (wsParserExecute deliveryCallbacks parser data (ping.serialize ++ later)).1 = (wsParserExecute deliveryCallbacks parser data later).1 ∧
      ∃ after, (wsParserExecute deliveryCallbacks parser data (ping.serialize ++ later)).2.data.delivered =
          data.delivered ++ (.pingFrame, ping.payload) :: after ∧
        (wsParserExecute deliveryCallbacks parser data later).2.data.delivered = data.delivered ++ after := by
  obtain ⟨closed, opcode, fragment, executed⟩ := control_frame_closed ping parser data later state (by rw [isPing]; rfl) fin short
  generalize received : finishFrame true true { data with controlPayloadBuf := [], controlFrameType := ping.frameType } ping.payload =
    finished at executed
  have kept : SameDelivery closed finished finished := ⟨rfl, rfl, rfl, fun _ => rfl, fun _ _ => rfl⟩
  obtain ⟨code, _, delivered, _⟩ := execute_same closed parser finished finished later (same_live_opcode _ _ opcode state fragment) kept
  have apart : Apart data.delivered (.pingFrame, ping.payload) parser (finished, data) := by
    rw [← received, isPing]
    exact ⟨rfl, rfl, fun begun => absurd state begun, ⟨[], rfl, (List.append_nil _).symm⟩⟩
  obtain ⟨same, after, left, right⟩ := execute_apart _ _ parser finished data later apart
  rw [executed]
  exact ⟨code.trans same, after, delivered.trans left, right⟩

theorem ping_transparent (parser : Parser) (earlier later : Bytes) (ping : Frame) (chunks others : List Bytes)
    (ready : parser.wsParser.Ready) (boundary : Boundary parser earlier) (isPing : ping.frameType = .pingFrame) (fin : ping.fin = true)
    (short : ping.payload.length ≤ 125) (whole : chunks.flatten = earlier ++ (ping.serialize ++ later))
    (without : others.flatten = earlier ++ later) :
    (parseStream parser 0 chunks).failure = (parseStream parser 0 others).failure ∧
      ∃ after, (parseStream parser 0 chunks).messages =
          okCalls (parser.parse earlier).data.calls ++ (.pingFrame, ping.payload) :: after ∧
        (parseStream parser 0 others).messages = okCalls (parser.parse earlier).data.calls ++ after := by
  obtain ⟨passed, state⟩ := boundary
  have mapped := execute_map parserCallbacks deliveryCallbacks deliver deliver_maps parser.wsParser parser.data earlier
  have executes (more : Bytes) : wsParserExecute deliveryCallbacks parser.wsParser (deliver parser.data) (earlier ++ more) =
      wsParserExecute deliveryCallbacks (parser.execute earlier).2.parser (deliver (parser.execute earlier).2.data) more := by
    rw [execute_append deliveryCallbacks delivery_streaming _ _ _ _ ready, mapped]
    exact if_pos passed
  obtain ⟨messages, failure⟩ := stream_outcome parser chunks ready
  obtain ⟨otherMessages, otherFailure⟩ := stream_outcome parser others ready
  rw [whole, executes] at messages failure
  rw [without, executes] at otherMessages otherFailure
  obtain ⟨code, after, left, right⟩ := ping_frame_apart ping _ (deliver (parser.execute earlier).2.data) later state isPing fin short
  rw [failure, otherFailure, messages, otherMessages, code]
  exact ⟨rfl, after, left, right⟩

end Eventhub.Websocket
