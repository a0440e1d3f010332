import Eventhub.Websocket.Stream

set_option autoImplicit false

namespace Eventhub.Websocket

structure Delivery where
  dataPayloadBuf : Bytes
  controlPayloadBuf : Bytes
  dataFrameType : FrameType
  controlFrameType : FrameType
  delivered : List Message

def deliver (obj : ParserData) : Delivery :=
  ⟨obj.dataPayloadBuf, obj.controlPayloadBuf, obj.dataFrameType, obj.controlFrameType, okCalls obj.calls⟩

def deliveryCallbacks : WsCallbacks Delivery where
  onDataBegin obj opcode := ({ obj with dataPayloadBuf := [], dataFrameType := frameTypeOf opcode }, 0)
  onDataPayload obj payload := ({ obj with dataPayloadBuf := obj.dataPayloadBuf ++ payload }, 0)
  onDataEnd obj := ({ obj with delivered := obj.delivered ++ [(obj.dataFrameType, obj.dataPayloadBuf)] }, 0)
  onControlBegin obj opcode := ({ obj with controlPayloadBuf := [], controlFrameType := frameTypeOf opcode }, 0)
  onControlPayload obj payload := ({ obj with controlPayloadBuf := obj.controlPayloadBuf ++ payload }, 0)
  onControlEnd obj := ({ obj with delivered := obj.delivered ++ [(obj.controlFrameType, obj.controlPayloadBuf)] }, 0)

theorem ok_calls_append (calls : List ParserCall) (status : ParserStatus) (frameType : FrameType) (data : Bytes) :
    okCalls (calls ++ [⟨status, frameType, data⟩]) =
      okCalls calls ++ if status = .parserOk then [(frameType, data)] else [] := by
  by_cases passed : status = .parserOk <;> simp [okCalls, passed]

theorem deliver_maps : CallbackMap parserCallbacks deliveryCallbacks deliver where
  dataBegin _ _ := rfl
  dataPayload obj payload := by
    simp only [parserCallbacks, parserOnDataPayload, appendDataPayload]
    split <;> simp [deliveryCallbacks, deliver, ParserData.callback, ok_calls_append]
  dataEnd obj := by
    simp [parserCallbacks, deliveryCallbacks, parserOnDataEnd, deliver, ParserData.callback, ok_calls_append]
  controlBegin _ _ := rfl
  controlPayload obj payload := by
    simp only [parserCallbacks, parserOnControlPayload, appendControlPayload]
    split <;> simp [deliveryCallbacks, deliver, ParserData.callback, ok_calls_append]
  controlEnd obj := by
    simp [parserCallbacks, deliveryCallbacks, parserOnControlEnd, deliver, ParserData.callback, ok_calls_append]

theorem delivery_streaming : Streaming deliveryCallbacks where
  accepts control data payload := by cases control <;> rfl
  joins control data first second := by
    cases control <;> simp [WsCallbacks.onPayload, deliveryCallbacks, List.append_assoc]

def WsState.usesRemaining : WsState → Bool
  | .opcode => false
  | .length => false
  | .length16 index => index ≠ 0
  | .length64 index => index ≠ 0
  | .mask _ => true
  | .payload => true

def WsState.keyRead (index : Fin 4) : WsState → Bool
  | .mask next => index < next
  | .payload => true
  | _ => false

-- Agreement on the fields that the current state can still read.
structure SameLive (left right : WsParser) : Prop where
  state : left.state = right.state
  fragment : left.fragment = right.fragment
  frame : left.state ≠ .opcode → left.fin = right.fin ∧ left.control = right.control
  masking : left.state ≠ .opcode → left.state ≠ .length → left.maskFlag = right.maskFlag ∧ left.maskPos = right.maskPos
  remaining : left.state.usesRemaining = true → left.bytesRemaining = right.bytesRemaining
  mask : ∀ index, left.state.keyRead index = true → left.maskFlag = true → left.mask index = right.mask index

structure SameDelivery (parser : WsParser) (left right : Delivery) : Prop where
  dataPayload : left.dataPayloadBuf = right.dataPayloadBuf
  controlPayload : left.controlPayloadBuf = right.controlPayloadBuf
  delivered : left.delivered = right.delivered
  dataType : parser.fragment = true ∨ (parser.state ≠ .opcode ∧ parser.control = false) →
    left.dataFrameType = right.dataFrameType
  controlType : parser.state ≠ .opcode → parser.control = true → left.controlFrameType = right.controlFrameType

structure SameRun (left right : WsRun Delivery) : Prop where
  parser : SameLive left.parser right.parser
  data : SameDelivery left.parser left.data right.data
  buff : left.buff = right.buff

def SameTurn : WsTurn Delivery → WsTurn Delivery → Prop
  | .next left, .next right => SameRun left right
  | .stop rc left, .stop code right => rc = code ∧ left.buff = right.buff ∧ left.data.delivered = right.data.delivered
  | _, _ => False

theorem same_live_opcode (left right : WsParser) (leftState : left.state = .opcode) (rightState : right.state = .opcode)
    (fragment : left.fragment = right.fragment) : SameLive left right := by
  constructor <;> simp [leftState, rightState, fragment, WsState.usesRemaining, WsState.keyRead]

theorem end_of_payload_same (left right : WsParser) (data other : Delivery) (buff : Bytes) (same : SameLive left right)
    (kept : SameDelivery left data other) (inside : left.state ≠ .opcode) :
    SameTurn (endOfPayload deliveryCallbacks left data buff) (endOfPayload deliveryCallbacks right other buff) := by
  obtain ⟨fin, control⟩ := same.frame inside
  unfold endOfPayload
  rw [← fin, ← control]
  cases isControl : left.control with
  | true =>
      refine ⟨same_live_opcode _ _ rfl rfl same.fragment,
        ⟨kept.dataPayload, kept.controlPayload, ?_, fun live => kept.dataType (.inl (by simpa using live)), by simp⟩, rfl⟩
      simp [deliveryCallbacks, WsCallbacks.onEnd, kept.delivered, kept.controlPayload, kept.controlType inside isControl]
  | false =>
      cases isFin : left.fin with
      | true =>
          refine ⟨same_live_opcode _ _ rfl rfl same.fragment,
            ⟨kept.dataPayload, kept.controlPayload, ?_, fun live => kept.dataType (.inl (by simpa using live)), by simp⟩, rfl⟩
          simp [deliveryCallbacks, WsCallbacks.onEnd, kept.delivered, kept.dataPayload, kept.dataType (.inr ⟨inside, isControl⟩)]
      | false =>
          exact ⟨same_live_opcode _ _ rfl rfl same.fragment, ⟨kept.dataPayload, kept.controlPayload, kept.delivered,
            fun live => kept.dataType (.inl (by simpa using live)), by simp⟩, rfl⟩

theorem close_if_empty_same (left right : WsParser) (data other : Delivery) (buff : Bytes) (same : SameLive left right)
    (kept : SameDelivery left data other) (inside : left.state ≠ .opcode) :
    SameTurn (closeIfEmpty deliveryCallbacks left data buff) (closeIfEmpty deliveryCallbacks right other buff) := by
  have agree : (left.state = .payload ∧ left.bytesRemaining = 0) ↔ (right.state = .payload ∧ right.bytesRemaining = 0) := by
    rw [← same.state]
    refine and_congr_right fun state => ?_
    rw [same.remaining (by simp [state, WsState.usesRemaining])]
  unfold closeIfEmpty
  by_cases empty : left.state = .payload ∧ left.bytesRemaining = 0
  · rw [if_pos empty, if_pos (agree.mp empty)]
    exact end_of_payload_same left right data other buff same kept inside
  · rw [if_neg empty, if_neg (fun right => empty (agree.mpr right))]
    exact ⟨same, kept, rfl⟩

theorem opcode_turn_same (left right : WsParser) (data other : Delivery) (cur : UInt8) (rest : Bytes)
    (same : SameLive left right) (kept : SameDelivery left data other) :
    SameTurn (opcodeTurn deliveryCallbacks left data cur rest) (opcodeTurn deliveryCallbacks right other cur rest) := by
  have entered (p q : WsParser) (ps : p.state = .length) (qs : q.state = .length) (fragment : p.fragment = q.fragment)
      (fin : p.fin = q.fin) (control : p.control = q.control) : SameLive p q := by
    constructor <;> simp [ps, qs, fragment, fin, control, WsState.usesRemaining, WsState.keyRead]
  simp only [opcodeTurn, ← same.fragment]
  split_ifs with reserved continuation first control unknown unfinished invalid
  · exact ⟨rfl, rfl, kept.delivered⟩
  · exact ⟨rfl, rfl, kept.delivered⟩
  · have fragment : left.fragment = true := by simpa using first
    exact ⟨entered _ _ rfl rfl rfl rfl rfl, ⟨kept.dataPayload, kept.controlPayload, kept.delivered,
      fun _ => kept.dataType (.inl fragment), by simp⟩, rfl⟩
  · exact ⟨rfl, rfl, kept.delivered⟩
  · exact ⟨rfl, rfl, kept.delivered⟩
  · exact ⟨entered _ _ rfl rfl rfl rfl rfl, ⟨kept.dataPayload, rfl, kept.delivered,
      fun live => kept.dataType (.inl (by simpa using live)), fun _ _ => rfl⟩, rfl⟩
  · exact ⟨rfl, rfl, kept.delivered⟩
  · exact ⟨entered _ _ rfl rfl rfl rfl rfl, ⟨rfl, kept.controlPayload, kept.delivered, fun _ => rfl, by simp⟩, rfl⟩

theorem same_delivery_move (left next : WsParser) (data other : Delivery) (kept : SameDelivery left data other)
    (inside : left.state ≠ .opcode) (fragment : next.fragment = left.fragment) (control : next.control = left.control) :
    SameDelivery next data other where
  dataPayload := kept.dataPayload
  controlPayload := kept.controlPayload
  delivered := kept.delivered
  dataType live := kept.dataType (live.imp (fun h => fragment ▸ h) (fun h => ⟨inside, control ▸ h.2⟩))
  controlType _ isControl := kept.controlType inside (control ▸ isControl)

theorem length_turn_same (left right : WsParser) (data other : Delivery) (cur : UInt8) (rest : Bytes)
    (same : SameLive left right) (kept : SameDelivery left data other) (state : left.state = .length) :
    SameTurn (lengthTurn deliveryCallbacks left data cur rest) (lengthTurn deliveryCallbacks right other cur rest) := by
  have inside : left.state ≠ .opcode := by simp [state]
  obtain ⟨fin, control⟩ := same.frame inside
  simp only [lengthTurn, ← control]
  split_ifs with long
  · exact ⟨rfl, rfl, kept.delivered⟩
  · apply close_if_empty_same
    · unfold takeLength bodyState
      constructor <;> split_ifs <;> simp_all [same.fragment, WsState.usesRemaining, WsState.keyRead]
    · refine same_delivery_move left _ data other kept inside ?_ ?_ <;> unfold takeLength <;> split_ifs <;> rfl
    · unfold takeLength bodyState
      split_ifs <;> simp

theorem length16_turn_same (left right : WsParser) (data other : Delivery) (index : Fin 2) (cur : UInt8) (rest : Bytes)
    (same : SameLive left right) (kept : SameDelivery left data other) (state : left.state = .length16 index) :
    SameTurn (length16Turn left data index cur rest) (length16Turn right other index cur rest) := by
  have inside : left.state ≠ .opcode := by simp [state]
  obtain ⟨fin, control⟩ := same.frame inside
  obtain ⟨maskFlag, maskPos⟩ := same.masking inside (by simp [state])
  have moved (next : WsParser) := same_delivery_move left next data other kept inside
  by_cases first : index = 0
  · simp only [length16Turn, if_pos first]
    refine ⟨?_, moved _ rfl rfl, rfl⟩
    constructor <;> simp [same.fragment, fin, control, maskFlag, maskPos, WsState.keyRead]
  · have remaining := same.remaining (by simp [state, WsState.usesRemaining, first])
    simp only [length16Turn, if_neg first, bodyState, ← remaining, ← maskFlag]
    split
    · exact ⟨rfl, rfl, kept.delivered⟩
    · refine ⟨?_, moved _ rfl rfl, rfl⟩
      constructor <;> split_ifs <;> simp_all [same.fragment, WsState.keyRead]

theorem length64_turn_same (left right : WsParser) (data other : Delivery) (index : Fin 8) (cur : UInt8) (rest : Bytes)
    (same : SameLive left right) (kept : SameDelivery left data other) (state : left.state = .length64 index) :
    SameTurn (length64Turn left data index cur rest) (length64Turn right other index cur rest) := by
  have inside : left.state ≠ .opcode := by simp [state]
  obtain ⟨fin, control⟩ := same.frame inside
  obtain ⟨maskFlag, maskPos⟩ := same.masking inside (by simp [state])
  have moved (next : WsParser) := same_delivery_move left next data other kept inside
  by_cases first : index = 0
  · simp only [length64Turn, if_pos first]
    refine ⟨?_, moved _ rfl rfl, rfl⟩
    constructor <;> simp [same.fragment, fin, control, maskFlag, maskPos, WsState.keyRead]
  · have remaining := same.remaining (by simp [state, WsState.usesRemaining, first])
    simp only [length64Turn, if_neg first, bodyState, ← remaining, ← maskFlag]
    split_ifs
    · refine ⟨?_, moved _ rfl rfl, rfl⟩
      constructor <;> simp [same.fragment, fin, control, maskFlag, maskPos, WsState.keyRead]
    · exact ⟨rfl, rfl, kept.delivered⟩
    · exact ⟨rfl, rfl, kept.delivered⟩
    · refine ⟨?_, moved _ rfl rfl, rfl⟩
      constructor <;> simp_all [same.fragment, WsState.keyRead]
    · refine ⟨?_, moved _ rfl rfl, rfl⟩
      constructor <;> simp_all [same.fragment, WsState.keyRead]

theorem mask_turn_same (left right : WsParser) (data other : Delivery) (index : Fin 4) (cur : UInt8) (rest : Bytes)
    (same : SameLive left right) (kept : SameDelivery left data other) (state : left.state = .mask index) :
    SameTurn (maskTurn deliveryCallbacks left data index cur rest) (maskTurn deliveryCallbacks right other index cur rest) := by
  have inside : left.state ≠ .opcode := by simp [state]
  obtain ⟨fin, control⟩ := same.frame inside
  obtain ⟨maskFlag, maskPos⟩ := same.masking inside (by simp [state])
  have remaining := same.remaining (by simp [state, WsState.usesRemaining])
  have moved (next : WsParser) := same_delivery_move left next data other kept inside
  have key (i : Fin 4) (read : i ≤ index) (masked : left.maskFlag = true) :
      Function.update left.mask index cur i = Function.update right.mask index cur i := by
    by_cases here : i = index
    · simp [here]
    · have before : left.state.keyRead i = true := by simp [state, WsState.keyRead, lt_of_le_of_ne read here]
      simp [here, same.mask i before masked]
  by_cases last : index = 3
  · simp only [maskTurn, last, ne_eq, not_true_eq_false, if_false]
    subst last
    exact close_if_empty_same _ _ data other rest ⟨rfl, same.fragment, fun _ => ⟨fin, control⟩, fun _ _ => ⟨maskFlag, maskPos⟩,
      fun _ => remaining, fun i _ masked => key i (Fin.le_last i) masked⟩ (moved _ rfl rfl) (by simp)
  · simp only [maskTurn, ne_eq, last, not_false_eq_true, if_true]
    have earlier : ∀ i index : Fin 4, index ≠ 3 → i < index + 1 → i ≤ index := by decide
    exact ⟨⟨rfl, same.fragment, fun _ => ⟨fin, control⟩, fun _ _ => ⟨maskFlag, maskPos⟩, fun _ => remaining,
      fun i read masked => key i (earlier i index last (of_decide_eq_true read)) masked⟩, moved _ rfl rfl, rfl⟩

theorem payload_turn_same (left right : WsParser) (data other : Delivery) (buff : Bytes)
    (same : SameLive left right) (kept : SameDelivery left data other) (state : left.state = .payload) :
    SameTurn (payloadTurn deliveryCallbacks left data buff) (payloadTurn deliveryCallbacks right other buff) := by
  have inside : left.state ≠ .opcode := by simp [state]
  obtain ⟨fin, control⟩ := same.frame inside
  obtain ⟨maskFlag, maskPos⟩ := same.masking inside (by simp [state])
  have remaining := same.remaining (by simp [state, WsState.usesRemaining])
  have key (masked : left.maskFlag = true) : left.mask = right.mask :=
    funext fun i => same.mask i (by simp [state, WsState.keyRead]) masked
  have chunk (bytes : Bytes) : unmaskChunk left bytes = unmaskChunk right bytes := by
    unfold unmaskChunk
    rw [← maskFlag, ← maskPos]
    split
    · rename_i masked
      rw [key masked]
    · rfl
  have advanced (count : Nat) : SameLive (midPayload left count) (midPayload right count) := by
    unfold midPayload advanceMask
    rw [← maskFlag]
    constructor <;> split_ifs <;> simp_all [same.fragment, same.state]
  have appended (payload : Bytes) (count : Nat) : SameDelivery (midPayload left count)
      (deliveryCallbacks.onPayload left.control data payload).1 (deliveryCallbacks.onPayload left.control other payload).1 := by
    have base := same_delivery_move left (midPayload left count) data other kept inside
      (by unfold midPayload advanceMask; split <;> rfl) (by unfold midPayload advanceMask; split <;> rfl)
    cases left.control with
    | false =>
        exact ⟨congrArg (· ++ payload) base.dataPayload, base.controlPayload, base.delivered, base.dataType, base.controlType⟩
    | true =>
        exact ⟨base.dataPayload, congrArg (· ++ payload) base.controlPayload, base.delivered, base.dataType, base.controlType⟩
  simp only [payloadTurn, checkRc, delivery_streaming.accepts, if_true, ← control, ← chunk]
  have size : min buff.length right.bytesRemaining = min buff.length left.bytesRemaining := by rw [remaining]
  rw [size]
  refine close_if_empty_same _ _ _ _ _ (advanced _) (appended _ _) ?_
  simpa only [advance_mask_state] using inside

theorem ws_turn_same (left right : WsParser) (data other : Delivery) (cur : UInt8) (rest : Bytes)
    (same : SameLive left right) (kept : SameDelivery left data other) :
    SameTurn (wsTurn deliveryCallbacks left data cur rest) (wsTurn deliveryCallbacks right other cur rest) := by
  unfold wsTurn
  rw [← same.state]
  cases state : left.state with
  | opcode => exact opcode_turn_same left right data other cur rest same kept
  | length => exact length_turn_same left right data other cur rest same kept state
  | length16 index => exact length16_turn_same left right data other index cur rest same kept state
  | length64 index => exact length64_turn_same left right data other index cur rest same kept state
  | mask index => exact mask_turn_same left right data other index cur rest same kept state
  | payload => exact payload_turn_same left right data other (cur :: rest) same kept state

theorem execute_same (left right : WsParser) (data other : Delivery) (buff : Bytes) (same : SameLive left right)
    (kept : SameDelivery left data other) :
    (wsParserExecute deliveryCallbacks left data buff).1 = (wsParserExecute deliveryCallbacks right other buff).1 ∧
      (wsParserExecute deliveryCallbacks left data buff).2.buff = (wsParserExecute deliveryCallbacks right other buff).2.buff ∧
      (wsParserExecute deliveryCallbacks left data buff).2.data.delivered =
        (wsParserExecute deliveryCallbacks right other buff).2.data.delivered ∧
      ((wsParserExecute deliveryCallbacks left data buff).1 = wsOk →
        SameRun (wsParserExecute deliveryCallbacks left data buff).2 (wsParserExecute deliveryCallbacks right other buff).2) := by
  fun_induction wsParserExecute deliveryCallbacks left data buff generalizing right other with
  | case1 left data =>
      rw [execute_nil]
      exact ⟨rfl, rfl, kept.delivered, fun _ => ⟨same, kept, rfl⟩⟩
  | case2 left data cur rest run turned ih =>
      have step := ws_turn_same left right data other cur rest same kept
      rw [turned] at step
      cases other_turned : wsTurn deliveryCallbacks right other cur rest with
      | stop rc stopped =>
          rw [other_turned] at step
          exact step.elim
      | next next =>
          rw [other_turned] at step
          rw [execute_next deliveryCallbacks right other cur rest next other_turned, ← step.buff]
          exact ih next.parser next.data step.parser step.data
  | case3 left data cur rest rc run turned =>
      have step := ws_turn_same left right data other cur rest same kept
      have nonzero := ws_turn_ready deliveryCallbacks left data cur rest
      rw [turned] at step nonzero
      cases other_turned : wsTurn deliveryCallbacks right other cur rest with
      | next next =>
          rw [other_turned] at step
          exact step.elim
      | stop code stopped =>
          rw [other_turned] at step
          rw [execute_stop deliveryCallbacks right other cur rest code stopped other_turned]
          exact ⟨step.1, step.2.1, step.2.2, fun passed => absurd passed nonzero⟩

def SameEnd : StreamEnd Delivery → StreamEnd Delivery → Prop
  | .failed rc offset left, .failed code other right => rc = code ∧ offset = other ∧ left.delivered = right.delivered
  | .live parser left, .live other right =>
      left.delivered = right.delivered ∧ SameLive parser other ∧ left.dataPayloadBuf = right.dataPayloadBuf ∧
        left.controlPayloadBuf = right.controlPayloadBuf
  | _, _ => False

theorem run_stream_same (left right : WsParser) (data other : Delivery) (offset : Nat) (buff : Bytes)
    (same : SameLive left right) (kept : SameDelivery left data other) :
    SameEnd (runStream deliveryCallbacks left data offset [buff]) (runStream deliveryCallbacks right other offset [buff]) := by
  obtain ⟨codes, buffs, delivered, live⟩ := execute_same left right data other buff same kept
  by_cases passed : (wsParserExecute deliveryCallbacks left data buff).1 = wsOk
  · obtain ⟨parsers, ends, _⟩ := live passed
    simp only [runStream, if_pos passed, if_pos (codes.symm.trans passed)]
    exact ⟨delivered, parsers, ends.dataPayload, ends.controlPayload⟩
  · have stopped : ¬ (wsParserExecute deliveryCallbacks right other buff).1 = wsOk := fun zero => passed (codes.trans zero)
    simp only [runStream, if_neg passed, if_neg stopped]
    exact ⟨codes, by rw [buffs], delivered⟩

-- Successive parse calls on one parser, up to the first call that would have
-- returned an error.
def parseStream (parser : Parser) (offset : Nat) : List Bytes → StreamEnd ParserData
  | [] => .live parser.wsParser parser.data
  | chunk :: chunks =>
      let executed := parser.execute chunk
      if executed.1 = wsOk then parseStream (parser.parse chunk) (offset + chunk.length) chunks
      else .failed executed.1 (offset + (chunk.length - executed.2.buff.length)) executed.2.data

theorem parse_stream_run (parser : Parser) (offset : Nat) (chunks : List Bytes) :
    parseStream parser offset chunks = runStream parserCallbacks parser.wsParser parser.data offset chunks := by
  induction chunks generalizing parser offset with
  | nil => rfl
  | cons chunk chunks ih => simp only [parseStream, runStream, ih, Parser.parse, Parser.execute]

theorem parse_stream_deliver (parser : Parser) (offset : Nat) (chunks : List Bytes) (ready : parser.wsParser.Ready) :
    (parseStream parser offset chunks).map deliver =
      runStream deliveryCallbacks parser.wsParser (deliver parser.data) offset [chunks.flatten] := by
  rw [parse_stream_run, ← run_stream_map parserCallbacks deliveryCallbacks deliver deliver_maps,
    run_stream_flatten deliveryCallbacks delivery_streaming _ _ _ _ ready]

def SameOutcome : StreamEnd ParserData → StreamEnd ParserData → Prop
  | .failed rc offset left, .failed code other right =>
      rc = code ∧ offset = other ∧ okCalls left.calls = okCalls right.calls
  | .live parser left, .live other right =>
      okCalls left.calls = okCalls right.calls ∧ SameLive parser other ∧ left.dataPayloadBuf = right.dataPayloadBuf ∧
        left.controlPayloadBuf = right.controlPayloadBuf
  | _, _ => False

theorem same_outcome_deliver (left right : StreamEnd ParserData) (same : SameEnd (left.map deliver) (right.map deliver)) :
    SameOutcome left right := by
  cases left <;> cases right <;> exact same

theorem construct_ready (allocated : WsParser) (dataType controlType : FrameType) :
    (Parser.construct allocated dataType controlType).wsParser.Ready := by
  intro state
  cases state

theorem parse_chunking_independent (allocated other : WsParser) (dataType controlType otherData otherControl : FrameType)
    (left right : List Bytes) (same : left.flatten = right.flatten) :
    SameOutcome (parseStream (Parser.construct allocated dataType controlType) 0 left)
      (parseStream (Parser.construct other otherData otherControl) 0 right) := by
  apply same_outcome_deliver
  rw [parse_stream_deliver _ 0 left (construct_ready _ _ _), parse_stream_deliver _ 0 right (construct_ready _ _ _), same]
  apply run_stream_same
  · exact same_live_opcode _ _ rfl rfl rfl
  · constructor <;> simp [Parser.construct, deliver, wsParserInit]

theorem text_frame_chunking :
    SameOutcome (parseStream (Parser.construct zeroedParser .textFrame .pingFrame) 0 [[0x81], [0x02, 0x68], [], [0x69]])
      (parseStream (Parser.construct { zeroedParser with maskPos := 3 } .binaryFrame .closeFrame) 0 [[0x81, 0x02, 0x68, 0x69]]) :=
  parse_chunking_independent zeroedParser { zeroedParser with maskPos := 3 } .textFrame .pingFrame .binaryFrame .closeFrame
    [[0x81], [0x02, 0x68], [], [0x69]] [[0x81, 0x02, 0x68, 0x69]] rfl

end Eventhub.Websocket
