import Eventhub.Websocket.Reading
import Eventhub.Websocket.Decode

set_option autoImplicit false

namespace Eventhub.Websocket

open Transition

def WsState.inBody : WsState → Bool
  | .mask _ => true
  | .payload => true
  | _ => false

theorem declared_state (parser : WsParser) (cur : UInt8) (length : Nat) (declared : declaredLength parser cur = some length) :
    parser.state = .length ∨ parser.state.isExtended = true := by
  unfold declaredLength at declared
  cases state : parser.state with
  | length => exact .inl rfl
  | length16 index => exact .inr rfl
  | length64 index => exact .inr rfl
  | opcode | mask index | payload =>
      rw [state] at declared
      cases declared

theorem append_data_kept (obj : ParserData) (chunk : Bytes) :
    (appendDataPayload obj chunk).dataPayloadBuf = obj.dataPayloadBuf ++ chunk ∧
      (appendDataPayload obj chunk).controlPayloadBuf = obj.controlPayloadBuf ∧
      ∀ call ∈ (appendDataPayload obj chunk).calls, call ∈ obj.calls ∨ call.status = .maxDataFrameSizeExceeded := by
  simp only [appendDataPayload]
  split
  · refine ⟨rfl, rfl, fun call mem => ?_⟩
    rcases List.mem_append.mp mem with earlier | last
    · exact .inl earlier
    · rw [List.mem_singleton.mp last]
      exact .inr rfl
  · exact ⟨rfl, rfl, fun call mem => .inl mem⟩

theorem append_control_short (obj : ParserData) (chunk : Bytes) (short : (obj.controlPayloadBuf ++ chunk).length ≤ wsMaxControlFrameSize) :
    appendControlPayload obj chunk = { obj with controlPayloadBuf := obj.controlPayloadBuf ++ chunk } :=
  if_neg (Nat.not_lt.mpr short)

structure ControlSized (parser : WsParser) (obj : ParserData) : Prop where
  small : obj.controlPayloadBuf.length ≤ 125
  quiet : ∀ call ∈ obj.calls, call.status ≠ .maxControlFrameSizeExceeded
  opened : parser.control = true → parser.state = .length → obj.controlPayloadBuf = []
  short : parser.control = true → parser.state.isExtended = false
  body : parser.control = true → parser.state.inBody = true → obj.controlPayloadBuf.length + parser.bytesRemaining ≤ 125

theorem control_sized_idle (parser : WsParser) (obj : ParserData) (state : parser.state = .opcode)
    (small : obj.controlPayloadBuf.length ≤ 125) (quiet : ∀ call ∈ obj.calls, call.status ≠ .maxControlFrameSizeExceeded) :
    ControlSized parser obj := by
  constructor <;> simp_all [WsState.isExtended, WsState.inBody]

theorem control_sized_data (parser : WsParser) (obj : ParserData) (plain : parser.control = false)
    (small : obj.controlPayloadBuf.length ≤ 125) (quiet : ∀ call ∈ obj.calls, call.status ≠ .maxControlFrameSizeExceeded) :
    ControlSized parser obj := by
  constructor <;> simp_all

theorem control_sized_body (parser : WsParser) (obj : ParserData) (inside : parser.state.inBody = true)
    (room : parser.control = true → obj.controlPayloadBuf.length + parser.bytesRemaining ≤ 125)
    (small : obj.controlPayloadBuf.length ≤ 125) (quiet : ∀ call ∈ obj.calls, call.status ≠ .maxControlFrameSizeExceeded) :
    ControlSized parser obj := by
  refine ⟨small, quiet, fun _ state => ?_, fun _ => ?_, fun control _ => room control⟩
  · rw [state] at inside
    cases inside
  · cases state : parser.state <;> rw [state] at inside <;> first | rfl | cases inside

theorem quiet_snoc (obj : ParserData) (status : ParserStatus) (frameType : FrameType) (data : Bytes)
    (other : status ≠ .maxControlFrameSizeExceeded) (quiet : ∀ call ∈ obj.calls, call.status ≠ .maxControlFrameSizeExceeded) :
    ∀ call ∈ (obj.callback status frameType data).calls, call.status ≠ .maxControlFrameSizeExceeded := by
  intro call mem
  rcases List.mem_append.mp mem with earlier | last
  · exact quiet call earlier
  · rw [List.mem_singleton.mp last]
    exact other

theorem control_sized_closed (parser : WsParser) (data : ParserData × List DataCall) (buff : Bytes) (sized : ControlSized parser data.1) :
    ControlSized (closedRun recordedCallbacks parser data buff).parser (closedRun recordedCallbacks parser data buff).data.1 := by
  unfold closedRun
  split
  · refine control_sized_idle _ _ rfl ?_ ?_
    · cases parser.control <;> cases parser.fin <;> exact sized.small
    · cases parser.control <;> cases parser.fin
      · exact sized.quiet
      all_goals exact quiet_snoc data.1 _ _ _ (by decide) sized.quiet
  · exact sized

theorem control_sized_header (parser : WsParser) (data : ParserData × List DataCall) (cur : UInt8) (rest : Bytes)
    (run : WsRun (ParserData × List DataCall)) (sized : ControlSized parser data.1)
    (taken : HeaderTaken recordedCallbacks parser data cur rest (.next run)) : ControlSized run.parser run.data.1 := by
  cases taken with
  | continued reserved opcode fragment => exact control_sized_data _ _ rfl sized.small sized.quiet
  | controlBegun opcode => exact ⟨Nat.zero_le _, sized.quiet, fun _ _ => rfl, fun _ => rfl, fun _ inside => nomatch inside⟩
  | dataBegun opcode => exact control_sized_data _ _ rfl sized.small sized.quiet

theorem control_length (parser : WsParser) (data : ParserData × List DataCall) (cur : UInt8) (length : Nat)
    (sized : ControlSized parser data.1) (declared : declaredLength parser cur = some length)
    (short : parser.control = true → parser.state = .length → length ≤ 125) (control : parser.control = true) :
    data.1.controlPayloadBuf.length + length ≤ 125 := by
  rcases declared_state parser cur length declared with state | extended
  · rw [sized.opened control state, List.length_nil, Nat.zero_add]
    exact short control state
  · rw [sized.short control] at extended
    cases extended

theorem control_sized_payload (parser next : WsParser) (data : ParserData × List DataCall) (chunk : Bytes)
    (sized : ControlSized parser data.1) (state : parser.state = .payload) (inside : chunk.length ≤ parser.bytesRemaining)
    (kept : next.state = parser.state) (control : next.control = parser.control)
    (left : next.bytesRemaining = parser.bytesRemaining - chunk.length) :
    ControlSized next (recordedCallbacks.onPayload parser.control data chunk).1.1 := by
  have body : next.state.inBody = true := by rw [kept, state]; rfl
  cases kind : parser.control with
  | false =>
      obtain ⟨_, same, calls⟩ := append_data_kept data.1 chunk
      refine control_sized_data _ _ (control.trans kind) (same ▸ sized.small) fun call mem => ?_
      rcases calls call mem with earlier | reported
      · exact sized.quiet call earlier
      · rw [reported]
        decide
  | true =>
      have room := sized.body kind (by rw [state]; rfl)
      have grown : (data.1.controlPayloadBuf ++ chunk).length ≤ 125 := by
        rw [List.length_append]
        omega
      have appended := append_control_short data.1 chunk (grown.trans (by decide))
      have handed : (recordedCallbacks.onPayload true data chunk).1.1 = appendControlPayload data.1 chunk := rfl
      rw [handed, appended]
      refine control_sized_body _ _ body (fun _ => ?_) grown sized.quiet
      rw [left, List.length_append]
      omega

theorem control_sized_frame (parser : WsParser) (data : ParserData × List DataCall) (cur : UInt8) (rest : Bytes)
    (run : WsRun (ParserData × List DataCall)) (sized : ControlSized parser data.1)
    (taken : FrameTaken recordedCallbacks parser data cur rest (.next run)) : ControlSized run.parser run.data.1 := by
  cases taken with
  | lengthOpened remaining maskFlag maskPos next extended state =>
      have plain : parser.control = false := by
        rcases state with ⟨_, plain⟩ | wide
        · exact plain
        · by_contra control
          rw [sized.short (Bool.not_eq_false _ ▸ control)] at wide
          cases wide
      exact control_sized_data _ _ plain sized.small sized.quiet
  | lengthRead length maskFlag maskPos declared short =>
      apply control_sized_closed
      refine control_sized_body _ _ ?_ (control_length parser data cur length sized declared short) sized.small sized.quiet
      cases maskFlag <;> rfl
  | maskOpened mask index next state =>
      exact control_sized_body _ _ rfl (fun control => sized.body control (by rw [state]; rfl)) sized.small sized.quiet
  | maskRead mask index state =>
      apply control_sized_closed
      exact control_sized_body _ _ rfl (fun control => sized.body control (by rw [state]; rfl)) sized.small sized.quiet
  | payloadRead chunk left maskPos inside state =>
      apply control_sized_closed
      exact control_sized_payload parser _ data chunk sized state inside rfl rfl rfl

theorem control_sized_stopped (parser : WsParser) (data : ParserData × List DataCall) (cur : UInt8) (rest : Bytes) (rc : Int)
    (run : WsRun (ParserData × List DataCall)) (sized : ControlSized parser data.1)
    (taken : TurnTaken recordedCallbacks parser data cur rest (.stop rc run)) : ControlSized run.parser run.data.1 := by
  cases taken with
  | header state taken =>
      cases taken with
      | refused rc fin => exact control_sized_idle _ _ state sized.small sized.quiet
  | frame begun taken =>
      cases taken with
      | controlTooLong maskFlag maskPos state => exact ⟨sized.small, sized.quiet, sized.opened, sized.short, sized.body⟩
      | lengthRefused length declared state =>
          refine control_sized_data _ _ ?_ sized.small sized.quiet
          by_contra control
          rw [sized.short (Bool.not_eq_false _ ▸ control)] at state
          cases state

theorem read_control_sized (reading after : Reading) (read : Reads) (sized : ControlSized reading.run.parser reading.run.data.1)
    (stepped : reading.step read = some after) : ControlSized after.run.parser after.run.data.1 := by
  cases read_taken reading after read stepped with
  | called buff => exact sized
  | next cur rest run buff taken =>
      cases taken with
      | header state taken => exact control_sized_header _ _ cur rest run sized taken
      | frame begun taken => exact control_sized_frame _ _ cur rest run sized taken
  | stopped cur rest rc run buff taken => exact control_sized_stopped _ _ cur rest rc run sized taken

theorem start_control_sized (allocated : WsParser) (dataType controlType : FrameType) :
    ControlSized (Parser.construct allocated dataType controlType).wsParser (Parser.construct allocated dataType controlType).data :=
  control_sized_idle _ _ rfl (Nat.zero_le _) (fun _ mem => nomatch mem)

-- The byte that completes the length of a final data frame keeps the whole
-- message within the limit.
def FinalFits (reading : Reading) (read : Reads) : Prop :=
  read = .turn → reading.run.parser.control = false → reading.run.parser.fin = true → ∀ cur ∈ reading.run.buff.head?,
    ∀ length ∈ declaredLength reading.run.parser cur, reading.run.data.1.dataPayloadBuf.length + length ≤ maxDataFrameSize

instance finalFitsDecidable (reading : Reading) (read : Reads) : Decidable (FinalFits reading read) :=
  inferInstanceAs (Decidable (_ → _ → _ → ∀ cur ∈ reading.run.buff.head?, ∀ length ∈ declaredLength reading.run.parser cur, _))

structure DataSized (parser : WsParser) (obj : ParserData) : Prop where
  delivered : ∀ call ∈ obj.calls, call.status = .parserOk → call.data.length ≤ maxDataFrameSize
  body : parser.control = false → parser.fin = true → parser.state.inBody = true →
    obj.dataPayloadBuf.length + parser.bytesRemaining ≤ maxDataFrameSize

theorem data_sized_outside (parser : WsParser) (obj : ParserData) (outside : parser.state.inBody = false)
    (delivered : ∀ call ∈ obj.calls, call.status = .parserOk → call.data.length ≤ maxDataFrameSize) : DataSized parser obj := by
  refine ⟨delivered, fun _ _ inside => ?_⟩
  rw [outside] at inside
  cases inside

theorem delivered_snoc (obj : ParserData) (frameType : FrameType) (data : Bytes) (small : data.length ≤ maxDataFrameSize)
    (delivered : ∀ call ∈ obj.calls, call.status = .parserOk → call.data.length ≤ maxDataFrameSize) :
    ∀ call ∈ (obj.callback .parserOk frameType data).calls, call.status = .parserOk → call.data.length ≤ maxDataFrameSize := by
  intro call mem passed
  rcases List.mem_append.mp mem with earlier | last
  · exact delivered call earlier passed
  · rw [List.mem_singleton.mp last]
    exact small

theorem data_sized_closed (parser : WsParser) (data : ParserData × List DataCall) (buff : Bytes) (sized : DataSized parser data.1)
    (small : data.1.controlPayloadBuf.length ≤ 125) :
    DataSized (closedRun recordedCallbacks parser data buff).parser (closedRun recordedCallbacks parser data buff).data.1 := by
  unfold closedRun
  by_cases closes : parser.state = .payload ∧ parser.bytesRemaining = 0
  · rw [if_pos closes]
    apply data_sized_outside _ _ rfl
    have inside : parser.state.inBody = true := by rw [closes.1]; rfl
    cases kind : parser.control with
    | true => exact delivered_snoc data.1 _ _ (small.trans (by decide)) sized.delivered
    | false =>
        cases final : parser.fin with
        | false => exact sized.delivered
        | true => exact delivered_snoc data.1 _ _ ((Nat.le_add_right _ _).trans (sized.body kind final inside)) sized.delivered
  · rw [if_neg closes]
    exact sized

theorem data_sized_header (parser : WsParser) (data : ParserData × List DataCall) (cur : UInt8) (rest : Bytes)
    (run : WsRun (ParserData × List DataCall)) (sized : DataSized parser data.1)
    (taken : HeaderTaken recordedCallbacks parser data cur rest (.next run)) : DataSized run.parser run.data.1 := by
  cases taken with
  | continued reserved opcode fragment => exact data_sized_outside _ _ rfl sized.delivered
  | controlBegun opcode => exact data_sized_outside _ _ rfl sized.delivered
  | dataBegun opcode => exact data_sized_outside _ _ rfl sized.delivered

theorem data_sized_payload (parser next : WsParser) (data : ParserData × List DataCall) (chunk : Bytes)
    (sized : DataSized parser data.1) (control : ControlSized parser data.1) (state : parser.state = .payload)
    (inside : chunk.length ≤ parser.bytesRemaining) (kind : next.control = parser.control) (final : next.fin = parser.fin)
    (left : next.bytesRemaining = parser.bytesRemaining - chunk.length) :
    DataSized next (recordedCallbacks.onPayload parser.control data chunk).1.1 := by
  cases plain : parser.control with
  | true =>
      have room := control.body plain (by rw [state]; rfl)
      have grown : (data.1.controlPayloadBuf ++ chunk).length ≤ wsMaxControlFrameSize := by
        rw [List.length_append]
        exact Nat.le_trans (by omega) (by decide : 125 ≤ wsMaxControlFrameSize)
      have handed : (recordedCallbacks.onPayload true data chunk).1.1 = appendControlPayload data.1 chunk := rfl
      rw [handed, append_control_short data.1 chunk grown]
      refine ⟨sized.delivered, fun data => ?_⟩
      rw [kind, plain] at data
      cases data
  | false =>
      obtain ⟨buffer, _, calls⟩ := append_data_kept data.1 chunk
      have handed : (recordedCallbacks.onPayload false data chunk).1.1 = appendDataPayload data.1 chunk := rfl
      rw [handed]
      refine ⟨fun call mem passed => ?_, fun _ last _ => ?_⟩
      · rcases calls call mem with earlier | reported
        · exact sized.delivered call earlier passed
        · rw [passed] at reported
          cases reported
      · have room := sized.body plain (final.symm.trans last) (by rw [state]; rfl)
        rw [buffer, left, List.length_append]
        omega

theorem data_sized_frame (parser : WsParser) (data : ParserData × List DataCall) (cur : UInt8) (rest : Bytes)
    (run : WsRun (ParserData × List DataCall)) (sized : DataSized parser data.1) (control : ControlSized parser data.1)
    (fits : parser.control = false → parser.fin = true → ∀ length ∈ declaredLength parser cur,
      data.1.dataPayloadBuf.length + length ≤ maxDataFrameSize)
    (taken : FrameTaken recordedCallbacks parser data cur rest (.next run)) : DataSized run.parser run.data.1 := by
  cases taken with
  | lengthOpened remaining maskFlag maskPos next extended state =>
      refine data_sized_outside _ _ ?_ sized.delivered
      cases next <;> first | rfl | cases extended
  | lengthRead length maskFlag maskPos declared short =>
      exact data_sized_closed _ _ _ ⟨sized.delivered, fun kind final _ => fits kind final length declared⟩ control.small
  | maskOpened mask index next state =>
      exact ⟨sized.delivered, fun kind final _ => sized.body kind final (by rw [state]; rfl)⟩
  | maskRead mask index state =>
      exact data_sized_closed _ _ _ ⟨sized.delivered, fun kind final _ => sized.body kind final (by rw [state]; rfl)⟩ control.small
  | payloadRead chunk left maskPos inside state =>
      -- the control buffer may have grown by this chunk
      have grown := control_sized_payload parser { parser with bytesRemaining := parser.bytesRemaining - chunk.length } data chunk control state
        inside rfl rfl rfl
      exact data_sized_closed _ _ _ (data_sized_payload parser _ data chunk sized control state inside rfl rfl rfl) grown.small

theorem data_sized_stopped (parser : WsParser) (data : ParserData × List DataCall) (cur : UInt8) (rest : Bytes) (rc : Int)
    (run : WsRun (ParserData × List DataCall)) (sized : DataSized parser data.1)
    (fits : parser.control = false → parser.fin = true → ∀ length ∈ declaredLength parser cur,
      data.1.dataPayloadBuf.length + length ≤ maxDataFrameSize)
    (taken : TurnTaken recordedCallbacks parser data cur rest (.stop rc run)) : DataSized run.parser run.data.1 := by
  cases taken with
  | header state taken =>
      cases taken with
      | refused rc fin => exact data_sized_outside _ _ (by rw [state]; rfl) sized.delivered
  | frame begun taken =>
      cases taken with
      | controlTooLong maskFlag maskPos state => exact data_sized_outside _ _ (by rw [state]; rfl) sized.delivered
      | lengthRefused length declared state => exact ⟨sized.delivered, fun kind final _ => fits kind final length declared⟩

def Sized (reading : Reading) : Prop :=
  DataSized reading.run.parser reading.run.data.1 ∧ ControlSized reading.run.parser reading.run.data.1

theorem read_sized (reading after : Reading) (read : Reads) (sized : Sized reading) (fits : FinalFits reading read)
    (stepped : reading.step read = some after) : Sized after := by
  refine ⟨?_, read_control_sized reading after read sized.2 stepped⟩
  cases read_taken reading after read stepped with
  | called buff => exact sized.1
  | next cur rest run buff taken =>
      have room := fun kind final => fits rfl kind final cur (by rw [buff]; rfl)
      cases taken with
      | header state taken => exact data_sized_header _ _ cur rest run sized.1 taken
      | frame begun taken => exact data_sized_frame _ _ cur rest run sized.1 sized.2 room taken
  | stopped cur rest rc run buff taken =>
      have room := fun kind final => fits rfl kind final cur (by rw [buff]; rfl)
      exact data_sized_stopped _ _ cur rest rc run sized.1 room taken

theorem delivered_within_limit (allocated : WsParser) (dataType controlType : FrameType) (reads : List Reads) (reading : Reading)
    (run : Run (fun before read after => FinalFits before read ∧ before.step read = some after)
      (.start (.construct allocated dataType controlType)) reads reading) :
    ∀ call ∈ reading.run.data.1.calls, call.status = .parserOk → call.data.length ≤ maxDataFrameSize := by
  have start : Sized (.start (.construct allocated dataType controlType)) :=
    ⟨data_sized_outside _ _ rfl (fun _ mem => nomatch mem), start_control_sized allocated dataType controlType⟩
  have sized : Sized reading := run_invariant _ (fun _ reading => Sized reading) _ start
    (fun _ read before after held taken => read_sized before after read held taken.1 taken.2) reads reading run
  exact sized.1.delivered

theorem fragmented_text_within_limit : ∃ reading,
    Run (fun before read after => FinalFits before read ∧ before.step read = some after)
      (.start (.construct zeroedParser .textFrame .pingFrame))
      (.call [0x01, 0x01, 0x61, 0x80, 0x01, 0x62] :: List.replicate 6 .turn) reading ∧
    reading.run.data.1.calls = [⟨.parserOk, .textFrame, [0x61, 0x62]⟩] ∧
    ∀ call ∈ reading.run.data.1.calls, call.status = .parserOk → call.data.length ≤ maxDataFrameSize := by
  have performed : (perform (guardedStep Reading.step FinalFits) (.start (.construct zeroedParser .textFrame .pingFrame))
      (.call [0x01, 0x01, 0x61, 0x80, 0x01, 0x62] :: List.replicate 6 .turn)).map (fun reading => reading.run.data.1.calls) =
      some [⟨.parserOk, .textFrame, [0x61, 0x62]⟩] := by
    decide +kernel
  obtain ⟨reading, done, calls⟩ := Option.map_eq_some_iff.mp performed
  have run := perform_guarded Reading.step FinalFits _ reading _ done
  exact ⟨reading, run, calls, delivered_within_limit zeroedParser .textFrame .pingFrame _ reading run⟩

-- The size report does not stop the parser: a whole frame is delivered
-- whatever its length.
theorem whole_frame_delivered (allocated : WsParser) (dataType controlType : FrameType) (frame : Frame) (isData : frame.frameType.isData = true)
    (fin : frame.fin = true) (fits : frame.payload.length < 2 ^ 64) :
    ∃ call ∈ ((Parser.construct allocated dataType controlType).parse frame.serialize).data.calls,
      call.status = .parserOk ∧ call.frameType = frame.frameType ∧ call.data = frame.payload := by
  obtain ⟨after, _, _, executed⟩ := data_frame_closed frame (wsParserInit allocated) ⟨[], [], dataType, controlType, []⟩ [] rfl isData fits
  have mapped := execute_map parserCallbacks deliveryCallbacks deliver deliver_maps (wsParserInit allocated)
    ⟨[], [], dataType, controlType, []⟩ frame.serialize
  have same : okCalls ((Parser.construct allocated dataType controlType).parse frame.serialize).data.calls =
      [(frame.frameType, frame.payload)] := by
    rw [List.append_nil, execute_nil, fin] at executed
    exact congrArg (fun done => done.2.data.delivered) (mapped.symm.trans executed)
  have delivered := List.mem_singleton_self (frame.frameType, frame.payload)
  rw [← same] at delivered
  obtain ⟨call, mem, pair⟩ := List.mem_map.mp delivered
  obtain ⟨inside, passed⟩ := List.mem_filter.mp mem
  obtain ⟨kind, payload⟩ := Prod.mk.inj pair
  exact ⟨call, inside, of_decide_eq_true passed, kind, payload⟩

theorem oversized_text_delivered :
    ∃ call ∈ ((Parser.construct zeroedParser .textFrame .pingFrame).parse
        (Frame.mk true .textFrame none (List.replicate (maxDataFrameSize + 1) 0x61)).serialize).data.calls,
      call.status = .parserOk ∧ call.frameType = .textFrame ∧ maxDataFrameSize < call.data.length := by
  generalize oversized : List.replicate (maxDataFrameSize + 1) (0x61 : UInt8) = payload
  have size : payload.length = maxDataFrameSize + 1 := by rw [← oversized, List.length_replicate]
  obtain ⟨call, mem, passed, kind, same⟩ := whole_frame_delivered zeroedParser .textFrame .pingFrame ⟨true, .textFrame, none, payload⟩ rfl rfl
    (by rw [size]; decide)
  refine ⟨call, mem, passed, kind, ?_⟩
  rw [same, size]
  exact Nat.lt_succ_self _

end Eventhub.Websocket
