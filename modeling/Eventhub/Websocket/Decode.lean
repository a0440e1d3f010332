import Eventhub.Websocket.Frame

set_option autoImplicit false

namespace Eventhub.Websocket

def finishFrame (control fin : Bool) (data : Delivery) (payload : Bytes) : Delivery :=
  let received := (deliveryCallbacks.onPayload control data payload).1
  if control || fin then (deliveryCallbacks.onEnd control received).1 else received

theorem on_payload_nil (control : Bool) (data : Delivery) : (deliveryCallbacks.onPayload control data []).1 = data := by
  cases control <;> simp [WsCallbacks.onPayload, deliveryCallbacks]

theorem on_end_accepts (control : Bool) (data : Delivery) : (deliveryCallbacks.onEnd control data).2 = 0 := by
  cases control <;> rfl

def FrameClosed (result : Int × WsRun Delivery) (fragment : Bool) (data : Delivery) (rest : Bytes) : Prop :=
  ∃ closed : WsParser, closed.state = .opcode ∧ closed.fragment = fragment ∧
    result = wsParserExecute deliveryCallbacks closed data rest

theorem end_of_payload_closed (parser : WsParser) (data : Delivery) (payload rest : Bytes) :
    FrameClosed ((endOfPayload deliveryCallbacks parser (deliveryCallbacks.onPayload parser.control data payload).1 rest).resume
      deliveryCallbacks) parser.fragment (finishFrame parser.control parser.fin data payload) rest := by
  refine ⟨{ parser with state := .opcode }, rfl, rfl, ?_⟩
  by_cases ends : (parser.control || parser.fin) = true
  · simp only [endOfPayload, finishFrame, if_pos ends, checkRc, on_end_accepts, if_true, WsTurn.resume]
  · simp only [endOfPayload, finishFrame, if_neg ends, WsTurn.resume]

theorem payload_closed (parser : WsParser) (data : Delivery) (bytes rest : Bytes) (state : parser.state = .payload)
    (size : parser.bytesRemaining = bytes.length) :
    FrameClosed ((closeIfEmpty deliveryCallbacks parser data (bytes ++ rest)).resume deliveryCallbacks) parser.fragment
      (finishFrame parser.control parser.fin data (unmaskChunk parser bytes)) rest := by
  cases bytes with
  | nil =>
      have empty : parser.state = .payload ∧ parser.bytesRemaining = 0 := ⟨state, size⟩
      have nothing : unmaskChunk parser [] = [] := by
        unfold unmaskChunk
        split <;> rfl
      have closed := end_of_payload_closed parser data [] rest
      rw [on_payload_nil] at closed
      simpa only [closeIfEmpty, if_pos empty, nothing, List.nil_append] using closed
  | cons byte bytes =>
      have waiting : ¬ (parser.state = .payload ∧ parser.bytesRemaining = 0) := by simp [size]
      have chunk : min (byte :: bytes ++ rest).length parser.bytesRemaining = (byte :: bytes).length := by
        rw [size, List.length_append]
        omega
      have closed := end_of_payload_closed (midPayload parser (byte :: bytes).length) data (unmaskChunk parser (byte :: bytes)) rest
      have same : (midPayload parser (byte :: bytes).length).control = parser.control ∧
          (midPayload parser (byte :: bytes).length).fin = parser.fin ∧
          (midPayload parser (byte :: bytes).length).fragment = parser.fragment := by
        unfold midPayload advanceMask
        split <;> exact ⟨rfl, rfl, rfl⟩
      have ended : (midPayload parser (byte :: bytes).length).state = .payload ∧
          (midPayload parser (byte :: bytes).length).bytesRemaining = 0 :=
        ⟨(advance_mask_state parser _).trans state, by simp [midPayload, size]⟩
      rw [same.1, same.2.1, same.2.2] at closed
      simp only [closeIfEmpty, if_neg waiting, WsTurn.resume, List.cons_append, execute_cons,
        ws_turn_payload deliveryCallbacks parser data byte _ state]
      rw [← List.cons_append]
      simp only [payloadTurn, chunk, List.take_left, List.drop_left, checkRc, delivery_streaming.accepts, if_true]
      rw [← midPayload, closeIfEmpty, if_pos ended]
      exact closed

theorem mask_steps (parser : WsParser) (data : Delivery) (key : Fin 4 → UInt8) (rest : Bytes)
    (state : parser.state = .mask 0) :
    wsParserExecute deliveryCallbacks parser data ([key 0, key 1, key 2, key 3] ++ rest) =
      (closeIfEmpty deliveryCallbacks { parser with mask := key, state := .payload } data rest).resume deliveryCallbacks := by
  have filled : Function.update (Function.update (Function.update (Function.update parser.mask 0 (key 0)) 1 (key 1)) 2 (key 2)) 3
      (key 3) = key := by
    funext index
    fin_cases index <;> rfl
  simp only [List.cons_append, List.nil_append]
  rw [execute_cons]
  simp only [wsTurn, state, maskTurn, WsTurn.resume, ne_eq, not_true_eq_false, if_true, if_false, execute_cons,
    show (0 : Fin 4) ≠ 3 by decide, show (0 : Fin 4) + 1 = 1 by decide, show (1 : Fin 4) ≠ 3 by decide,
    show (1 : Fin 4) + 1 = 2 by decide, show (2 : Fin 4) ≠ 3 by decide, show (2 : Fin 4) + 1 = 3 by decide,
    not_false_eq_true, filled]

theorem body_closed (frame : Frame) (parser : WsParser) (data : Delivery) (rest : Bytes)
    (state : parser.state = bodyState parser) (masked : parser.maskFlag = frame.key.isSome) (maskPos : parser.maskPos = 0)
    (size : parser.bytesRemaining = frame.payload.length) :
    FrameClosed ((closeIfEmpty deliveryCallbacks parser data (frame.body ++ rest)).resume deliveryCallbacks) parser.fragment
      (finishFrame parser.control parser.fin data frame.payload) rest := by
  cases key : frame.key with
  | none =>
      have plain : parser.maskFlag = false := by simp [masked, key]
      have payload := payload_closed parser data frame.payload rest (by simp [state, bodyState, plain]) size
      simpa [Frame.body, key, unmaskChunk, plain] using payload
  | some bytes =>
      have flagged : parser.maskFlag = true := by simp [masked, key]
      have keyed : parser.state = .mask 0 := by simp [state, bodyState, flagged]
      have waiting : ¬ (parser.state = .payload ∧ parser.bytesRemaining = 0) := by simp [keyed]
      have payload := payload_closed { parser with mask := bytes, state := .payload } data (maskPayload bytes frame.payload) rest rfl
        (by simpa [maskPayload] using size)
      have restored : unmaskChunk { parser with mask := bytes, state := .payload } (maskPayload bytes frame.payload) = frame.payload := by
        simp [unmaskChunk, flagged, maskPos, unmask_masked]
      have split : frame.body ++ rest = [bytes 0, bytes 1, bytes 2, bytes 3] ++ (maskPayload bytes frame.payload ++ rest) := by
        simp [Frame.body, key]
      rw [restored] at payload
      rw [closeIfEmpty, if_neg waiting, WsTurn.resume, split, mask_steps parser data bytes _ keyed]
      exact payload

theorem length_byte_low (masked : Bool) (code : Nat) (small : code < 128) : (lengthByte masked code &&& 0x7f).toNat = code := by
  have every : ∀ (flag : Bool) (value : Fin 128), (lengthByte flag value.val &&& 0x7f).toNat = value.val := by decide
  exact every masked ⟨code, small⟩

theorem length_byte_high (masked : Bool) (code : Nat) (small : code < 128) : decide (lengthByte masked code &&& 0x80 ≠ 0) = masked := by
  have every : ∀ (flag : Bool) (value : Fin 128), decide (lengthByte flag value.val &&& 0x80 ≠ 0) = flag := by decide
  exact every masked ⟨code, small⟩

theorem length_step (parser : WsParser) (data : Delivery) (masked : Bool) (code : Nat) (rest : Bytes)
    (state : parser.state = .length) (small : code < 128) (fits : parser.control = true → code ≤ 125) :
    wsParserExecute deliveryCallbacks parser data (lengthByte masked code :: rest) =
      (closeIfEmpty deliveryCallbacks (takeLength { parser with maskFlag := masked, maskPos := 0 } code) data rest).resume
        deliveryCallbacks := by
  have passes : ¬ (parser.control = true ∧ code > 125) := by
    intro ⟨control, long⟩
    have short := fits control
    omega
  rw [execute_cons]
  simp only [wsTurn, state, lengthTurn, length_byte_low masked code small, length_byte_high masked code small, if_neg passes]

-- The length read from big-endian bytes on top of the bits already known.
def assemble : Nat → Bytes → Nat
  | known, [] => known
  | known, byte :: bytes => assemble (known ||| byte.toNat <<< (8 * bytes.length)) bytes

theorem big_endian_length (count value : Nat) : (bigEndian count value).length = count := by
  induction count with
  | zero => rfl
  | succ count ih => rw [bigEndian, List.length_cons, ih]

theorem assemble_suffix (count value : Nat) :
    assemble ((value / 256 ^ count) <<< (8 * count)) (bigEndian count value) = value := by
  induction count with
  | zero => simp [assemble, bigEndian]
  | succ count ih =>
      have joined := byte_shift_or (value / 256 ^ count) (8 * count)
      rw [Nat.div_div_eq_div_mul, ← Nat.pow_succ] at joined
      rw [bigEndian, assemble, big_endian_length, UInt8.toNat_ofNat', Nat.mul_succ, Nat.add_comm (8 * count) 8, joined]
      exact ih

theorem assemble_big_endian (count value : Nat) (fits : value < 256 ^ count) : assemble 0 (bigEndian count value) = value := by
  have suffix := assemble_suffix count value
  rwa [Nat.div_eq_of_lt fits, Nat.zero_shiftLeft] at suffix

theorem length16_steps (parser : WsParser) (data : Delivery) (length : Nat) (rest : Bytes) (state : parser.state = .length16 0)
    (long : 126 ≤ length) (short : length < 65536) :
    wsParserExecute deliveryCallbacks parser data (bigEndian 2 length ++ rest) =
      wsParserExecute deliveryCallbacks { parser with bytesRemaining := length, state := bodyState parser } data rest := by
  have read := assemble_big_endian 2 length short
  have canonical : ¬ length < 126 := by omega
  simp only [bigEndian, assemble, Nat.zero_or, List.length_cons, List.length_nil, Nat.zero_add, Nat.mul_one, Nat.mul_zero,
    Nat.shiftLeft_zero] at read
  simp only [bigEndian, List.cons_append, List.nil_append]
  rw [execute_cons]
  simp only [wsTurn, state, length16Turn, if_true, WsTurn.resume, execute_cons, show (1 : Fin 2) ≠ 0 by decide, if_false, read,
    canonical, bodyState]

theorem length64_step (parser : WsParser) (data : Delivery) (index : Fin 8) (byte : UInt8) (rest : Bytes)
    (state : parser.state = .length64 index) (first : index ≠ 0) (last : index ≠ 7) :
    wsParserExecute deliveryCallbacks parser data (byte :: rest) =
      wsParserExecute deliveryCallbacks { parser with
        bytesRemaining := parser.bytesRemaining ||| byte.toNat <<< (56 - 8 * index.val), state := .length64 (index + 1) } data rest := by
  simp only [execute_cons, wsTurn, state, length64Turn, if_neg first, if_pos last, WsTurn.resume]

-- Eight length bytes of any origin: refused below 65536, else taken as they are.
def ReadLength64 (parser : WsParser) (data : Delivery) (length : Nat) (rest : Bytes) (result : Int × WsRun Delivery) : Prop :=
  if length < 65536 then result.1 = wsNonCanonicalLength ∧ result.2.data = data
  else result = wsParserExecute deliveryCallbacks { parser with bytesRemaining := length, state := bodyState parser } data rest

theorem read_length64_kept (parser : WsParser) (remaining : Nat) (state : WsState) (data : Delivery) (length : Nat) (rest : Bytes)
    (result : Int × WsRun Delivery) :
    ReadLength64 { parser with bytesRemaining := remaining, state := state } data length rest result =
      ReadLength64 parser data length rest result := rfl

theorem length64_suffix (parser : WsParser) (data : Delivery) (index : Fin 8) (bytes rest : Bytes)
    (state : parser.state = .length64 index) (first : index ≠ 0) (size : index.val + bytes.length = 8) :
    ReadLength64 parser data (assemble parser.bytesRemaining bytes) rest
      (wsParserExecute deliveryCallbacks parser data (bytes ++ rest)) := by
  induction bytes generalizing parser index with
  | nil => exact absurd size (by simp only [List.length_nil]; omega)
  | cons byte bytes ih =>
      rw [List.length_cons] at size
      have place : 56 - 8 * index.val = 8 * bytes.length := by omega
      by_cases last : index = 7
      · have finished : bytes = [] := List.eq_nil_of_length_eq_zero (by simp only [last] at size; omega)
        subst last
        subst finished
        simp only [ReadLength64, assemble, List.cons_append, List.nil_append, execute_cons, wsTurn, state, length64Turn, if_neg first,
          ne_eq, not_true_eq_false, if_false, place, bodyState]
        split
        · exact ⟨rfl, rfl⟩
        · rfl
      · have position : index.val ≠ 7 := fun equal => last (Fin.ext equal)
        have next : (index + 1).val = index.val + 1 := Fin.val_add_one_of_lt' (by omega)
        rw [List.cons_append, length64_step parser data index byte _ state first last, place, assemble]
        exact ih { parser with bytesRemaining := parser.bytesRemaining ||| byte.toNat <<< (8 * bytes.length), state := .length64 (index + 1) }
          (index + 1) rfl (fun zero => by rw [zero] at next; exact absurd next (by simp)) (by rw [next]; omega)

theorem length64_steps (parser : WsParser) (data : Delivery) (bytes rest : Bytes) (state : parser.state = .length64 0)
    (size : bytes.length = 8) :
    ReadLength64 parser data (assemble 0 bytes) rest (wsParserExecute deliveryCallbacks parser data (bytes ++ rest)) := by
  cases bytes with
  | nil => cases size
  | cons byte bytes =>
      have remaining : bytes.length = 7 := by simpa using size
      have suffix := length64_suffix { parser with bytesRemaining := byte.toNat <<< 56, state := .length64 1 } data 1 bytes rest rfl
        (by decide) (by simp [remaining])
      rw [List.cons_append, execute_cons, assemble, Nat.zero_or, remaining]
      rw [read_length64_kept] at suffix
      simpa only [wsTurn, state, length64Turn, if_true, WsTurn.resume, Nat.reduceMul] using suffix

theorem close_if_empty_waits (parser : WsParser) (data : Delivery) (buff : Bytes)
    (waiting : ¬ (parser.state = .payload ∧ parser.bytesRemaining = 0)) :
    (closeIfEmpty deliveryCallbacks parser data buff).resume deliveryCallbacks = wsParserExecute deliveryCallbacks parser data buff := by
  rw [closeIfEmpty, if_neg waiting, WsTurn.resume]

theorem length_closed (frame : Frame) (parser : WsParser) (data : Delivery) (rest : Bytes) (state : parser.state = .length)
    (short : parser.control = true → frame.payload.length ≤ 125) (fits : frame.payload.length < 2 ^ 64) :
    FrameClosed (wsParserExecute deliveryCallbacks parser data (lengthByte frame.key.isSome (lengthCode frame.payload.length) ::
      (extendedLength frame.payload.length ++ frame.body ++ rest))) parser.fragment
      (finishFrame parser.control parser.fin data frame.payload) rest := by
  have body := body_closed frame
    { parser with
      maskFlag := frame.key.isSome, maskPos := 0, bytesRemaining := frame.payload.length
      state := bodyState { parser with maskFlag := frame.key.isSome } }
    data rest rfl rfl rfl rfl
  by_cases tiny : frame.payload.length < 126
  · have step := length_step parser data frame.key.isSome frame.payload.length (frame.body ++ rest) state (by omega) short
    have taken : parser.control = true ∨ frame.payload.length < 126 := .inr tiny
    simp only [lengthCode, extendedLength, if_pos tiny, List.nil_append]
    simp only [step, takeLength, if_pos taken]
    exact body
  · have nonempty : frame.payload.length ≠ 0 := by omega
    have data' : parser.control = false := by
      cases control : parser.control with
      | false => rfl
      | true => exact absurd (short control) (by omega)
    have step := fun code small rest => length_step parser data frame.key.isSome code rest state small (by simp [data'])
    rw [close_if_empty_waits _ _ _ (by simp [nonempty])] at body
    by_cases medium : frame.payload.length < 65536
    · simp only [lengthCode, extendedLength, if_neg tiny, if_pos medium, List.append_assoc]
      rw [step 126 (by decide), close_if_empty_waits _ _ _ (by simp [takeLength, data']),
        length16_steps _ _ _ _ (by simp [takeLength, data']) (by omega) medium]
      simpa [takeLength, data', bodyState] using body
    · have read := length64_steps (takeLength { parser with maskFlag := frame.key.isSome, maskPos := 0 } 127) data
        (bigEndian 8 frame.payload.length) (frame.body ++ rest) (by simp [takeLength, data']) (big_endian_length 8 _)
      rw [assemble_big_endian 8 _ fits, ReadLength64, if_neg medium] at read
      simp only [lengthCode, extendedLength, if_neg tiny, if_neg medium, List.append_assoc]
      rw [step 127 (by decide), close_if_empty_waits _ _ _ (by simp [takeLength, data']), read]
      simpa [takeLength, data', bodyState] using body

theorem data_header (parser : WsParser) (data : Delivery) (fin : Bool) (frameType : FrameType) (rest : Bytes)
    (state : parser.state = .opcode) (isData : frameType.isData = true) :
    wsParserExecute deliveryCallbacks parser data (opcodeByte fin frameType :: rest) =
      wsParserExecute deliveryCallbacks { parser with fin := fin, control := false, fragment := !fin, state := .length }
        { data with dataPayloadBuf := [], dataFrameType := frameType } rest := by
  rw [execute_cons]
  simp only [wsTurn, state]
  cases frameType with
  | textFrame => cases fin <;> rfl
  | binaryFrame => cases fin <;> rfl
  | _ => cases isData

theorem control_header (parser : WsParser) (data : Delivery) (frameType : FrameType) (rest : Bytes)
    (state : parser.state = .opcode) (isControl : frameType.isControl = true) :
    wsParserExecute deliveryCallbacks parser data (opcodeByte true frameType :: rest) =
      wsParserExecute deliveryCallbacks { parser with fin := true, control := true, state := .length }
        { data with controlPayloadBuf := [], controlFrameType := frameType } rest := by
  rw [execute_cons]
  simp only [wsTurn, state]
  cases frameType with
  | closeFrame => rfl
  | pingFrame => rfl
  | pongFrame => rfl
  | _ => cases isControl

theorem continuation_header (parser : WsParser) (data : Delivery) (fin : Bool) (rest : Bytes)
    (state : parser.state = .opcode) (fragment : parser.fragment = true) :
    wsParserExecute deliveryCallbacks parser data (opcodeByte fin .continuationFrame :: rest) =
      wsParserExecute deliveryCallbacks { parser with fin := fin, control := false, state := .length } data rest := by
  rw [execute_cons]
  simp only [wsTurn, state, opcodeTurn, fragment]
  cases fin <;> rfl

theorem serialize_append (frame : Frame) (rest : Bytes) :
    frame.serialize ++ rest = opcodeByte frame.fin frame.frameType ::
      lengthByte frame.key.isSome (lengthCode frame.payload.length) :: (extendedLength frame.payload.length ++ frame.body ++ rest) := by
  simp [Frame.serialize]

theorem data_frame_closed (frame : Frame) (parser : WsParser) (data : Delivery) (rest : Bytes) (state : parser.state = .opcode)
    (isData : frame.frameType.isData = true) (fits : frame.payload.length < 2 ^ 64) :
    FrameClosed (wsParserExecute deliveryCallbacks parser data (frame.serialize ++ rest)) (!frame.fin)
      (finishFrame false frame.fin { data with dataPayloadBuf := [], dataFrameType := frame.frameType } frame.payload) rest := by
  rw [serialize_append, data_header parser data frame.fin frame.frameType _ state isData]
  exact length_closed frame _ _ rest rfl (by simp) fits

theorem control_frame_closed (frame : Frame) (parser : WsParser) (data : Delivery) (rest : Bytes) (state : parser.state = .opcode)
    (isControl : frame.frameType.isControl = true) (fin : frame.fin = true) (short : frame.payload.length ≤ 125) :
    FrameClosed (wsParserExecute deliveryCallbacks parser data (frame.serialize ++ rest)) parser.fragment
      (finishFrame true true { data with controlPayloadBuf := [], controlFrameType := frame.frameType } frame.payload) rest := by
  rw [serialize_append, fin, control_header parser data frame.frameType _ state isControl]
  exact length_closed frame _ _ rest rfl (fun _ => short) (by omega)

theorem continuation_frame_closed (frame : Frame) (parser : WsParser) (data : Delivery) (rest : Bytes)
    (state : parser.state = .opcode) (isContinuation : frame.frameType = .continuationFrame) (fragment : parser.fragment = true)
    (fits : frame.payload.length < 2 ^ 64) :
    FrameClosed (wsParserExecute deliveryCallbacks parser data (frame.serialize ++ rest)) true
      (finishFrame false frame.fin data frame.payload) rest := by
  rw [serialize_append, isContinuation, continuation_header parser data frame.fin _ state fragment, ← fragment]
  exact length_closed frame _ _ rest rfl (by simp) fits

-- A data message is open exactly as far as pending says.
def Awaiting (pending : Option Message) (fragment : Bool) (data : Delivery) : Prop :=
  ∀ frameType payload, pending = some (frameType, payload) →
    fragment = true ∧ data.dataFrameType = frameType ∧ data.dataPayloadBuf = payload

def Decoded (parser : WsParser) (data : Delivery) (frames : List Frame) (messages : List Message) (last : Option Message)
    (rest : Bytes) : Prop :=
  ∃ closed received, closed.state = .opcode ∧ received.delivered = data.delivered ++ messages ∧
    Awaiting last closed.fragment received ∧ wsParserExecute deliveryCallbacks parser data (frames.flatMap Frame.serialize ++ rest) =
      wsParserExecute deliveryCallbacks closed received rest

theorem decoded_cons (parser : WsParser) (data next : Delivery) (fragment : Bool) (frame : Frame) (frames : List Frame)
    (first tail : List Message) (last : Option Message) (rest : Bytes)
    (closed : FrameClosed (wsParserExecute deliveryCallbacks parser data
      (frame.serialize ++ (frames.flatMap Frame.serialize ++ rest))) fragment next (frames.flatMap Frame.serialize ++ rest))
    (delivered : next.delivered = data.delivered ++ first)
    (continues : ∀ after : WsParser, after.state = .opcode → after.fragment = fragment → Decoded after next frames tail last rest) :
    Decoded parser data (frame :: frames) (first ++ tail) last rest := by
  obtain ⟨after, opcode, kept, executed⟩ := closed
  obtain ⟨final, received, finalState, all, awaiting, result⟩ := continues after opcode kept
  refine ⟨final, received, finalState, ?_, awaiting, ?_⟩
  · rw [all, delivered, List.append_assoc]
  · rw [List.flatMap_cons, List.append_assoc, executed, result]

theorem frames_decoded (pending last : Option Message) (frames : List Frame) (messages : List Message)
    (sequence : FrameSequence pending frames messages last) (fits : ∀ frame ∈ frames, frame.payload.length < 2 ^ 64)
    (parser : WsParser) (data : Delivery) (rest : Bytes) (state : parser.state = .opcode)
    (awaiting : Awaiting pending parser.fragment data) : Decoded parser data frames messages last rest := by
  induction sequence generalizing parser data with
  | done pending => exact ⟨parser, data, state, (List.append_nil _).symm, awaiting, rfl⟩
  | control pending last frame frames messages isControl fin short _ ih =>
      apply decoded_cons parser data _ _ frame frames [(frame.frameType, frame.payload)] messages last rest
        (control_frame_closed frame parser data _ state isControl fin short) rfl
      intro after opcode kept
      apply ih (fun other inside => fits other (.tail _ inside)) after _ opcode
      rw [kept]
      exact awaiting
  | whole last frame frames messages isData fin _ ih =>
      have closed := data_frame_closed frame parser data (frames.flatMap Frame.serialize ++ rest) state isData (fits frame (.head _))
      rw [fin] at closed
      apply decoded_cons parser data _ _ frame frames [(frame.frameType, frame.payload)] messages last rest closed rfl
      intro after opcode _
      exact ih (fun other inside => fits other (.tail _ inside)) after _ opcode (by simp [Awaiting])
  | start last frame frames messages isData fin _ ih =>
      have closed := data_frame_closed frame parser data (frames.flatMap Frame.serialize ++ rest) state isData (fits frame (.head _))
      rw [fin] at closed
      apply decoded_cons parser data _ _ frame frames [] messages last rest closed (List.append_nil _).symm
      intro after opcode kept
      apply ih (fun other inside => fits other (.tail _ inside)) after _ opcode
      rintro frameType payload ⟨⟩
      exact ⟨kept, rfl, rfl⟩
  | more last frameType payload frame frames messages isContinuation fin _ ih =>
      obtain ⟨fragment, sameType, samePayload⟩ := awaiting frameType payload rfl
      have closed := continuation_frame_closed frame parser data (frames.flatMap Frame.serialize ++ rest) state isContinuation
        fragment (fits frame (.head _))
      rw [fin] at closed
      apply decoded_cons parser data _ _ frame frames [] messages last rest closed (List.append_nil _).symm
      intro after opcode kept
      apply ih (fun other inside => fits other (.tail _ inside)) after _ opcode
      rintro _ _ ⟨⟩
      exact ⟨kept, sameType, congrArg (· ++ frame.payload) samePayload⟩
  | finish last frameType payload frame frames messages isContinuation fin _ ih =>
      obtain ⟨fragment, sameType, samePayload⟩ := awaiting frameType payload rfl
      have closed := continuation_frame_closed frame parser data (frames.flatMap Frame.serialize ++ rest) state isContinuation
        fragment (fits frame (.head _))
      rw [fin] at closed
      apply decoded_cons parser data _ _ frame frames [(frameType, payload ++ frame.payload)] messages last rest closed
      · rw [← sameType, ← samePayload]
        rfl
      · intro after opcode _
        exact ih (fun other inside => fits other (.tail _ inside)) after _ opcode (by simp [Awaiting])

theorem frame_within_message (limit : Nat) (pending last : Option Message) (frames : List Frame) (messages : List Message)
    (sequence : FrameSequence pending frames messages last) (complete : last = none)
    (within : ∀ message ∈ messages, message.2.length ≤ limit) :
    (∀ frame ∈ frames, frame.payload.length ≤ limit) ∧ ∀ message, pending = some message → message.2.length ≤ limit := by
  induction sequence with
  | done => simp [complete]
  | control pending last frame frames messages _ _ _ _ ih =>
      rw [List.forall_mem_cons] at within ⊢
      exact ⟨⟨within.1, (ih complete within.2).1⟩, (ih complete within.2).2⟩
  | whole last frame frames messages _ _ _ ih =>
      rw [List.forall_mem_cons] at within ⊢
      exact ⟨⟨within.1, (ih complete within.2).1⟩, by simp⟩
  | start last frame frames messages _ _ _ ih =>
      rw [List.forall_mem_cons]
      exact ⟨⟨(ih complete within).2 _ rfl, (ih complete within).1⟩, by simp⟩
  | more last frameType payload frame frames messages _ _ _ ih =>
      have whole := (ih complete within).2 _ rfl
      rw [List.length_append] at whole
      rw [List.forall_mem_cons]
      refine ⟨⟨by omega, (ih complete within).1⟩, ?_⟩
      rintro _ ⟨⟩
      exact Nat.le_trans (Nat.le_add_right _ _) whole
  | finish last frameType payload frame frames messages _ _ _ ih =>
      rw [List.forall_mem_cons] at within ⊢
      have whole := within.1
      rw [List.length_append] at whole
      refine ⟨⟨by omega, (ih complete within.2).1⟩, ?_⟩
      rintro _ ⟨⟩
      exact Nat.le_trans (Nat.le_add_right _ _) whole

def StreamEnd.Delivers (messages : List Message) : StreamEnd ParserData → Prop
  | .live parser data => parser.state = .opcode ∧ okCalls data.calls = messages
  | .failed _ _ _ => False

theorem parse_delivers_messages (allocated : WsParser) (dataType controlType : FrameType) (frames : List Frame)
    (messages : List Message) (sequence : FrameSequence none frames messages none)
    (within : ∀ message ∈ messages, message.2.length ≤ maxDataFrameSize) (chunks : List Bytes)
    (serialized : chunks.flatten = frames.flatMap Frame.serialize) :
    (parseStream (Parser.construct allocated dataType controlType) 0 chunks).Delivers messages := by
  have fits : ∀ frame ∈ frames, frame.payload.length < 2 ^ 64 := by
    intro frame inside
    have small := (frame_within_message maxDataFrameSize none none frames messages sequence rfl within).1 frame inside
    unfold maxDataFrameSize at small
    omega
  obtain ⟨closed, received, opcode, delivered, _, executed⟩ := frames_decoded none none frames messages sequence fits
    (Parser.construct allocated dataType controlType).wsParser (deliver (Parser.construct allocated dataType controlType).data) []
    rfl (by simp [Awaiting])
  have stream := parse_stream_deliver (Parser.construct allocated dataType controlType) 0 chunks (construct_ready _ _ _)
  rw [List.append_nil, execute_nil] at executed
  rw [serialized, runStream, executed] at stream
  cases parsed : parseStream (Parser.construct allocated dataType controlType) 0 chunks with
  | live parser data =>
      simp only [parsed, StreamEnd.map, runStream, if_true, StreamEnd.live.injEq] at stream
      refine ⟨stream.1 ▸ opcode, ?_⟩
      rw [← stream.2] at delivered
      exact delivered
  | failed rc offset data => simp [parsed, StreamEnd.map, runStream] at stream

def pingInsideText : List Frame :=
  [⟨false, .textFrame, some (fun _ => 0x20), [0x68]⟩, ⟨true, .pingFrame, none, []⟩, ⟨true, .continuationFrame, none, [0x69]⟩]

theorem ping_inside_text_delivered :
    (parseStream (Parser.construct zeroedParser .binaryFrame .closeFrame) 0
      [[0x01, 0x81, 0x20, 0x20], [0x20, 0x20, 0x48, 0x89, 0x00, 0x80], [0x01, 0x69]]).Delivers
      [(.pingFrame, []), (.textFrame, [0x68, 0x69])] :=
  parse_delivers_messages zeroedParser .binaryFrame .closeFrame pingInsideText [(.pingFrame, []), (.textFrame, [0x68, 0x69])]
    (.start _ _ _ _ rfl rfl (.control _ _ _ _ _ rfl rfl (by decide) (.finish _ _ _ _ _ _ rfl rfl (.done _)))) (by decide)
    [[0x01, 0x81, 0x20, 0x20], [0x20, 0x20, 0x48, 0x89, 0x00, 0x80], [0x01, 0x69]] (by decide)

end Eventhub.Websocket
