import Eventhub.Lib.Transition
import Eventhub.Websocket.Chunking

set_option autoImplicit false

namespace Eventhub.Websocket

def finBit (cur : UInt8) : Bool := cur &&& 0x80 ≠ 0

def WsState.isExtended : WsState → Bool
  | .length16 _ => true
  | .length64 _ => true
  | _ => false

-- The length of the frame, on the byte that completes it.
def declaredLength (parser : WsParser) (cur : UInt8) : Option Nat :=
  match parser.state with
  | .length =>
      let length := (cur &&& 0x7f).toNat
      if parser.control ∨ length < 126 then some length else none
  | .length16 index => if index = 0 then none else some (parser.bytesRemaining ||| cur.toNat)
  | .length64 index => if index = 7 then some (parser.bytesRemaining ||| cur.toNat) else none
  | _ => none

theorem unmask_chunk_length (parser : WsParser) (chunk : Bytes) : (unmaskChunk parser chunk).length = chunk.length := by
  unfold unmaskChunk
  split
  · exact unmask_length _ _ chunk
  · rfl

section

variable {σ : Type} (callbacks : WsCallbacks σ)

structure Accepting : Prop where
  dataBegin : ∀ data opcode, (callbacks.onDataBegin data opcode).2 = 0
  controlBegin : ∀ data opcode, (callbacks.onControlBegin data opcode).2 = 0
  payload : ∀ control data bytes, (callbacks.onPayload control data bytes).2 = 0
  ends : ∀ control data, (callbacks.onEnd control data).2 = 0

-- The run behind closeIfEmpty.
def closedRun (parser : WsParser) (data : σ) (buff : Bytes) : WsRun σ :=
  if parser.state = .payload ∧ parser.bytesRemaining = 0 then
    ⟨{ parser with state := .opcode }, if parser.control || parser.fin then (callbacks.onEnd parser.control data).1 else data, buff⟩
  else ⟨parser, data, buff⟩

theorem check_rc_accepted (called : σ × Int) (parser : WsParser) (buff : Bytes) (proceed : σ → WsTurn σ) (accepted : called.2 = 0) :
    checkRc called parser buff proceed = proceed called.1 := if_pos accepted

theorem close_if_empty_accepted (accepting : Accepting callbacks) (parser : WsParser) (data : σ) (buff : Bytes) :
    closeIfEmpty callbacks parser data buff = .next (closedRun callbacks parser data buff) := by
  unfold closeIfEmpty closedRun endOfPayload
  by_cases empty : parser.state = .payload ∧ parser.bytesRemaining = 0
  · rw [if_pos empty, if_pos empty]
    by_cases ends : (parser.control || parser.fin) = true
    · rw [if_pos ends, if_pos ends, check_rc_accepted _ _ _ _ (accepting.ends _ _)]
    · rw [if_neg ends, if_neg ends]
  · rw [if_neg empty, if_neg empty]

-- All that a turn can do at the first byte of a frame.
inductive HeaderTaken (parser : WsParser) (data : σ) (cur : UInt8) (rest : Bytes) : WsTurn σ → Prop where
  | refused (rc : Int) (fin : Bool) :
      HeaderTaken parser data cur rest (.stop rc ⟨{ parser with fin := fin }, data, cur :: rest⟩)
  | continued (reserved : cur &&& 0x70 = 0) (opcode : cur &&& 0x0f = 0)
      (fragment : parser.fragment = true) :
      HeaderTaken parser data cur rest (.next ⟨{ parser with fin := finBit cur, control := false, state := .length }, data, rest⟩)
  | controlBegun
      (opcode : cur &&& 0x0f = wsFramePing ∨ cur &&& 0x0f = wsFramePong ∨ cur &&& 0x0f = wsFrameClose) :
      HeaderTaken parser data cur rest (.next ⟨{ parser with fin := finBit cur, control := true, state := .length },
        (callbacks.onControlBegin data (cur &&& 0x0f)).1, rest⟩)
  | dataBegun (opcode : cur &&& 0x0f = wsFrameText ∨ cur &&& 0x0f = wsFrameBinary) :
      HeaderTaken parser data cur rest (.next ⟨{ parser with fin := finBit cur, control := false, fragment := !finBit cur, state := .length },
        (callbacks.onDataBegin data (cur &&& 0x0f)).1, rest⟩)

inductive FrameTaken (parser : WsParser) (data : σ) (cur : UInt8) (rest : Bytes) : WsTurn σ → Prop where
  | controlTooLong (maskFlag : Bool) (maskPos : Fin 4) (state : parser.state = .length) :
      FrameTaken parser data cur rest (.stop wsControlTooLong ⟨{ parser with maskFlag := maskFlag, maskPos := maskPos }, data, cur :: rest⟩)
  | lengthOpened (remaining : Nat) (maskFlag : Bool) (maskPos : Fin 4) (next : WsState) (extended : next.isExtended = true)
      (state : parser.state = .length ∧ parser.control = false ∨ parser.state.isExtended = true) :
      FrameTaken parser data cur rest
        (.next ⟨{ parser with bytesRemaining := remaining, maskFlag := maskFlag, maskPos := maskPos, state := next }, data, rest⟩)
  | lengthRead (length : Nat) (maskFlag : Bool) (maskPos : Fin 4) (declared : declaredLength parser cur = some length)
      (short : parser.control = true → parser.state = .length → length ≤ 125) :
      FrameTaken parser data cur rest (.next (closedRun callbacks
        { parser with
          bytesRemaining := length
          maskFlag := maskFlag
          maskPos := maskPos
          state := if maskFlag then .mask 0 else .payload } data rest))
  | lengthRefused (length : Nat) (declared : declaredLength parser cur = some length) (state : parser.state.isExtended = true) :
      FrameTaken parser data cur rest
        (.stop wsNonCanonicalLength ⟨{ parser with bytesRemaining := length, state := bodyState parser }, data, cur :: rest⟩)
  | maskOpened (mask : Fin 4 → UInt8) (index next : Fin 4) (state : parser.state = .mask index) :
      FrameTaken parser data cur rest (.next ⟨{ parser with mask := mask, state := .mask next }, data, rest⟩)
  | maskRead (mask : Fin 4 → UInt8) (index : Fin 4) (state : parser.state = .mask index) :
      FrameTaken parser data cur rest (.next (closedRun callbacks { parser with mask := mask, state := .payload } data rest))
  | payloadRead (chunk left : Bytes) (maskPos : Fin 4) (inside : chunk.length ≤ parser.bytesRemaining) (state : parser.state = .payload) :
      FrameTaken parser data cur rest (.next (closedRun callbacks
        { parser with bytesRemaining := parser.bytesRemaining - chunk.length, maskPos := maskPos }
        (callbacks.onPayload parser.control data chunk).1 left))

-- A turn inside a frame leaves its flags alone and at most hands on a chunk.
structure FrameMoved (parser next : WsParser) (data handed : σ) : Prop where
  begun : next.state ≠ .opcode
  fin : next.fin = parser.fin
  control : next.control = parser.control
  fragment : next.fragment = parser.fragment
  handed : handed = data ∨ ∃ chunk, handed = (callbacks.onPayload parser.control data chunk).1

inductive TurnTaken (parser : WsParser) (data : σ) (cur : UInt8) (rest : Bytes) (turn : WsTurn σ) : Prop where
  | header (state : parser.state = .opcode) (taken : HeaderTaken callbacks parser data cur rest turn)
  | frame (begun : parser.state ≠ .opcode) (taken : FrameTaken callbacks parser data cur rest turn)

section

variable (accepting : Accepting callbacks) (parser : WsParser) (data : σ) (cur : UInt8) (rest : Bytes)

include accepting

theorem opcode_turn_taken :
    HeaderTaken callbacks parser data cur rest (opcodeTurn callbacks parser data cur rest) := by
  simp only [opcodeTurn]
  by_cases reserved : cur &&& 0x70 ≠ 0
  · rw [if_pos reserved]
    exact .refused _ parser.fin
  · rw [if_neg reserved]
    by_cases continuation : cur &&& 0x0f = 0
    · rw [if_pos continuation]
      by_cases fragment : parser.fragment = true
      · rw [if_neg (by simp [fragment])]
        exact .continued (not_not.mp reserved) continuation fragment
      · rw [if_pos (by simpa using fragment)]
        exact .refused _ _
    · rw [if_neg continuation]
      by_cases control : cur &&& 0x0f &&& 0x8 ≠ 0
      · rw [if_pos control]
        by_cases unknown : cur &&& 0x0f ≠ wsFramePing ∧ cur &&& 0x0f ≠ wsFramePong ∧ cur &&& 0x0f ≠ wsFrameClose
        · rw [if_pos unknown]
          exact .refused _ _
        · rw [if_neg unknown]
          split
          · exact .refused _ _
          · rw [check_rc_accepted _ _ _ _ (accepting.controlBegin _ _)]
            exact .controlBegun (by tauto)
      · rw [if_neg control]
        by_cases unknown : cur &&& 0x0f ≠ wsFrameText ∧ cur &&& 0x0f ≠ wsFrameBinary
        · rw [if_pos unknown]
          exact .refused _ _
        · rw [if_neg unknown, check_rc_accepted _ _ _ _ (accepting.dataBegin _ _)]
          exact .dataBegun (by tauto)

theorem length_turn_taken (state : parser.state = .length) :
    FrameTaken callbacks parser data cur rest (lengthTurn callbacks parser data cur rest) := by
  simp only [lengthTurn]
  by_cases long : parser.control = true ∧ (cur &&& 0x7f).toNat > 125
  · rw [if_pos long]
    exact .controlTooLong _ 0 state
  · rw [if_neg long]
    unfold takeLength
    dsimp only
    by_cases short : parser.control = true ∨ (cur &&& 0x7f).toNat < 126
    · rw [if_pos short, close_if_empty_accepted callbacks accepting]
      refine .lengthRead _ _ _ ?_ (fun control _ => Nat.le_of_not_lt fun large => long ⟨control, large⟩)
      rw [declaredLength, state]
      exact if_pos short
    · have waits : ∀ next : WsState, next.isExtended = true → ¬ (next = .payload ∧ parser.bytesRemaining = 0) := by
        rintro next extended ⟨rfl, _⟩
        cases extended
      have plain : parser.control = false := by simpa using (not_or.mp short).1
      rw [if_neg short]
      split
      · rw [closeIfEmpty, if_neg (waits (.length16 0) rfl)]
        exact .lengthOpened parser.bytesRemaining _ _ (.length16 0) rfl (.inl ⟨state, plain⟩)
      · rw [closeIfEmpty, if_neg (waits (.length64 0) rfl)]
        exact .lengthOpened parser.bytesRemaining _ _ (.length64 0) rfl (.inl ⟨state, plain⟩)

theorem payload_turn_taken (state : parser.state = .payload) :
    FrameTaken callbacks parser data cur rest (payloadTurn callbacks parser data (cur :: rest)) := by
  have count : (unmaskChunk parser ((cur :: rest).take (min (cur :: rest).length parser.bytesRemaining))).length =
      min (cur :: rest).length parser.bytesRemaining := by
    rw [unmask_chunk_length, List.length_take, Nat.min_eq_left (Nat.min_le_left _ _)]
  have taken := fun maskPos : Fin 4 => @FrameTaken.payloadRead _ callbacks parser data cur rest
    _ ((cur :: rest).drop (min (cur :: rest).length parser.bytesRemaining)) maskPos (count.trans_le (Nat.min_le_right _ _)) state
  rw [count] at taken
  unfold payloadTurn
  rw [check_rc_accepted _ _ _ _ (accepting.payload _ _ _), close_if_empty_accepted callbacks accepting]
  unfold advanceMask
  cases masked : parser.maskFlag with
  | true => simpa only [if_true, masked] using taken (parser.maskPos + Fin.ofNat 4 (min (cur :: rest).length parser.bytesRemaining))
  | false => simpa only [Bool.false_eq_true, if_false, masked] using taken parser.maskPos

omit accepting in
theorem extended_length_read (length : Nat) (large : length ≠ 0) (declared : declaredLength parser cur = some length)
    (state : parser.state ≠ .length) :
    FrameTaken callbacks parser data cur rest
      (.next ⟨{ parser with bytesRemaining := length, state := bodyState parser }, data, rest⟩) := by
  have taken := @FrameTaken.lengthRead _ callbacks parser data cur rest length parser.maskFlag parser.maskPos declared
    (fun _ same => absurd same state)
  rwa [closedRun, if_neg (fun empty => large empty.2)] at taken

omit accepting in
theorem length16_turn_taken (index : Fin 2) (state : parser.state = .length16 index) :
    FrameTaken callbacks parser data cur rest (length16Turn parser data index cur rest) := by
  unfold length16Turn
  by_cases first : index = 0
  · rw [if_pos first]
    exact .lengthOpened _ parser.maskFlag parser.maskPos (.length16 1) rfl (.inr (by rw [state]; rfl))
  · have declared : declaredLength parser cur = some (parser.bytesRemaining ||| cur.toNat) := by
      simp only [declaredLength, state, if_neg first]
    rw [if_neg first]
    dsimp only
    by_cases short : parser.bytesRemaining ||| cur.toNat < 126
    · rw [if_pos short]
      exact .lengthRefused _ declared (by rw [state]; rfl)
    · rw [if_neg short]
      exact extended_length_read callbacks parser data cur rest _ (by omega) declared (by simp [state])

omit accepting in
theorem length64_turn_taken (index : Fin 8) (state : parser.state = .length64 index) :
    FrameTaken callbacks parser data cur rest (length64Turn parser data index cur rest) := by
  have extended : parser.state.isExtended = true := by rw [state]; rfl
  unfold length64Turn
  by_cases first : index = 0
  · rw [if_pos first]
    exact .lengthOpened _ parser.maskFlag parser.maskPos (.length64 1) rfl (.inr extended)
  · rw [if_neg first]
    by_cases last : index = 7
    · subst last
      have declared : declaredLength parser cur = some (parser.bytesRemaining ||| cur.toNat) := by simp only [declaredLength, state, if_true]
      have unshifted : cur.toNat <<< (56 - 8 * (7 : Fin 8).val) = cur.toNat := rfl
      rw [if_neg (not_not.mpr rfl), unshifted]
      dsimp only
      by_cases short : parser.bytesRemaining ||| cur.toNat < 65536
      · rw [if_pos short]
        exact .lengthRefused _ declared extended
      · rw [if_neg short]
        exact extended_length_read callbacks parser data cur rest _ (by omega) declared (by simp [state])
    · rw [if_pos last]
      exact .lengthOpened _ parser.maskFlag parser.maskPos (.length64 (index + 1)) rfl (.inr extended)

theorem mask_turn_taken (index : Fin 4) (state : parser.state = .mask index) :
    FrameTaken callbacks parser data cur rest (maskTurn callbacks parser data index cur rest) := by
  unfold maskTurn
  by_cases last : index = 3
  · rw [if_neg (not_not.mpr last), close_if_empty_accepted callbacks accepting]
    exact .maskRead _ index state
  · rw [if_pos last]
    exact .maskOpened _ index (index + 1) state

theorem turn_taken : TurnTaken callbacks parser data cur rest (wsTurn callbacks parser data cur rest) := by
  unfold wsTurn
  cases state : parser.state with
  | opcode => exact .header state (opcode_turn_taken callbacks accepting parser data cur rest)
  | length => exact .frame (by simp [state]) (length_turn_taken callbacks accepting parser data cur rest state)
  | length16 index => exact .frame (by simp [state]) (length16_turn_taken callbacks parser data cur rest index state)
  | length64 index => exact .frame (by simp [state]) (length64_turn_taken callbacks parser data cur rest index state)
  | mask index => exact .frame (by simp [state]) (mask_turn_taken callbacks accepting parser data cur rest index state)
  | payload => exact .frame (by simp [state]) (payload_turn_taken callbacks accepting parser data cur rest state)

end

end

theorem closed_run_waits {σ : Type} (callbacks : WsCallbacks σ) (parser : WsParser) (data : σ) (buff : Bytes)
    (waits : parser.state ≠ .payload) : closedRun callbacks parser data buff = ⟨parser, data, buff⟩ := if_neg fun closes => waits closes.1

theorem frame_moved {σ : Type} (callbacks : WsCallbacks σ) (parser : WsParser) (data : σ) (cur : UInt8) (rest : Bytes) (run : WsRun σ)
    (begun : parser.state ≠ .opcode) (taken : FrameTaken callbacks parser data cur rest (.next run)) :
    ∃ next handed buff, run = closedRun callbacks next handed buff ∧ FrameMoved callbacks parser next data handed := by
  cases taken with
  | lengthOpened remaining maskFlag maskPos next extended =>
      have waits : next ≠ .payload := by
        rintro rfl
        cases extended
      have inside : next ≠ .opcode := by
        rintro rfl
        cases extended
      exact ⟨_, data, rest, (closed_run_waits callbacks _ _ _ waits).symm, ⟨inside, rfl, rfl, rfl, .inl rfl⟩⟩
  | lengthRead length maskFlag maskPos declared short =>
      refine ⟨_, data, rest, rfl, ⟨?_, rfl, rfl, rfl, .inl rfl⟩⟩
      cases maskFlag <;> simp
  | maskOpened mask index next state =>
      exact ⟨_, data, rest, (closed_run_waits callbacks _ _ _ (by simp)).symm, ⟨by simp, rfl, rfl, rfl, .inl rfl⟩⟩
  | maskRead mask index state => exact ⟨_, data, rest, rfl, ⟨by simp, rfl, rfl, rfl, .inl rfl⟩⟩
  | payloadRead chunk left maskPos inside state => exact ⟨_, _, left, rfl, ⟨begun, rfl, rfl, rfl, .inr ⟨chunk, rfl⟩⟩⟩

-- The loop by structural recursion on its turns, so that it evaluates.
def executeWithin {σ : Type} (callbacks : WsCallbacks σ) : Nat → WsRun σ → Option (Int × WsRun σ)
  | 0, run => if run.buff = [] then some (wsOk, run) else none
  | turns + 1, run =>
      match run.buff with
      | [] => some (wsOk, run)
      | cur :: rest =>
          match wsTurn callbacks run.parser run.data cur rest with
          | .next run => executeWithin callbacks turns run
          | .stop rc run => some (rc, run)

theorem execute_within {σ : Type} (callbacks : WsCallbacks σ) (turns : Nat) (run : WsRun σ) (done : Int × WsRun σ)
    (within : executeWithin callbacks turns run = some done) : wsParserExecute callbacks run.parser run.data run.buff = done := by
  obtain ⟨parser, data, buff⟩ := run
  induction turns generalizing parser data buff with
  | zero =>
      obtain ⟨empty, same⟩ := Option.ite_none_right_eq_some.mp within
      cases same
      rw [show buff = [] from empty, execute_nil]
  | succ turns ih =>
      unfold executeWithin at within
      cases buff with
      | nil =>
          cases within
          exact execute_nil callbacks parser data
      | cons cur rest =>
          dsimp only at within
          cases turned : wsTurn callbacks parser data cur rest with
          | next run =>
              rw [turned] at within
              rw [execute_next callbacks parser data cur rest run turned]
              exact ih run.parser run.data run.buff within
          | stop rc run =>
              rw [turned] at within
              cases within
              exact execute_stop callbacks parser data cur rest rc run turned

inductive DataCall where
  | begun
  | ended
deriving DecidableEq, Repr

-- The callbacks of Parser, with a record of the data messages they open and
-- deliver.
def recordedCallbacks : WsCallbacks (ParserData × List DataCall) where
  onDataBegin data opcode := (((parserOnDataBegin data.1 opcode).1, data.2 ++ [.begun]), (parserOnDataBegin data.1 opcode).2)
  onDataPayload data buff := (((parserOnDataPayload data.1 buff).1, data.2), (parserOnDataPayload data.1 buff).2)
  onDataEnd data := (((parserOnDataEnd data.1).1, data.2 ++ [.ended]), (parserOnDataEnd data.1).2)
  onControlBegin data opcode := (((parserOnControlBegin data.1 opcode).1, data.2), (parserOnControlBegin data.1 opcode).2)
  onControlPayload data buff := (((parserOnControlPayload data.1 buff).1, data.2), (parserOnControlPayload data.1 buff).2)
  onControlEnd data := (((parserOnControlEnd data.1).1, data.2), (parserOnControlEnd data.1).2)

theorem recorded_maps : CallbackMap recordedCallbacks parserCallbacks Prod.fst where
  dataBegin _ _ := rfl
  dataPayload _ _ := rfl
  dataEnd _ := rfl
  controlBegin _ _ := rfl
  controlPayload _ _ := rfl
  controlEnd _ := rfl

theorem recorded_accepting : Accepting recordedCallbacks where
  dataBegin _ _ := rfl
  controlBegin _ _ := rfl
  payload control _ _ := by cases control <;> rfl
  ends control _ := by cases control <;> rfl

-- The parser between two turns of its loop. headers holds the first bytes of
-- the frames it has accepted, oldest first.
structure Reading where
  run : WsRun (ParserData × List DataCall)
  headers : List UInt8

inductive Reads where
  | call (buff : Bytes)
  | turn
deriving DecidableEq, Repr

def Reading.start (parser : Parser) : Reading := ⟨⟨parser.wsParser, (parser.data, []), []⟩, []⟩

-- Parser::parse ignores what ws_parser_execute returns, so a call that fails
-- loses the rest of its buffer and the next call goes on from there.
def Reading.step (reading : Reading) : Reads → Option Reading
  | .call buff => if reading.run.buff = [] then some { reading with run := { reading.run with buff := buff } } else none
  | .turn =>
      match reading.run.buff with
      | [] => none
      | cur :: rest =>
          match wsTurn recordedCallbacks reading.run.parser reading.run.data cur rest with
          | .next run => some ⟨run, if reading.run.parser.state = .opcode then reading.headers ++ [cur] else reading.headers⟩
          | .stop _ run => some ⟨{ run with buff := [] }, reading.headers⟩

inductive ReadTaken (reading : Reading) : Reads → Reading → Prop where
  | called (buff : Bytes) : ReadTaken reading (.call buff) { reading with run := { reading.run with buff := buff } }
  | next (cur : UInt8) (rest : Bytes) (run : WsRun (ParserData × List DataCall)) (buff : reading.run.buff = cur :: rest)
      (taken : TurnTaken recordedCallbacks reading.run.parser reading.run.data cur rest (.next run)) :
      ReadTaken reading .turn ⟨run, if reading.run.parser.state = .opcode then reading.headers ++ [cur] else reading.headers⟩
  | stopped (cur : UInt8) (rest : Bytes) (rc : Int) (run : WsRun (ParserData × List DataCall)) (buff : reading.run.buff = cur :: rest)
      (taken : TurnTaken recordedCallbacks reading.run.parser reading.run.data cur rest (.stop rc run)) :
      ReadTaken reading .turn ⟨{ run with buff := [] }, reading.headers⟩

theorem read_taken (reading after : Reading) (read : Reads) (stepped : reading.step read = some after) : ReadTaken reading read after := by
  cases read with
  | call buff =>
      obtain ⟨_, same⟩ := Option.ite_none_right_eq_some.mp stepped
      cases same
      exact .called buff
  | turn =>
      unfold Reading.step at stepped
      cases buff : reading.run.buff with
      | nil =>
          rw [buff] at stepped
          cases stepped
      | cons cur rest =>
          have taken := turn_taken recordedCallbacks recorded_accepting reading.run.parser reading.run.data cur rest
          rw [buff] at stepped
          dsimp only at stepped
          cases turned : wsTurn recordedCallbacks reading.run.parser reading.run.data cur rest with
          | next run =>
              rw [turned] at stepped taken
              cases stepped
              exact .next cur rest run buff taken
          | stop rc run =>
              rw [turned] at stepped taken
              cases stepped
              exact .stopped cur rest rc run buff taken

def Reading.parser (reading : Reading) : Parser := ⟨reading.run.parser, reading.run.data.1⟩

theorem turns_execute (parser : WsParser) (data : ParserData × List DataCall) (buff : Bytes) (headers : List UInt8) :
    ∃ reads last, Transition.perform Reading.step ⟨⟨parser, data, buff⟩, headers⟩ reads = some last ∧ last.run.buff = [] ∧
      last.run.parser = (wsParserExecute recordedCallbacks parser data buff).2.parser ∧
      last.run.data = (wsParserExecute recordedCallbacks parser data buff).2.data := by
  fun_induction wsParserExecute recordedCallbacks parser data buff generalizing headers with
  | case1 parser data => exact ⟨[], _, rfl, rfl, rfl, rfl⟩
  | case2 parser data cur rest run turned ih =>
      obtain ⟨reads, last, performed, same⟩ := ih (if parser.state = .opcode then headers ++ [cur] else headers)
      refine ⟨.turn :: reads, last, ?_, same⟩
      refine Option.bind_eq_some_iff.mpr ⟨_, ?_, performed⟩
      simp only [Reading.step, turned]
  | case3 parser data cur rest rc run turned =>
      refine ⟨[.turn], ⟨{ run with buff := [] }, headers⟩, ?_, rfl, rfl, rfl⟩
      refine Option.bind_eq_some_iff.mpr ⟨_, ?_, rfl⟩
      simp only [Reading.step, turned]

theorem parse_reads (reading : Reading) (chunk : Bytes) (idle : reading.run.buff = []) :
    ∃ reads last, Transition.perform Reading.step reading reads = some last ∧ last.run.buff = [] ∧
      last.parser = reading.parser.parse chunk := by
  obtain ⟨reads, last, performed, done, parser, data⟩ := turns_execute reading.run.parser reading.run.data chunk reading.headers
  have executed := execute_map recordedCallbacks parserCallbacks Prod.fst recorded_maps reading.run.parser reading.run.data chunk
  refine ⟨.call chunk :: reads, last, Option.bind_eq_some_iff.mpr ⟨_, if_pos idle, performed⟩, done, ?_⟩
  rw [Reading.parser, parser, data, Parser.parse, Parser.execute, Reading.parser, executed]
  rfl

theorem parse_calls_read (reading : Reading) (chunks : List Bytes) (idle : reading.run.buff = []) :
    ∃ reads last, Transition.perform Reading.step reading reads = some last ∧ last.run.buff = [] ∧
      last.parser = chunks.foldl Parser.parse reading.parser := by
  induction chunks generalizing reading with
  | nil => exact ⟨[], reading, rfl, idle, rfl⟩
  | cons chunk chunks ih =>
      obtain ⟨first, middle, read, ready, parsed⟩ := parse_reads reading chunk idle
      obtain ⟨second, last, later, done, whole⟩ := ih middle ready
      refine ⟨first ++ second, last, ?_, done, ?_⟩
      · rw [Transition.perform, List.foldlM_append]
        exact Option.bind_eq_some_iff.mpr ⟨middle, read, later⟩
      · rw [whole, parsed, List.foldl_cons]

end Eventhub.Websocket
