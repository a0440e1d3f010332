import Eventhub.Bytes

set_option autoImplicit false

namespace Eventhub.Websocket

-- By name, so that an index literal carries no proof of its own.
instance twoIndices : NeZero 2 := ⟨by decide⟩
instance fourIndices : NeZero 4 := ⟨by decide⟩
instance eightIndices : NeZero 8 := ⟨by decide⟩

-- S_LENGTH_16_i, S_LENGTH_64_i and S_MASK_i carry their index.
inductive WsState where
  | opcode
  | length
  | length16 (index : Fin 2)
  | length64 (index : Fin 8)
  | mask (index : Fin 4)
  | payload
deriving DecidableEq, Repr

-- A byte shifted left by at most 56 fits 64 bits, so the counter never wraps
-- while it is assembled.
structure WsParser where
  bytesRemaining : Nat
  mask : Fin 4 → UInt8
  fragment : Bool
  fin : Bool
  control : Bool
  maskFlag : Bool
  maskPos : Fin 4
  state : WsState

def wsFrameText : UInt8 := 0x1
def wsFrameBinary : UInt8 := 0x2
def wsFrameClose : UInt8 := 0x8
def wsFramePing : UInt8 := 0x9
def wsFramePong : UInt8 := 0xA

def wsOk : Int := 0
def wsReservedBitsSet : Int := -1
def wsInvalidOpcode : Int := -2
def wsInvalidContinuation : Int := -3
def wsControlTooLong : Int := -4
def wsNonCanonicalLength : Int := -5
def wsFragmentedControl : Int := -6

structure WsCallbacks (σ : Type) where
  onDataBegin : σ → UInt8 → σ × Int
  onDataPayload : σ → Bytes → σ × Int
  onDataEnd : σ → σ × Int
  onControlBegin : σ → UInt8 → σ × Int
  onControlPayload : σ → Bytes → σ × Int
  onControlEnd : σ → σ × Int

-- ws_parser_init leaves every field but these two as the allocation found it.
def wsParserInit (allocated : WsParser) : WsParser := { allocated with state := .opcode, fragment := false }

structure WsRun (σ : Type) where
  parser : WsParser
  data : σ
  buff : Bytes

inductive WsTurn (σ : Type) where
  | next (run : WsRun σ)
  | stop (rc : Int) (run : WsRun σ)

section

variable {σ : Type}

def WsCallbacks.onPayload (callbacks : WsCallbacks σ) (control : Bool) (data : σ) (payload : Bytes) : σ × Int :=
  if control then callbacks.onControlPayload data payload else callbacks.onDataPayload data payload

def WsCallbacks.onEnd (callbacks : WsCallbacks σ) (control : Bool) (data : σ) : σ × Int :=
  if control then callbacks.onControlEnd data else callbacks.onDataEnd data

-- int rc = callback(...); if (rc) return rc;
def checkRc (called : σ × Int) (parser : WsParser) (buff : Bytes) (proceed : σ → WsTurn σ) : WsTurn σ :=
  if called.2 = 0 then proceed called.1 else .stop called.2 ⟨parser, called.1, buff⟩

def endOfPayload (callbacks : WsCallbacks σ) (parser : WsParser) (data : σ) (buff : Bytes) : WsTurn σ :=
  if parser.control || parser.fin then
    checkRc (callbacks.onEnd parser.control data) parser buff
      (fun data => .next ⟨{ parser with state := .opcode }, data, buff⟩)
  else .next ⟨{ parser with state := .opcode }, data, buff⟩

def closeIfEmpty (callbacks : WsCallbacks σ) (parser : WsParser) (data : σ) (buff : Bytes) : WsTurn σ :=
  if parser.state = .payload ∧ parser.bytesRemaining = 0 then endOfPayload callbacks parser data buff
  else .next ⟨parser, data, buff⟩

def opcodeTurn (callbacks : WsCallbacks σ) (parser : WsParser) (data : σ) (cur : UInt8) (rest : Bytes) : WsTurn σ :=
  let opcode := cur &&& 0x0f
  let finished := { parser with fin := cur &&& 0x80 ≠ 0 }
  if cur &&& 0x70 ≠ 0 then .stop wsReservedBitsSet ⟨parser, data, cur :: rest⟩
  else if opcode = 0 then
    if !parser.fragment then .stop wsInvalidContinuation ⟨finished, data, cur :: rest⟩
    else .next ⟨{ finished with control := false, state := .length }, data, rest⟩
  else if opcode &&& 0x8 ≠ 0 then
    if opcode ≠ wsFramePing ∧ opcode ≠ wsFramePong ∧ opcode ≠ wsFrameClose then
      .stop wsInvalidOpcode ⟨finished, data, cur :: rest⟩
    else if !finished.fin then .stop wsFragmentedControl ⟨finished, data, cur :: rest⟩
    else
      checkRc (callbacks.onControlBegin data opcode) { finished with control := true } (cur :: rest)
        (fun data => .next ⟨{ finished with control := true, state := .length }, data, rest⟩)
  else
    if opcode ≠ wsFrameText ∧ opcode ≠ wsFrameBinary then .stop wsInvalidOpcode ⟨finished, data, cur :: rest⟩
    else
      checkRc (callbacks.onDataBegin data opcode) { finished with control := false, fragment := !finished.fin } (cur :: rest)
        (fun data => .next ⟨{ finished with control := false, fragment := !finished.fin, state := .length }, data, rest⟩)

def bodyState (parser : WsParser) : WsState := if parser.maskFlag then .mask 0 else .payload

def takeLength (parser : WsParser) (length : Nat) : WsParser :=
  if parser.control ∨ length < 126 then { parser with bytesRemaining := length, state := bodyState parser }
  else if length = 126 then { parser with state := .length16 0 }
  else { parser with state := .length64 0 }

def lengthTurn (callbacks : WsCallbacks σ) (parser : WsParser) (data : σ) (cur : UInt8) (rest : Bytes) : WsTurn σ :=
  let length := (cur &&& 0x7f).toNat
  let flagged := { parser with maskFlag := cur &&& 0x80 ≠ 0, maskPos := 0 }
  if parser.control ∧ length > 125 then .stop wsControlTooLong ⟨flagged, data, cur :: rest⟩
  else closeIfEmpty callbacks (takeLength flagged length) data rest

def length16Turn (parser : WsParser) (data : σ) (index : Fin 2) (cur : UInt8) (rest : Bytes) : WsTurn σ :=
  if index = 0 then .next ⟨{ parser with bytesRemaining := cur.toNat <<< 8, state := .length16 1 }, data, rest⟩
  else
    let read := { parser with bytesRemaining := parser.bytesRemaining ||| cur.toNat, state := bodyState parser }
    if read.bytesRemaining < 126 then .stop wsNonCanonicalLength ⟨read, data, cur :: rest⟩ else .next ⟨read, data, rest⟩

def length64Turn (parser : WsParser) (data : σ) (index : Fin 8) (cur : UInt8) (rest : Bytes) : WsTurn σ :=
  if index = 0 then .next ⟨{ parser with bytesRemaining := cur.toNat <<< 56, state := .length64 1 }, data, rest⟩
  else
    let read := { parser with bytesRemaining := parser.bytesRemaining ||| cur.toNat <<< (56 - 8 * index.val) }
    if index ≠ 7 then .next ⟨{ read with state := .length64 (index + 1) }, data, rest⟩
    else if read.bytesRemaining < 65536 then
      .stop wsNonCanonicalLength ⟨{ read with state := bodyState parser }, data, cur :: rest⟩
    else .next ⟨{ read with state := bodyState parser }, data, rest⟩

def maskTurn (callbacks : WsCallbacks σ) (parser : WsParser) (data : σ) (index : Fin 4) (cur : UInt8) (rest : Bytes) :
    WsTurn σ :=
  let keyed := { parser with mask := Function.update parser.mask index cur }
  if index ≠ 3 then .next ⟨{ keyed with state := .mask (index + 1) }, data, rest⟩
  else closeIfEmpty callbacks { keyed with state := .payload } data rest

-- mask_pos is a two-bit field: the increment wraps like addition on Fin 4.
def unmask (mask : Fin 4 → UInt8) : Fin 4 → Bytes → Bytes
  | _, [] => []
  | maskPos, byte :: bytes => (byte ^^^ mask maskPos) :: unmask mask (maskPos + 1) bytes

theorem unmask_length (mask : Fin 4 → UInt8) (maskPos : Fin 4) (bytes : Bytes) : (unmask mask maskPos bytes).length = bytes.length := by
  induction bytes generalizing maskPos with
  | nil => rfl
  | cons byte bytes ih => simp only [unmask, List.length_cons, ih]

def unmaskChunk (parser : WsParser) (chunk : Bytes) : Bytes :=
  if parser.maskFlag then unmask parser.mask parser.maskPos chunk else chunk

def advanceMask (parser : WsParser) (count : Nat) : WsParser :=
  if parser.maskFlag then { parser with maskPos := parser.maskPos + Fin.ofNat 4 count } else parser

def payloadTurn (callbacks : WsCallbacks σ) (parser : WsParser) (data : σ) (buff : Bytes) : WsTurn σ :=
  let chunkLength := min buff.length parser.bytesRemaining
  let advanced := advanceMask parser chunkLength
  checkRc (callbacks.onPayload parser.control data (unmaskChunk parser (buff.take chunkLength))) advanced buff
    (fun data => closeIfEmpty callbacks { advanced with bytesRemaining := parser.bytesRemaining - chunkLength } data
      (buff.drop chunkLength))

-- One turn of while (len): cur is *buff.
def wsTurn (callbacks : WsCallbacks σ) (parser : WsParser) (data : σ) (cur : UInt8) (rest : Bytes) : WsTurn σ :=
  match parser.state with
  | .opcode => opcodeTurn callbacks parser data cur rest
  | .length => lengthTurn callbacks parser data cur rest
  | .length16 index => length16Turn parser data index cur rest
  | .length64 index => length64Turn parser data index cur rest
  | .mask index => maskTurn callbacks parser data index cur rest
  | .payload => payloadTurn callbacks parser data (cur :: rest)

-- A payload turn entered with nothing remaining consumes no byte but leaves
-- the payload state.
def WsRun.work (run : WsRun σ) : Nat := 2 * run.buff.length + if run.parser.state = .payload then 1 else 0

def WsTurn.Holds (onNext : WsRun σ → Prop) (onStop : Int → WsRun σ → Prop) : WsTurn σ → Prop
  | .next run => onNext run
  | .stop rc run => onStop rc run

def WsTurn.Within (bound : Nat) : WsTurn σ → Prop := WsTurn.Holds (fun run => run.work < bound) (fun _ _ => True)

theorem check_rc_holds (onNext : WsRun σ → Prop) (onStop : Int → WsRun σ → Prop) (called : σ × Int) (parser : WsParser)
    (buff : Bytes) (proceed : σ → WsTurn σ) (passed : called.2 = 0 → (proceed called.1).Holds onNext onStop)
    (failed : called.2 ≠ 0 → onStop called.2 ⟨parser, called.1, buff⟩) :
    (checkRc called parser buff proceed).Holds onNext onStop := by
  unfold checkRc
  split
  · rename_i zero
    exact passed zero
  · rename_i nonzero
    exact failed nonzero

theorem end_of_payload_holds (onNext : WsRun σ → Prop) (onStop : Int → WsRun σ → Prop) (callbacks : WsCallbacks σ)
    (parser : WsParser) (data : σ) (buff : Bytes)
    (passed : ∀ data, onNext ⟨{ parser with state := .opcode }, data, buff⟩)
    (failed : ∀ rc data, rc ≠ 0 → onStop rc ⟨parser, data, buff⟩) :
    (endOfPayload callbacks parser data buff).Holds onNext onStop := by
  unfold endOfPayload
  split
  · exact check_rc_holds _ _ _ _ _ _ (fun _ => passed _) (failed _ _)
  · exact passed data

theorem close_if_empty_holds (onNext : WsRun σ → Prop) (onStop : Int → WsRun σ → Prop) (callbacks : WsCallbacks σ)
    (parser : WsParser) (data : σ) (buff : Bytes)
    (closed : ∀ data, onNext ⟨{ parser with state := .opcode }, data, buff⟩)
    (failed : ∀ rc data, rc ≠ 0 → onStop rc ⟨parser, data, buff⟩)
    (waiting : ¬ (parser.state = .payload ∧ parser.bytesRemaining = 0) → onNext ⟨parser, data, buff⟩) :
    (closeIfEmpty callbacks parser data buff).Holds onNext onStop := by
  unfold closeIfEmpty
  split
  · exact end_of_payload_holds _ _ _ _ _ _ closed failed
  · rename_i unfinished
    exact waiting unfinished

theorem run_work_closed (parser : WsParser) (data : σ) (buff : Bytes) :
    WsRun.work ⟨{ parser with state := .opcode }, data, buff⟩ = 2 * buff.length := by
  simp [WsRun.work]

theorem run_work_bound (parser : WsParser) (data : σ) (buff : Bytes) :
    WsRun.work ⟨parser, data, buff⟩ ≤ 2 * buff.length + 1 := by
  simp only [WsRun.work]
  split <;> omega

theorem close_if_empty_within (callbacks : WsCallbacks σ) (parser : WsParser) (data : σ) (buff : Bytes) (bound : Nat)
    (room : 2 * buff.length + 1 < bound) : (closeIfEmpty callbacks parser data buff).Within bound := by
  apply close_if_empty_holds
  · intro data
    rw [run_work_closed]
    omega
  · intros
    trivial
  · intro _
    exact Nat.lt_of_le_of_lt (run_work_bound _ _ _) room

theorem advance_mask_state (parser : WsParser) (count : Nat) : (advanceMask parser count).state = parser.state := by
  unfold advanceMask
  split <;> rfl

theorem payload_turn_within (callbacks : WsCallbacks σ) (parser : WsParser) (data : σ) (cur : UInt8) (rest : Bytes)
    (state : parser.state = .payload) :
    (payloadTurn callbacks parser data (cur :: rest)).Within (2 * rest.length + 3) := by
  unfold payloadTurn
  apply check_rc_holds
  · intro _
    by_cases empty : parser.bytesRemaining = 0
    · apply close_if_empty_holds
      · intro data
        rw [run_work_closed]
        simp only [List.length_drop, List.length_cons]
        omega
      · intros
        trivial
      · intro unfinished
        simp [empty, advance_mask_state, state] at unfinished
    · apply close_if_empty_within
      simp only [List.length_drop, List.length_cons]
      omega
  · intros
    trivial

theorem ws_turn_within (callbacks : WsCallbacks σ) (parser : WsParser) (data : σ) (cur : UInt8) (rest : Bytes) :
    (wsTurn callbacks parser data cur rest).Within (WsRun.work ⟨parser, data, cur :: rest⟩) := by
  have room : 2 * rest.length + 1 < WsRun.work ⟨parser, data, cur :: rest⟩ := by
    simp only [WsRun.work, List.length_cons]
    omega
  have advance (parser : WsParser) (data : σ) : WsRun.work ⟨parser, data, rest⟩ < WsRun.work ⟨_, _, cur :: rest⟩ :=
    Nat.lt_of_le_of_lt (run_work_bound parser data rest) room
  unfold wsTurn
  cases state : parser.state with
  | opcode =>
      simp only [opcodeTurn]
      split_ifs
      all_goals first
        | trivial
        | exact advance _ _
        | exact check_rc_holds _ _ _ _ _ _ (fun _ => advance _ _) (fun _ => trivial)
  | length =>
      simp only [lengthTurn]
      split
      · trivial
      · exact close_if_empty_within _ _ _ _ _ room
  | length16 index =>
      simp only [length16Turn]
      split_ifs
      all_goals first | trivial | exact advance _ _
  | length64 index =>
      simp only [length64Turn]
      split_ifs
      all_goals first | trivial | exact advance _ _
  | mask index =>
      simp only [maskTurn]
      split
      · exact advance _ _
      · exact close_if_empty_within _ _ _ _ _ room
  | payload =>
      have size : WsRun.work ⟨parser, data, cur :: rest⟩ = 2 * rest.length + 3 := by
        simp only [WsRun.work, state, if_true, List.length_cons]
        omega
      rw [size]
      exact payload_turn_within callbacks parser data cur rest state

def wsParserExecute (callbacks : WsCallbacks σ) (parser : WsParser) (data : σ) (buff : Bytes) : Int × WsRun σ :=
  match buff with
  | [] => (wsOk, ⟨parser, data, []⟩)
  | cur :: rest =>
      match _turned : wsTurn callbacks parser data cur rest with
      | .next run => wsParserExecute callbacks run.parser run.data run.buff
      | .stop rc run => (rc, run)
termination_by (⟨parser, data, buff⟩ : WsRun σ).work
decreasing_by
  have within := ws_turn_within callbacks parser data cur rest
  rw [_turned] at within
  exact within

theorem execute_nil (callbacks : WsCallbacks σ) (parser : WsParser) (data : σ) :
    wsParserExecute callbacks parser data [] = (wsOk, ⟨parser, data, []⟩) := by
  rw [wsParserExecute]

theorem execute_next (callbacks : WsCallbacks σ) (parser : WsParser) (data : σ) (cur : UInt8) (rest : Bytes) (run : WsRun σ)
    (turned : wsTurn callbacks parser data cur rest = .next run) :
    wsParserExecute callbacks parser data (cur :: rest) = wsParserExecute callbacks run.parser run.data run.buff := by
  rw [wsParserExecute]
  split
  · rename_i other same
    cases same.symm.trans turned
    rfl
  · rename_i rc other same
    cases same.symm.trans turned

theorem execute_stop (callbacks : WsCallbacks σ) (parser : WsParser) (data : σ) (cur : UInt8) (rest : Bytes) (rc : Int)
    (run : WsRun σ) (turned : wsTurn callbacks parser data cur rest = .stop rc run) :
    wsParserExecute callbacks parser data (cur :: rest) = (rc, run) := by
  rw [wsParserExecute]
  split
  · rename_i other same
    cases same.symm.trans turned
  · rename_i code other same
    cases same.symm.trans turned
    rfl

def WsTurn.resume (callbacks : WsCallbacks σ) : WsTurn σ → Int × WsRun σ
  | .next run => wsParserExecute callbacks run.parser run.data run.buff
  | .stop rc run => (rc, run)

theorem execute_cons (callbacks : WsCallbacks σ) (parser : WsParser) (data : σ) (cur : UInt8) (rest : Bytes) :
    wsParserExecute callbacks parser data (cur :: rest) = (wsTurn callbacks parser data cur rest).resume callbacks := by
  cases turned : wsTurn callbacks parser data cur rest with
  | next run => exact execute_next callbacks parser data cur rest run turned
  | stop rc run => exact execute_stop callbacks parser data cur rest rc run turned

theorem execute_same_turn (callbacks : WsCallbacks σ) (parser other : WsParser) (data second : σ) (cur first : UInt8)
    (rest more : Bytes) (same : wsTurn callbacks parser data cur rest = wsTurn callbacks other second first more) :
    wsParserExecute callbacks parser data (cur :: rest) = wsParserExecute callbacks other second (first :: more) := by
  rw [execute_cons, execute_cons, same]

theorem ws_turn_payload (callbacks : WsCallbacks σ) (parser : WsParser) (data : σ) (cur : UInt8) (rest : Bytes)
    (state : parser.state = .payload) :
    wsTurn callbacks parser data cur rest = payloadTurn callbacks parser data (cur :: rest) := by
  simp only [wsTurn, state]

theorem execute_holds (callbacks : WsCallbacks σ) (onNext : WsRun σ → Prop) (onStop : Int → WsRun σ → Prop)
    (step : ∀ parser data cur rest, onNext ⟨parser, data, cur :: rest⟩ →
      (wsTurn callbacks parser data cur rest).Holds onNext onStop)
    (parser : WsParser) (data : σ) (buff : Bytes) (start : onNext ⟨parser, data, buff⟩) :
    ((wsParserExecute callbacks parser data buff).1 = wsOk ∧ (wsParserExecute callbacks parser data buff).2.buff = [] ∧
      onNext (wsParserExecute callbacks parser data buff).2) ∨
      onStop (wsParserExecute callbacks parser data buff).1 (wsParserExecute callbacks parser data buff).2 := by
  fun_induction wsParserExecute callbacks parser data buff with
  | case1 parser data => exact .inl ⟨rfl, rfl, start⟩
  | case2 parser data cur rest run turned ih =>
      have held := step parser data cur rest start
      rw [turned] at held
      exact ih held
  | case3 parser data cur rest rc run turned =>
      have held := step parser data cur rest start
      rw [turned] at held
      exact .inr held

end

end Eventhub.Websocket
