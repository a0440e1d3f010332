import Eventhub.Websocket.Stream
import Eventhub.Websocket.Parser
import Eventhub.Lib.Transition

set_option autoImplicit false

namespace Eventhub.Websocket

open Transition

structure Receiver where
  parser : Parser
  failed : Option (List Message)

def Receiver.start (allocated : WsParser) (dataType controlType : FrameType) : Receiver :=
  ⟨Parser.construct allocated dataType controlType, none⟩

def Receiver.delivered (receiver : Receiver) : List Message := okCalls receiver.parser.data.calls

def Receiver.parse (receiver : Receiver) (chunk : Bytes) : Receiver :=
  let parsed := receiver.parser.parse chunk
  { parser := parsed
    failed :=
      match receiver.failed with
      | some delivered => some delivered
      | none => if (receiver.parser.execute chunk).1 = wsOk then none else some (okCalls parsed.data.calls) }

-- The byte is an error where the parser stands.
def refuses (parser : WsParser) (cur : UInt8) : Bool :=
  let opcode := cur &&& 0x0f
  match parser.state with
  | .opcode =>
      if cur &&& 0x70 ≠ 0 then true
      else if opcode = 0 then !parser.fragment
      else if opcode &&& 0x8 ≠ 0 then
        decide (opcode ≠ wsFramePing ∧ opcode ≠ wsFramePong ∧ opcode ≠ wsFrameClose) || decide (cur &&& 0x80 = 0)
      else decide (opcode ≠ wsFrameText ∧ opcode ≠ wsFrameBinary)
  | .length => parser.control && decide ((cur &&& 0x7f).toNat > 125)
  | _ => false

-- Parser::parse does not remember the error, so what comes after it must be
-- an error again from its first byte.
def Silenced (receiver : Receiver) (chunk : Bytes) : Prop :=
  receiver.failed = none ∨
    match chunk with
    | [] => True
    | cur :: _ => refuses receiver.parser.wsParser cur = true

instance (receiver : Receiver) (chunk : Bytes) : Decidable (Silenced receiver chunk) := by
  unfold Silenced
  cases chunk <;> infer_instance

def SilencedStep (before : Receiver) (chunk : Bytes) (after : Receiver) : Prop := Silenced before chunk ∧ before.parse chunk = after

theorem refused_stops (callbacks : WsCallbacks ParserData) (parser : WsParser) (data : ParserData) (cur : UInt8) (rest : Bytes)
    (refused : refuses parser cur = true) :
    ∃ rc next, wsTurn callbacks parser data cur rest = .stop rc ⟨next, data, cur :: rest⟩ := by
  unfold refuses at refused
  unfold wsTurn
  cases state : parser.state with
  | opcode =>
      rw [state] at refused
      simp only [opcodeTurn] at refused ⊢
      by_cases reserved : cur &&& 0x70 ≠ 0
      · rw [if_pos reserved]
        exact ⟨_, _, rfl⟩
      · rw [if_neg reserved] at refused ⊢
        by_cases continuation : cur &&& 0x0f = 0
        · rw [if_pos continuation] at refused ⊢
          rw [if_pos refused]
          exact ⟨_, _, rfl⟩
        · rw [if_neg continuation] at refused ⊢
          by_cases control : cur &&& 0x0f &&& 0x8 ≠ 0
          · rw [if_pos control] at refused ⊢
            by_cases known : cur &&& 0x0f ≠ wsFramePing ∧ cur &&& 0x0f ≠ wsFramePong ∧ cur &&& 0x0f ≠ wsFrameClose
            · rw [if_pos known]
              exact ⟨_, _, rfl⟩
            · rw [decide_eq_false known, Bool.false_or] at refused
              rw [if_neg known, if_pos (by simpa using refused)]
              exact ⟨_, _, rfl⟩
          · rw [if_neg control] at refused ⊢
            rw [if_pos (of_decide_eq_true refused)]
            exact ⟨_, _, rfl⟩
  | length =>
      rw [state] at refused
      obtain ⟨control, long⟩ := Bool.and_eq_true_iff.mp refused
      simp only [lengthTurn]
      rw [if_pos ⟨control, of_decide_eq_true long⟩]
      exact ⟨_, _, rfl⟩
  | length16 index => simp [state] at refused
  | length64 index => simp [state] at refused
  | mask index => simp [state] at refused
  | payload => simp [state] at refused

theorem parse_nil (parser : Parser) : (parser.parse []).data = parser.data := by
  rw [Parser.parse, Parser.execute, execute_nil]

theorem refused_parse (parser : Parser) (cur : UInt8) (rest : Bytes) (refused : refuses parser.wsParser cur = true) :
    (parser.parse (cur :: rest)).data = parser.data := by
  obtain ⟨rc, next, turned⟩ := refused_stops parserCallbacks parser.wsParser parser.data cur rest refused
  rw [Parser.parse, Parser.execute, execute_stop _ _ _ _ _ _ _ turned]

def ErrorFinal (receiver : Receiver) : Prop := ∀ delivered, receiver.failed = some delivered → receiver.delivered = delivered

theorem error_final_step (receiver : Receiver) (chunk : Bytes) (final : ErrorFinal receiver) (silenced : Silenced receiver chunk) :
    ErrorFinal (receiver.parse chunk) := by
  intro delivered failed
  unfold Receiver.parse at failed
  dsimp only at failed
  cases former : receiver.failed with
  | none =>
      rw [former] at failed
      dsimp only at failed
      split at failed
      · cases failed
      · exact Option.some.inj failed
  | some already =>
      rw [former] at failed
      cases failed
      rw [← final delivered former]
      rcases silenced with live | quiet
      · cases live.symm.trans former
      · unfold Receiver.delivered Receiver.parse
        cases chunk with
        | nil => rw [parse_nil]
        | cons cur rest => rw [refused_parse receiver.parser cur rest quiet]

theorem error_final (allocated : WsParser) (dataType controlType : FrameType) (chunks : List Bytes) (receiver : Receiver)
    (run : Run SilencedStep (Receiver.start allocated dataType controlType) chunks receiver) : ErrorFinal receiver := by
  apply run_invariant SilencedStep (fun _ receiver => ErrorFinal receiver) (Receiver.start allocated dataType controlType) _ _ chunks
    receiver run
  · exact fun _ failed => nomatch failed
  · intro _ chunk before after final step
    obtain ⟨silenced, rfl⟩ := step
    exact error_final_step before chunk final silenced

def blankReceiver : Receiver := Receiver.start zeroedParser .textFrame .pingFrame

def repeatedErrors : List Bytes := [[0x81, 0x00, 0xF0], [0x83, 0x81, 0x00], []]

theorem repeated_error_final :
    (repeatedErrors.foldl Receiver.parse blankReceiver).failed = some [(.textFrame, [])] ∧
      ErrorFinal (repeatedErrors.foldl Receiver.parse blankReceiver) := by
  have executed : blankReceiver.parser.execute [0x81, 0x00, 0xF0] = (wsReservedBitsSet, ⟨{ zeroedParser with fin := true },
      ⟨[], [], .textFrame, .pingFrame, [⟨.parserOk, .textFrame, []⟩]⟩, [0xF0]⟩) := by
    unfold Parser.execute
    rw [execute_next _ _ _ _ _ _ rfl, execute_next _ _ _ _ _ _ rfl, execute_stop _ _ _ _ _ _ _ rfl]
    rfl
  have parsed : blankReceiver.parse [0x81, 0x00, 0xF0] = ⟨⟨{ zeroedParser with fin := true },
      ⟨[], [], .textFrame, .pingFrame, [⟨.parserOk, .textFrame, []⟩]⟩⟩, some [(.textFrame, [])]⟩ := by
    unfold Receiver.parse Parser.parse
    rw [executed]
    rfl
  refine ⟨?_, error_final zeroedParser .textFrame .pingFrame repeatedErrors _ (guarded_run Receiver.parse Silenced _ _ ?_)⟩
  · rw [repeatedErrors, List.foldl_cons, parsed]
    rfl
  · refine ⟨.inl rfl, .inr ?_, .inr trivial, trivial⟩
    change refuses (blankReceiver.parse [0x81, 0x00, 0xF0]).parser.wsParser 0x83 = true
    rw [parsed]
    decide

theorem frame_after_error_delivered : ¬ ErrorFinal ([[0xF0], [0x81, 0x00]].foldl Receiver.parse blankReceiver) := by
  have refused : blankReceiver.parse [0xF0] = ⟨blankReceiver.parser, some []⟩ := by
    unfold Receiver.parse Parser.parse Parser.execute
    rw [execute_stop _ _ _ _ _ _ _ rfl]
    rfl
  have parsed : (blankReceiver.parser.parse [0x81, 0x00]).data.calls = [⟨.parserOk, .textFrame, []⟩] := by
    unfold Parser.parse Parser.execute
    rw [execute_next _ _ _ _ _ _ rfl, execute_next _ _ _ _ _ _ rfl, execute_nil]
    rfl
  intro final
  have same := final [] (by rw [List.foldl_cons, refused]; rfl)
  rw [List.foldl_cons, refused] at same
  change okCalls (blankReceiver.parser.parse [0x81, 0x00]).data.calls = [] at same
  rw [parsed] at same
  cases same

end Eventhub.Websocket
