import Eventhub.Websocket.Reading

set_option autoImplicit false

namespace Eventhub.Websocket

open Transition

def dataHeader (cur : UInt8) : Bool := cur &&& 0x0f = wsFrameText ∨ cur &&& 0x0f = wsFrameBinary

-- The FIN bit of the last TEXT or BINARY header.
def lastDataFin (headers : List UInt8) : Option Bool := (headers.filter dataHeader).getLast?.map finBit

-- Whether a message with FIN 0 still waits for its final fragment.
def headerWaits (waits : Bool) (cur : UInt8) : Bool :=
  if dataHeader cur then !finBit cur else if cur &&& 0x0f = 0 then waits && !finBit cur else waits

def waiting (headers : List UInt8) : Bool := headers.foldl headerWaits false

-- Each delivery follows the begin of its message with no other between.
def DeliveredOnce (calls : List DataCall) : Prop :=
  Throughout (fun before call => call = .ended → before.getLast? = some .begun) calls

theorem waiting_snoc (headers : List UInt8) (cur : UInt8) : waiting (headers ++ [cur]) = headerWaits (waiting headers) cur := by
  rw [waiting, List.foldl_append]
  rfl

theorem last_data_fin_data (headers : List UInt8) (cur : UInt8) (data : dataHeader cur = true) :
    lastDataFin (headers ++ [cur]) = some (finBit cur) := by
  simp [lastDataFin, List.filter_append, data]

theorem last_data_fin_other (headers : List UInt8) (cur : UInt8) (other : dataHeader cur = false) :
    lastDataFin (headers ++ [cur]) = lastDataFin headers := by
  simp [lastDataFin, List.filter_append, other]

theorem continuation_not_data (cur : UInt8) (opcode : cur &&& 0x0f = 0) : dataHeader cur = false := by
  simp only [dataHeader, opcode]
  decide

theorem control_not_data (cur : UInt8) (opcode : cur &&& 0x0f = wsFramePing ∨ cur &&& 0x0f = wsFramePong ∨ cur &&& 0x0f = wsFrameClose) :
    dataHeader cur = false ∧ ¬ cur &&& 0x0f = 0 := by
  simp only [dataHeader]
  rcases opcode with same | same | same <;> rw [same] <;> decide

-- The header of a continuation frame that no message waits for.
def Stray (reading : Reading) (cur : UInt8) : Prop :=
  reading.run.parser.state = .opcode ∧ cur &&& 0x0f = 0 ∧ waiting reading.headers = false

-- It has no reserved bit, and the last TEXT or BINARY header, if any, had FIN 1.
def Refusable (reading : Reading) (cur : UInt8) : Prop := cur &&& 0x70 = 0 ∧ lastDataFin reading.headers ≠ some false

def Unresumed (reading : Reading) (read : Reads) : Prop :=
  read = .turn → ∀ cur ∈ reading.run.buff.head?, Stray reading cur → Refusable reading cur

instance strayDecidable (reading : Reading) (cur : UInt8) : Decidable (Stray reading cur) := inferInstanceAs (Decidable (_ ∧ _))

instance refusableDecidable (reading : Reading) (cur : UInt8) : Decidable (Refusable reading cur) := inferInstanceAs (Decidable (_ ∧ _))

instance unresumedDecidable (reading : Reading) (read : Reads) : Decidable (Unresumed reading read) :=
  inferInstanceAs (Decidable (_ → ∀ cur ∈ reading.run.buff.head?, _))

structure Tracked (parser : WsParser) (calls : List DataCall) (headers : List UInt8) : Prop where
  once : DeliveredOnce calls
  pending : waiting headers = true → calls.getLast? = some .begun
  inside : parser.state ≠ .opcode → parser.control = false → waiting headers = !parser.fin ∧ calls.getLast? = some .begun

def Fragmented (parser : WsParser) (headers : List UInt8) : Prop := parser.fragment = true ↔ lastDataFin headers = some false

theorem tracked_refused (parser next : WsParser) (calls : List DataCall) (headers : List UInt8) (tracked : Tracked parser calls headers)
    (state : next.state = .opcode) : Tracked next calls headers :=
  ⟨tracked.once, tracked.pending, fun begun => absurd state begun⟩

theorem tracked_closed (parser : WsParser) (data : ParserData × List DataCall) (buff : Bytes) (headers : List UInt8)
    (tracked : Tracked parser data.2 headers) :
    Tracked (closedRun recordedCallbacks parser data buff).parser (closedRun recordedCallbacks parser data buff).data.2 headers := by
  unfold closedRun
  by_cases closes : parser.state = .payload ∧ parser.bytesRemaining = 0
  · rw [if_pos closes]
    have begun : parser.state ≠ .opcode := by simp [closes.1]
    cases control : parser.control with
    | true => exact tracked_refused parser _ _ headers tracked rfl
    | false =>
        obtain ⟨waits, last⟩ := tracked.inside begun control
        cases fin : parser.fin with
        | false => exact tracked_refused parser _ _ headers tracked rfl
        | true =>
            -- the final fragment: nothing waits for a second delivery
            rw [fin] at waits
            refine ⟨throughout_snoc _ _ _ tracked.once fun _ => last, fun pending => ?_, fun begun => absurd rfl begun⟩
            rw [waits] at pending
            cases pending
  · rw [if_neg closes]
    exact tracked

theorem handed_calls (parser next : WsParser) (data handed : ParserData × List DataCall)
    (moved : FrameMoved recordedCallbacks parser next data handed) : handed.2 = data.2 := by
  rcases moved.handed with rfl | ⟨chunk, rfl⟩
  · rfl
  · cases parser.control <;> rfl

theorem closed_run_fragment (parser : WsParser) (data : ParserData × List DataCall) (buff : Bytes) :
    (closedRun recordedCallbacks parser data buff).parser.fragment = parser.fragment := by
  unfold closedRun
  split <;> rfl

theorem header_tracked (parser : WsParser) (data : ParserData × List DataCall) (cur : UInt8) (rest : Bytes)
    (run : WsRun (ParserData × List DataCall)) (headers : List UInt8) (tracked : Tracked parser data.2 headers)
    (resumes : cur &&& 0x0f = 0 → parser.fragment = true → waiting headers = true)
    (taken : HeaderTaken recordedCallbacks parser data cur rest (.next run)) : Tracked run.parser run.data.2 (headers ++ [cur]) := by
  cases taken with
  | continued _ opcode fragment =>
      have waits := resumes opcode fragment
      have left : waiting (headers ++ [cur]) = !finBit cur := by
        rw [waiting_snoc, headerWaits, continuation_not_data cur opcode, if_neg Bool.false_ne_true, if_pos opcode, waits, Bool.true_and]
      exact ⟨tracked.once, fun _ => tracked.pending waits, fun _ _ => ⟨left, tracked.pending waits⟩⟩
  | controlBegun opcode =>
      have same : waiting (headers ++ [cur]) = waiting headers := by
        rw [waiting_snoc, headerWaits, (control_not_data cur opcode).1, if_neg Bool.false_ne_true, if_neg (control_not_data cur opcode).2]
      exact ⟨tracked.once, fun pending => tracked.pending (same.symm.trans pending), fun _ data => nomatch data⟩
  | dataBegun opcode =>
      have known : dataHeader cur = true := decide_eq_true opcode
      have left : waiting (headers ++ [cur]) = !finBit cur := by rw [waiting_snoc, headerWaits, if_pos known]
      have last : (data.2 ++ [DataCall.begun]).getLast? = some .begun := List.getLast?_concat
      exact ⟨throughout_snoc _ _ _ tracked.once (fun ended => nomatch ended), fun _ => last, fun _ _ => ⟨left, last⟩⟩

theorem header_fragmented (parser : WsParser) (data : ParserData × List DataCall) (cur : UInt8) (rest : Bytes)
    (run : WsRun (ParserData × List DataCall)) (headers : List UInt8) (fragmented : Fragmented parser headers)
    (taken : HeaderTaken recordedCallbacks parser data cur rest (.next run)) : Fragmented run.parser (headers ++ [cur]) := by
  cases taken with
  | continued _ opcode _ =>
      rw [Fragmented, last_data_fin_other headers cur (continuation_not_data cur opcode)]
      exact fragmented
  | controlBegun opcode =>
      rw [Fragmented, last_data_fin_other headers cur (control_not_data cur opcode).1]
      exact fragmented
  | dataBegun opcode =>
      rw [Fragmented, last_data_fin_data headers cur (decide_eq_true opcode)]
      simp

def Followed (reading : Reading) : Prop :=
  Tracked reading.run.parser reading.run.data.2 reading.headers ∧ Fragmented reading.run.parser reading.headers

theorem stopped_followed (reading : Reading) (cur : UInt8) (rest : Bytes) (rc : Int) (run : WsRun (ParserData × List DataCall))
    (followed : Followed reading) (taken : TurnTaken recordedCallbacks reading.run.parser reading.run.data cur rest (.stop rc run)) :
    Followed ⟨{ run with buff := [] }, reading.headers⟩ := by
  obtain ⟨tracked, fragmented⟩ := followed
  cases taken with
  | header state taken =>
      cases taken with
      | refused rc fin => exact ⟨tracked_refused _ _ _ _ tracked state, fragmented⟩
  | frame begun taken =>
      have inside := tracked.inside begun
      cases taken with
      | controlTooLong maskFlag maskPos state => exact ⟨⟨tracked.once, tracked.pending, fun _ => inside⟩, fragmented⟩
      | lengthRefused length declared state => exact ⟨⟨tracked.once, tracked.pending, fun _ => inside⟩, fragmented⟩

theorem next_followed (reading : Reading) (cur : UInt8) (rest : Bytes) (run : WsRun (ParserData × List DataCall))
    (followed : Followed reading) (unresumed : Stray reading cur → Refusable reading cur)
    (taken : TurnTaken recordedCallbacks reading.run.parser reading.run.data cur rest (.next run)) :
    Followed ⟨run, if reading.run.parser.state = .opcode then reading.headers ++ [cur] else reading.headers⟩ := by
  obtain ⟨tracked, fragmented⟩ := followed
  cases taken with
  | header state taken =>
      rw [if_pos state]
      refine ⟨header_tracked _ _ _ _ _ _ tracked ?_ taken, header_fragmented _ _ _ _ _ _ fragmented taken⟩
      intro opcode fragment
      by_contra idle
      exact (unresumed ⟨state, opcode, Bool.eq_false_iff.mpr idle⟩).2 (fragmented.mp fragment)
  | frame begun taken =>
      obtain ⟨next, handed, buff, rfl, moved⟩ := frame_moved recordedCallbacks _ _ _ _ _ begun taken
      have calls := handed_calls _ _ _ _ moved
      have inside : Tracked next handed.2 reading.headers := by
        refine ⟨calls ▸ tracked.once, calls ▸ tracked.pending, fun _ data => ?_⟩
        rw [calls, moved.fin]
        exact tracked.inside begun (moved.control.symm.trans data)
      rw [if_neg begun]
      refine ⟨tracked_closed next handed buff reading.headers inside, ?_⟩
      rw [Fragmented, closed_run_fragment, moved.fragment]
      exact fragmented

theorem read_followed (reading after : Reading) (read : Reads) (followed : Followed reading) (unresumed : Unresumed reading read)
    (stepped : reading.step read = some after) : Followed after := by
  cases read_taken reading after read stepped with
  | called buff => exact followed
  | next cur rest run buff taken =>
      exact next_followed reading cur rest run followed (unresumed rfl cur (by rw [buff]; rfl)) taken
  | stopped cur rest rc run buff taken => exact stopped_followed reading cur rest rc run followed taken

theorem start_followed (allocated : WsParser) (dataType controlType : FrameType) :
    Followed (.start (.construct allocated dataType controlType)) :=
  ⟨⟨throughout_nil _, (fun pending => nomatch pending), fun begun => absurd rfl begun⟩,
    by simp [Fragmented, Reading.start, Parser.construct, wsParserInit, lastDataFin]⟩

-- ws_parser_execute gives up at the first byte of its buffer with
-- WS_INVALID_CONTINUATION.
def RefusedHere (parser : Parser) (buff : Bytes) : Prop :=
  (parser.execute buff).1 = wsInvalidContinuation ∧ (parser.execute buff).2.buff = buff

theorem stray_accepted (parser : Parser) (cur : UInt8) (rest : Bytes) (state : parser.wsParser.state = .opcode) (opcode : cur &&& 0x0f = 0)
    (reserved : cur &&& 0x70 = 0) (fragment : parser.wsParser.fragment = true) : ¬ RefusedHere parser (cur :: rest) := by
  have turned : wsTurn parserCallbacks parser.wsParser parser.data cur rest =
      .next ⟨{ parser.wsParser with fin := finBit cur, control := false, state := .length }, parser.data, rest⟩ := by
    simp only [wsTurn, state, opcodeTurn, reserved, opcode, fragment, ne_eq, not_true_eq_false, if_false, if_true, Bool.not_true,
      Bool.false_eq_true, finBit]
  rintro ⟨_, stays⟩
  rw [Parser.execute, execute_next _ _ _ _ _ _ turned] at stays
  have shorter := (execute_suffix parserCallbacks { parser.wsParser with fin := finBit cur, control := false, state := .length }
    parser.data rest).length_le
  rw [stays, List.length_cons] at shorter
  omega

theorem stray_refused (reading : Reading) (cur : UInt8) (rest : Bytes) (fragmented : Fragmented reading.run.parser reading.headers)
    (stray : Stray reading cur) : RefusedHere reading.parser (cur :: rest) ↔ Refusable reading cur := by
  obtain ⟨state, opcode, _⟩ := stray
  by_cases reserved : cur &&& 0x70 = 0
  · cases fragment : reading.run.parser.fragment with
    | true =>
        refine iff_of_false (stray_accepted reading.parser cur rest state opcode reserved fragment) ?_
        exact fun refusable => refusable.2 (fragmented.mp fragment)
    | false =>
        refine iff_of_true ?_ ⟨reserved, fun last => Bool.false_ne_true (fragment.symm.trans (fragmented.mpr last))⟩
        have turned : wsTurn parserCallbacks reading.run.parser reading.run.data.1 cur rest =
            .stop wsInvalidContinuation ⟨{ reading.run.parser with fin := finBit cur }, reading.run.data.1, cur :: rest⟩ := by
          simp only [wsTurn, state, opcodeTurn, reserved, opcode, fragment, ne_eq, not_true_eq_false, if_false, if_true, Bool.not_false,
            finBit]
        rw [RefusedHere, Parser.execute, Reading.parser, execute_stop _ _ _ _ _ _ _ turned]
        exact ⟨rfl, rfl⟩
  · have turned : wsTurn parserCallbacks reading.run.parser reading.run.data.1 cur rest =
        .stop wsReservedBitsSet ⟨reading.run.parser, reading.run.data.1, cur :: rest⟩ := by
      simp only [wsTurn, state, opcodeTurn]
      exact if_pos reserved
    refine iff_of_false ?_ (fun refusable => reserved refusable.1)
    rw [RefusedHere, Parser.execute, Reading.parser, execute_stop _ _ _ _ _ _ _ turned]
    exact fun same => absurd same.1 (by decide : wsReservedBitsSet ≠ wsInvalidContinuation)

theorem continuation_only_inside (allocated : WsParser) (dataType controlType : FrameType) (reads : List Reads) (reading : Reading)
    (run : Run (fun before read after => Unresumed before read ∧ before.step read = some after)
      (.start (.construct allocated dataType controlType)) reads reading) :
    (∀ cur rest, reading.run.buff = cur :: rest → Stray reading cur →
      (RefusedHere reading.parser (cur :: rest) ↔ Refusable reading cur)) ∧
      DeliveredOnce reading.run.data.2 := by
  have followed : Followed reading := run_invariant _ (fun _ reading => Followed reading) _ (start_followed allocated dataType controlType)
    (fun _ read before after held taken => read_followed before after read held taken.1 taken.2) reads reading run
  exact ⟨fun cur rest _ stray => stray_refused reading cur rest followed.2 stray, followed.1.once⟩

def fragmentReads : List Reads :=
  .call [0x01, 0x01, 0x61, 0x89, 0x00, 0x80, 0x01, 0x62, 0x81, 0x01, 0x63, 0x80, 0x00] :: List.replicate 12 .turn

theorem fragment_reads_followed : ∃ reading,
    Run (fun before read after => Unresumed before read ∧ before.step read = some after)
      (.start (.construct zeroedParser .textFrame .pingFrame)) fragmentReads reading ∧
    reading.headers = [0x01, 0x89, 0x80, 0x81] ∧
    reading.run.data.1.calls = [⟨.parserOk, .pingFrame, []⟩, ⟨.parserOk, .textFrame, [0x61, 0x62]⟩, ⟨.parserOk, .textFrame, [0x63]⟩] ∧
    DeliveredOnce reading.run.data.2 := by
  have performed : (perform (guardedStep Reading.step Unresumed) (.start (.construct zeroedParser .textFrame .pingFrame))
      fragmentReads).map (fun reading => (reading.headers, reading.run.data.1.calls)) =
      some ([0x01, 0x89, 0x80, 0x81],
        [⟨.parserOk, .pingFrame, []⟩, ⟨.parserOk, .textFrame, [0x61, 0x62]⟩, ⟨.parserOk, .textFrame, [0x63]⟩]) := by
    decide +kernel
  obtain ⟨reading, done, same⟩ := Option.map_eq_some_iff.mp performed
  have run := perform_guarded Reading.step Unresumed _ reading fragmentReads done
  obtain ⟨headers, calls⟩ := Prod.mk.inj same
  exact ⟨reading, run, headers, calls, (continuation_only_inside zeroedParser .textFrame .pingFrame fragmentReads reading run).2⟩

theorem finished_message_resumed :
    (perform Reading.step (.start (.construct zeroedParser .textFrame .pingFrame))
      (.call [0x01, 0x01, 0x61, 0x80, 0x01, 0x62, 0x80, 0x01, 0x63] :: List.replicate 6 .turn)).map
        (fun reading => (reading.run.buff, decide (Stray reading 0x80))) = some ([0x80, 0x01, 0x63], true) ∧
    ((Parser.construct zeroedParser .textFrame .pingFrame).execute [0x01, 0x01, 0x61, 0x80, 0x01, 0x62, 0x80, 0x01, 0x63]).1 = wsOk ∧
    ((Parser.construct zeroedParser .textFrame .pingFrame).parse [0x01, 0x01, 0x61, 0x80, 0x01, 0x62, 0x80, 0x01, 0x63]).data.calls =
      [⟨.parserOk, .textFrame, [0x61, 0x62]⟩, ⟨.parserOk, .textFrame, [0x61, 0x62, 0x63]⟩] := by
  have within : (executeWithin parserCallbacks 9 ⟨wsParserInit zeroedParser, ⟨[], [], .textFrame, .pingFrame, []⟩,
      [0x01, 0x01, 0x61, 0x80, 0x01, 0x62, 0x80, 0x01, 0x63]⟩).map (fun done => (done.1, done.2.data.calls)) =
      some (wsOk, [⟨.parserOk, .textFrame, [0x61, 0x62]⟩, ⟨.parserOk, .textFrame, [0x61, 0x62, 0x63]⟩]) := by
    decide +kernel
  obtain ⟨done, executed, same⟩ := Option.map_eq_some_iff.mp within
  obtain ⟨code, calls⟩ := Prod.mk.inj same
  rw [Parser.parse, Parser.execute, Parser.construct, execute_within _ _ _ _ executed]
  exact ⟨by decide +kernel, code, calls⟩

end Eventhub.Websocket
