import Eventhub.Hub.Publish
import Eventhub.Websocket.Response

set_option autoImplicit false

namespace Eventhub.Hub

section

-- response is the text of jsonrpcpp::Response(requestId, result). It is made of
-- parsed JSON alone, so its dump does not throw.
variable (order : Websocket.ByteOrder) (response : RpcId → Json → Bytes)

-- What a call hands to Connection::write. stack is what the frame headers of a
-- text hold before they are filled.
def Output.written (stack : Nat → Fin 4 → UInt8) : Output → Bytes
  | .text requestId result => Websocket.SendCall.written order ⟨response requestId result, .textFrame, stack⟩
  | .event id message => str "id: " ++ id ++ [10] ++ str "data: " ++ message ++ [10, 10]

variable (connections : Nat → Option Connection)

def turn (data : Option Json) (before : List Subscriber) (entry : Subscriber) : List Output :=
  ((publishTopic connections data (before ++ [entry])).drop (publishTopic connections data before).length).map Sent.output

def writtenIn (stack : Nat → Fin 4 → UInt8) (data : Option Json) (before : List Subscriber) (entry : Subscriber) : Bytes :=
  (turn connections data before entry).flatMap (Output.written order response stack)

-- Each subscriber is written the bytes it would be written alone.
def Isolated (data : Option Json) (subscribers : List Subscriber) : Prop :=
  ∀ before entry after, subscribers = before ++ entry :: after → ∀ stack alone,
    writtenIn order response connections stack data before entry = writtenIn order response connections alone data [] entry

def LiveAs (state : ConnectionState) (entry : Subscriber) : Prop :=
  ∃ self, connections entry.connection = some self ∧ self.isShutdown = false ∧ self.state = state

end

def EventFields (jsonData : Json) : Prop :=
  ∃ id message, jsonData.stringAt (str "id") = some id ∧ jsonData.stringAt (str "message") = some message

inductive Turn (connections : Nat → Option Connection) (jsonData : Json) (entry : Subscriber) : Prop where
  | silent (dead : ¬ LiveAs connections .websocket entry) (none : ¬ LiveAs connections .sse entry)
      (sent : sendTo connections jsonData entry = some [])
  | text (live : LiveAs connections .websocket entry)
      (sent : sendTo connections jsonData entry = some [⟨entry.connection, .text entry.requestId jsonData⟩])
  | event (id message : Bytes) (live : LiveAs connections .sse entry) (dead : ¬ LiveAs connections .websocket entry)
      (fields : EventFields jsonData) (sent : sendTo connections jsonData entry = some [⟨entry.connection, .event id message⟩])
  | thrown (live : LiveAs connections .sse entry) (dead : ¬ LiveAs connections .websocket entry) (missing : ¬ EventFields jsonData)
      (sent : sendTo connections jsonData entry = none)

theorem turn_cases (connections : Nat → Option Connection) (jsonData : Json) (entry : Subscriber) : Turn connections jsonData entry := by
  cases present : connections entry.connection with
  | none =>
      have nobody : ∀ state, ¬ LiveAs connections state entry := by
        rintro state ⟨self, found, _⟩
        rw [present] at found
        cases found
      exact .silent (nobody .websocket) (nobody .sse) (by rw [sendTo, present])
  | some self =>
      have only : ∀ state, LiveAs connections state entry ↔ self.isShutdown = false ∧ self.state = state := by
        intro state
        rw [LiveAs, present]
        simp
      cases closed : self.isShutdown with
      | true =>
          have nobody : ∀ state, ¬ LiveAs connections state entry := by
            intro state live
            rw [only, closed] at live
            cases live.1
          exact .silent (nobody .websocket) (nobody .sse) (by simp only [sendTo, present, closed, if_true])
      | false =>
          cases state : self.state with
          | http =>
              have idle : ∀ other, other ≠ .http → ¬ LiveAs connections other entry := by
                intro other different live
                exact different (((only other).mp live).2.symm.trans state)
              exact .silent (idle .websocket (by decide)) (idle .sse (by decide)) (by simp [sendTo, present, closed, state])
          | websocket => exact .text ((only _).mpr ⟨closed, state⟩) (by simp [sendTo, present, closed, state])
          | sse =>
              have live := (only .sse).mpr ⟨closed, state⟩
              have dead : ¬ LiveAs connections .websocket entry := by
                intro other
                cases ((only _).mp other).2.symm.trans state
              cases idField : jsonData.stringAt (str "id") with
              | none =>
                  refine .thrown live dead ?_ (by simp [sendTo, present, closed, state, idField])
                  rintro ⟨id, message, found, _⟩
                  rw [idField] at found
                  cases found
              | some id =>
                  cases messageField : jsonData.stringAt (str "message") with
                  | none =>
                      refine .thrown live dead ?_ (by simp [sendTo, present, closed, state, idField, messageField])
                      rintro ⟨_, message, _, found⟩
                      rw [messageField] at found
                      cases found
                  | some message =>
                      exact .event id message live dead ⟨id, message, idField, messageField⟩
                        (by simp [sendTo, present, closed, state, idField, messageField])

section

variable (connections : Nat → Option Connection) (jsonData : Json) (before : List Subscriber) (entry : Subscriber)

theorem publish_loop_passed (passed : ∀ other ∈ before, sendTo connections jsonData other ≠ none) :
    publishLoop connections jsonData (before ++ [entry]) =
      publishLoop connections jsonData before ++ (sendTo connections jsonData entry).getD [] := by
  induction before with
  | nil =>
      cases sends : sendTo connections jsonData entry with
      | none => simp only [List.nil_append, publishLoop, sends, Option.getD_none]
      | some sent => simp only [List.nil_append, publishLoop, sends, Option.getD_some, List.append_nil]
  | cons other before ih =>
      obtain ⟨first, rest⟩ := List.forall_mem_cons.mp passed
      obtain ⟨sent, sends⟩ := Option.ne_none_iff_exists'.mp first
      simp only [List.cons_append, publishLoop, sends, ih rest, List.append_assoc]

theorem publish_loop_stopped (stopped : ∃ other ∈ before, sendTo connections jsonData other = none) :
    publishLoop connections jsonData (before ++ [entry]) = publishLoop connections jsonData before := by
  induction before with
  | nil => simp at stopped
  | cons other before ih =>
      cases sends : sendTo connections jsonData other with
      | none => simp only [List.cons_append, publishLoop, sends]
      | some sent =>
          obtain ⟨thrower, inside, throws⟩ := stopped
          rcases List.mem_cons.mp inside with same | later
          · rw [same, sends] at throws
            cases throws
          · simp only [List.cons_append, publishLoop, sends, ih ⟨thrower, later, throws⟩]

theorem turn_passed (passed : ∀ other ∈ before, sendTo connections jsonData other ≠ none) :
    turn connections (some jsonData) before entry = ((sendTo connections jsonData entry).getD []).map Sent.output := by
  rw [turn, publishTopic, publishTopic, publish_loop_passed connections jsonData before entry passed, List.drop_left]

theorem turn_stopped (stopped : ∃ other ∈ before, sendTo connections jsonData other = none) :
    turn connections (some jsonData) before entry = [] := by
  rw [turn, publishTopic, publishTopic, publish_loop_stopped connections jsonData before entry stopped, List.drop_length, List.map_nil]

theorem turn_alone : turn connections (some jsonData) [] entry = ((sendTo connections jsonData entry).getD []).map Sent.output :=
  turn_passed connections jsonData [] entry (by simp)

theorem throws_iff : sendTo connections jsonData entry = none ↔ LiveAs connections .sse entry ∧ ¬ EventFields jsonData := by
  cases turn_cases connections jsonData entry with
  | silent dead none sent => simp [sent, none]
  | text live sent =>
      have other : ¬ LiveAs connections .sse entry := by
        rintro ⟨self, found, _, state⟩
        obtain ⟨same, foundSame, _, stateSame⟩ := live
        rw [found] at foundSame
        cases foundSame
        rw [state] at stateSame
        cases stateSame
      simp [sent, other]
  | event id message live dead fields sent => simp [sent, fields]
  | thrown live dead missing sent => simp [sent, live, missing]

end

section

variable (order : Websocket.ByteOrder) (response : RpcId → Json → Bytes) (connections : Nat → Option Connection)

theorem written_passed (jsonData : Json) (before : List Subscriber) (entry : Subscriber) (stack : Nat → Fin 4 → UInt8)
    (passed : ∀ other ∈ before, sendTo connections jsonData other ≠ none) :
    writtenIn order response connections stack (some jsonData) before entry =
      writtenIn order response connections stack (some jsonData) [] entry := by
  rw [writtenIn, writtenIn, turn_passed connections jsonData before entry passed, turn_alone]

theorem written_text (jsonData : Json) (entry : Subscriber) (stack : Nat → Fin 4 → UInt8) (live : LiveAs connections .websocket entry) :
    writtenIn order response connections stack (some jsonData) [] entry =
      Websocket.SendCall.written order ⟨response entry.requestId jsonData, .textFrame, stack⟩ := by
  have sends : sendTo connections jsonData entry = some [⟨entry.connection, .text entry.requestId jsonData⟩] := by
    cases turn_cases connections jsonData entry with
    | text live sent => exact sent
    | silent dead none sent => exact absurd live dead
    | event id message other dead fields sent => exact absurd live dead
    | thrown other dead missing sent => exact absurd live dead
  rw [writtenIn, turn_alone, sends]
  exact List.append_nil _

theorem written_other (jsonData : Json) (entry : Subscriber) (stack other : Nat → Fin 4 → UInt8)
    (dead : ¬ LiveAs connections .websocket entry) :
    writtenIn order response connections stack (some jsonData) [] entry =
      writtenIn order response connections other (some jsonData) [] entry := by
  rw [writtenIn, writtenIn, turn_alone]
  cases turn_cases connections jsonData entry with
  | text live sent => exact absurd live dead
  | silent dead none sent => rw [sent]; rfl
  | event id message live dead fields sent => rw [sent]; rfl
  | thrown live dead missing sent => rw [sent]; rfl

-- No live WebSocket subscriber stands behind one that throws.
def Undisturbed (jsonData : Json) (subscribers : List Subscriber) : Prop :=
  EventFields jsonData ∨ subscribers.Pairwise (fun earlier later => LiveAs connections .sse earlier → ¬ LiveAs connections .websocket later)

def Determined (jsonData : Json) (subscribers : List Subscriber) : Prop :=
  ∀ entry ∈ subscribers, LiveAs connections .websocket entry →
    ¬ Websocket.SendCall.LongTail ⟨response entry.requestId jsonData, .textFrame, fun _ _ => 0⟩

theorem isolated_determined (jsonData : Json) (subscribers : List Subscriber)
    (isolated : Isolated order response connections (some jsonData) subscribers) : Determined response connections jsonData subscribers := by
  intro entry inside live
  obtain ⟨before, after, split⟩ := List.append_of_mem inside
  rw [← Websocket.written_stack_iff order]
  intro stack other
  have first := isolated before entry after split (fun _ _ => 0) stack
  have second := isolated before entry after split (fun _ _ => 0) other
  rw [written_text order response connections jsonData entry _ live] at first second
  exact first.symm.trans second

theorem isolated_undisturbed (jsonData : Json) (subscribers : List Subscriber)
    (isolated : Isolated order response connections (some jsonData) subscribers) : Undisturbed connections jsonData subscribers := by
  by_cases fields : EventFields jsonData
  · exact .inl fields
  · refine .inr (List.pairwise_iff_forall_sublist.mpr ?_)
    intro earlier later sublist sse websocket
    obtain ⟨front, back, split, first, rest⟩ := List.cons_sublist_iff.mp sublist
    obtain ⟨middle, after, place⟩ := List.append_of_mem (List.singleton_sublist.mp rest)
    have throws := (throws_iff connections jsonData earlier).mpr ⟨sse, fields⟩
    have whole := isolated (front ++ middle) later after (by rw [split, place, List.append_assoc]) (fun _ _ => 0) (fun _ _ => 0)
    rw [written_text order response connections jsonData later _ websocket, writtenIn,
      turn_stopped connections jsonData _ later ⟨earlier, List.mem_append_left middle first, throws⟩] at whole
    exact Websocket.written_present order _ whole.symm

theorem undisturbed_isolated (jsonData : Json) (subscribers : List Subscriber) (determined : Determined response connections jsonData subscribers)
    (undisturbed : Undisturbed connections jsonData subscribers) : Isolated order response connections (some jsonData) subscribers := by
  intro before entry after split stack alone
  by_cases live : LiveAs connections .websocket entry
  · have passed : ∀ other ∈ before, sendTo connections jsonData other ≠ none := by
      intro other inside throws
      obtain ⟨sse, missing⟩ := (throws_iff connections jsonData other).mp throws
      rcases undisturbed with fields | ordered
      · exact missing fields
      · rw [split] at ordered
        exact (List.pairwise_append.mp ordered).2.2 other inside entry List.mem_cons_self sse live
    rw [written_passed order response connections jsonData before entry stack passed,
      written_text order response connections jsonData entry _ live, written_text order response connections jsonData entry _ live]
    exact (Websocket.written_stack_iff order _ _ _).mpr (determined entry (by rw [split]; simp) live) stack alone
  · by_cases stopped : ∃ other ∈ before, sendTo connections jsonData other = none
    · obtain ⟨other, inside, throws⟩ := stopped
      have missing := ((throws_iff connections jsonData other).mp throws).2
      rw [writtenIn, turn_stopped connections jsonData before entry ⟨other, inside, throws⟩, writtenIn, turn_alone]
      cases turn_cases connections jsonData entry with
      | text isText sent => exact absurd isText live
      | silent dead none sent => rw [sent]; rfl
      | event id message live dead fields sent => exact absurd fields missing
      | thrown live dead missing sent => rw [sent]; rfl
    · have passed : ∀ other ∈ before, sendTo connections jsonData other ≠ none := fun other inside throws => stopped ⟨other, inside, throws⟩
      rw [written_passed order response connections jsonData before entry stack passed]
      exact written_other order response connections jsonData entry stack alone live

theorem isolated_iff (data : Option Json) (subscribers : List Subscriber) :
    Isolated order response connections data subscribers ↔
      ∀ jsonData, data = some jsonData →
        Determined response connections jsonData subscribers ∧ Undisturbed connections jsonData subscribers := by
  cases data with
  | none =>
      refine ⟨fun _ jsonData parsed => ?_, fun _ before entry after _ stack alone => rfl⟩
      cases parsed
  | some jsonData =>
      constructor
      · rintro isolated _ ⟨⟩
        exact ⟨isolated_determined order response connections jsonData subscribers isolated,
          isolated_undisturbed order response connections jsonData subscribers isolated⟩
      · intro holds
        obtain ⟨determined, undisturbed⟩ := holds jsonData rfl
        exact undisturbed_isolated order response connections jsonData subscribers determined undisturbed

end

def sseThenWebsocket : Nat → Option Connection
  | 0 => some { state := .sse, isShutdown := false, subscribedTopics := ∅ }
  | 1 => some { state := .websocket, isShutdown := false, subscribedTopics := ∅ }
  | _ => none

-- jsonrpcpp::Response(id, result).to_json().dump()
def responseText (id : RpcId) (result : Json) : Bytes :=
  (Json.object [(str "id", idJson id), (str "jsonrpc", .string (str "2.0")), (str "result", result)]).text

theorem empty_object_starves_websocket :
    writtenIn .littleEndian responseText sseThenWebsocket (fun _ _ => 0) (some (.object [])) [⟨0, 0, .integer 0⟩] ⟨1, 1, .integer 1⟩ = [] ∧
      writtenIn .littleEndian responseText sseThenWebsocket (fun _ _ => 0) (some (.object [])) [] ⟨1, 1, .integer 1⟩ =
        [0x81, 36] ++ str "\x7b\"id\":1,\"jsonrpc\":\"2.0\",\"result\":\x7b\x7d\x7d" := by
  decide +kernel

end Eventhub.Hub
