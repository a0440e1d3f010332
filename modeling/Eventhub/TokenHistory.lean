import Eventhub.AccessController
import Eventhub.Lib.Transition

set_option autoImplicit false

namespace Eventhub.TokenHistory

open Hub Transition

structure World where
  controller : AccessController
  accepted : Option Claims

def World.start : World := ⟨.fresh false, none⟩

-- A call of authenticate; there is no next state if the process does not
-- survive it.
def World.step (world : World) (decoded : Option Claims) : Option World :=
  (authenticate world.controller decoded).map (fun result => ⟨result.1, if result.2 then decoded else world.accepted⟩)

-- A fresh controller on which only the last accepted call was made.
def reference : Option Claims → Option AccessController
  | none => some (.fresh false)
  | some payload => (authenticate (.fresh false) (some payload)).map Prod.fst

structure SameAnswers (left right : AccessController) : Prop where
  publish : ∀ topic, allowPublish left topic = allowPublish right topic
  subscribe : ∀ topic, allowSubscribe left topic = allowSubscribe right topic
  subject : left.subject = right.subject
  limits : ∀ topic, getRateLimitForTopic left topic = getRateLimitForTopic right topic

def malformed (payload : Claims) : Bool :=
  !(claimFilters payload (str "write")).isOk || !(claimFilters payload (str "read")).isOk || !(claimSubject payload []).isOk

-- The token is refused before its first valid filter is stored.
def storesNothing (payload : Claims) : Bool :=
  match claimFilters payload (str "write"), claimFilters payload (str "read") with
  | .error _, _ => true
  | .ok write, .error _ => write.isEmpty
  | .ok write, .ok read => write.isEmpty && read.isEmpty && !(claimSubject payload []).isOk

-- No filter of an earlier token is there, or none of this one gets there, or
-- it does and the token is refused while no token is loaded.
def Unmixed (world : World) (decoded : Option Claims) : Prop :=
  (world.controller.publishAcl = [] ∧ world.controller.subscribeAcl = []) ∨
    match decoded with
    | none => True
    | some payload => storesNothing payload = true ∨ (world.controller.tokenLoaded = false ∧ malformed payload = true)

instance (world : World) (decoded : Option Claims) : Decidable (Unmixed world decoded) := by
  unfold Unmixed
  cases decoded <;> infer_instance

def UnmixedStep (before : World) (decoded : Option Claims) (after : World) : Prop :=
  Unmixed before decoded ∧ before.step decoded = some after

theorem claim_subject_ok (payload : Claims) (subject other : Bytes) :
    (claimSubject payload subject).isOk = (claimSubject payload other).isOk := by
  unfold claimSubject
  split <;> rfl

theorem stores_nothing (controller : AccessController) (payload : Claims) (enabled : controller.disableAuth = false)
    (nothing : storesNothing payload = true) : authenticate controller (some payload) = some (controller, false) := by
  unfold storesNothing at nothing
  unfold authenticate
  rw [if_neg (by rw [enabled]; exact Bool.false_ne_true)]
  dsimp only
  cases writes : claimFilters payload (str "write") with
  | error failure => rfl
  | ok write =>
      cases reads : claimFilters payload (str "read") with
      | error failure =>
          rw [writes, reads] at nothing
          dsimp only
          rw [List.isEmpty_iff.mp nothing, List.append_nil]
      | ok read =>
          rw [writes, reads] at nothing
          simp only [Bool.and_eq_true, List.isEmpty_iff, Bool.not_eq_true'] at nothing
          obtain ⟨⟨noWrite, noRead⟩, noSubject⟩ := nothing
          dsimp only
          rw [noWrite, noRead, List.append_nil, List.append_nil]
          split
          · rfl
          · rw [claim_subject_ok payload [] controller.subject] at noSubject
            cases subject : claimSubject payload controller.subject with
            | error failure => rfl
            | ok subject =>
                rw [subject] at noSubject
                cases noSubject

theorem malformed_rejected (controller after : AccessController) (payload : Claims) (verdict : Bool)
    (authenticated : Authenticated controller (some payload) after verdict) (bad : malformed payload = true) : verdict = false := by
  cases authenticated with
  | rejected _ write read writes reads => rfl
  | accepted _ write read subject limitConfigs writes reads filters subjects limits =>
      unfold malformed at bad
      rw [writes, reads, claim_subject_ok payload [] controller.subject, subjects] at bad
      cases bad

-- Either no token is loaded, and what refused ones have left behind is not
-- looked at, or the controller is the one that the last accepted token makes.
inductive Traced (world : World) : Prop where
  | waiting (publishAcl subscribeAcl : List Bytes) (accepted : world.accepted = none)
      (controller : world.controller = { AccessController.fresh false with publishAcl := publishAcl, subscribeAcl := subscribeAcl })
  | loaded (payload : Claims) (accepted : world.accepted = some payload)
      (controller : authenticate (.fresh false) (some payload) = some (world.controller, true))

theorem accepted_loaded (controller after : AccessController) (decoded : Option Claims)
    (authenticated : Authenticated controller decoded after true) :
    after.tokenLoaded = true ∧ ¬ (after.publishAcl = [] ∧ after.subscribeAcl = []) ∧ after.disableAuth = controller.disableAuth := by
  cases authenticated with
  | accepted payload write read subject limitConfigs writes reads filters subjects limits =>
      refine ⟨rfl, fun empty => filters ?_, rfl⟩
      simpa using And.intro empty.2 empty.1

theorem refused_waiting (publishAcl subscribeAcl : List Bytes) (after : AccessController) (decoded : Option Claims)
    (authenticated : Authenticated { AccessController.fresh false with publishAcl := publishAcl, subscribeAcl := subscribeAcl }
      decoded after false) : Traced ⟨after, none⟩ := by
  cases authenticated with
  | undecoded => exact .waiting publishAcl subscribeAcl rfl rfl
  | rejected payload write read writes reads => exact .waiting _ _ rfl rfl

theorem waiting_step (publishAcl subscribeAcl : List Bytes) (after : AccessController) (decoded : Option Claims) (verdict : Bool)
    (unmixed : Unmixed ⟨{ AccessController.fresh false with publishAcl := publishAcl, subscribeAcl := subscribeAcl }, none⟩ decoded)
    (done : authenticate { AccessController.fresh false with publishAcl := publishAcl, subscribeAcl := subscribeAcl } decoded =
      some (after, verdict)) : Traced ⟨after, if verdict then decoded else none⟩ := by
  have authenticated := authenticate_spec _ _ _ _ rfl done
  cases verdict with
  | false => exact refused_waiting publishAcl subscribeAcl after decoded authenticated
  | true =>
      cases decoded with
      | none => cases authenticated
      | some payload =>
          rcases unmixed with ⟨noPublish, noSubscribe⟩ | nothing | ⟨_, bad⟩
          · cases noPublish
            cases noSubscribe
            exact .loaded payload rfl done
          · rw [stores_nothing _ payload rfl nothing] at done
            cases done
          · cases malformed_rejected _ after payload true authenticated bad

theorem loaded_step (controller after : AccessController) (payload : Claims) (decoded : Option Claims) (verdict : Bool)
    (own : authenticate (.fresh false) (some payload) = some (controller, true)) (unmixed : Unmixed ⟨controller, some payload⟩ decoded)
    (done : authenticate controller decoded = some (after, verdict)) : after = controller ∧ verdict = false := by
  obtain ⟨loaded, filters, enabled⟩ := accepted_loaded _ controller (some payload) (authenticate_spec _ _ _ _ rfl own)
  have unchanged : authenticate controller decoded = some (controller, false) := by
    rcases unmixed with empty | refused
    · exact absurd empty filters
    · cases decoded with
      | none =>
          rw [authenticate, if_neg (by rw [enabled]; exact Bool.false_ne_true)]
      | some other =>
          rcases refused with nothing | ⟨unloaded, _⟩
          · exact stores_nothing controller other enabled nothing
          · exact Bool.noConfusion (loaded.symm.trans unloaded)
  rw [unchanged] at done
  cases done
  exact ⟨rfl, rfl⟩

theorem traced_step (before after : World) (decoded : Option Claims) (traced : Traced before)
    (step : UnmixedStep before decoded after) : Traced after := by
  obtain ⟨unmixed, taken⟩ := step
  obtain ⟨⟨controller, verdict⟩, done, rfl⟩ := Option.map_eq_some_iff.mp taken
  cases before with
  | mk own last =>
      cases traced with
      | waiting publishAcl subscribeAcl accepted made =>
          cases accepted
          cases made
          exact waiting_step publishAcl subscribeAcl controller decoded verdict unmixed done
      | loaded payload accepted made =>
          cases accepted
          obtain ⟨rfl, rfl⟩ := loaded_step own controller payload decoded verdict made unmixed done
          exact .loaded payload rfl made

theorem last_token_only (decodings : List (Option Claims)) (world : World) (run : Run UnmixedStep World.start decodings world) :
    ∃ controller, reference world.accepted = some controller ∧ SameAnswers world.controller controller := by
  have traced : Traced world := by
    apply run_invariant UnmixedStep (fun _ world => Traced world) World.start _ _ decodings world run
    · exact .waiting [] [] rfl rfl
    · intro _ decoded before after traced step
      exact traced_step before after decoded traced step
  cases traced with
  | waiting publishAcl subscribeAcl accepted own =>
      rw [accepted, own]
      exact ⟨_, rfl, fun _ => rfl, fun _ => rfl, rfl, fun _ => rfl⟩
  | loaded payload accepted own =>
      rw [accepted]
      refine ⟨world.controller, ?_, fun _ => rfl, fun _ => rfl, rfl, fun _ => rfl⟩
      rw [reference, own, Option.map_some]

def filterClaim (name : String) (filters : List String) : Bytes × Json :=
  (str name, .array (filters.map (fun filter => .string (str filter))))

def refusedFirst : List (Option Claims) := [some [(str "read", .null)], some [filterClaim "write" ["a/#"], filterClaim "read" ["b"]], none]

theorem accepted_token_answers :
    ∃ world, perform (guardedStep World.step Unmixed) World.start refusedFirst = some world ∧
      allowPublish world.controller (str "a/x") = true ∧ allowSubscribe world.controller (str "b") = true ∧
      ∃ controller, reference world.accepted = some controller ∧ SameAnswers world.controller controller := by
  have reached : (perform (guardedStep World.step Unmixed) World.start refusedFirst).map (fun world =>
      (allowPublish world.controller (str "a/x"), allowSubscribe world.controller (str "b"))) = some (true, true) := by decide
  obtain ⟨world, done, facts⟩ := Option.map_eq_some_iff.mp reached
  obtain ⟨publishes, subscribes⟩ := Prod.mk.inj facts
  exact ⟨world, done, publishes, subscribes, last_token_only refusedFirst world (perform_guarded _ _ _ _ _ done)⟩

-- A second token does not replace the first one, and one that is refused for
-- its read claim has granted its write claim by then.
def secondToken : List (Option Claims) := [some [filterClaim "write" ["a"]], some [filterClaim "write" ["b"]]]

def refusedSecond : List (Option Claims) := [some [filterClaim "write" ["b"]], some [filterClaim "write" ["a"], (str "read", .null)]]

theorem grants_differ (decodings : List (Option Claims))
    (answers : (perform World.step World.start decodings).map (fun world =>
      (allowPublish world.controller (str "a"), (reference world.accepted).map (fun controller => allowPublish controller (str "a")))) =
        some (true, some false)) :
    ∃ world, perform World.step World.start decodings = some world ∧
      ¬ ∃ controller, reference world.accepted = some controller ∧ SameAnswers world.controller controller := by
  obtain ⟨world, done, facts⟩ := Option.map_eq_some_iff.mp answers
  obtain ⟨allowed, denied⟩ := Prod.mk.inj facts
  refine ⟨world, done, fun same => ?_⟩
  obtain ⟨controller, made, same⟩ := same
  rw [made, Option.map_some, Option.some.injEq, ← same.publish, allowed] at denied
  cases denied

theorem first_token_remains :
    (∃ world, perform World.step World.start secondToken = some world ∧
      ¬ ∃ controller, reference world.accepted = some controller ∧ SameAnswers world.controller controller) ∧
    ∃ world, perform World.step World.start refusedSecond = some world ∧
      ¬ ∃ controller, reference world.accepted = some controller ∧ SameAnswers world.controller controller :=
  ⟨grants_differ secondToken (by decide), grants_differ refusedSecond (by decide)⟩

end Eventhub.TokenHistory
