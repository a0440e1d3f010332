import Eventhub.AccessController
import Eventhub.Jwt.Base64
import Eventhub.Lib.Scan
import Eventhub.Util

set_option autoImplicit false

namespace Eventhub.Jwt

open Hub

inductive Algorithm where
  | none
  | hs256
  | hs384
  | hs512
  | rs256
  | rs384
  | rs512
  | es256
  | es384
  | es512
  | unkn
deriving DecidableEq

-- The error codes that decode can set, and the text of the exception that
-- jwt_throw_exception makes of them.
inductive Errc where
  | emptyAlgoList
  | signatureFormatError
  | jsonParseError
  | algHeaderMiss
  | typMismatch
  | duplClaims
  | invalidAlgorithm
  | tokenExpired
  | immatureSignature
  | invalidSignature
  | typeConversionError
  | verificationErr

def Errc.message : Errc → Bytes
  | .emptyAlgoList => str "empty algorithm list"
  | .signatureFormatError => str "signature format is incorrect"
  | .jsonParseError => str "json parse failed"
  | .algHeaderMiss => str "missing algorithm header"
  | .typMismatch => str "type mismatch"
  | .duplClaims => str "duplicate claims"
  | .invalidAlgorithm => str "invalid algorithm"
  | .tokenExpired => str "token expired"
  | .immatureSignature => str "immature signature"
  | .invalidSignature => str "invalid signature"
  | .typeConversionError => str "type conversion error"
  | .verificationErr => str "verification failed"

def throwException {α : Type} (ec : Errc) : Except Failure α := .error (.thrown ec.message)

-- !strcasecmp(text, name)
def sameName (text name : Bytes) : Bool := Util.strToLower (cstr text) = Util.strToLower (cstr name)

def strToAlg (alg : Bytes) : Algorithm :=
  if alg.isEmpty then .unkn
  else if sameName alg (str "none") then .none
  else if sameName alg (str "HS256") then .hs256
  else if sameName alg (str "HS384") then .hs384
  else if sameName alg (str "HS512") then .hs512
  else if sameName alg (str "RS256") then .rs256
  else if sameName alg (str "RS384") then .rs384
  else if sameName alg (str "RS512") then .rs512
  else if sameName alg (str "ES256") then .es256
  else if sameName alg (str "ES384") then .es384
  else if sameName alg (str "ES512") then .es512
  else .unkn

-- The JSON library, OpenSSL's HMAC with SHA-256, and whether char is signed.
structure Host where
  charSigned : Bool
  parse : Bytes → Except Failure Json
  hmac : Bytes → Bytes → Option Bytes

-- The two checks that read the system clock, in seconds.
structure Moment where
  expiry : Nat
  maturity : Nat

def dot : UInt8 := 46

def beforeDot (text : Bytes) : Bytes := text.takeWhile (fun c => c ≠ dot)

def afterDot (text : Bytes) : Bytes := (text.dropWhile (fun c => c ≠ dot)).tail

def threeParts (encStr : Bytes) : Bytes × Bytes × Bytes :=
  (beforeDot encStr, beforeDot (afterDot encStr), afterDot (afterDot encStr))

-- The sets of names compare them as C strings.
def distinctNames (fields : Claims) : Bool := decide (fields.map (fun field => cstr field.1)).Nodup

def hasClaim (payload : Claims) (cname : Bytes) : Bool := payload.any (fun field => cstr field.1 = cname)

section

variable (host : Host)

def parseJson (encStr : Bytes) : Except Failure Json := do
  let jsonStr ← base64UriDecode host.charSigned encStr
  match host.parse jsonStr with
  | .ok json => .ok json
  | .error .undefined => .error .undefined
  | .error (.thrown _) => throwException .jsonParseError

-- "typ" is looked at only if there is an algorithm.
def checkTyp (alg : Algorithm) (fields : Claims) : Except Failure Unit :=
  match fields.lookup (str "typ") with
  | some value =>
      if alg = .none then .ok ()
      else do
        let typ ← value.getString
        if sameName typ (str "JWT") then .ok () else throwException .typMismatch
  | none => .ok ()

def decodeHeader (encStr : Bytes) : Except Failure Algorithm := do
  match ← parseJson host encStr with
  | .object fields =>
      match fields.lookup (str "alg") with
      | none => throwException .algHeaderMiss
      | some value => do
          let alg := strToAlg (← value.getString)
          checkTyp alg fields
          if distinctNames fields then .ok alg else throwException .duplClaims
  | _ => throwException .algHeaderMiss

-- jwt_payload::decode: key() is for objects only, and is not called if there is
-- nothing to iterate over.
def decodePayload (encStr : Bytes) : Except Failure Claims := do
  match ← parseJson host encStr with
  | .object fields => if distinctNames fields then .ok fields else throwException .duplClaims
  | .null => .ok []
  | .array [] => .ok []
  | _ => .error (.thrown (str "[json.exception.invalid_iterator.207] cannot use key() for non-object iterators"))

-- The value of a time claim, if there is one. A type_error becomes an error code.
def timeClaim (payload : Claims) (cname : Bytes) : Except Failure (Option Nat) :=
  if hasClaim payload cname then do
    let value ← fieldAt payload cname
    match value.getUnsignedLong with
    | .ok seconds => .ok (some seconds)
    | .error .undefined => .error .undefined
    | .error (.thrown _) => throwException .typeConversionError
  else .ok none

def checkTime (payload : Claims) (cname : Bytes) (refused : Nat → Bool) (ec : Errc) : Except Failure Unit := do
  match ← timeClaim payload cname with
  | some seconds => if refused seconds then throwException ec else .ok ()
  | none => .ok ()

-- jwt_object::verify with the default parameters: no leeway, and no issuer,
-- audience, subject, iat or jti to check.
def verify (algos : List Bytes) (moment : Moment) (alg : Algorithm) (payload : Claims) : Except Failure Unit := do
  if algos.any (fun elem => strToAlg elem = alg) then
    checkTime payload (str "exp") (fun exp => moment.expiry > exp) .tokenExpired
    checkTime payload (str "nbf") (fun nbf => nbf > moment.maturity) .immatureSignature
  else throwException .invalidAlgorithm

-- HMACSign<HS256>::verify
def hmacVerify (key head sign : Bytes) : Except Failure Bool :=
  match host.hmac key head with
  | none => throwException .verificationErr
  | some encBuf => if encBuf.isEmpty then throwException .verificationErr else .ok (base64UriEncode (base64Encode encBuf) = sign)

-- jwt_signature::verify. The algorithms other than HS256 are not in the list
-- that authenticate passes.
def verifySignature (alg : Algorithm) (key head sign : Bytes) : Except Failure Bool :=
  match alg with
  | .hs256 => hmacVerify host key head sign
  | _ => .error .undefined

-- jwt::decode. For the algorithm none the error code is no exception.
def decode (algos : List Bytes) (moment : Moment) (secret encStr : Bytes) : Except Failure Claims := do
  if algos.isEmpty then throwException .emptyAlgoList
  else if encStr.count dot < 2 then throwException .signatureFormatError
  else
    let (header, body, signature) := threeParts encStr
    let alg ← decodeHeader host header
    if alg ≠ .none ∧ (2 < encStr.count dot ∨ signature.isEmpty) then throwException .signatureFormatError
    else
      let payload ← decodePayload host body
      verify algos moment alg payload
      if alg = .none then .ok payload
      else
        let matched ← verifySignature host alg secret (encStr.take (header.length + 1 + body.length)) signature
        if matched then .ok payload else throwException .invalidSignature

def decodeToken (moment : Moment) (secret jwtToken : Bytes) : Except Failure Claims :=
  decode host [str "hs256"] moment secret jwtToken

end

theorem bind_ok_iff {α β : Type} (value : Except Failure α) (next : α → Except Failure β) (result : β) :
    (value >>= next) = .ok result ↔ ∃ middle, value = .ok middle ∧ next middle = .ok result := by
  cases value with
  | error failure => exact ⟨fun same => (nomatch same), fun ⟨_, same, _⟩ => (nomatch same)⟩
  | ok middle =>
      constructor
      · exact fun same => ⟨middle, rfl, same⟩
      · rintro ⟨_, same, later⟩
        cases same
        exact later

theorem throw_not_ok {α : Type} (ec : Errc) (result : α) : (throwException ec : Except Failure α) ≠ .ok result := fun same => by cases same

theorem guard_ok_iff {α : Type} (condition : Prop) [Decidable condition] (ec : Errc) (rest : Except Failure α) (result : α) :
    (if condition then throwException ec else rest) = .ok result ↔ ¬ condition ∧ rest = .ok result := by
  by_cases holds : condition
  · rw [if_pos holds]
    exact iff_of_false (throw_not_ok ec result) (fun both => both.1 holds)
  · rw [if_neg holds]
    exact ⟨fun same => ⟨holds, same⟩, And.right⟩

theorem require_ok_iff {α : Type} (condition : Prop) [Decidable condition] (ec : Errc) (rest : Except Failure α) (result : α) :
    (if condition then rest else throwException ec) = .ok result ↔ condition ∧ rest = .ok result := by
  by_cases holds : condition
  · rw [if_pos holds]
    exact ⟨fun same => ⟨holds, same⟩, And.right⟩
  · rw [if_neg holds]
    exact iff_of_false (throw_not_ok ec result) (fun both => holds both.1)

theorem get_string_ok_iff (value : Json) (text : Bytes) : value.getString = .ok text ↔ value = .string text := by
  cases value with
  | string own => exact ⟨fun same => by cases same; rfl, fun same => by cases same; rfl⟩
  | _ => exact ⟨fun same => (nomatch same), fun same => (nomatch same)⟩

def Carries (host : Host) (encStr : Bytes) (json : Json) : Prop :=
  ∃ jsonStr, base64UriDecode host.charSigned encStr = .ok jsonStr ∧ host.parse jsonStr = .ok json

-- The header names an algorithm, and its type is that of a token if it has one.
structure HeaderOf (fields : Claims) (alg : Algorithm) : Prop where
  named : ∃ name, fields.lookup (str "alg") = some (.string name) ∧ strToAlg name = alg
  typed : alg ≠ .none → ∀ value ∈ fields.lookup (str "typ"), ∃ typ, value = .string typ ∧ sameName typ (str "JWT") = true
  distinct : distinctNames fields = true

def PayloadOf (json : Json) (payload : Claims) : Prop :=
  match json with
  | .object fields => distinctNames fields = true ∧ payload = fields
  | .null => payload = []
  | .array [] => payload = []
  | _ => False

inductive TimeRead (payload : Claims) (cname : Bytes) : Option Nat → Prop where
  | missing (unclaimed : hasClaim payload cname = false) : TimeRead payload cname none
  | present (value : Json) (seconds : Nat) (claimed : hasClaim payload cname = true) (found : payload.lookup cname = some value)
      (number : value.getUnsignedLong = .ok seconds) : TimeRead payload cname (some seconds)

def TimeHolds (payload : Claims) (cname : Bytes) (passes : Nat → Prop) : Prop :=
  ∃ read, TimeRead payload cname read ∧ ∀ seconds ∈ read, passes seconds

structure Timely (moment : Moment) (payload : Claims) : Prop where
  unexpired : TimeHolds payload (str "exp") (fun exp => moment.expiry ≤ exp)
  mature : TimeHolds payload (str "nbf") (fun nbf => nbf ≤ moment.maturity)

theorem parse_json_iff (host : Host) (encStr : Bytes) (json : Json) : parseJson host encStr = .ok json ↔ Carries host encStr json := by
  rw [parseJson, bind_ok_iff]
  refine exists_congr (fun jsonStr => and_congr_right (fun _ => ?_))
  cases host.parse jsonStr with
  | ok value => exact Iff.rfl
  | error failure =>
      cases failure with
      | undefined => exact ⟨fun same => (nomatch same), fun same => (nomatch same)⟩
      | thrown what => exact ⟨fun same => absurd same (throw_not_ok _ _), fun same => (nomatch same)⟩

theorem check_typ_iff (alg : Algorithm) (fields : Claims) :
    checkTyp alg fields = .ok () ↔
      (alg ≠ .none → ∀ value ∈ fields.lookup (str "typ"), ∃ typ, value = .string typ ∧ sameName typ (str "JWT") = true) := by
  rw [checkTyp]
  cases fields.lookup (str "typ") with
  | none => exact iff_of_true rfl (fun _ value absent => (nomatch absent))
  | some value =>
      by_cases unsigned : alg = .none
      · exact iff_of_true (if_pos unsigned) (fun signed => absurd unsigned signed)
      · have read : (value.getString >>= fun typ => if sameName typ (str "JWT") then .ok () else throwException .typMismatch) = .ok () ↔
            ∃ typ, value = .string typ ∧ sameName typ (str "JWT") = true := by
          rw [bind_ok_iff]
          exact exists_congr (fun typ => and_congr (get_string_ok_iff value typ) ((require_ok_iff _ _ _ _).trans (and_iff_left rfl)))
        constructor
        · intro done _ other found
          cases found
          exact read.mp ((if_neg unsigned).symm.trans done)
        · intro typed
          exact (if_neg unsigned).trans (read.mpr (typed unsigned value rfl))

theorem decode_header_iff (host : Host) (encStr : Bytes) (alg : Algorithm) :
    decodeHeader host encStr = .ok alg ↔ ∃ fields, Carries host encStr (.object fields) ∧ HeaderOf fields alg := by
  rw [decodeHeader, bind_ok_iff]
  constructor
  · rintro ⟨json, parsed, rest⟩
    have carries := (parse_json_iff host encStr json).mp parsed
    cases json with
    | object fields =>
        dsimp only at rest
        cases found : fields.lookup (str "alg") with
        | none =>
            rw [found] at rest
            exact absurd rest (throw_not_ok _ _)
        | some value =>
            rw [found] at rest
            obtain ⟨name, read, checked⟩ := (bind_ok_iff _ _ _).mp rest
            rw [(get_string_ok_iff value name).mp read] at found
            obtain ⟨_, typed, built⟩ := (bind_ok_iff _ _ _).mp checked
            obtain ⟨distinct, same⟩ := (require_ok_iff _ _ _ _).mp built
            cases same
            exact ⟨fields, carries, ⟨name, found, rfl⟩, (check_typ_iff _ fields).mp typed, distinct⟩
    | _ => exact absurd rest (throw_not_ok _ _)
  · rintro ⟨fields, carries, ⟨name, found, rfl⟩, typed, distinct⟩
    refine ⟨.object fields, (parse_json_iff host encStr _).mpr carries, ?_⟩
    dsimp only
    rw [found]
    refine (bind_ok_iff _ _ _).mpr ⟨name, rfl, (bind_ok_iff _ _ _).mpr ⟨(), (check_typ_iff _ fields).mpr typed, ?_⟩⟩
    exact (require_ok_iff _ _ _ _).mpr ⟨distinct, rfl⟩

theorem decode_payload_iff (host : Host) (encStr : Bytes) (payload : Claims) :
    decodePayload host encStr = .ok payload ↔ ∃ json, Carries host encStr json ∧ PayloadOf json payload := by
  rw [decodePayload, bind_ok_iff]
  refine exists_congr (fun json => and_congr (parse_json_iff host encStr json) ?_)
  have empty : (Except.ok [] : Except Failure Claims) = .ok payload ↔ payload = [] :=
    ⟨fun same => by cases same; rfl, fun same => by rw [same]⟩
  cases json with
  | object fields =>
      refine (require_ok_iff _ _ _ _).trans (and_congr_right (fun _ => ?_))
      exact ⟨fun same => by cases same; rfl, fun same => by rw [same]⟩
  | null => exact empty
  | array items =>
      cases items with
      | nil => exact empty
      | cons item items => exact ⟨fun same => (nomatch same), fun same => same.elim⟩
  | _ => exact ⟨fun same => (nomatch same), fun same => same.elim⟩

theorem time_claim_iff (payload : Claims) (cname : Bytes) (read : Option Nat) :
    timeClaim payload cname = .ok read ↔ TimeRead payload cname read := by
  rw [timeClaim]
  constructor
  · intro done
    by_cases claimed : hasClaim payload cname = true
    · rw [if_pos claimed, fieldAt] at done
      obtain ⟨value, found, number⟩ := (bind_ok_iff _ _ _).mp done
      cases looked : payload.lookup cname with
      | none =>
          rw [looked] at found
          cases found
      | some json =>
          rw [looked] at found
          cases found
          cases converted : value.getUnsignedLong with
          | ok seconds =>
              rw [converted] at number
              cases number
              exact .present value seconds claimed looked converted
          | error failure =>
              rw [converted] at number
              cases failure with
              | thrown what => exact absurd number (throw_not_ok _ _)
              | undefined => cases number
    · rw [if_neg claimed] at done
      cases done
      exact .missing (Bool.eq_false_iff.mpr claimed)
  · intro claims
    cases claims with
    | missing unclaimed =>
        rw [unclaimed]
        rfl
    | present value seconds claimed found number =>
        rw [if_pos claimed, fieldAt, found]
        exact (bind_ok_iff _ _ _).mpr ⟨value, rfl, by rw [number]⟩

theorem check_time_iff (payload : Claims) (cname : Bytes) (refused : Nat → Bool) (ec : Errc) :
    checkTime payload cname refused ec = .ok () ↔ TimeHolds payload cname (fun seconds => ¬ refused seconds = true) := by
  rw [checkTime, bind_ok_iff]
  refine exists_congr (fun read => and_congr (time_claim_iff payload cname read) ?_)
  cases read with
  | none => exact iff_of_true rfl (fun _ absent => (nomatch absent))
  | some seconds =>
      refine (guard_ok_iff _ _ _ _).trans ⟨fun passes other same => ?_, fun passes => ⟨passes seconds rfl, rfl⟩⟩
      cases same
      exact passes.1

theorem time_holds_congr (payload : Claims) (cname : Bytes) (passes other : Nat → Prop) (same : ∀ seconds, passes seconds ↔ other seconds) :
    TimeHolds payload cname passes ↔ TimeHolds payload cname other := by
  refine exists_congr (fun read => and_congr_right (fun _ => ?_))
  exact forall_congr' (fun seconds => imp_congr_right (fun _ => same seconds))

theorem verify_iff (algos : List Bytes) (moment : Moment) (alg : Algorithm) (payload : Claims) :
    verify algos moment alg payload = .ok () ↔ algos.any (fun elem => strToAlg elem = alg) = true ∧ Timely moment payload := by
  have expiry := time_holds_congr payload (str "exp") (fun exp => ¬ decide (moment.expiry > exp) = true) (fun exp => moment.expiry ≤ exp)
    (fun exp => by rw [decide_eq_true_iff, not_lt])
  have maturity := time_holds_congr payload (str "nbf") (fun nbf => ¬ decide (nbf > moment.maturity) = true) (fun nbf => nbf ≤ moment.maturity)
    (fun nbf => by rw [decide_eq_true_iff, not_lt])
  rw [verify, require_ok_iff, bind_ok_iff]
  refine and_congr_right (fun _ => ?_)
  constructor
  · rintro ⟨_, unexpired, mature⟩
    exact ⟨expiry.mp ((check_time_iff _ _ _ _).mp unexpired), maturity.mp ((check_time_iff _ _ _ _).mp mature)⟩
  · rintro ⟨unexpired, mature⟩
    exact ⟨(), (check_time_iff _ _ _ _).mpr (expiry.mpr unexpired), (check_time_iff _ _ _ _).mpr (maturity.mpr mature)⟩

theorem cut_at_dot (text : Bytes) (dotted : dot ∈ text) : text = beforeDot text ++ dot :: afterDot text ∧ dot ∉ beforeDot text := by
  have joined := List.takeWhile_append_dropWhile (p := fun c => decide (c ≠ dot)) (l := text)
  constructor
  · cases rest : text.dropWhile (fun c => decide (c ≠ dot)) with
    | nil =>
        have passes := List.dropWhile_eq_nil_iff.mp rest dot dotted
        exact absurd rfl (of_decide_eq_true passes)
    | cons c rest' =>
        have stops := Scan.drop_while_head _ text rest' c rest
        have same : c = dot := Decidable.of_not_not (of_decide_eq_false stops)
        rw [rest, same] at joined
        rw [afterDot, rest]
        exact joined.symm
  · intro inside
    have passes : decide (dot ≠ dot) = true := List.mem_takeWhile_imp (l := text) inside
    exact absurd rfl (of_decide_eq_true passes)

theorem before_dot_append (front back : Bytes) (plain : dot ∉ front) :
    beforeDot (front ++ dot :: back) = front ∧ afterDot (front ++ dot :: back) = back := by
  have all : ∀ c ∈ front, decide (c ≠ dot) = true := fun c inside => decide_eq_true (fun same => plain (same ▸ inside))
  have stops : ∀ c ∈ (dot :: back).head?, decide (c ≠ dot) = false := by
    intro c first
    cases first
    rfl
  rw [beforeDot, afterDot, Scan.take_while_stops _ front _ all stops, Scan.drop_while_stops _ front _ all stops]
  exact ⟨rfl, rfl⟩

theorem count_dot_append (front back : Bytes) (plain : dot ∉ front) : (front ++ dot :: back).count dot = back.count dot + 1 := by
  rw [List.count_append, List.count_cons_self, List.count_eq_zero.mpr plain, Nat.zero_add]

theorem three_parts_joined (encStr : Bytes) (dots : 2 ≤ encStr.count dot) :
    encStr = (threeParts encStr).1 ++ dot :: ((threeParts encStr).2.1 ++ dot :: (threeParts encStr).2.2) ∧
      dot ∉ (threeParts encStr).1 ∧ dot ∉ (threeParts encStr).2.1 ∧ encStr.count dot = (threeParts encStr).2.2.count dot + 2 := by
  obtain ⟨first, plainFirst⟩ := cut_at_dot encStr (List.count_pos_iff.mp (by omega))
  have behind := count_dot_append (beforeDot encStr) (afterDot encStr) plainFirst
  rw [← first] at behind
  obtain ⟨second, plainSecond⟩ := cut_at_dot (afterDot encStr) (List.count_pos_iff.mp (by omega))
  have last := count_dot_append (beforeDot (afterDot encStr)) (afterDot (afterDot encStr)) plainSecond
  rw [← second] at last
  refine ⟨?_, plainFirst, plainSecond, by rw [behind, last]; rfl⟩
  rw [threeParts]
  dsimp only
  rw [← second]
  exact first

theorem take_signed (header body rest : Bytes) :
    (header ++ dot :: (body ++ dot :: rest)).take (header.length + 1 + body.length) = header ++ dot :: body := by
  have regrouped : header ++ dot :: (body ++ dot :: rest) = (header ++ dot :: body) ++ dot :: rest := by
    rw [List.append_assoc, List.cons_append]
  have length : header.length + 1 + body.length = (header ++ dot :: body).length := by
    rw [List.length_append, List.length_cons]
    omega
  rw [regrouped, length, List.take_left]

theorem hmac_verify_iff (host : Host) (key head sign : Bytes) (matched : Bool) :
    hmacVerify host key head sign = .ok matched ↔
      ∃ digest, host.hmac key head = some digest ∧ digest ≠ [] ∧ matched = decide (base64UriEncode (base64Encode digest) = sign) := by
  rw [hmacVerify]
  cases host.hmac key head with
  | none => exact iff_of_false (throw_not_ok _ _) (fun ⟨_, found, _⟩ => (nomatch found))
  | some encBuf =>
      refine (guard_ok_iff _ _ _ _).trans ⟨fun both => ⟨encBuf, rfl, ?_, ?_⟩, ?_⟩
      · exact fun empty => both.1 (List.isEmpty_iff.mpr empty)
      · cases both.2
        rfl
      · rintro ⟨digest, found, nonempty, same⟩
        cases found
        exact ⟨fun empty => nonempty (List.isEmpty_iff.mp empty), by rw [same]⟩

theorem three_parts_of (header body signature : Bytes) (plainHeader : dot ∉ header) (plainBody : dot ∉ body) :
    threeParts (header ++ dot :: (body ++ dot :: signature)) = (header, body, signature) := by
  obtain ⟨first, behind⟩ := before_dot_append header (body ++ dot :: signature) plainHeader
  obtain ⟨second, last⟩ := before_dot_append body signature plainBody
  rw [threeParts, first, behind, second, last]

-- What decode accepts for HS256: header and payload with the signature that the
-- secret gives them.
inductive Authentic (host : Host) (secret : Bytes) : Bytes → Claims → Prop where
  | signed (header body digest : Bytes) (fields : Claims) (json : Json) (payload : Claims) (plainHeader : dot ∉ header)
      (plainBody : dot ∉ body) (carriesHeader : Carries host header (.object fields)) (headerOf : HeaderOf fields .hs256)
      (carriesPayload : Carries host body json) (payloadOf : PayloadOf json payload)
      (signature : host.hmac secret (header ++ dot :: body) = some digest) (nonempty : digest ≠ []) :
      Authentic host secret (header ++ dot :: (body ++ dot :: base64UriEncode (base64Encode digest))) payload

theorem listed_hs256 (alg : Algorithm) (listed : [str "hs256"].any (fun elem => strToAlg elem = alg) = true) : alg = .hs256 := by
  rw [List.any_cons, List.any_nil, Bool.or_false, decide_eq_true_iff] at listed
  exact listed.symm.trans (by decide +kernel)

theorem decode_authentic (host : Host) (moment : Moment) (secret jwtToken : Bytes) (payload : Claims)
    (decoded : decodeToken host moment secret jwtToken = .ok payload) : Authentic host secret jwtToken payload ∧ Timely moment payload := by
  rw [decodeToken, decode] at decoded
  obtain ⟨_, rest⟩ := (guard_ok_iff _ _ _ _).mp decoded
  obtain ⟨dots, rest⟩ := (guard_ok_iff _ _ _ _).mp rest
  obtain ⟨joined, plainHeader, plainBody, count⟩ := three_parts_joined jwtToken (by omega)
  generalize threeParts jwtToken = parts at joined plainHeader plainBody count rest
  obtain ⟨header, body, signature⟩ := parts
  dsimp only at joined plainHeader plainBody count rest
  obtain ⟨alg, headerRead, rest⟩ := (bind_ok_iff _ _ _).mp rest
  obtain ⟨shape, rest⟩ := (guard_ok_iff _ _ _ _).mp rest
  obtain ⟨claims, payloadRead, rest⟩ := (bind_ok_iff _ _ _).mp rest
  obtain ⟨_, verified, rest⟩ := (bind_ok_iff _ _ _).mp rest
  obtain ⟨listed, timely⟩ := (verify_iff _ _ _ _).mp verified
  rw [listed_hs256 alg listed] at headerRead rest
  rw [if_neg (by decide)] at rest
  obtain ⟨matched, compared, rest⟩ := (bind_ok_iff _ _ _).mp rest
  obtain ⟨equal, same⟩ := (require_ok_iff _ _ _ _).mp rest
  cases same
  obtain ⟨digest, made, nonempty, decided⟩ := (hmac_verify_iff host _ _ _ _).mp compared
  have sign : base64UriEncode (base64Encode digest) = signature := by
    rw [equal] at decided
    exact of_decide_eq_true decided.symm
  obtain ⟨fields, carriesHeader, headerOf⟩ := (decode_header_iff host header _).mp headerRead
  obtain ⟨json, carriesPayload, payloadOf⟩ := (decode_payload_iff host body _).mp payloadRead
  rw [joined, take_signed] at made
  refine ⟨?_, timely⟩
  rw [joined, ← sign]
  exact .signed header body digest fields json payload plainHeader plainBody carriesHeader headerOf carriesPayload payloadOf made nonempty

theorem authentic_decodes (host : Host) (moment : Moment) (secret jwtToken : Bytes) (payload : Claims)
    (authentic : Authentic host secret jwtToken payload) (timely : Timely moment payload) :
    decodeToken host moment secret jwtToken = .ok payload := by
  cases authentic with
  | signed header body digest fields json payload plainHeader plainBody carriesHeader headerOf carriesPayload payloadOf signature nonempty =>
      have plainSignature : dot ∉ base64UriEncode (base64Encode digest) := uri_encoded_plain digest
      have dots : (header ++ dot :: (body ++ dot :: base64UriEncode (base64Encode digest))).count dot = 2 := by
        rw [count_dot_append _ _ plainHeader, count_dot_append _ _ plainBody, List.count_eq_zero.mpr plainSignature]
      have compared : verifySignature host .hs256 secret (header ++ dot :: body) (base64UriEncode (base64Encode digest)) = .ok true :=
        (hmac_verify_iff host _ _ _ _).mpr ⟨digest, signature, nonempty, (decide_eq_true rfl).symm⟩
      rw [decodeToken, decode, dots, three_parts_of header body _ plainHeader plainBody]
      refine (guard_ok_iff _ _ _ _).mpr ⟨by decide, (guard_ok_iff _ _ _ _).mpr ⟨by decide, ?_⟩⟩
      refine (bind_ok_iff _ _ _).mpr ⟨.hs256, (decode_header_iff host header _).mpr ⟨fields, carriesHeader, headerOf⟩, ?_⟩
      refine (guard_ok_iff _ _ _ _).mpr ⟨?_, ?_⟩
      · rintro ⟨_, many | empty⟩
        · exact absurd many (by decide)
        · exact uri_encoded_nonempty digest nonempty (List.isEmpty_iff.mp empty)
      · refine (bind_ok_iff _ _ _).mpr ⟨payload, (decode_payload_iff host body _).mpr ⟨json, carriesPayload, payloadOf⟩, ?_⟩
        refine (bind_ok_iff _ _ _).mpr ⟨(), (verify_iff _ _ _ _).mpr ⟨by decide +kernel, timely⟩, ?_⟩
        rw [if_neg (by decide), take_signed]
        exact (bind_ok_iff _ _ _).mpr ⟨true, compared, rfl⟩

theorem decode_accepts_iff (host : Host) (moment : Moment) (secret jwtToken : Bytes) (payload : Claims) :
    decodeToken host moment secret jwtToken = .ok payload ↔ Authentic host secret jwtToken payload ∧ Timely moment payload :=
  ⟨decode_authentic host moment secret jwtToken payload,
    fun both => authentic_decodes host moment secret jwtToken payload both.1 both.2⟩

end Eventhub.Jwt
