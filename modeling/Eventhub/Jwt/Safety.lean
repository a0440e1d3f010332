import Eventhub.Jwt.Signature

set_option autoImplicit false

namespace Eventhub.Jwt

open Hub

-- Texts that take decode out of its tables before it looks at the signature: a
-- byte above 127 at the end of the header, where char is signed, and a claim
-- whose name is "exp" up to a NUL, which the set of names holds but the JSON
-- object does not.
inductive Derails (host : Host) : Bytes → Prop where
  | nonAscii (front rest : Bytes) (c : UInt8) (signed : host.charSigned = true) (high : 128 ≤ c) (plain : dot ∉ front)
      (more : dot ∈ rest) : Derails host ((front ++ [c]) ++ dot :: rest)
  | nulName (header body signature : Bytes) (fields payload : Claims) (plainHeader : dot ∉ header) (plainBody : dot ∉ body)
      (plainSignature : dot ∉ signature) (nonempty : signature ≠ []) (carriesHeader : Carries host header (.object fields))
      (headerOf : HeaderOf fields .hs256) (carriesPayload : Carries host body (.object payload)) (distinct : distinctNames payload = true)
      (claimed : hasClaim payload (str "exp") = true) (missing : payload.lookup (str "exp") = none) :
      Derails host (header ++ dot :: (body ++ dot :: signature))

theorem derailed_undefined (host : Host) (jwtToken : Bytes) (derails : Derails host jwtToken) (moment : Moment) (secret : Bytes) :
    decodeToken host moment secret jwtToken = .error .undefined := by
  cases derails with
  | nonAscii front rest c signed high plain more =>
      have beyond : indexable host.charSigned c = false := by
        rw [indexable, signed, Bool.not_true, Bool.false_or]
        exact decide_eq_false (UInt8.not_lt.mpr high)
      have plainHeader : dot ∉ front ++ [c] := by
        intro inside
        rcases List.mem_append.mp inside with before | last
        · exact plain before
        · rw [← List.mem_singleton.mp last] at high
          exact absurd high (by decide)
      have dots : 2 ≤ ((front ++ [c]) ++ dot :: rest).count dot := by
        have some := List.count_pos_iff.mpr more
        rw [count_dot_append _ _ plainHeader]
        omega
      have header : decodeHeader host (front ++ [c]) = .error .undefined := by
        rw [decodeHeader, parseJson, uri_decode_undefined host.charSigned front c beyond]
        rfl
      rw [decodeToken, decode, if_neg (by decide), if_neg (by omega), threeParts, (before_dot_append _ rest plainHeader).1]
      change (decodeHeader host (front ++ [c]) >>= _) = _
      rw [header]
      rfl
  | nulName header body signature fields payload plainHeader plainBody plainSignature nonempty carriesHeader headerOf carriesPayload distinct
      claimed missing =>
      have dots : (header ++ dot :: (body ++ dot :: signature)).count dot = 2 := by
        rw [count_dot_append _ _ plainHeader, count_dot_append _ _ plainBody, List.count_eq_zero.mpr plainSignature]
      have headerRead := (decode_header_iff host header .hs256).mpr ⟨fields, carriesHeader, headerOf⟩
      have payloadRead := (decode_payload_iff host body payload).mpr ⟨.object payload, carriesPayload, distinct, rfl⟩
      have verified : verify [str "hs256"] moment .hs256 payload = .error .undefined := by
        rw [verify, if_pos (by decide +kernel), checkTime, timeClaim, if_pos claimed, fieldAt, missing]
        rfl
      have filled : signature.isEmpty = false := by rw [List.isEmpty_eq_false_iff]; exact nonempty
      rw [decodeToken, decode, if_neg (by decide), dots, if_neg (by decide), three_parts_of header body signature plainHeader plainBody]
      change (decodeHeader host header >>= _) = _
      rw [headerRead]
      change (if _ then _ else _) = _
      rw [if_neg (by rw [filled]; decide)]
      rw [payloadRead]
      change (verify _ moment .hs256 payload >>= _) = _
      rw [verified]
      rfl

def nulPayload : Claims := [(str "exp" ++ [0], .integer 1)]

def nulHost : Host := { sampleHost with parse := Json.parseOf [headerJson, .object nulPayload] }

theorem derailing_tokens_undefined :
    decodeToken sampleHost ⟨0, 0⟩ (str "secret") [0xC3, dot, dot] = .error .undefined ∧
      decodeToken nulHost ⟨0, 0⟩ (str "secret")
        (base64Uri headerJson.text ++ dot :: (base64Uri (Json.object nulPayload).text ++ dot :: str "c2ln")) = .error .undefined := by
  have parsed := parse_of_text [headerJson, .object nulPayload] (by decide +kernel)
  have header : Carries nulHost (base64Uri headerJson.text) headerJson := ⟨_, base64_uri_round_trip _ _, parsed _ List.mem_cons_self⟩
  have body : Carries nulHost (base64Uri (Json.object nulPayload).text) (.object nulPayload) :=
    ⟨_, base64_uri_round_trip _ _, parsed _ (List.mem_cons_of_mem _ List.mem_cons_self)⟩
  constructor
  · exact derailed_undefined sampleHost _
      (.nonAscii [] [dot] 0xC3 rfl (by decide) List.not_mem_nil (List.mem_singleton.mpr rfl)) ⟨0, 0⟩ (str "secret")
  · exact derailed_undefined nulHost _ (.nulName _ _ (str "c2ln") _ nulPayload (uri_encoded_plain _) (uri_encoded_plain _)
      (by decide +kernel) (by decide +kernel) header header_json_of body (by decide +kernel) (by decide +kernel) rfl) ⟨0, 0⟩ (str "secret")

def Defined {α : Type} (value : Except Failure α) : Prop := value ≠ .error .undefined

section

variable {α β : Type}

theorem defined_ok (value : α) : Defined (.ok value) := fun same => by cases same

theorem defined_thrown (what : Bytes) : Defined (.error (.thrown what) : Except Failure α) := fun same => by cases same

theorem defined_bind (value : Except Failure α) (next : α → Except Failure β) (first : Defined value)
    (later : ∀ result, value = .ok result → Defined (next result)) : Defined (value >>= next) := by
  cases value with
  | ok result => exact later result rfl
  | error failure =>
      cases failure with
      | thrown what => exact defined_thrown what
      | undefined => exact absurd rfl first

theorem defined_ite (condition : Prop) [Decidable condition] (first second : Except Failure α) (positive : condition → Defined first)
    (negative : ¬ condition → Defined second) : Defined (if condition then first else second) := by
  by_cases holds : condition
  · rw [if_pos holds]
    exact positive holds
  · rw [if_neg holds]
    exact negative holds

end

theorem get_string_defined (value : Json) : Defined value.getString := by
  cases value with
  | string text => exact defined_ok text
  | _ => exact defined_thrown _

def TimeDefined (payload : Claims) (cname : Bytes) : Prop :=
  hasClaim payload cname = true → ∃ value, payload.lookup cname = some value ∧ Defined value.getUnsignedLong

section

variable (host : Host) (parses : ∀ text, Defined (host.parse text))

include parses

theorem parse_json_defined (encStr : Bytes) (encoded : Encoded host.charSigned encStr) :
    Defined (parseJson host encStr) := by
  obtain ⟨jsonStr, read⟩ := uri_decode_defined host.charSigned encStr encoded
  rw [parseJson, read]
  dsimp only [bind, Except.bind]
  have parsed := parses jsonStr
  generalize host.parse jsonStr = result at parsed
  cases result with
  | ok json => exact defined_ok json
  | error failure =>
      cases failure with
      | thrown what => exact defined_thrown _
      | undefined => exact absurd rfl parsed

theorem decode_header_defined (encStr : Bytes) (encoded : Encoded host.charSigned encStr) :
    Defined (decodeHeader host encStr) := by
  refine defined_bind _ _ (parse_json_defined host parses encStr encoded) (fun json _ => ?_)
  cases json with
  | object fields =>
      dsimp only
      cases fields.lookup (str "alg") with
      | none => exact defined_thrown _
      | some value =>
          refine defined_bind _ _ (get_string_defined value) (fun name _ => defined_bind _ _ ?_ (fun _ _ => ?_))
          · rw [checkTyp]
            cases fields.lookup (str "typ") with
            | none => exact defined_ok ()
            | some typ =>
                refine defined_ite _ _ _ (fun _ => defined_ok ()) (fun _ => defined_bind _ _ (get_string_defined typ) (fun _ _ => ?_))
                exact defined_ite _ _ _ (fun _ => defined_ok ()) (fun _ => defined_thrown _)
          · exact defined_ite _ _ _ (fun _ => defined_ok _) (fun _ => defined_thrown _)
  | _ => exact defined_thrown _

theorem decode_payload_defined (encStr : Bytes) (encoded : Encoded host.charSigned encStr) :
    Defined (decodePayload host encStr) := by
  refine defined_bind _ _ (parse_json_defined host parses encStr encoded) (fun json _ => ?_)
  cases json with
  | object fields => exact defined_ite _ _ _ (fun _ => defined_ok _) (fun _ => defined_thrown _)
  | null => exact defined_ok _
  | array items =>
      cases items with
      | nil => exact defined_ok _
      | cons item items => exact defined_thrown _
  | _ => exact defined_thrown _

end

theorem check_time_defined (payload : Claims) (cname : Bytes) (refused : Nat → Bool) (ec : Errc) (times : TimeDefined payload cname) :
    Defined (checkTime payload cname refused ec) := by
  refine defined_bind _ _ ?_ (fun read _ => ?_)
  · rw [timeClaim]
    refine defined_ite _ _ _ (fun claimed => ?_) (fun _ => defined_ok none)
    obtain ⟨value, found, converts⟩ := times claimed
    rw [fieldAt, found]
    refine defined_bind _ _ (defined_ok value) (fun other same => ?_)
    cases same
    generalize value.getUnsignedLong = number at converts
    cases number with
    | ok seconds => exact defined_ok _
    | error failure =>
        cases failure with
        | thrown what => exact defined_thrown _
        | undefined => exact absurd rfl converts
  · cases read with
    | none => exact defined_ok ()
    | some seconds => exact defined_ite _ _ _ (fun _ => defined_thrown _) (fun _ => defined_ok ())

theorem verify_defined (algos : List Bytes) (moment : Moment) (alg : Algorithm) (payload : Claims) (expiry : TimeDefined payload (str "exp"))
    (maturity : TimeDefined payload (str "nbf")) : Defined (verify algos moment alg payload) := by
  refine defined_ite _ _ _ (fun _ => defined_bind _ _ ?_ (fun _ _ => ?_)) (fun _ => defined_thrown _)
  · exact check_time_defined payload _ _ _ expiry
  · exact check_time_defined payload _ _ _ maturity

theorem hmac_verify_defined (host : Host) (key head sign : Bytes) : Defined (hmacVerify host key head sign) := by
  rw [hmacVerify]
  cases host.hmac key head with
  | none => exact defined_thrown _
  | some encBuf => exact defined_ite _ _ _ (fun _ => defined_thrown _) (fun _ => defined_ok _)

theorem parse_of_defined (values : List Json) (text : Bytes) : Defined (Json.parseOf values text) := by
  unfold Json.parseOf
  split
  · exact defined_ok _
  · exact defined_thrown _

end Eventhub.Jwt
