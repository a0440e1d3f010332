import Eventhub.Jwt.Decode

set_option autoImplicit false

namespace Eventhub.Jwt

open Hub

-- jwt_header with the algorithm HS256, and jwt_payload after add_claim.
def headerJson : Json := .object [(str "alg", .string (str "HS256")), (str "typ", .string (str "JWT"))]

def payloadJson (payload : Claims) : Json := if payload.isEmpty then .null else .object payload

-- base64_enc_dec::base64_encode of a JSON text, and of the bytes of a digest.
def base64Uri (text : Bytes) : Bytes := base64UriEncode (base64Encode text)

def signature (host : Host) (dump : Json → Except Failure Bytes) (secret : Bytes) (payload : Claims) : Except Failure Bytes := do
  if secret.isEmpty then .error (.thrown (str "key not provided"))
  else
    let hdrSign ← dump headerJson
    let pldSign ← dump (payloadJson payload)
    let data := base64Uri hdrSign ++ dot :: base64Uri pldSign
    match host.hmac secret data with
    | none => .error (.thrown (str "signing failed"))
    | some sign => .ok (data ++ dot :: base64Uri sign)

theorem base64_uri_injective (first second : Bytes) (same : base64Uri first = base64Uri second) : first = second := by
  have decoded := base64_uri_round_trip false first
  rw [← base64Uri, same, base64Uri, base64_uri_round_trip false second] at decoded
  cases decoded
  rfl

theorem signature_ok (host : Host) (dump : Json → Except Failure Bytes) (secret : Bytes) (payload : Claims) (token : Bytes)
    (made : signature host dump secret payload = .ok token) :
    ∃ hdrSign pldSign digest, dump headerJson = .ok hdrSign ∧ dump (payloadJson payload) = .ok pldSign ∧
      host.hmac secret (base64Uri hdrSign ++ dot :: base64Uri pldSign) = some digest ∧
      token = base64Uri hdrSign ++ dot :: (base64Uri pldSign ++ dot :: base64Uri digest) := by
  rw [signature] at made
  by_cases unkeyed : secret.isEmpty = true
  · rw [if_pos unkeyed] at made
    cases made
  · rw [if_neg unkeyed] at made
    obtain ⟨hdrSign, header, made⟩ := (bind_ok_iff _ _ _).mp made
    obtain ⟨pldSign, body, made⟩ := (bind_ok_iff _ _ _).mp made
    dsimp only at made
    cases digest : host.hmac secret (base64Uri hdrSign ++ dot :: base64Uri pldSign) with
    | none =>
        rw [digest] at made
        cases made
    | some sign =>
        rw [digest] at made
        cases made
        refine ⟨hdrSign, pldSign, sign, header, body, digest, ?_⟩
        rw [List.append_assoc, List.cons_append]

theorem header_json_of : HeaderOf [(str "alg", .string (str "HS256")), (str "typ", .string (str "JWT"))] .hs256 where
  named := ⟨str "HS256", List.lookup_cons_self, by decide +kernel⟩
  typed := by
    intro _ value found
    have other : (str "typ" == str "alg") = false := by decide +kernel
    rw [List.lookup, other, List.lookup_cons_self] at found
    cases found
    exact ⟨str "JWT", rfl, by decide +kernel⟩
  distinct := by decide +kernel

theorem payload_json_of (payload : Claims) (distinct : distinctNames payload = true) : PayloadOf (payloadJson payload) payload := by
  rw [payloadJson]
  cases payload with
  | nil => rfl
  | cons claim payload => exact ⟨distinct, rfl⟩

theorem carries_unique (host : Host) (encStr : Bytes) (first second : Json) (one : Carries host encStr first)
    (two : Carries host encStr second) : first = second := by
  obtain ⟨text, decoded, parsed⟩ := one
  obtain ⟨other, again, reparsed⟩ := two
  cases decoded.symm.trans again
  exact Except.ok.inj (parsed.symm.trans reparsed)

theorem payload_json_unique (payload claims : Claims) (payloadOf : PayloadOf (payloadJson payload) claims) : claims = payload := by
  rw [payloadJson] at payloadOf
  cases payload with
  | nil => exact payloadOf
  | cons claim payload => exact payloadOf.2

theorem accepted_claims (host : Host) (other header body digest : Bytes) (payload claims : Claims) (plainHeader : dot ∉ header)
    (plainBody : dot ∉ body) (carries : Carries host body (payloadJson payload))
    (authentic : Authentic host other (header ++ dot :: (body ++ dot :: base64Uri digest)) claims) :
    claims = payload ∧ host.hmac other (header ++ dot :: body) = some digest := by
  generalize token : header ++ dot :: (body ++ dot :: base64Uri digest) = text at authentic
  cases authentic with
  | signed header' body' digest' fields json _ plainHeader' plainBody' _ _ carries' payloadOf made nonempty =>
      have parts := congrArg threeParts token
      rw [three_parts_of _ _ _ plainHeader plainBody, three_parts_of _ _ _ plainHeader' plainBody'] at parts
      obtain ⟨sameHeader, rest⟩ := Prod.mk.inj parts
      obtain ⟨sameBody, sameSign⟩ := Prod.mk.inj rest
      rw [← sameBody] at carries'
      rw [carries_unique host body json _ carries' carries] at payloadOf
      rw [sameHeader, sameBody, base64_uri_injective digest digest' sameSign]
      exact ⟨payload_json_unique payload claims payloadOf, made⟩

theorem signed_token_accepted_iff (host : Host) (dump : Json → Except Failure Bytes) (secret : Bytes) (payload : Claims) (token : Bytes)
    (made : signature host dump secret payload = .ok token)
    (readsBack : ∀ value ∈ [headerJson, payloadJson payload], ∀ text, dump value = .ok text → host.parse text = .ok value)
    (distinct : distinctNames payload = true) (digests : ∀ data, host.hmac secret data ≠ some []) :
    ∃ data digest, token = data ++ dot :: base64Uri digest ∧ host.hmac secret data = some digest ∧
      ∀ moment other claims, decodeToken host moment other token = .ok claims ↔
        claims = payload ∧ Timely moment payload ∧ host.hmac other data = some digest := by
  obtain ⟨hdrSign, pldSign, digest, header, body, hmac, rfl⟩ := signature_ok host dump secret payload token made
  have plainHeader : dot ∉ base64Uri hdrSign := uri_encoded_plain hdrSign
  have plainBody : dot ∉ base64Uri pldSign := uri_encoded_plain pldSign
  have carriesHeader : Carries host (base64Uri hdrSign) headerJson :=
    ⟨hdrSign, base64_uri_round_trip _ hdrSign, readsBack headerJson List.mem_cons_self hdrSign header⟩
  have carriesPayload : Carries host (base64Uri pldSign) (payloadJson payload) :=
    ⟨pldSign, base64_uri_round_trip _ pldSign,
      readsBack (payloadJson payload) (List.mem_cons_of_mem _ List.mem_cons_self) pldSign body⟩
  have nonempty : digest ≠ [] := fun empty => digests _ (empty ▸ hmac)
  refine ⟨base64Uri hdrSign ++ dot :: base64Uri pldSign, digest, by rw [List.append_assoc, List.cons_append], hmac,
    fun moment other claims => ?_⟩
  constructor
  · intro decoded
    obtain ⟨authentic, timely⟩ := decode_authentic host moment other _ claims decoded
    obtain ⟨rfl, same⟩ := accepted_claims host other _ _ digest payload claims plainHeader plainBody carriesPayload authentic
    exact ⟨rfl, timely, same⟩
  · rintro ⟨rfl, timely, same⟩
    refine authentic_decodes host moment other _ claims ?_ timely
    exact .signed _ _ digest _ (payloadJson claims) claims plainHeader plainBody carriesHeader header_json_of carriesPayload
      (payload_json_of claims distinct) same nonempty

def samplePayload : Claims :=
  [(str "exp", .integer 4102444800), (str "nbf", .integer 1700000000), (str "read", .array [.string (str "a")])]

def sampleToken : Bytes :=
  str "eyJhbGciOiJIUzI1NiIsInR5cCI6IkpXVCJ9.eyJleHAiOjQxMDI0NDQ4MDAsIm5iZiI6MTcwMDAwMDAwMCwicmVhZCI6WyJhIl19." ++
    str "vnVipYMiq-n6YB4aOU0yFr6qQ95wiAo2ft_76ZDKqSI"

-- The digests of its first two parts with two secrets.
def sampleDigests : List (Bytes × Bytes) :=
  [(str "secret", [190, 117, 98, 165, 131, 34, 171, 233, 250, 96, 30, 26, 57, 77, 50, 22, 190, 170, 67, 222, 112, 136, 10, 54, 126, 223,
      251, 233, 144, 202, 169, 34]),
    (str "other", [246, 252, 125, 99, 175, 190, 59, 33, 4, 249, 135, 117, 168, 170, 108, 146, 78, 238, 23, 215, 151, 91, 79, 170, 35, 61,
      130, 74, 119, 143, 78, 64])]

def sampleHost : Host where
  charSigned := true
  parse := Json.parseOf [headerJson, payloadJson samplePayload]
  hmac := fun secret data =>
    if data = base64Uri headerJson.text ++ dot :: base64Uri (payloadJson samplePayload).text then sampleDigests.lookup secret else none

theorem sample_made : signature sampleHost (fun value => .ok value.text) (str "secret") samplePayload = .ok sampleToken := by
  decide +kernel

theorem sample_timely : Timely ⟨1800000000, 1800000000⟩ samplePayload where
  unexpired := ⟨_, .present (.integer 4102444800) 4102444800 (by decide +kernel) rfl rfl, by decide⟩
  mature := ⟨_, .present (.integer 1700000000) 1700000000 (by decide +kernel) rfl rfl, by decide⟩

theorem sample_token_accepted_iff :
    Timely ⟨1800000000, 1800000000⟩ samplePayload ∧
    ∃ data digest, sampleToken = data ++ dot :: base64Uri digest ∧ sampleHost.hmac (str "secret") data = some digest ∧
      ∀ moment other claims, decodeToken sampleHost moment other sampleToken = .ok claims ↔
        claims = samplePayload ∧ Timely moment samplePayload ∧ sampleHost.hmac other data = some digest := by
  refine ⟨sample_timely, signed_token_accepted_iff sampleHost _ (str "secret") samplePayload sampleToken sample_made ?_ (by decide +kernel) ?_⟩
  · intro value inside text dumped
    cases dumped
    exact parse_of_text [headerJson, payloadJson samplePayload] (by decide +kernel) value inside
  · intro data
    change (if _ then _ else _) ≠ some []
    split
    · decide +kernel
    · exact fun same => nomatch same

end Eventhub.Jwt
