import Eventhub.Lib.Radix64
import Eventhub.Json

set_option autoImplicit false

namespace Eventhub.Jwt

open Hub

def emap : Bytes := str "ABCDEFGHIJKLMNOPQRSTUVWXYZabcdefghijklmnopqrstuvwxyz0123456789+/"

def emapAt (pos : UInt8) : UInt8 := emap.getD pos.toNat 0

def equals : UInt8 := 61

-- A char is promoted to int with its sign; the masks take the sign bits away.
def base64Encode : Bytes → Bytes
  | [] => []
  | [first] => [emapAt ((first >>> 2) &&& 0x3F), emapAt ((first &&& 0x03) <<< 4), equals, equals]
  | [first, second] =>
      [emapAt ((first >>> 2) &&& 0x3F), emapAt (((first &&& 0x03) <<< 4) ||| ((second &&& 0xF0) >>> 4)),
        emapAt ((second &&& 0x0F) <<< 2), equals]
  | first :: second :: third :: rest =>
      emapAt ((first >>> 2) &&& 0x3F) :: emapAt (((first &&& 0x03) <<< 4) ||| ((second &&& 0xF0) >>> 4)) ::
        emapAt (((second &&& 0x0F) <<< 2) ||| ((third &&& 0xC0) >>> 6)) :: emapAt (third &&& 0x3F) :: base64Encode rest

def base64UriEncode : Bytes → Bytes
  | [] => []
  | c :: rest =>
      if c = plus then hyphen :: base64UriEncode rest
      else if c = slash then underscore :: base64UriEncode rest
      else if c = equals then base64UriEncode rest
      else c :: base64UriEncode rest

def dmap : List Int8 :=
  [-1, -1, -1, -1, -1, -1, -1, -1, -1, -1, -1, -1, -1, -1, -1, -1,
   -1, -1, -1, -1, -1, -1, -1, -1, -1, -1, -1, -1, -1, -1, -1, -1,
   -1, -1, -1, -1, -1, -1, -1, -1, -1, -1, -1, 62, -1, -1, -1, 63,
   52, 53, 54, 55, 56, 57, 58, 59, 60, 61, -1, -1, -1, -1, -1, -1,
   -1, 0, 1, 2, 3, 4, 5, 6, 7, 8, 9, 10, 11, 12, 13, 14,
   15, 16, 17, 18, 19, 20, 21, 22, 23, 24, 25, -1, -1, -1, -1, -1,
   -1, 26, 27, 28, 29, 30, 31, 32, 33, 34, 35, 36, 37, 38, 39, 40,
   41, 42, 43, 44, 45, 46, 47, 48, 49, 50, 51, -1, -1, -1, -1, -1] ++ List.replicate 128 (-1)

-- A negative number cannot be shifted to the left before C++20.
def shiftLeft (value width : Int8) : Except Failure Int8 := if value < 0 then .error .undefined else .ok (value <<< width)

-- What is assigned to result[i], result[i + 1] and result[i + 2].
def octet1 (first second : Int8) : Except Failure UInt8 := return ((← shiftLeft first 2) ||| (second >>> 4)).toUInt8
def octet2 (second third : Int8) : Except Failure UInt8 := return ((← shiftLeft second 4) ||| (third >>> 2)).toUInt8
def octet3 (third fourth : Int8) : Except Failure UInt8 := return ((← shiftLeft third 6) ||| fourth).toUInt8

-- Behind result, which is decodedSiz long.
def store (decodedSiz : Nat) (result octets : Bytes) : Except Failure Bytes :=
  if result.length + octets.length ≤ decodedSiz then .ok (result ++ octets) else .error .undefined

section

variable (charSigned : Bool)

-- Where char is signed, the index of a byte above 127 is not within the table.
def indexable (c : UInt8) : Bool := !charSigned || decide (c < 128)

def dmapAt (c : UInt8) : Except Failure Int8 := if indexable charSigned c then .ok (dmap.getD c.toNat (-1)) else .error .undefined

-- The characters from the last one on.
def dropTrailing : Bytes → Except Failure Bytes
  | [] => .ok []
  | c :: rest =>
      match dmapAt charSigned c with
      | .error failure => .error failure
      | .ok value => if value = -1 then dropTrailing rest else .ok (c :: rest)

-- An invalid character at the start of a group ends the loop with what has been
-- stored, and zero bytes in the rest of result.
def decodeLoop (decodedSiz : Nat) (result : Bytes) : Bytes → Except Failure Bytes
  | [] => .ok result
  | [_] => .ok result
  | [c1, c2] => do
      let first ← dmapAt charSigned c1
      let second ← dmapAt charSigned c2
      store decodedSiz result [← octet1 first second]
  | [c1, c2, c3] => do
      let first ← dmapAt charSigned c1
      let second ← dmapAt charSigned c2
      let third ← dmapAt charSigned c3
      store decodedSiz result [← octet1 first second, ← octet2 second third]
  | [c1, c2, c3, c4] => do
      let first ← dmapAt charSigned c1
      let second ← dmapAt charSigned c2
      let third ← dmapAt charSigned c3
      let fourth ← dmapAt charSigned c4
      store decodedSiz result [← octet1 first second, ← octet2 second third, ← octet3 third fourth]
  | c1 :: c2 :: c3 :: c4 :: c5 :: rest => do
      let first ← dmapAt charSigned c1
      if first = -1 then .ok (result ++ List.replicate (decodedSiz - result.length) 0)
      else
        let second ← dmapAt charSigned c2
        let third ← dmapAt charSigned c3
        let fourth ← dmapAt charSigned c4
        let stored ← store decodedSiz result [← octet1 first second, ← octet2 second third, ← octet3 third fourth]
        decodeLoop decodedSiz stored (c5 :: rest)

def base64Decode (text : Bytes) : Except Failure Bytes := do
  let kept ← dropTrailing charSigned text.reverse
  decodeLoop charSigned (text.length / 4 * 3) [] kept.reverse

def uriUnsafe (c : UInt8) : UInt8 := if c = hyphen then plus else if c = underscore then slash else c

-- uri_dec has four characters more than data; those that are not set are NUL.
def uriDec (data : Bytes) : Bytes :=
  let trailer := if data.length % 4 = 0 then 0 else 4 - data.length % 4
  data.map uriUnsafe ++
    List.replicate trailer equals ++ List.replicate (4 - trailer) 0

def base64UriDecode (data : Bytes) : Except Failure Bytes := base64Decode charSigned (uriDec data)

end

def sextetsOf (bytes : Bytes) : List Nat := Radix64.sextets (bytes.map UInt8.toNat)

def letter (sextet : Nat) : UInt8 := emapAt (UInt8.ofNat sextet)

theorem byte_parts (c : UInt8) :
    (c >>> 2) &&& 0x3F = UInt8.ofNat (c.toNat / 4) ∧ (c &&& 0x03) <<< 4 = UInt8.ofNat (c.toNat % 4 * 16) ∧
      (c &&& 0xF0) >>> 4 = UInt8.ofNat (c.toNat / 16) ∧ (c &&& 0x0F) <<< 2 = UInt8.ofNat (c.toNat % 16 * 4) ∧
      (c &&& 0xC0) >>> 6 = UInt8.ofNat (c.toNat / 64) ∧ c &&& 0x3F = UInt8.ofNat (c.toNat % 64) := by
  revert c
  apply every_byte
  decide +kernel

theorem joined_bits (width high low : Nat) (small : low < 2 ^ width) :
    UInt8.ofNat (high * 2 ^ width) ||| UInt8.ofNat low = UInt8.ofNat (high * 2 ^ width + low) := by
  rw [← Nat.shiftLeft_eq, Nat.shiftLeft_add_eq_or_of_lt small, UInt8.ofNat_or]

theorem first_index (first : UInt8) : emapAt ((first >>> 2) &&& 0x3F) = letter (first.toNat / 4) := by
  rw [(byte_parts first).1, letter]

theorem second_index (first second : UInt8) :
    emapAt (((first &&& 0x03) <<< 4) ||| ((second &&& 0xF0) >>> 4)) = letter (first.toNat % 4 * 16 + second.toNat / 16) := by
  have small := second.toNat_lt
  rw [(byte_parts first).2.1, (byte_parts second).2.2.1]
  exact congrArg emapAt (joined_bits 4 (first.toNat % 4) (second.toNat / 16) (by omega))

theorem third_index (second third : UInt8) :
    emapAt (((second &&& 0x0F) <<< 2) ||| ((third &&& 0xC0) >>> 6)) = letter (second.toNat % 16 * 4 + third.toNat / 64) := by
  have small := third.toNat_lt
  rw [(byte_parts second).2.2.2.1, (byte_parts third).2.2.2.2.1]
  exact congrArg emapAt (joined_bits 2 (second.toNat % 16) (third.toNat / 64) (by omega))

theorem base64_encode_letters (bytes : Bytes) :
    ∃ trailer, base64Encode bytes = (sextetsOf bytes).map letter ++ List.replicate trailer equals := by
  induction bytes using base64Encode.induct with
  | case1 => exact ⟨0, rfl⟩
  | case2 first =>
      refine ⟨2, ?_⟩
      rw [base64Encode, first_index, (byte_parts first).2.1]
      rfl
  | case3 first second =>
      refine ⟨1, ?_⟩
      rw [base64Encode, first_index, second_index, (byte_parts second).2.2.2.1]
      rfl
  | case4 first second third rest ih =>
      obtain ⟨trailer, later⟩ := ih
      refine ⟨trailer, ?_⟩
      rw [base64Encode, first_index, second_index, third_index, (byte_parts third).2.2.2.2.2, later]
      rfl

def uriSafe (c : UInt8) : UInt8 := if c = plus then hyphen else if c = slash then underscore else c

theorem letter_facts (sextet : Nat) (small : sextet < 64) :
    letter sextet < 128 ∧ dmap.getD (letter sextet).toNat (-1) = Int8.ofNat sextet ∧ Int8.ofNat sextet ≠ -1 ∧
      letter sextet ≠ equals ∧ uriUnsafe (uriSafe (letter sextet)) = letter sextet ∧ uriSafe (letter sextet) ≠ 46 := by
  revert sextet
  decide +kernel

theorem uri_encode_letters (sextets : List Nat) (small : ∀ sextet ∈ sextets, sextet < 64) (trailer : Nat) :
    base64UriEncode (sextets.map letter ++ List.replicate trailer equals) = sextets.map (fun sextet => uriSafe (letter sextet)) := by
  induction sextets with
  | nil =>
      induction trailer with
      | zero => rfl
      | succ trailer ih => exact ih
  | cons sextet sextets ih =>
      have other := (letter_facts sextet (small sextet List.mem_cons_self)).2.2.2.1
      have later := ih (fun sextet inside => small sextet (List.mem_cons_of_mem _ inside))
      rw [List.map_cons, List.map_cons, List.cons_append, base64UriEncode, later, uriSafe]
      by_cases isPlus : letter sextet = plus
      · rw [if_pos isPlus, if_pos isPlus]
      · rw [if_neg isPlus, if_neg isPlus]
        by_cases isSlash : letter sextet = slash
        · rw [if_pos isSlash, if_pos isSlash]
        · rw [if_neg isSlash, if_neg isSlash, if_neg other]

theorem bytes_bounded (bytes : Bytes) : ∀ byte ∈ bytes.map UInt8.toNat, byte < 256 := by
  intro byte inside
  obtain ⟨c, _, rfl⟩ := List.mem_map.mp inside
  exact c.toNat_lt

theorem sextets_of_small (bytes : Bytes) : ∀ sextet ∈ sextetsOf bytes, sextet < 64 := Radix64.sextets_small _ (bytes_bounded bytes)

theorem uri_encoded (bytes : Bytes) :
    base64UriEncode (base64Encode bytes) = (sextetsOf bytes).map (fun sextet => uriSafe (letter sextet)) := by
  obtain ⟨trailer, encoded⟩ := base64_encode_letters bytes
  rw [encoded, uri_encode_letters _ (sextets_of_small bytes)]

theorem uri_encoded_plain (bytes : Bytes) : 46 ∉ base64UriEncode (base64Encode bytes) := by
  intro inside
  rw [uri_encoded] at inside
  obtain ⟨sextet, there, same⟩ := List.mem_map.mp inside
  exact (letter_facts sextet (sextets_of_small bytes sextet there)).2.2.2.2.2 same

theorem uri_encoded_nonempty (bytes : Bytes) (nonempty : bytes ≠ []) : base64UriEncode (base64Encode bytes) ≠ [] := by
  rw [uri_encoded, ne_eq, List.map_eq_nil_iff]
  cases bytes with
  | nil => exact absurd rfl nonempty
  | cons first rest =>
      cases rest with
      | nil => exact List.cons_ne_nil _ _
      | cons second rest => cases rest <;> exact List.cons_ne_nil _ _

theorem uri_letters_back (sextets : List Nat) (small : ∀ sextet ∈ sextets, sextet < 64) :
    (sextets.map (fun sextet => uriSafe (letter sextet))).map uriUnsafe = sextets.map letter := by
  rw [List.map_map]
  exact List.map_congr_left (fun sextet inside => (letter_facts sextet (small sextet inside)).2.2.2.2.1)

theorem sextet_shifts (sextet : Nat) (small : sextet < 64) :
    shiftLeft (Int8.ofNat sextet) 2 = .ok (Int8.ofNat (sextet * 4)) ∧ shiftLeft (Int8.ofNat sextet) 4 = .ok (Int8.ofNat (sextet % 16 * 16)) ∧
      shiftLeft (Int8.ofNat sextet) 6 = .ok (Int8.ofNat (sextet % 4 * 64)) ∧ (Int8.ofNat sextet >>> 4) = Int8.ofNat (sextet / 16) ∧
      (Int8.ofNat sextet >>> 2) = Int8.ofNat (sextet / 4) := by
  revert sextet
  decide +kernel

theorem joined_octet (width high low : Nat) (small : low < 2 ^ width) :
    (Int8.ofNat (high * 2 ^ width) ||| Int8.ofNat low).toUInt8 = UInt8.ofNat (high * 2 ^ width + low) := joined_bits width high low small

theorem octet1_value (first second : Nat) (one : first < 64) (two : second < 64) :
    octet1 (Int8.ofNat first) (Int8.ofNat second) = .ok (UInt8.ofNat (first * 4 + second / 16)) := by
  rw [octet1, (sextet_shifts first one).1, (sextet_shifts second two).2.2.2.1]
  exact congrArg Except.ok (joined_octet 2 first (second / 16) (by omega))

theorem octet2_value (second third : Nat) (two : second < 64) (three : third < 64) :
    octet2 (Int8.ofNat second) (Int8.ofNat third) = .ok (UInt8.ofNat (second % 16 * 16 + third / 4)) := by
  rw [octet2, (sextet_shifts second two).2.1, (sextet_shifts third three).2.2.2.2]
  exact congrArg Except.ok (joined_octet 4 (second % 16) (third / 4) (by omega))

theorem octet3_value (third fourth : Nat) (three : third < 64) (four : fourth < 64) :
    octet3 (Int8.ofNat third) (Int8.ofNat fourth) = .ok (UInt8.ofNat (third % 4 * 64 + fourth)) := by
  rw [octet3, (sextet_shifts third three).2.2.1]
  exact congrArg Except.ok (joined_octet 6 (third % 4) fourth four)

section

variable (charSigned : Bool)

theorem ascii_indexable (c : UInt8) (ascii : c < 128) : indexable charSigned c = true := by
  rw [indexable, decide_eq_true ascii, Bool.or_true]

theorem dmap_at_indexable (c : UInt8) (within : indexable charSigned c = true) :
    dmapAt charSigned c = .ok (dmap.getD c.toNat (-1)) := if_pos within

theorem dmap_at_letter (sextet : Nat) (small : sextet < 64) : dmapAt charSigned (letter sextet) = .ok (Int8.ofNat sextet) := by
  obtain ⟨ascii, value, _⟩ := letter_facts sextet small
  rw [dmap_at_indexable charSigned _ (ascii_indexable charSigned _ ascii), value]

theorem uri_dec_tail (data : Bytes) :
    ∃ tail, uriDec data = data.map uriUnsafe ++ tail ∧ tail.length = 4 ∧ ∀ c ∈ tail, dmapAt charSigned c = .ok (-1) := by
  unfold uriDec
  dsimp only
  rw [List.append_assoc]
  refine ⟨_, rfl, ?_, ?_⟩
  · rw [List.length_append, List.length_replicate, List.length_replicate]
    split <;> omega
  · intro c inside
    rcases List.mem_append.mp inside with padding | unset
    · rw [List.eq_of_mem_replicate padding, dmap_at_indexable charSigned equals (ascii_indexable charSigned equals (by decide))]
      rfl
    · rw [List.eq_of_mem_replicate unset, dmap_at_indexable charSigned 0 (ascii_indexable charSigned 0 (by decide))]
      rfl

theorem drop_trailing_invalid (tail rest : Bytes) (invalid : ∀ c ∈ tail, dmapAt charSigned c = .ok (-1)) :
    dropTrailing charSigned (tail ++ rest) = dropTrailing charSigned rest := by
  induction tail with
  | nil => rfl
  | cons c tail ih =>
      have later := ih (fun c inside => invalid c (List.mem_cons_of_mem _ inside))
      rw [List.cons_append, dropTrailing, invalid c List.mem_cons_self]
      exact (if_pos rfl).trans later

theorem drop_trailing_letters (sextets : List Nat) (small : ∀ sextet ∈ sextets, sextet < 64) :
    dropTrailing charSigned (sextets.map letter) = .ok (sextets.map letter) := by
  cases sextets with
  | nil => rfl
  | cons sextet sextets =>
      have inside := small sextet List.mem_cons_self
      rw [List.map_cons, dropTrailing, dmap_at_letter charSigned sextet inside]
      exact if_neg (letter_facts sextet inside).2.2.1

theorem decode_letters (decodedSiz : Nat) (sextets : List Nat) (small : ∀ sextet ∈ sextets, sextet < 64) (result : Bytes)
    (room : result.length + (Radix64.octets sextets).length ≤ decodedSiz) :
    decodeLoop charSigned decodedSiz result (sextets.map letter) = .ok (result ++ (Radix64.octets sextets).map UInt8.ofNat) := by
  induction sextets using Radix64.octets.induct generalizing result with
  | case1 => exact congrArg Except.ok (List.append_nil result).symm
  | case2 => exact congrArg Except.ok (List.append_nil result).symm
  | case3 first second =>
      simp only [List.forall_mem_cons] at small
      obtain ⟨one, two, _⟩ := small
      rw [List.map_cons, List.map_cons, List.map_nil, decodeLoop, dmap_at_letter charSigned first one,
        dmap_at_letter charSigned second two]
      change (octet1 _ _ >>= _) = _
      rw [octet1_value first second one two]
      exact if_pos room
  | case4 first second third =>
      simp only [List.forall_mem_cons] at small
      obtain ⟨one, two, three, _⟩ := small
      rw [List.map_cons, List.map_cons, List.map_cons, List.map_nil, decodeLoop, dmap_at_letter charSigned first one,
        dmap_at_letter charSigned second two, dmap_at_letter charSigned third three]
      change (octet1 _ _ >>= fun _ => octet2 _ _ >>= _) = _
      rw [octet1_value first second one two, octet2_value second third two three]
      exact if_pos room
  | case5 first second third fourth rest ih =>
      simp only [List.forall_mem_cons] at small
      obtain ⟨one, two, three, four, later⟩ := small
      have firstValue := octet1_value first second one two
      have secondValue := octet2_value second third two three
      have thirdValue := octet3_value third fourth three four
      simp only [Radix64.octets, List.length_cons] at room
      cases rest with
      | nil =>
          rw [List.map_cons, List.map_cons, List.map_cons, List.map_cons, List.map_nil, decodeLoop, dmap_at_letter charSigned first one,
            dmap_at_letter charSigned second two, dmap_at_letter charSigned third three, dmap_at_letter charSigned fourth four]
          change (octet1 _ _ >>= fun _ => octet2 _ _ >>= fun _ => octet3 _ _ >>= _) = _
          rw [firstValue, secondValue, thirdValue]
          exact if_pos room
      | cons fifth rest =>
          obtain ⟨group, size, octets⟩ : ∃ group, group.length = 3 ∧ group = [UInt8.ofNat (first * 4 + second / 16),
            UInt8.ofNat (second % 16 * 16 + third / 4), UInt8.ofNat (third % 4 * 64 + fourth)] := ⟨_, rfl, rfl⟩
          have after := ih later (result ++ group) (by rw [List.length_append]; omega)
          rw [List.map_cons, List.map_cons, List.map_cons, List.map_cons, List.map_cons, decodeLoop, dmap_at_letter charSigned first one,
            dmap_at_letter charSigned second two, dmap_at_letter charSigned third three, dmap_at_letter charSigned fourth four]
          refine (if_neg (letter_facts first one).2.2.1).trans ?_
          change (octet1 _ _ >>= fun _ => octet2 _ _ >>= fun _ => octet3 _ _ >>= _) = _
          rw [firstValue, secondValue, thirdValue]
          change (store _ _ [_, _, _] >>= _) = _
          rw [← octets, store, if_pos (by omega)]
          refine after.trans ?_
          rw [List.append_assoc, octets]
          rfl

theorem uri_decode_letters (data tail : Bytes) (sextets : List Nat) (small : ∀ sextet ∈ sextets, sextet < 64)
    (mapped : data.map uriUnsafe = sextets.map letter ++ tail) (invalid : ∀ c ∈ tail, dmapAt charSigned c = .ok (-1)) :
    base64UriDecode charSigned data = .ok ((Radix64.octets sextets).map UInt8.ofNat) := by
  obtain ⟨padding, buffer, four, unset⟩ := uri_dec_tail charSigned data
  have ignored : ∀ c ∈ (tail ++ padding).reverse, dmapAt charSigned c = .ok (-1) := by
    intro c inside
    exact (List.mem_append.mp (List.mem_reverse.mp inside)).elim (invalid c) (unset c)
  have kept : dropTrailing charSigned (sextets.map letter ++ (tail ++ padding)).reverse = .ok (sextets.map letter).reverse := by
    rw [List.reverse_append, drop_trailing_invalid charSigned _ _ ignored, ← List.map_reverse,
      drop_trailing_letters charSigned _ (fun sextet inside => small sextet (List.mem_reverse.mp inside))]
  have room : ([] : Bytes).length + (Radix64.octets sextets).length ≤ (sextets.map letter ++ (tail ++ padding)).length / 4 * 3 := by
    rw [Radix64.octets_length, List.length_append, List.length_append, List.length_map, four, List.length_nil]
    omega
  rw [base64UriDecode, buffer, mapped, List.append_assoc, base64Decode, kept]
  change decodeLoop charSigned _ [] (sextets.map letter).reverse.reverse = _
  rw [List.reverse_reverse, decode_letters charSigned _ _ small [] room, List.nil_append]

theorem base64_uri_round_trip (bytes : Bytes) : base64UriDecode charSigned (base64UriEncode (base64Encode bytes)) = .ok bytes := by
  have small := sextets_of_small bytes
  have octets : (Radix64.octets (sextetsOf bytes)).map UInt8.ofNat = bytes := by
    rw [sextetsOf, Radix64.octets_sextets _ (bytes_bounded bytes), List.map_map]
    exact (List.map_congr_left (fun c _ => UInt8.ofNat_toNat)).trans (List.map_id bytes)
  rw [uri_encoded, uri_decode_letters charSigned _ [] _ small, octets]
  · rw [uri_letters_back _ small, List.append_nil]
  · exact fun c inside => absurd inside List.not_mem_nil

-- Letters of the alphabet, and other characters behind them only.
def Encoded (data : Bytes) : Prop :=
  ∃ letters tail, data = letters ++ tail ∧ (∀ c ∈ letters, ∃ sextet < 64, uriUnsafe c = letter sextet) ∧
    ∀ c ∈ tail, dmapAt charSigned (uriUnsafe c) = .ok (-1)

theorem uri_text_encoded (bytes : Bytes) : Encoded charSigned (base64UriEncode (base64Encode bytes)) := by
  refine ⟨_, [], (List.append_nil _).symm, ?_, fun _ inside => absurd inside List.not_mem_nil⟩
  rw [uri_encoded]
  refine List.forall_mem_map.mpr (fun sextet inside => ?_)
  have small := sextets_of_small bytes sextet inside
  exact ⟨sextet, small, (letter_facts sextet small).2.2.2.2.1⟩

theorem letters_sextets (letters : Bytes) (known : ∀ c ∈ letters, ∃ sextet < 64, uriUnsafe c = letter sextet) :
    ∃ sextets : List Nat, (∀ sextet ∈ sextets, sextet < 64) ∧ letters.map uriUnsafe = sextets.map letter := by
  induction letters with
  | nil => exact ⟨[], fun _ inside => absurd inside List.not_mem_nil, rfl⟩
  | cons c letters ih =>
      obtain ⟨sextet, small, same⟩ := known c List.mem_cons_self
      obtain ⟨sextets, rest, mapped⟩ := ih (fun c inside => known c (List.mem_cons_of_mem _ inside))
      exact ⟨sextet :: sextets, List.forall_mem_cons.mpr ⟨small, rest⟩, by rw [List.map_cons, List.map_cons, same, mapped]⟩

theorem uri_decode_defined (data : Bytes) (encoded : Encoded charSigned data) :
    ∃ decoded, base64UriDecode charSigned data = .ok decoded := by
  obtain ⟨letters, tail, rfl, known, invalid⟩ := encoded
  obtain ⟨sextets, small, mapped⟩ := letters_sextets letters known
  refine ⟨_, uri_decode_letters charSigned _ (tail.map uriUnsafe) sextets small ?_ (List.forall_mem_map.mpr invalid)⟩
  rw [List.map_append, mapped]

theorem uri_decode_undefined (data : Bytes) (c : UInt8) (beyond : indexable charSigned c = false) :
    base64UriDecode charSigned (data ++ [c]) = .error .undefined := by
  obtain ⟨tail, buffer, _, invalid⟩ := uri_dec_tail charSigned (data ++ [c])
  have same : uriUnsafe c = c := by
    rw [uriUnsafe, if_neg (fun equal => by rw [equal] at beyond; cases charSigned <;> cases beyond),
      if_neg (fun equal => by rw [equal] at beyond; cases charSigned <;> cases beyond)]
  rw [base64UriDecode, base64Decode, buffer, List.reverse_append,
    drop_trailing_invalid charSigned _ _ (fun c inside => invalid c (List.mem_reverse.mp inside)), List.map_append, List.map_singleton,
    same, List.reverse_append, List.reverse_singleton, List.singleton_append, dropTrailing, dmapAt, beyond]
  rfl

end

-- e!30
example : base64UriDecode true [101, 33, 51, 48] = .error .undefined := by decide +kernel

end Eventhub.Jwt
