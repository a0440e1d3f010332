import Eventhub.Redis.CacheMessage
import Eventhub.TopicFilter

set_option autoImplicit false

namespace Eventhub.Redis

def isspace (c : UInt8) : Bool := c = 32 || (9 ≤ c && c ≤ 13)

-- std::stoull(text, nullptr, 10), where none stands for either exception. A
-- minus sign negates modulo 2^64.
def stoull (text : Bytes) : Option Nat :=
  let trimmed := text.dropWhile isspace
  let signed := trimmed.head? = some hyphen ∨ trimmed.head? = some plus
  let digits := (if signed then trimmed.tail else trimmed).takeWhile Decimal.isDigit
  if digits = [] then none
  else if 2 ^ 64 ≤ Decimal.value digits then none
  else if trimmed.head? = some hyphen then some ((2 ^ 64 - Decimal.value digits) % 2 ^ 64)
  else some (Decimal.value digits)

-- std::stoi and std::stol in base 10, whose results have bits + 1 bits.
def stoSigned (bits : Nat) (text : Bytes) : Option Int :=
  let trimmed := text.dropWhile isspace
  let signed := trimmed.head? = some hyphen ∨ trimmed.head? = some plus
  let digits := (if signed then trimmed.tail else trimmed).takeWhile Decimal.isDigit
  if digits = [] then none
  else
    let number : Int := if trimmed.head? = some hyphen then -(Decimal.value digits : Int) else Decimal.value digits
    if number < -2 ^ bits ∨ 2 ^ bits ≤ number then none else some number

def toLongLong (number : Nat) : Int := if number < 2 ^ 63 then number else (number : Int) - 2 ^ 64

def splitIdAndSeq (cacheId : Bytes) : Option (Int × Int) :=
  let tsStr := cacheId.takeWhile (· ≠ hyphen)
  match cacheId.dropWhile (· ≠ hyphen) with
  | [] => none
  | _ :: seqStr =>
      if tsStr = [] then none
      else do
        let timestamp ← stoull tsStr
        let seq ← stoull seqStr
        return (toLongLong timestamp, toLongLong seq)

structure MetaFields where
  id : Bytes
  expireAtStr : Bytes
  origin : Bytes

def metaLoop : Nat → MetaFields → Bytes → Nat × MetaFields
  | j, fields, [] => (j, fields)
  | j, fields, c :: rest =>
      if c = colon then metaLoop (j + 1) fields rest
      else if j = 0 then metaLoop j { fields with id := fields.id ++ [c] } rest
      else if j = 1 then metaLoop j { fields with expireAtStr := fields.expireAtStr ++ [c] } rest
      else if j = 2 then metaLoop j { fields with origin := fields.origin ++ [c] } rest
      else metaLoop j fields rest

-- CacheItemMeta(const std::string&); stoul reads what stoull reads.
def CacheItemMeta.ofStr (metaStr : Bytes) : Option CacheItemMeta :=
  let parsed := metaLoop 0 ⟨[], [], []⟩ metaStr
  if parsed.1 < 1 then none
  else (stoull parsed.2.expireAtStr).map (fun expireAt => ⟨parsed.2.id, expireAt, parsed.2.origin⟩)

-- One JSON object of the result; an empty origin is an absent field.
structure CacheItem where
  id : Bytes
  topic : Bytes
  message : Bytes
  origin : Bytes
deriving DecidableEq

def getTopicsSeen (allTopics : List Bytes) (topicPattern : Bytes) : List Bytes := allTopics.filter (isFilterMatched topicPattern)

-- The keys that parse and have not expired, oldest first.
def cacheKeys (now : Nat) (zcacheKeys : List Bytes) : List CacheItemMeta :=
  (zcacheKeys.filterMap CacheItemMeta.ofStr).filter (fun item => now ≤ item.expireAt)

def scoreKeys (keyspace : Bytes) (db : Db) (topic : Bytes) (since limit : Int) : List Bytes :=
  (db.zrevrangebyscore (cacheScorePath keyspace topic) (Binary64.ofInt since) limit).reverse

-- originIdMap[id]: the last key with this id wins.
def originOf (items : List CacheItemMeta) (id : Bytes) : Bytes :=
  match items.reverse.find? (fun item => item.id = id) with
  | none => []
  | some item => item.origin

-- HMGET answers one value per key, so the sizes never differ here.
def cacheRows (keyspace : Bytes) (db : Db) (topic : Bytes) (items : List CacheItemMeta) : List CacheItem :=
  (items.zip (db.hmget (cacheDataPath keyspace topic) (items.map CacheItemMeta.id))).filterMap
    (fun row => row.2.map (fun message => ⟨row.1.id, topic, message, originOf items row.1.id⟩))

def topicCache (keyspace : Bytes) (db : Db) (now : Nat) (since limit : Int) (topic : Bytes) : List CacheItem :=
  cacheRows keyspace db topic (cacheKeys now (scoreKeys keyspace db topic since limit))

-- allTopics is what HKEYS pub_count answers.
def getCacheSince (keyspace : Bytes) (config : CacheConfig) (db : Db) (now : Nat) (allTopics : List Bytes) (topicPattern : Bytes)
    (since limit : Int) (isPattern : Bool) : List CacheItem :=
  if !config.enableCache then []
  else
    let topics := if isPattern then getTopicsSeen allTopics topicPattern else [topicPattern]
    topics.flatMap (topicCache keyspace db now since limit)

-- The loop over result; none is the early return with a cleared result.
def resumeLoop (timestamp seqNo : Int) : Bool → List CacheItem → Option (Bool × List CacheItem)
  | sinceIdFound, [] => some (sinceIdFound, [])
  | sinceIdFound, elm :: rest =>
      match splitIdAndSeq elm.id with
      | none => none
      | some (elmTimestamp, elmSeqNo) =>
          if (elmTimestamp > timestamp ∨ (elmTimestamp = timestamp ∧ elmSeqNo > seqNo)) ∧ sinceIdFound = false then none
          else if elmTimestamp = timestamp ∧ elmSeqNo ≤ seqNo then
            resumeLoop timestamp seqNo (sinceIdFound || decide (elmSeqNo = seqNo)) rest
          else (resumeLoop timestamp seqNo sinceIdFound rest).map (fun kept => (kept.1, elm :: kept.2))

def resumeResult (timestamp seqNo : Int) (result : List CacheItem) : List CacheItem :=
  match resumeLoop timestamp seqNo false result with
  | none => []
  | some (sinceIdFound, kept) => if sinceIdFound then kept else []

def getCacheSinceId (keyspace : Bytes) (config : CacheConfig) (db : Db) (now : Nat) (allTopics : List Bytes)
    (topicPattern sinceId : Bytes) (limit : Int) (isPattern : Bool) : List CacheItem :=
  if !config.enableCache then []
  else
    match splitIdAndSeq sinceId with
    | none => []
    | some (timestamp, seqNo) =>
        if timestamp = 0 then []
        else
          let result := getCacheSince keyspace config db now allTopics topicPattern timestamp limit isPattern
          if result = [] then [] else resumeResult timestamp seqNo result

theorem space_not_digit (byte : UInt8) (digit : Decimal.isDigit byte = true) : isspace byte = false := by
  have range : 48 ≤ byte.toNat ∧ byte.toNat ≤ 57 := by
    simpa [Decimal.isDigit, UInt8.le_iff_toNat_le] using digit
  have other : byte ≠ 32 := by
    intro equal
    rw [equal] at range
    exact absurd range (by decide)
  simp [isspace, other, UInt8.le_iff_toNat_le]
  omega

theorem text_unpadded (number : Nat) :
    (Decimal.text number).dropWhile isspace = Decimal.text number ∧
      (Decimal.text number).head? ≠ some hyphen ∧ (Decimal.text number).head? ≠ some plus := by
  have digits : ∀ byte ∈ Decimal.text number, Decimal.isDigit byte = true := Decimal.text_digits number
  cases text : Decimal.text number with
  | nil => exact absurd text (Decimal.text_nonempty number)
  | cons first rest =>
      rw [text] at digits
      have isDigit := digits first List.mem_cons_self
      have other (sign : UInt8) (mark : Decimal.isDigit sign = false) : (first :: rest).head? ≠ some sign := by
        intro same
        rw [Option.some.inj same, mark] at isDigit
        cases isDigit
      exact ⟨List.dropWhile_cons_of_neg (by simp [space_not_digit first isDigit]), other hyphen (by decide), other plus (by decide)⟩

theorem text_scanned (number : Nat) : (Decimal.text number).takeWhile Decimal.isDigit = Decimal.text number :=
  List.takeWhile_eq_self_iff.mpr (Decimal.text_digits number)

theorem stoull_text (number : Nat) (fits : number < 2 ^ 64) : stoull (Decimal.text number) = some number := by
  obtain ⟨trimmed, noHyphen, noPlus⟩ := text_unpadded number
  have small : ¬ 2 ^ 64 ≤ number := by omega
  simp only [stoull, trimmed, noHyphen, noPlus, or_self, if_false, text_scanned, Decimal.text_nonempty, Decimal.value_text, small]

theorem sto_signed_text (bits : Nat) (number : Int) (above : -2 ^ bits ≤ number) (below : number < 2 ^ bits) :
    stoSigned bits (Decimal.signedText number) = some number := by
  obtain ⟨trimmed, noHyphen, noPlus⟩ := text_unpadded number.natAbs
  have inRange : ¬ (number < -2 ^ bits ∨ 2 ^ bits ≤ number) := by omega
  by_cases negative : number < 0
  · have size : -(number.natAbs : Int) = number := by omega
    have signed : (45 :: Decimal.text number.natAbs).dropWhile isspace = 45 :: Decimal.text number.natAbs :=
      List.dropWhile_cons_of_neg (by decide)
    simp only [stoSigned, Decimal.signedText, if_pos negative, signed, List.head?_cons, hyphen, true_or, if_true, List.tail_cons,
      text_scanned, Decimal.text_nonempty, if_false, Decimal.value_text, size, if_neg inRange]
  · have size : (number.natAbs : Int) = number := by omega
    simp only [stoSigned, Decimal.signedText, if_neg negative, trimmed, noHyphen, noPlus, or_self, if_false, text_scanned,
      Decimal.text_nonempty, Decimal.value_text, size, if_neg inRange]

end Eventhub.Redis
