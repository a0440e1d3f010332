import Mathlib

set_option autoImplicit false

-- The text/event-stream format, as far as the fields id and data go.
namespace EventStream

def lf : UInt8 := 10
def cr : UInt8 := 13
def colon : UInt8 := 58
def space : UInt8 := 32

def LineBreak (c : UInt8) : Prop := c = lf ∨ c = cr

instance : DecidablePred LineBreak := fun c => inferInstanceAs (Decidable (c = lf ∨ c = cr))

def normaliseFrom : Bool → List UInt8 → List UInt8
  | _, [] => []
  | afterCr, c :: rest =>
      if c = lf then if afterCr then normaliseFrom false rest else lf :: normaliseFrom false rest
      else if c = cr then lf :: normaliseFrom true rest
      else c :: normaliseFrom false rest

def normalise (text : List UInt8) : List UInt8 := normaliseFrom false text

-- The lines of a text that end in LF; what follows the last LF is no line.
def lines : List UInt8 → List (List UInt8)
  | [] => []
  | c :: rest =>
      if c = lf then [] :: lines rest
      else
        match lines rest with
        | [] => []
        | line :: others => (c :: line) :: others

structure Event where
  id : List UInt8
  data : List UInt8
deriving DecidableEq

-- dataBuffer holds each data line with an LF behind it.
structure Reader where
  lastEventId : List UInt8
  dataBuffer : List UInt8
  events : List Event
deriving DecidableEq

def Reader.start : Reader := ⟨[], [], []⟩

def fieldName (line : List UInt8) : List UInt8 := line.takeWhile (· ≠ colon)

def fieldValue (line : List UInt8) : List UInt8 :=
  let behind := (line.dropWhile (· ≠ colon)).tail
  if behind.head? = some space then behind.tail else behind

def idName : List UInt8 := [105, 100]
def dataName : List UInt8 := [100, 97, 116, 97]

-- What a line starts with whose value is the rest of it.
def idLabel : List UInt8 := idName ++ [colon, space]
def dataLabel : List UInt8 := dataName ++ [colon, space]

def Reader.dispatch (reader : Reader) : Reader :=
  if reader.dataBuffer = [] then reader
  else { reader with dataBuffer := [], events := reader.events ++ [⟨reader.lastEventId, reader.dataBuffer.dropLast⟩] }

def Reader.line (reader : Reader) (line : List UInt8) : Reader :=
  if line = [] then reader.dispatch
  else if fieldName line = idName then { reader with lastEventId := fieldValue line }
  else if fieldName line = dataName then { reader with dataBuffer := reader.dataBuffer ++ fieldValue line ++ [lf] }
  else reader

def events (text : List UInt8) : List Event := ((lines (normalise text)).foldl Reader.line Reader.start).events

theorem normalise_plain (text rest : List UInt8) (plain : ∀ c ∈ text, ¬ LineBreak c) :
    normalise (text ++ rest) = text ++ normalise rest := by
  induction text with
  | nil => rfl
  | cons c text ih =>
      rw [List.forall_mem_cons] at plain
      have other := not_or.mp plain.1
      rw [List.cons_append, normalise, normaliseFrom, if_neg other.1, if_neg other.2, ← normalise, ih plain.2, List.cons_append]

theorem normalise_lf (rest : List UInt8) : normalise (lf :: rest) = lf :: normalise rest := rfl

theorem normalise_self (text : List UInt8) (plain : ∀ c ∈ text, ¬ LineBreak c) : normalise text = text := by
  simpa [normalise, normaliseFrom] using normalise_plain text [] plain

theorem normalised_content (afterCr : Bool) (text : List UInt8) :
    (normaliseFrom afterCr text).filter (· ≠ lf) = text.filter (fun c => ¬ LineBreak c) := by
  induction text generalizing afterCr with
  | nil => rfl
  | cons c text ih =>
      by_cases feed : c = lf
      · rw [List.filter_cons_of_neg (a := c) (by simp [LineBreak, feed]), normaliseFrom, if_pos feed, ← ih false]
        cases afterCr with
        | true => rfl
        | false => rw [if_neg Bool.false_ne_true, List.filter_cons_of_neg (by simp)]
      · rw [normaliseFrom, if_neg feed]
        by_cases carriage : c = cr
        · rw [if_pos carriage, List.filter_cons_of_neg (by simp), List.filter_cons_of_neg (by simp [LineBreak, carriage]), ih true]
        · rw [if_neg carriage, List.filter_cons_of_pos (by simp [feed]), List.filter_cons_of_pos (by simp [LineBreak, feed, carriage]),
            ih false]

theorem unbroken_of_normalised (text : List UInt8) (unbroken : lf ∉ normalise text) : ∀ c ∈ text, ¬ LineBreak c := by
  induction text with
  | nil => exact fun c inside => absurd inside List.not_mem_nil
  | cons c text ih =>
      by_cases feed : c = lf
      · rw [feed, normalise_lf] at unbroken
        exact absurd List.mem_cons_self unbroken
      · by_cases carriage : c = cr
        · rw [normalise, normaliseFrom, if_neg feed, if_pos carriage] at unbroken
          exact absurd List.mem_cons_self unbroken
        · rw [normalise, normaliseFrom, if_neg feed, if_neg carriage, ← normalise, List.mem_cons, not_or] at unbroken
          exact List.forall_mem_cons.mpr ⟨not_or.mpr ⟨feed, carriage⟩, ih unbroken.2⟩

theorem unbroken_of_length (text : List UInt8) (short : (normalise text).length ≤ (text.filter (fun c => ¬ LineBreak c)).length) :
    ∀ c ∈ text, ¬ LineBreak c := by
  apply unbroken_of_normalised
  intro inside
  have whole : (normalise text).filter (· ≠ lf) = normalise text := by
    apply List.filter_sublist.eq_of_length_le
    rw [normalise, normalised_content]
    exact short
  rw [List.filter_eq_self] at whole
  simpa using whole lf inside

theorem lines_extended (text rest : List UInt8) (line : List UInt8) (others : List (List UInt8)) (unbroken : lf ∉ text)
    (split : lines rest = line :: others) : lines (text ++ rest) = (text ++ line) :: others := by
  induction text with
  | nil => exact split
  | cons c text ih =>
      rw [List.mem_cons, not_or] at unbroken
      rw [List.cons_append, lines, if_neg (Ne.symm unbroken.1), ih unbroken.2, List.cons_append]

theorem lines_first (text rest : List UInt8) (unbroken : lf ∉ text) : lines (text ++ lf :: rest) = text :: lines rest := by
  rw [lines_extended text (lf :: rest) [] (lines rest) unbroken rfl, List.append_nil]

theorem lines_nonempty (text : List UInt8) (broken : lf ∈ text) : lines text ≠ [] := by
  obtain ⟨before, after, rfl, first⟩ := List.eq_append_cons_of_mem broken
  rw [lines_first before after first]
  exact List.cons_ne_nil _ _

theorem lines_length (text : List UInt8) : ((lines text).map List.length).sum ≤ (text.filter (· ≠ lf)).length := by
  induction text with
  | nil => exact Nat.le_refl 0
  | cons c text ih =>
      by_cases feed : c = lf
      · rw [lines, if_pos feed, List.filter_cons_of_neg (by simp [feed])]
        simpa using ih
      · rw [lines, if_neg feed, List.filter_cons_of_pos (by simp [feed]), List.length_cons]
        cases split : lines text with
        | nil => exact Nat.zero_le _
        | cons line others =>
            rw [split] at ih
            simp only [List.map_cons, List.sum_cons, List.length_cons] at ih ⊢
            omega

-- The data bytes in the events and in the buffer, an LF counted for each line.
def Reader.size (reader : Reader) : Nat := reader.dataBuffer.length + (reader.events.map (fun event => event.data.length + 1)).sum

theorem data_value_length (line : List UInt8) (named : fieldName line = dataName) : (fieldValue line).length + 1 ≤ line.length := by
  have total := congrArg List.length (List.takeWhile_append_dropWhile (p := (· ≠ colon)) (l := line))
  rw [List.length_append, ← fieldName, named] at total
  have cut : (fieldValue line).length ≤ (line.dropWhile (· ≠ colon)).length := by
    dsimp only [fieldValue]
    split <;> (simp only [List.length_tail]; omega)
  rw [show dataName.length = 4 from rfl] at total
  omega

theorem line_size (reader : Reader) (line : List UInt8) : (reader.line line).size ≤ reader.size + line.length := by
  rw [Reader.line]
  by_cases blank : line = []
  · rw [if_pos blank, Reader.dispatch]
    by_cases empty : reader.dataBuffer = []
    · rw [if_pos empty]
      exact Nat.le_add_right _ _
    · have positive := List.length_pos_of_ne_nil empty
      rw [if_neg empty]
      simp only [Reader.size, List.length_nil, List.map_append, List.sum_append, List.map_cons, List.map_nil, List.sum_cons,
        List.sum_nil, List.length_dropLast]
      omega
  · rw [if_neg blank]
    by_cases identifies : fieldName line = idName
    · rw [if_pos identifies]
      exact Nat.le_add_right _ _
    · rw [if_neg identifies]
      by_cases carries : fieldName line = dataName
      · have shorter := data_value_length line carries
        rw [if_pos carries]
        simp only [Reader.size, List.length_append, List.length_singleton]
        omega
      · rw [if_neg carries]
        exact Nat.le_add_right _ _

theorem lines_size (texts : List (List UInt8)) (reader : Reader) :
    (texts.foldl Reader.line reader).size ≤ reader.size + (texts.map List.length).sum := by
  induction texts generalizing reader with
  | nil => exact Nat.le_refl _
  | cons line texts ih =>
      have first := line_size reader line
      have later := ih (reader.line line)
      rw [List.foldl_cons, List.map_cons, List.sum_cons]
      omega

theorem id_line (reader : Reader) (id : List UInt8) :
    reader.line (idLabel ++ id) = { reader with lastEventId := id } := rfl

theorem data_line (reader : Reader) (data : List UInt8) :
    reader.line (dataLabel ++ data) = { reader with dataBuffer := reader.dataBuffer ++ data ++ [lf] } := rfl

end EventStream
