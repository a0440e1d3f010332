import Eventhub.Http.Parser
import Eventhub.Lib.Transition

set_option autoImplicit false

namespace Eventhub.Http

open Transition

theorem query_ended (qsmap : AList (fun _ : Bytes => Bytes)) (rest : Bytes) (none : equals ∉ rest) :
    parseQueryString qsmap rest = qsmap := by
  have ended : rest.dropWhile (· ≠ equals) = [] := by
    refine List.dropWhile_eq_nil_iff.mpr (fun c inside => decide_eq_true ?_)
    rintro rfl
    exact none inside
  have broken : queryTurn ⟨qsmap, rest⟩ = .none := by simp only [queryTurn, ended]
  rw [parseQueryString]
  split
  · rfl
  · rename_i loop taken
    cases broken.symm.trans taken

theorem query_turned (qsmap : AList (fun _ : Bytes => Bytes)) (name value : Bytes) (none : equals ∉ name) :
    parseQueryString qsmap (name ++ equals :: value) =
      parseQueryString (addParam qsmap name (value.takeWhile (· ≠ ampersand))) (value.dropWhile (· ≠ ampersand)).tail := by
  have plain : ∀ c ∈ name, decide (c ≠ equals) = true := by
    intro c inside
    refine decide_eq_true ?_
    rintro rfl
    exact none inside
  have named : (name ++ equals :: value).takeWhile (· ≠ equals) = name := by
    rw [List.takeWhile_append_of_pos plain]
    simp
  have valued : (name ++ equals :: value).dropWhile (· ≠ equals) = equals :: value := by
    rw [List.dropWhile_append_of_pos plain]
    simp
  have turned : queryTurn ⟨qsmap, name ++ equals :: value⟩ =
      some ⟨addParam qsmap name (value.takeWhile (· ≠ ampersand)), (value.dropWhile (· ≠ ampersand)).tail⟩ := by
    simp only [queryTurn, named, valued]
  rw [parseQueryString]
  split
  · rename_i broken
    cases turned.symm.trans broken
  · rename_i loop taken
    cases turned.symm.trans taken
    rfl

theorem query_loop_halts (qsmap : AList (fun _ : Bytes => Bytes)) (rest : Bytes) :
    ∃ last, Halts queryTurn ⟨qsmap, rest⟩ last ∧ last.qsmap = parseQueryString qsmap rest := by
  fun_induction parseQueryString qsmap rest with
  | case1 qsmap rest broken => exact ⟨_, .left _ broken, rfl⟩
  | case2 qsmap rest loop taken ih =>
      obtain ⟨last, halts, mapped⟩ := ih
      exact ⟨last, .turned _ _ _ taken halts, mapped⟩

-- The reference: every piece between ampersands on its own.
def pieceName (piece : Bytes) : Bytes := piece.takeWhile (· ≠ equals)

def pieceValue (piece : Bytes) : Bytes := (piece.dropWhile (· ≠ equals)).tail

def addPiece (qsmap : AList (fun _ : Bytes => Bytes)) (piece : Bytes) : AList (fun _ : Bytes => Bytes) :=
  if equals ∈ piece ∧ pieceName piece ≠ [] ∧ pieceValue piece ≠ [] then qsmap.insert (Util.strToLower (pieceName piece)) (pieceValue piece)
  else qsmap

def queryReference (text : Bytes) : AList (fun _ : Bytes => Bytes) := (text.splitOn ampersand).foldl addPiece ∅

theorem piece_parts (name value : Bytes) (none : equals ∉ name) :
    pieceName (name ++ equals :: value) = name ∧ pieceValue (name ++ equals :: value) = value := by
  have plain : ∀ c ∈ name, decide (c ≠ equals) = true := fun c inside => decide_eq_true (fun same => none (same ▸ inside))
  rw [pieceName, pieceValue, List.takeWhile_append_of_pos plain, List.dropWhile_append_of_pos plain]
  simp

theorem piece_equals (piece : Bytes) (inside : equals ∈ piece) :
    piece = pieceName piece ++ equals :: pieceValue piece ∧ equals ∉ pieceName piece := by
  obtain ⟨name, value, rfl, none⟩ := List.eq_append_cons_of_mem inside
  obtain ⟨named, valued⟩ := piece_parts name value none
  rw [named, valued]
  exact ⟨rfl, none⟩

-- The parameters as the loop cuts them: pieces without an equals sign stay in
-- front of the name that follows.
def cutParams (carried : Bytes) : List Bytes → List (Bytes × Bytes)
  | [] => []
  | piece :: pieces =>
      if equals ∈ piece then (carried ++ pieceName piece, pieceValue piece) :: cutParams [] pieces
      else cutParams (carried ++ piece ++ [ampersand]) pieces

def addParams (qsmap : AList (fun _ : Bytes => Bytes)) (params : List (Bytes × Bytes)) : AList (fun _ : Bytes => Bytes) :=
  params.foldl (fun qsmap param => addParam qsmap param.1 param.2) qsmap

theorem pieces_induction (motive : Bytes → Prop) (last : ∀ text, ampersand ∉ text → motive text)
    (more : ∀ piece later, ampersand ∉ piece → motive later → motive (piece ++ ampersand :: later)) (text : Bytes) : motive text := by
  induction size : text.length using Nat.strong_induction_on generalizing text with
  | h size ih =>
      by_cases inside : ampersand ∈ text
      · obtain ⟨piece, later, rfl, none⟩ := List.eq_append_cons_of_mem inside
        refine more piece later none (ih later.length ?_ later rfl)
        rw [← size, List.length_append, List.length_cons]
        omega
      · exact last text inside

theorem pieces_plain (text : Bytes) : ∀ piece ∈ text.splitOn ampersand, ampersand ∉ piece := by
  induction text using pieces_induction with
  | last text none =>
      rw [List.splitOn_eq_singleton none]
      exact List.forall_mem_singleton.mpr none
  | more piece later none ih =>
      rw [List.splitOn_append_cons_self_of_not_mem none]
      exact List.forall_mem_cons.mpr ⟨none, ih⟩

theorem value_cut (qsmap : AList (fun _ : Bytes => Bytes)) (name value : Bytes) (plain : equals ∉ name) (none : ampersand ∉ value) :
    parseQueryString qsmap (name ++ equals :: value) = addParam qsmap name value ∧
      ∀ later, parseQueryString qsmap (name ++ equals :: (value ++ ampersand :: later)) =
        parseQueryString (addParam qsmap name value) later := by
  have inside : ∀ c ∈ value, decide (c ≠ ampersand) = true := fun c inside => decide_eq_true (fun same => none (same ▸ inside))
  have whole : value.takeWhile (· ≠ ampersand) = value := List.takeWhile_eq_self_iff.mpr inside
  have nothing : value.dropWhile (· ≠ ampersand) = [] := List.dropWhile_eq_nil_iff.mpr inside
  constructor
  · rw [query_turned qsmap name value plain, whole, nothing, List.tail_nil]
    exact query_ended _ [] List.not_mem_nil
  · intro later
    rw [query_turned qsmap name _ plain, List.takeWhile_append_of_pos inside, List.dropWhile_append_of_pos inside]
    simp

theorem query_cut (text : Bytes) (carried : Bytes) (plain : equals ∉ carried) (qsmap : AList (fun _ : Bytes => Bytes)) :
    parseQueryString qsmap (carried ++ text) = addParams qsmap (cutParams carried (text.splitOn ampersand)) := by
  induction text using pieces_induction generalizing carried qsmap with
  | last text none =>
      rw [List.splitOn_eq_singleton none, cutParams]
      by_cases inside : equals ∈ text
      · obtain ⟨parts, unnamed⟩ := piece_equals text inside
        have valued : ampersand ∉ pieceValue text := fun found => none (parts ▸ List.mem_append_right _ (List.mem_cons_of_mem _ found))
        rw [if_pos inside, parts, ← List.append_assoc, ← parts]
        exact (value_cut qsmap _ _ (by simp [plain, unnamed]) valued).1
      · rw [if_neg inside]
        exact query_ended qsmap _ (by simp [plain, inside])
  | more piece later none ih =>
      rw [List.splitOn_append_cons_self_of_not_mem none, cutParams]
      by_cases inside : equals ∈ piece
      · obtain ⟨parts, unnamed⟩ := piece_equals piece inside
        have valued : ampersand ∉ pieceValue piece := fun found => none (parts ▸ List.mem_append_right _ (List.mem_cons_of_mem _ found))
        have joined : carried ++ (piece ++ ampersand :: later) =
            carried ++ pieceName piece ++ equals :: (pieceValue piece ++ ampersand :: later) := by
          conv_lhs => rw [parts]
          simp only [List.append_assoc, List.cons_append]
        rw [if_pos inside, joined, (value_cut qsmap _ _ (by simp [plain, unnamed]) valued).2 later]
        exact ih [] List.not_mem_nil _
      · have joined : carried ++ (piece ++ ampersand :: later) = carried ++ piece ++ [ampersand] ++ later := by simp
        have kept : equals ∉ carried ++ piece ++ [ampersand] := by
          simp only [List.mem_append, List.mem_singleton, not_or]
          exact ⟨⟨plain, inside⟩, by decide⟩
        rw [if_neg inside, joined]
        exact ih _ kept qsmap

-- A piece without an equals sign is followed by none that has one and a value.
def Separate (piece next : Bytes) : Prop := equals ∉ piece → equals ∈ next → pieceValue next = []

theorem piece_added (qsmap : AList (fun _ : Bytes => Bytes)) (carried piece : Bytes) (inside : equals ∈ piece)
    (alone : carried = [] ∨ pieceValue piece = []) :
    addParam qsmap (carried ++ pieceName piece) (pieceValue piece) = addPiece qsmap piece := by
  rw [addParam, addPiece]
  by_cases valued : pieceValue piece = []
  · simp [valued]
  · rw [alone.resolve_right valued]
    by_cases named : pieceName piece = []
    · simp [named]
    · simp [inside, named, valued]

theorem separate_same (pieces : List Bytes) (carried : Bytes) (qsmap : AList (fun _ : Bytes => Bytes))
    (chain : pieces.IsChain Separate) (start : carried = [] ∨ ∀ piece ∈ pieces.head?, equals ∈ piece → pieceValue piece = []) :
    addParams qsmap (cutParams carried pieces) = pieces.foldl addPiece qsmap := by
  induction pieces generalizing carried qsmap with
  | nil => rfl
  | cons piece pieces ih =>
      obtain ⟨first, rest⟩ := List.isChain_cons.mp chain
      rw [cutParams, List.foldl_cons]
      by_cases inside : equals ∈ piece
      · have alone : carried = [] ∨ pieceValue piece = [] := start.imp_right (fun all => all piece rfl inside)
        rw [if_pos inside, addParams, List.foldl_cons, ← addParams, piece_added qsmap carried piece inside alone]
        exact ih [] _ rest (.inl rfl)
      · have unchanged : addPiece qsmap piece = qsmap := if_neg (fun all => inside all.1)
        rw [if_neg inside, unchanged]
        exact ih _ qsmap rest (.inr (fun next found => first next found inside))

theorem names_separate (pieces : List Bytes) (carried : Bytes)
    (plain : ∀ param ∈ cutParams carried pieces, param.2 ≠ [] → ampersand ∉ param.1) :
    pieces.IsChain Separate ∧ (ampersand ∈ carried → ∀ piece ∈ pieces.head?, equals ∈ piece → pieceValue piece = []) := by
  induction pieces generalizing carried with
  | nil => exact ⟨.nil, fun _ piece found => nomatch found⟩
  | cons piece pieces ih =>
      rw [cutParams] at plain
      by_cases inside : equals ∈ piece
      · rw [if_pos inside, List.forall_mem_cons] at plain
        obtain ⟨rest, _⟩ := ih [] plain.2
        refine ⟨List.isChain_cons.mpr ⟨fun next _ without => absurd inside without, rest⟩, ?_⟩
        intro swallowed other found _
        cases found
        by_contra valued
        exact plain.1 valued (List.mem_append_left _ swallowed)
      · rw [if_neg inside] at plain
        obtain ⟨rest, start⟩ := ih _ plain
        refine ⟨List.isChain_cons.mpr ⟨fun next found _ => start (by simp) next found, rest⟩, ?_⟩
        intro _ other found with_equals
        cases found
        exact absurd with_equals inside

theorem lower_ampersand (name : Bytes) : ampersand ∈ Util.strToLower name ↔ ampersand ∈ name := by
  have byte : ∀ c : UInt8, Util.tolower c = ampersand ↔ c = ampersand := by
    apply every_byte
    decide +kernel
  rw [Util.strToLower, List.mem_map]
  constructor
  · rintro ⟨c, inside, lowered⟩
    rwa [(byte c).mp lowered] at inside
  · exact fun inside => ⟨ampersand, inside, rfl⟩

theorem added_key (params : List (Bytes × Bytes)) (qsmap : AList (fun _ : Bytes => Bytes)) (key : Bytes)
    (known : key ∈ qsmap ∨ ∃ param ∈ params, param.1 ≠ [] ∧ param.2 ≠ [] ∧ key = Util.strToLower param.1) :
    key ∈ addParams qsmap params := by
  induction params generalizing qsmap with
  | nil => exact known.resolve_right (fun ⟨_, inside, _⟩ => List.not_mem_nil inside)
  | cons param params ih =>
      rw [addParams, List.foldl_cons, ← addParams, addParam]
      apply ih
      by_cases dropped : (param.1.isEmpty || param.2.isEmpty) = true
      · rw [if_pos dropped]
        refine known.imp_right (fun ⟨other, inside, named, valued, same⟩ => ⟨other, ?_, named, valued, same⟩)
        refine (List.mem_cons.mp inside).resolve_left ?_
        rintro rfl
        simp [named, valued] at dropped
      · rw [if_neg dropped, AList.mem_insert]
        rcases known with before | ⟨other, inside, named, valued, same⟩
        · exact .inl (.inr before)
        · rcases List.mem_cons.mp inside with rfl | later
          · exact .inl (.inl same)
          · exact .inr ⟨other, later, named, valued, same⟩

theorem reference_key (pieces : List Bytes) (qsmap : AList (fun _ : Bytes => Bytes)) (key : Bytes)
    (plain : ∀ piece ∈ pieces, ampersand ∉ piece) (swallowed : ampersand ∈ key) : key ∈ pieces.foldl addPiece qsmap → key ∈ qsmap := by
  induction pieces generalizing qsmap with
  | nil => exact id
  | cons piece pieces ih =>
      rw [List.forall_mem_cons] at plain
      intro found
      have earlier := ih (addPiece qsmap piece) plain.2 found
      rw [addPiece] at earlier
      split at earlier
      · rcases (AList.mem_insert qsmap).mp earlier with same | before
        · rw [same, lower_ampersand] at swallowed
          exact absurd (List.takeWhile_subset _ swallowed) plain.1
        · exact before
      · exact earlier

theorem query_reference_iff (text : Bytes) :
    ∃ last, Halts queryTurn ⟨∅, text⟩ last ∧ last.qsmap = parseQueryString ∅ text ∧
      ((∀ name, last.qsmap.lookup name = (queryReference text).lookup name) ↔ (text.splitOn ampersand).IsChain Separate) := by
  obtain ⟨last, halts, same⟩ := query_loop_halts ∅ text
  refine ⟨last, halts, same, ?_⟩
  have cut := query_cut text [] List.not_mem_nil ∅
  rw [List.nil_append] at cut
  rw [same, cut]
  constructor
  · intro equal
    refine (names_separate _ [] ?_).1
    intro param inside valued swallowed
    have named : param.1 ≠ [] := List.ne_nil_of_mem swallowed
    have key : Util.strToLower param.1 ∈ addParams ∅ (cutParams [] (text.splitOn ampersand)) :=
      added_key _ _ _ (.inr ⟨param, inside, named, valued, rfl⟩)
    rw [← AList.lookup_isSome, equal, AList.lookup_isSome] at key
    exact absurd (reference_key _ ∅ _ (pieces_plain text) ((lower_ampersand _).mpr swallowed) key) (AList.notMem_empty _)
  · intro chain name
    rw [separate_same _ [] ∅ chain (.inl rfl), queryReference]

theorem flag_swallows_token :
    (parseQueryString ∅ (str "flag&auth=t")).lookup (str "auth") = none ∧
      (queryReference (str "flag&auth=t")).lookup (str "auth") = some (str "t") := by
  have cut := query_cut (str "flag&auth=t") [] List.not_mem_nil ∅
  rw [List.nil_append] at cut
  rw [cut]
  decide +kernel

end Eventhub.Http
