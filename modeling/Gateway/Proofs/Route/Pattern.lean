import Gateway.Route
import Mathlib.Logic.Relation

namespace Gateway

namespace Route

/-- The pieces of a text that are not empty, of those that its slashes set apart. -/
def segs (s : List Char) : List (List Char) := (s.splitOn '/').filter (!·.isEmpty)

theorem splitOn_eq (separator : Char) (s : List Char) : splitOn separator s = s.splitOn separator := by
  induction s with
  | nil => rfl
  | cons c rest ih =>
    rw [splitOn, ih, List.splitOn_cons_eq_if_modifyHead]
    by_cases same : c = separator
    · simp [same]
    · rw [if_neg same, if_neg (by simpa using same)]
      cases split : rest.splitOn separator with
      | nil => exact absurd split (List.splitOn_ne_nil _ _)
      | cons piece pieces => rfl

theorem pieces_eq (s : String) : pieces s = segs s.toList := by
  rw [pieces, splitOn_eq, segs]

theorem not_mem_splitOn {separator : Char} {s piece : List Char} (within : piece ∈ s.splitOn separator) :
    separator ∉ piece := by
  induction s generalizing piece with
  | nil =>
    rw [List.splitOn_nil, List.mem_singleton] at within
    simp [within]
  | cons c rest ih =>
    rw [List.splitOn_cons_eq_if_modifyHead] at within
    split at within
    · rcases List.mem_cons.mp within with rfl | within
      · simp
      · exact ih within
    · rename_i other
      cases split : rest.splitOn separator with
      | nil => exact absurd split (List.splitOn_ne_nil _ _)
      | cons first more =>
        rw [split, List.modifyHead_cons, List.mem_cons] at within
        rcases within with rfl | within
        · have first := ih (split ▸ List.mem_cons_self)
          simp only [beq_iff_eq] at other
          simp [first, Ne.symm other]
        · exact ih (split ▸ List.mem_cons_of_mem _ within)

theorem of_mem_segs {s piece : List Char} (within : piece ∈ segs s) : piece ≠ [] ∧ '/' ∉ piece := by
  obtain ⟨within, some⟩ := List.mem_filter.mp within
  exact ⟨by simpa using some, not_mem_splitOn within⟩

theorem segs_append_slash (left right : List Char) : segs (left ++ '/' :: right) = segs left ++ segs right := by
  rw [segs, List.splitOn_append_cons_self, List.filter_append, segs, segs]

inductive Slashed : List Char → List Char → Prop where
  | leading (s : List Char) : Slashed s ('/' :: s)
  | trailing (s : List Char) : Slashed s (s ++ ['/'])
  | repeated (left right : List Char) : Slashed (left ++ '/' :: right) (left ++ '/' :: '/' :: right)

theorem Slashed.segs_eq {s t : List Char} (slashed : Slashed s t) : segs s = segs t := by
  have none : segs [] = [] := rfl
  cases slashed with
  | leading => exact (segs_append_slash [] s).symm
  | trailing => rw [segs_append_slash, none, List.append_nil]
  | repeated left right =>
    have doubled : segs ('/' :: right) = segs right := segs_append_slash [] right
    rw [segs_append_slash, segs_append_slash, doubled]

/-- Texts that differ in slashes before them, after them, or next to other slashes. -/
def SameButSlashes : List Char → List Char → Prop := Relation.EqvGen Slashed

theorem SameButSlashes.segs_eq {s t : List Char} (same : SameButSlashes s t) : segs s = segs t := by
  induction same with
  | rel s t slashed => exact slashed.segs_eq
  | refl s => rfl
  | symm s t _ ih => exact ih.symm
  | trans s t u _ _ first second => exact first.trans second

/-- A piece of a pattern that any piece of a path fits, and the name under which that one is captured. -/
inductive Names : List Char → List Char → Prop where
  | colon (name : List Char) : Names (':' :: name) name
  | braces (name : List Char) : Names ('\x7b' :: (name ++ ['\x7d'])) name

theorem Names.unique {piece name other : List Char} (named : Names piece name) (also : Names piece other) :
    name = other := by
  cases named with
  | colon => cases also; rfl
  | braces =>
    generalize whole : '\x7b' :: (name ++ ['\x7d']) = piece at also
    cases also with
    | colon => simp at whole
    | braces => simpa using whole

/-- Pieces of a pattern line up with as many pieces of a path; what is captured is listed in order. -/
inductive LinesUp : List (List Char) → List (List Char) → List (String × String) → Prop where
  | nil : LinesUp [] [] []
  | fixed {piece : List Char} {stem path : List (List Char)} {params : List (String × String)} :
    (∀ name, ¬ Names piece name) → LinesUp stem path params → LinesUp (piece :: stem) (piece :: path) params
  | param {piece name value : List Char} {stem path : List (List Char)} {params : List (String × String)} :
    Names piece name → LinesUp stem path params →
      LinesUp (piece :: stem) (value :: path) ((String.ofList name, String.ofList value) :: params)

/-- Whether a pattern ends in a star, which stands for all pieces that follow. -/
def isOpen (pattern : List Char) : Bool := (segs pattern).getLast? = some ['*']

def stem (pattern : List Char) : List (List Char) :=
  if isOpen pattern then (segs pattern).dropLast else segs pattern

theorem read_cases (piece : List Char) :
    (∃ name, Names piece name ∧ Segment.read piece false = .param (String.ofList name)) ∨
      (∀ name, ¬ Names piece name) ∧ Segment.read piece false = .fixed (String.ofList piece) := by
  unfold Segment.read
  split
  · exact .inl ⟨_, .colon _, rfl⟩
  · rename_i inside
    split
    · rename_i closed
      refine .inl ⟨inside.dropLast, ?_, rfl⟩
      obtain ⟨name, rfl⟩ := List.getLast?_eq_some_iff.mp closed
      rw [List.dropLast_concat]
      exact .braces name
    · rename_i unclosed
      refine .inr ⟨fun name named => ?_, rfl⟩
      cases named with
      | braces => exact unclosed List.getLast?_concat
  · exact .inr ⟨nofun, rfl⟩
  · rename_i colon brace _
    refine .inr ⟨fun name named => ?_, rfl⟩
    cases named with
    | colon => exact colon _ rfl
    | braces => exact brace _ rfl

theorem read_last {piece : List Char} (other : piece ≠ ['*']) : Segment.read piece true = Segment.read piece false := by
  unfold Segment.read
  split
  · rfl
  · rfl
  · exact absurd rfl other
  · rfl

theorem readSegments_append {front : List (List Char)} (piece : List Char) :
    readSegments (front ++ [piece]) = front.map (Segment.read · false) ++ [Segment.read piece true] := by
  induction front with
  | nil => rfl
  | cons first rest ih =>
    rw [List.cons_append, readSegments, ih, List.map_cons, List.cons_append]
    congr 2
    simp

theorem readSegments_eq (pattern : List Char) : readSegments (segs pattern) =
    (stem pattern).map (Segment.read · false) ++ if isOpen pattern then [.rest] else [] := by
  unfold stem isOpen
  rcases List.eq_nil_or_concat (segs pattern) with none | ⟨front, piece, split⟩
  · rw [none]
    rfl
  · rw [split, List.concat_eq_append, List.getLast?_concat, readSegments_append]
    by_cases star : piece = ['*']
    · simp [star, Segment.read]
    · simp [star, read_last star]

/-- Segments that are read from pieces take the pieces of a path that line up with these, and leave the others to
    the segments that follow. -/
theorem matchSegments_map {stem path : List (List Char)} {tail : List Segment} {params : List (String × String)} :
    matchSegments (stem.map (Segment.read · false) ++ tail) path = some params ↔
      ∃ front more captured later, path = front ++ more ∧ LinesUp stem front captured ∧
        matchSegments tail more = some later ∧ params = captured ++ later := by
  induction stem generalizing path params with
  | nil =>
    constructor
    · intro taken
      exact ⟨[], path, [], params, rfl, .nil, taken, rfl⟩
    · rintro ⟨front, more, captured, later, rfl, ⟨⟩, taken, rfl⟩
      exact taken
  | cons piece stem ih =>
    rw [List.map_cons, List.cons_append]
    -- a piece that captures never stands for itself, so that only one rule can line it up
    rcases read_cases piece with ⟨name, named, read⟩ | ⟨plain, read⟩
    · rw [read]
      constructor
      · intro taken
        cases path with
        | nil => cases taken
        | cons value path =>
          rw [matchSegments] at taken
          split at taken
          · rename_i rest found
            obtain ⟨front, more, captured, later, rfl, lines, last, rfl⟩ := ih.mp found
            cases taken
            exact ⟨value :: front, more, _, later, rfl, .param named lines, last, rfl⟩
          · cases taken
      · rintro ⟨front, more, captured, later, rfl, lines, last, rfl⟩
        cases lines with
        | fixed plain => exact absurd named (plain name)
        | param other lines =>
          obtain rfl := named.unique other
          rw [List.cons_append, matchSegments, ih.mpr ⟨_, more, _, later, rfl, lines, last, rfl⟩]
          rfl
    · rw [read]
      constructor
      · intro taken
        cases path with
        | nil => cases taken
        | cons value path =>
          rw [matchSegments, String.toList_ofList, Option.ite_none_right_eq_some] at taken
          obtain ⟨rfl, taken⟩ := taken
          obtain ⟨front, more, captured, later, rfl, lines, last, rfl⟩ := ih.mp taken
          exact ⟨value :: front, more, captured, later, rfl, .fixed plain lines, last, rfl⟩
      · rintro ⟨front, more, captured, later, rfl, lines, last, rfl⟩
        cases lines with
        | fixed _ lines =>
          rw [List.cons_append, matchSegments, String.toList_ofList, if_pos rfl]
          exact ih.mpr ⟨_, more, _, later, rfl, lines, last, rfl⟩
        | param named => exact absurd named (plain _)

theorem LinesUp.length_eq {stem path : List (List Char)} {params : List (String × String)}
    (lines : LinesUp stem path params) : path.length = stem.length := by
  induction lines with
  | nil => rfl
  | fixed _ _ ih => exact congrArg (· + 1) ih
  | param _ _ ih => exact congrArg (· + 1) ih

theorem LinesUp.captured {stem path : List (List Char)} {params : List (String × String)}
    (lines : LinesUp stem path params) {param : String × String} (within : param ∈ params) : param.2.toList ∈ path := by
  induction lines with
  | nil => cases within
  | fixed _ _ ih => exact List.mem_cons_of_mem _ (ih within)
  | param named _ ih =>
    rcases List.mem_cons.mp within with rfl | within
    · rw [String.toList_ofList]
      exact List.mem_cons_self
    · exact List.mem_cons_of_mem _ (ih within)

def captures (piece : List Char) : Bool :=
  piece.head? = some ':' || piece.head? = some '\x7b' && piece.tail.getLast? = some '\x7d'

theorem captures_iff {piece : List Char} : captures piece = true ↔ ∃ name, Names piece name := by
  constructor
  · intro captured
    simp only [captures, Bool.or_eq_true, Bool.and_eq_true, decide_eq_true_eq, List.head?_eq_some_iff] at captured
    rcases captured with ⟨name, rfl⟩ | ⟨⟨inside, rfl⟩, closed⟩
    · exact ⟨name, .colon name⟩
    · obtain ⟨name, rfl⟩ := List.getLast?_eq_some_iff.mp closed
      exact ⟨name, .braces name⟩
  · rintro ⟨name, named⟩
    cases named <;> simp [captures]

/-- The pieces of a pattern, with values, in order, in the places of those that capture. -/
def fill : List (List Char) → List String → List (List Char)
  | [], _ => []
  | piece :: stem, values =>
    match captures piece, values with
    | true, value :: values => value.toList :: fill stem values
    | true, [] => []
    | false, values => piece :: fill stem values

theorem LinesUp.fill_eq {stem path : List (List Char)} {params : List (String × String)}
    (lines : LinesUp stem path params) : fill stem (params.map Prod.snd) = path := by
  induction lines with
  | nil => rfl
  | fixed plain _ ih =>
    have still : captures _ = false := Bool.eq_false_iff.mpr fun captured =>
      have ⟨name, named⟩ := captures_iff.mp captured
      plain name named
    simp only [fill, still, ih]
  | param named _ ih =>
    simp only [List.map_cons, fill, captures_iff.mpr ⟨_, named⟩, String.toList_ofList, ih]

end Route

namespace RoutePattern

open Route

theorem match?_eq_some_iff {pattern path : String} {params : List (String × String)} :
    (read pattern).match? path = some params ↔
      LinesUp (stem pattern.toList) ((segs path.toList).take (stem pattern.toList).length) params ∧
      if isOpen pattern.toList then (stem pattern.toList).length ≤ (segs path.toList).length
      else (segs path.toList).length = (stem pattern.toList).length := by
  rw [read, match?, pieces_eq, pieces_eq, readSegments_eq, matchSegments_map]
  generalize segs path.toList = pieces
  constructor
  · rintro ⟨front, more, captured, later, rfl, lines, taken, rfl⟩
    rw [← lines.length_eq, List.take_left]
    cases star : isOpen pattern.toList with
    | true =>
      rw [star] at taken
      cases taken
      simp [lines]
    | false =>
      rw [star] at taken
      cases more with
      | nil =>
        cases taken
        simp [lines]
      | cons => cases taken
  · rintro ⟨lines, long⟩
    refine ⟨_, pieces.drop _, params, [], (List.take_append_drop _ _).symm, lines, ?_, (List.append_nil _).symm⟩
    cases star : isOpen pattern.toList with
    | true => rfl
    | false =>
      rw [star] at long
      rw [List.drop_eq_nil_of_le (Nat.le_of_eq long)]
      rfl

/-- For all texts of a pattern and a path: the pattern matches exactly if its pieces, but for a star at the end, line
    up with the first pieces of the path, and there are no more of these unless there is a star. Then every value
    that is captured is a piece, which is not empty and has no slash, and the values in the places that captured
    them give back those pieces of the path. More or fewer slashes around pieces, in either text, change nothing. -/
theorem match_by_pieces (pattern path : String) :
    (∀ params, (read pattern).match? path = some params ↔
      LinesUp (stem pattern.toList) ((segs path.toList).take (stem pattern.toList).length) params ∧
      if isOpen pattern.toList then (stem pattern.toList).length ≤ (segs path.toList).length
      else (segs path.toList).length = (stem pattern.toList).length) ∧
    (∀ params, (read pattern).match? path = some params →
      (∀ param ∈ params, param.2 ≠ "" ∧ '/' ∉ param.2.toList) ∧
      fill (stem pattern.toList) (params.map Prod.snd) =
        (segs path.toList).take (stem pattern.toList).length) ∧
    ∀ pattern' path' : String, SameButSlashes pattern.toList pattern'.toList →
      SameButSlashes path.toList path'.toList → (read pattern').match? path' = (read pattern).match? path := by
  refine ⟨fun params => match?_eq_some_iff, ?_, ?_⟩
  · intro params taken
    obtain ⟨lines, _⟩ := match?_eq_some_iff.mp taken
    refine ⟨fun param within => ?_, lines.fill_eq⟩
    obtain ⟨some, plain⟩ := of_mem_segs (List.mem_of_mem_take (lines.captured within))
    exact ⟨mt (congrArg String.toList) some, plain⟩
  · intro pattern' path' same same'
    simp only [read, match?, pieces_eq, same.segs_eq, same'.segs_eq]

/-- A name that stands twice is captured twice, and the slashes of the path do not count. -/
theorem match_by_pieces_doubled :
    let pattern := read "/users/:id/\x7bid\x7d/*"
    pattern.match? "/users/4/2" = some [("id", "4"), ("id", "2")] ∧
      fill (stem "/users/:id/\x7bid\x7d/*".toList) ["4", "2"] = ["users".toList, ['4'], ['2']] ∧
      pattern.match? "//users/4/2" = some [("id", "4"), ("id", "2")] := by
  have taken : (read "/users/:id/\x7bid\x7d/*").match? "/users/4/2" = some [("id", "4"), ("id", "2")] := by decide
  obtain ⟨_, captured, slashes⟩ := match_by_pieces "/users/:id/\x7bid\x7d/*" "/users/4/2"
  refine ⟨taken, (captured _ taken).2, ?_⟩
  rw [slashes "/users/:id/\x7bid\x7d/*" "//users/4/2" (.refl _) (.rel _ _ (.leading _)), taken]

end RoutePattern

end Gateway
