import Gateway.Proofs.Text.Decimal
import Gateway.Request.Response

namespace Gateway

namespace Text

def FirstWord (line word : List Char) : Prop :=
  ∃ left right, line = left ++ (word ++ right) ∧ (∀ c ∈ left, isBlank c = true) ∧ word ≠ [] ∧
    (∀ c ∈ word, isBlank c = false) ∧ ∀ c ∈ right.head?, isBlank c = true

theorem firstWord?_eq_some_iff {line word : List Char} : firstWord? line = some word ↔ FirstWord line word := by
  constructor
  · intro found
    unfold firstWord? at found
    split at found
    · cases found
    · rename_i some
      cases found
      refine ⟨line.takeWhile isBlank, (trimLeft line).dropWhile (!isBlank ·), ?_, fun c => List.mem_takeWhile_imp,
        some, fun c within => ?_, fun c front => ?_⟩
      · rw [List.takeWhile_append_dropWhile, trimLeft, List.takeWhile_append_dropWhile]
      · simpa using List.mem_takeWhile_imp within
      · have stops := List.head?_dropWhile_not (!isBlank ·) (trimLeft line)
        rw [Option.mem_def.mp front] at stops
        simpa using stops
  · rintro ⟨left, right, rfl, before, some, solid, behind⟩
    have start : trimLeft (left ++ (word ++ right)) = word ++ right := by
      rw [trimLeft, List.dropWhile_append_of_pos before]
      obtain ⟨c, rest, rfl⟩ := List.exists_cons_of_ne_nil some
      exact List.dropWhile_cons_of_neg (by simp [solid c List.mem_cons_self])
    have rest : right.takeWhile (!isBlank ·) = [] := by
      cases right with
      | nil => rfl
      | cons c right => exact List.takeWhile_cons_of_neg (by simp [behind c rfl])
    have finish : (word ++ right).takeWhile (!isBlank ·) = word := by
      rw [List.takeWhile_append_of_pos fun c within => by rw [solid c within]; rfl, rest, List.append_nil]
    unfold firstWord?
    rw [start, finish]
    cases word with
    | nil => exact absurd rfl some
    | cons c word => rfl

end Text

open Http (StatusCode)
open Text (FirstWord isBlank)
open Text.Decimal (Numeral)

namespace Http.StatusCode

theorem ofNat?_eq_some_iff {n : Nat} {status : StatusCode} : ofNat? n = some status ↔ status.code = n := by
  unfold ofNat?
  constructor
  · intro found
    split at found
    · cases found
      rfl
    · cases found
  · rintro rfl
    exact dif_pos status.inRange

/-- A line names a status exactly if its first word writes the code; sixteen bits hold every code there is. -/
theorem ofLine?_eq_some_iff {line : String} {status : StatusCode} :
    ofLine? line = some status ↔ ∃ word, FirstWord line.toList word ∧ Numeral word status.code := by
  have fits : status.code ≤ 65535 := status.inRange.2.trans (by decide)
  constructor
  · intro named
    unfold ofLine? at named
    split at named
    · rename_i word first
      split at named
      · rename_i n taken
        cases ofNat?_eq_some_iff.mp named
        exact ⟨word, Text.firstWord?_eq_some_iff.mp first, (Text.Decimal.read?_eq_some_iff.mp taken).1⟩
      · cases named
    · cases named
  · rintro ⟨word, first, numeral⟩
    unfold ofLine?
    rw [Text.firstWord?_eq_some_iff.mpr first]
    dsimp only
    rw [Text.Decimal.read?_eq_some_iff.mpr ⟨numeral, fits⟩]
    exact ofNat?_eq_some_iff.mpr rfl

theorem ofLine?_of_firstWord {line other : String} {word : List Char} (first : FirstWord line.toList word)
    (same : FirstWord other.toList word) : ofLine? line = ofLine? other := by
  unfold ofLine?
  rw [Text.firstWord?_eq_some_iff.mpr first, Text.firstWord?_eq_some_iff.mpr same]

end Http.StatusCode

namespace Response

variable {response : Response}

/-- A status line names a code: its first word writes it, and it is a status. -/
def Names (line : String) (code : Nat) : Prop :=
  ∃ word, FirstWord line.toList word ∧ Numeral word code ∧ 100 ≤ code ∧ code ≤ 999

theorem exists_ofLine?_iff {line : String} {code : Nat} :
    (∃ status, StatusCode.ofLine? line = some status ∧ status.code = code) ↔ Names line code := by
  constructor
  · rintro ⟨status, named, rfl⟩
    obtain ⟨word, first, numeral⟩ := StatusCode.ofLine?_eq_some_iff.mp named
    exact ⟨word, first, numeral, status.inRange⟩
  · rintro ⟨word, first, numeral, inRange⟩
    exact ⟨⟨code, inRange⟩, StatusCode.ofLine?_eq_some_iff.mpr ⟨word, first, numeral⟩, rfl⟩

theorem setStatus_of_named {line : String} {status : StatusCode} {head : ResponseHead}
    (named : StatusCode.ofLine? line = some status) (unsent : response.head = .pending head) :
    response.setStatus line = (.ok, { response with head := .pending { head with status } }) := by
  rw [setStatus, unsent]
  dsimp only
  rw [named]

theorem setStatus_of_unnamed {line : String} (unnamed : StatusCode.ofLine? line = none) :
    response.setStatus line = (if response.headSent then .headersSent else .invalidValue, response) := by
  unfold setStatus headSent
  cases response.head with
  | pending head => rw [unnamed]; rfl
  | ready head | taken | closed => rfl

/-- A line sets the status it names, which its first word alone decides; one that names none sets nothing. -/
theorem setStatus_by_firstWord (line : String) :
    (∀ code, (∃ status, StatusCode.ofLine? line = some status ∧ status.code = code) ↔ Names line code) ∧
    (∀ left word right, line.toList = left ++ (word ++ right) → (∀ c ∈ left, isBlank c = true) → word ≠ [] →
      (∀ c ∈ word, isBlank c = false) → (∀ c ∈ right.head?, isBlank c = true) →
        StatusCode.ofLine? line = StatusCode.ofLine? (String.ofList word)) ∧
    ∀ response : Response,
      (∀ head code, response.head = .pending head → Names line code →
        ∃ status : StatusCode, status.code = code ∧
          response.setStatus line = (.ok, { response with head := .pending { head with status } })) ∧
      ((∀ code, ¬ Names line code) →
        response.setStatus line = (if response.headSent then .headersSent else .invalidValue, response)) := by
  refine ⟨fun code => exists_ofLine?_iff, ?_, fun response => ⟨?_, fun unnamed => setStatus_of_unnamed ?_⟩⟩
  · intro left word right split before some solid behind
    refine StatusCode.ofLine?_of_firstWord ⟨left, right, split, before, some, solid, behind⟩ ?_
    exact ⟨[], [], by rw [String.toList_ofList, List.append_nil]; rfl, nofun, some, solid, nofun⟩
  · intro head code unsent names
    obtain ⟨status, named, same⟩ := exists_ofLine?_iff.mpr names
    exact ⟨status, same, setStatus_of_named named unsent⟩
  · by_contra! known
    obtain ⟨status, named⟩ := Option.ne_none_iff_exists'.mp known
    exact unnamed status.code (exists_ofLine?_iff.mp ⟨status, named, rfl⟩)

/-- Leading zeros do not matter, and a number that would be a status if it were cut to sixteen bits is none. -/
theorem setStatus_of_404_and_65636 :
    start.setStatus "\u00a0 +00404 Not Found" = (.ok, { start with head := .pending ⟨.notFound, []⟩ }) ∧
    start.setStatus "65636" = (.invalidValue, start) := by
  have padded : Names "\u00a0 +00404 Not Found" 404 := by
    refine ⟨"+00404".toList, ⟨"\u00a0 ".toList, " Not Found".toList, by decide, ?_, by decide, ?_, ?_⟩,
      ⟨['+'], "00404".toList, by decide, .inr rfl, by decide, ?_, by decide⟩, by decide, by decide⟩
    · exact List.all_eq_true.mp (by decide)
    · simp [isBlank]
    · simp [isBlank]
    · simp
  constructor
  · obtain ⟨status, same, answer⟩ := ((setStatus_by_firstWord _).2.2 start).1 .initial 404 rfl padded
    obtain rfl : status = .notFound := by
      cases status
      cases same
      rfl
    exact answer
  · refine ((setStatus_by_firstWord "65636").2.2 start).2 fun code names => ?_
    obtain ⟨status, named, -⟩ := ((setStatus_by_firstWord "65636").1 code).mpr names
    exact absurd (named.symm.trans (by decide : StatusCode.ofLine? "65636" = none)) (Option.some_ne_none _)

end Response

end Gateway
