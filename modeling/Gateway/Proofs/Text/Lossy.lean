import Gateway.Proofs.Text.Utf8

namespace Gateway.Text.Utf8

def Begins (bytes : Bytes) : Prop := ∃ c, bytes <+: encodeChar c

/-- Bytes in front of others that are no character. If one byte does not begin any, it is broken for itself; else they
    are the most that begin one. -/
structure Broken (bad rest : Bytes) : Prop where
  nonempty : bad ≠ []
  noChar : ∀ c, ¬encodeChar c <+: bad ++ rest
  begins : bad.length = 1 ∨ Begins bad
  longest : ∀ more, more ≠ [] → more <+: rest → ¬Begins (bad ++ more)

inductive Mends : Bytes → List Char → Prop where
  | nil : Mends [] []
  | char (c : Char) {rest : Bytes} {s : List Char} (mends : Mends rest s) : Mends (encodeChar c ++ rest) (c :: s)
  | broken {bad rest : Bytes} {s : List Char} (broken : Broken bad rest) (mends : Mends rest s) :
      Mends (bad ++ rest) (Char.ofNat 0xFFFD :: s)

theorem continuation_padding (bits size left : Nat) :
    ∃ c, continuation bits size left (List.replicate left 0x80) = .char c (size + left) := by
  have tail : List.replicate left (0x80 : UInt8) = (List.replicate left 0).map (fun b => .ofNat (0x80 + b)) ++ [] := by
    simp
  have read := @continuation_bytes bits size (List.replicate left 0) [] (by simp)
  rw [List.length_replicate, ← tail] at read
  exact ⟨_, read⟩

def Completes (bits size left n : Nat) (rest : Bytes) : Prop := ∃ k more c, n = size + k ∧ k ≤ rest.length ∧
  continuation bits size left (rest.take k ++ more) = .char c (size + left) ∧ (rest.take k ++ more).length = left

theorem completes_front (bits size left : Nat) (rest : Bytes) : Completes bits size left size rest := by
  obtain ⟨c, padded⟩ := continuation_padding bits size left
  exact ⟨0, List.replicate left 0x80, c, rfl, Nat.zero_le _, padded, List.length_replicate⟩

theorem continuation_completes {bits size left n : Nat} {rest : Bytes}
    (read : continuation bits size left rest = .malformed n ∨ continuation bits size left rest = .incomplete n) :
    Completes bits size left n rest := by
  induction left generalizing bits size rest with
  | zero => rcases read with read | read <;> cases read
  | succ left ih =>
    cases rest with
    | nil =>
      rcases read with read | read <;> cases read
      exact completes_front _ _ _ _
    | cons b rest =>
      rw [continuation] at read
      split at read
      · rename_i within
        obtain ⟨k, more, c, rfl, short, whole, long⟩ := ih read
        refine ⟨k + 1, more, c, by omega, Nat.succ_le_succ short, ?_, ?_⟩
        · rw [List.take_succ_cons, List.cons_append, continuation, if_pos within, whole]
          exact congrArg _ (by omega)
        · rw [List.take_succ_cons, List.cons_append, List.length_cons, long]
      · rcases read with read | read <;> cases read
        exact completes_front _ _ _ _

theorem continuation_malformed {bits size left n : Nat} {rest : Bytes}
    (read : continuation bits size left rest = .malformed n) : ∃ k, n = size + k ∧
      ∀ other, rest.take (k + 1) <+: other → continuation bits size left other = .malformed n := by
  induction left generalizing bits size rest with
  | zero => cases read
  | succ left ih =>
    cases rest with
    | nil => cases read
    | cons b rest =>
      rw [continuation] at read
      split at read
      · rename_i within
        obtain ⟨k, rfl, same⟩ := ih read
        refine ⟨k + 1, by omega, ?_⟩
        rintro _ ⟨other, rfl⟩
        rw [List.take_succ_cons, List.cons_append, continuation, if_pos within]
        exact same _ (List.prefix_append _ _)
      · rename_i without
        cases read
        refine ⟨0, rfl, ?_⟩
        rintro _ ⟨other, rfl⟩
        rw [List.take_succ_cons, List.cons_append, continuation, if_neg without]

theorem continuation_incomplete {bits size left n : Nat} {rest : Bytes}
    (read : continuation bits size left rest = .incomplete n) : n = size + rest.length := by
  induction left generalizing bits size rest with
  | zero => cases read
  | succ left ih =>
    cases rest with
    | nil =>
      cases read
      rfl
    | cons b rest =>
      rw [continuation] at read
      split at read
      · have long := ih read
        rw [long, List.length_cons]
        omega
      · cases read

variable {b : UInt8} {rest : Bytes} {n : Nat}

/-- How the front is found: by the first byte, or the first two, or as these and the rest of a character. -/
inductive Fronts (b : UInt8) (rest : Bytes) : Piece → Prop where
  | ascii (c : Char) : Fronts b rest (.char c 1)
  | alone (same : ∀ other, rest.take 1 <+: other → front b other = .malformed 1) : Fronts b rest (.malformed 1)
  | last (none : rest = []) : Fronts b rest (.incomplete 1)
  | continues (second : UInt8) (after : Bytes) (bits left : Nat) (split : rest = second :: after)
      (same : ∀ other, front b (second :: other) = continuation bits 2 left other) :
      Fronts b rest (continuation bits 2 left after)

theorem fronts (b : UInt8) (rest : Bytes) : Fronts b rest (front b rest) := by
  by_cases ascii : b.toNat < 0x80
  · rw [front, if_pos ascii]
    exact .ascii _
  have long (other : Bytes) := front.eq_def b other
  simp only [if_neg ascii] at long
  cases starts : lead b.toNat with
  | none =>
    simp only [starts] at long
    rw [long]
    exact .alone fun other _ => long other
  | some rule =>
    obtain ⟨size, least, greatest⟩ := rule
    simp only [starts] at long
    cases rest with
    | nil =>
      rw [long]
      exact .last rfl
    | cons second rest =>
      by_cases within : least ≤ second.toNat ∧ second.toNat ≤ greatest
      · have same (other : Bytes) := (long (second :: other)).trans (if_pos within)
        rw [same]
        exact .continues second rest _ _ rfl same
      · rw [long]
        dsimp only
        rw [if_neg within]
        refine .alone ?_
        rintro _ ⟨other, rfl⟩
        exact (long _).trans (if_neg within)

theorem front_begins (read : front b rest = .malformed n ∨ front b rest = .incomplete n) :
    ∃ k, n = k + 1 ∧ k ≤ rest.length ∧ (k = 0 ∨ Begins (b :: rest.take k)) := by
  have found := fronts b rest
  generalize front b rest = piece at *
  cases found with
  | ascii => rcases read with read | read <;> cases read
  | alone | last =>
    rcases read with read | read <;> cases read
    exact ⟨0, rfl, Nat.zero_le _, .inl rfl⟩
  | continues second after bits left split same =>
    obtain ⟨k, more, c, rfl, short, whole, long⟩ := continuation_completes read
    rw [← same] at whole
    obtain ⟨tail, extra, parts, spelt, count⟩ := front_char whole
    have none : extra = [] := by
      have lengths := congrArg List.length parts
      rw [List.length_cons, long, List.length_append] at lengths
      exact List.length_eq_zero_iff.mp (by omega)
    rw [none, List.append_nil] at parts
    rw [split]
    refine ⟨k + 1, by omega, Nat.succ_le_succ short, .inr ⟨c, ?_⟩⟩
    rw [spelt, ← parts, List.take_succ_cons]
    exact ⟨more, rfl⟩

theorem front_malformed (read : front b rest = .malformed n) :
    ∃ k, n = k + 1 ∧ ∀ other, rest.take (k + 1) <+: other → front b other = .malformed n := by
  have found := fronts b rest
  generalize front b rest = piece at *
  cases found with
  | ascii | last => cases read
  | alone same =>
    cases read
    exact ⟨0, rfl, same⟩
  | continues second after bits left split same =>
    obtain ⟨k, rfl, fixed⟩ := continuation_malformed read
    rw [split]
    refine ⟨k + 1, by omega, ?_⟩
    rintro _ ⟨other, rfl⟩
    rw [List.take_succ_cons, List.cons_append, same]
    exact fixed _ (List.prefix_append _ _)

theorem front_incomplete (read : front b rest = .incomplete n) : n = rest.length + 1 := by
  have found := fronts b rest
  generalize front b rest = piece at *
  cases found with
  | ascii | alone => cases read
  | last none =>
    cases read
    rw [none]
    rfl
  | continues second after bits left split =>
    rw [split, continuation_incomplete read, List.length_cons]
    omega

theorem front_of_prefix {c : Char} (written : encodeChar c <+: b :: rest) : ∃ size, front b rest = .char c size := by
  obtain ⟨after, whole⟩ := written
  obtain ⟨first, tail, spelt, character⟩ := front_encodeChar c after
  rw [spelt, List.cons_append] at whole
  obtain ⟨rfl, rfl⟩ := List.cons.inj whole
  exact ⟨_, character⟩

theorem broken_front (read : front b rest = .malformed n ∨ front b rest = .incomplete n) :
    ∃ bad after, rest = bad ++ after ∧ n = bad.length + 1 ∧ Broken (b :: bad) after := by
  obtain ⟨k, count, short, begins⟩ := front_begins read
  have length : (rest.take k).length = k := List.length_take_of_le short
  refine ⟨rest.take k, rest.drop k, (List.take_append_drop k rest).symm, by rw [length, count], List.cons_ne_nil _ _,
    fun c written => ?_, ?_, fun more nonempty within => ?_⟩
  · rw [List.cons_append, List.take_append_drop] at written
    obtain ⟨size, character⟩ := front_of_prefix written
    rcases read with read | read <;> cases read.symm.trans character
  · rcases begins with rfl | begins
    · exact .inl rfl
    · exact .inr begins
  · rintro ⟨c, z, whole⟩
    rw [List.append_assoc, List.cons_append] at whole
    obtain ⟨size, character⟩ := front_of_prefix ⟨[], (List.append_nil _).trans whole.symm⟩
    rcases read with read | read
    · obtain ⟨j, same, fixed⟩ := front_malformed read
      obtain rfl : j = k := by omega
      have longer : rest.take (j + 1) <+: rest.take j ++ (more ++ z) := by
        obtain ⟨w, after⟩ := within
        obtain ⟨x, others, rfl⟩ := List.exists_cons_of_ne_nil nonempty
        rw [List.take_add, ← after]
        exact ⟨others ++ z, by simp⟩
      cases (fixed _ longer).symm.trans character
    · have all := front_incomplete read
      have nothing : rest.drop k = [] := List.drop_eq_nil_of_le (by omega)
      rw [nothing] at within
      exact nonempty (List.prefix_nil.mp within)

theorem lossy_char {c : Char} {tail after : Bytes} (read : front b (tail ++ after) = .char c (tail.length + 1)) :
    lossy (b :: (tail ++ after)) = c :: lossy after := by
  rw [lossy, pieces, piecesAfter, read, List.map_cons]
  exact congrArg _ (congrArg _ (piecesAfter_append tail after))

theorem lossy_broken {bad after : Bytes} (read : front b (bad ++ after) = .malformed (bad.length + 1) ∨
    front b (bad ++ after) = .incomplete (bad.length + 1)) :
    lossy (b :: (bad ++ after)) = Char.ofNat 0xFFFD :: lossy after := by
  rw [lossy, pieces, piecesAfter, List.map_cons]
  rcases read with read | read <;> rw [read] <;>
    exact congrArg _ (congrArg _ (piecesAfter_append bad after))

theorem mends_lossy (bytes : Bytes) : Mends bytes (lossy bytes) := by
  induction size : bytes.length using Nat.strongRecOn generalizing bytes with
  | ind n ih =>
    cases bytes with
    | nil => exact .nil
    | cons b rest =>
      rw [List.length_cons] at size
      have broken {n : Nat} (read : front b rest = .malformed n ∨ front b rest = .incomplete n) :
          Mends (b :: rest) (lossy (b :: rest)) := by
        obtain ⟨bad, after, rfl, rfl, broken⟩ := broken_front read
        rw [lossy_broken read]
        rw [List.length_append] at size
        exact .broken broken (ih after.length (by omega) after rfl)
      cases read : front b rest with
      | char c m =>
        obtain ⟨tail, after, rfl, spelt, rfl⟩ := front_char read
        rw [lossy_char read, ← List.cons_append, ← spelt]
        rw [List.length_append] at size
        exact .char c (ih after.length (by omega) after rfl)
      | malformed m => exact broken (.inl read)
      | incomplete m => exact broken (.inr read)

theorem Broken.extends {bad more rest : Bytes} (short : Broken bad (more ++ rest)) (long : Broken (bad ++ more) rest) :
    more = [] := by
  by_contra nonempty
  have some := List.length_pos_iff.mpr short.nonempty
  have others := List.length_pos_iff.mpr nonempty
  rcases long.begins with one | begins
  · rw [List.length_append] at one
    omega
  · exact short.longest more nonempty (List.prefix_append _ _) begins

theorem Broken.unique {bad rest other after : Bytes} (broken : Broken bad rest) (also : Broken other after)
    (same : bad ++ rest = other ++ after) : bad = other ∧ rest = after := by
  rcases List.append_eq_append_iff.mp same with ⟨more, rfl, rfl⟩ | ⟨more, rfl, rfl⟩
  · rw [broken.extends also]
    exact ⟨(List.append_nil _).symm, rfl⟩
  · rw [also.extends broken]
    exact ⟨List.append_nil _, rfl⟩

theorem lossy_of_broken {bad rest : Bytes} (broken : Broken bad rest) :
    lossy (bad ++ rest) = Char.ofNat 0xFFFD :: lossy rest := by
  obtain ⟨b, tail, rfl⟩ := List.exists_cons_of_ne_nil broken.nonempty
  have found {n : Nat} (read : front b (tail ++ rest) = .malformed n ∨ front b (tail ++ rest) = .incomplete n) :
      lossy (b :: tail ++ rest) = Char.ofNat 0xFFFD :: lossy rest := by
    obtain ⟨bad, after, split, rfl, also⟩ := broken_front read
    obtain ⟨same, rfl⟩ := also.unique broken (by rw [List.cons_append, List.cons_append, split])
    cases same
    exact lossy_broken read
  cases read : front b (tail ++ rest) with
  | char c n =>
    obtain ⟨written, after, split, spelt, _⟩ := front_char read
    refine absurd ?_ (broken.noChar c)
    rw [spelt, List.cons_append, split]
    exact ⟨after, rfl⟩
  | malformed n => exact found (.inl read)
  | incomplete n => exact found (.inr read)

/-- Bytes are read in one way: with U+FFFD for each part that is broken, and the characters that are written there for
    the rest. -/
theorem mends_iff (bytes : Bytes) (s : List Char) : Mends bytes s ↔ lossy bytes = s := by
  constructor
  · intro mends
    induction mends with
    | nil => rfl
    | char c _ ih =>
      rw [lossy, pieces_encodeChar, List.map_cons]
      exact congrArg _ ih
    | broken broken _ ih => rw [lossy_of_broken broken, ih]
  · rintro rfl
    exact mends_lossy bytes

theorem lossy_encode (s : List Char) : lossy (encode s) = s := by
  refine (mends_iff _ _).mp ?_
  induction s with
  | nil => exact .nil
  | cons c s ih => exact .char c ih

end Gateway.Text.Utf8
