import Gateway.Json.Reader
import Gateway.Proofs.Text.Decimal

namespace Gateway.Json

def Blanks (s : List Char) : Prop := ∀ c ∈ s, c = ' ' ∨ c = '\n' ∨ c = '\t' ∨ c = '\r'

/-! Strings. -/

def shortEscapes : List (Char × Char) :=
  [('\x22', '\x22'), ('\\', '\\'), ('/', '/'), ('b', '\x08'), ('f', '\x0c'), ('n', '\n'), ('r', '\r'), ('t', '\t')]

/-- A part of a string: a character that stands for itself or has a short escape, or a code of sixteen bits. -/
inductive StringPart where
  | char (c : Char)
  | code (n : Nat)

inductive Spells : List Char → List StringPart → Prop where
  | nil : Spells [] []
  | plain {c : Char} {s : List Char} {parts : List StringPart} :
    c ≠ '\x22' → c ≠ '\\' → 0x20 ≤ c.toNat → Spells s parts → Spells (c :: s) (.char c :: parts)
  | short {e c : Char} {s : List Char} {parts : List StringPart} :
    (e, c) ∈ shortEscapes → Spells s parts → Spells ('\\' :: e :: s) (.char c :: parts)
  | code {a b c d : Char} {n : Nat} {s : List Char} {parts : List StringPart} :
    Text.Hex.number? [a, b, c, d] = some n → Spells s parts →
      Spells ('\\' :: 'u' :: a :: b :: c :: d :: s) (.code n :: parts)

def unit (n : Nat) : StringUnit := if n < 0xD800 ∨ 0xDFFF < n then .char (Char.ofNat n) else .half

def IsPair (high low : Nat) : Prop := (0xD800 ≤ high ∧ high < 0xDC00) ∧ 0xDC00 ≤ low ∧ low ≤ 0xDFFF

instance (high low : Nat) : Decidable (IsPair high low) := inferInstanceAs (Decidable (_ ∧ _))

def units : List StringPart → List StringUnit
  | [] => []
  | .char c :: parts => .char c :: units parts
  | .code n :: .code low :: parts =>
    if IsPair n low then .char (joinSurrogates n low) :: units parts else unit n :: units (.code low :: parts)
  | .code n :: parts => unit n :: units parts

def textOf? (parts : List StringPart) : Option String := (unitsText? (units parts)).map String.ofList

def stringOf (parts : List StringPart) : Value :=
  match textOf? parts with
  | some s => .string s
  | none => .unpaired

/-! Numbers. -/

def IsDigits (s : List Char) : Prop := s ≠ [] ∧ ∀ c ∈ s, '0' ≤ c ∧ c ≤ '9'

def IsInteger (s : List Char) : Prop := IsDigits s ∧ (s.head? = some '0' → s = ['0'])

def IsFraction (s : List Char) : Prop := s = [] ∨ ∃ digits, s = '.' :: digits ∧ IsDigits digits

def IsExponent (s : List Char) : Prop :=
  s = [] ∨ ∃ e sign digits, s = e :: (sign ++ digits) ∧ (e = 'e' ∨ e = 'E') ∧
    (sign = [] ∨ sign = ['+'] ∨ sign = ['-']) ∧ IsDigits digits

/-! Values. -/

inductive Phrase where
  | value (v : Value)
  | items (vs : List Value)
  | members (ms : List (Option String × Value))

/-- A text derives a phrase. There are no blanks around a value here, except within a list or an object. -/
inductive Derives : List Char → Phrase → Prop where
  | null : Derives "null".toList (.value .null)
  | yes : Derives "true".toList (.value (.bool true))
  | no : Derives "false".toList (.value (.bool false))
  | natural {digits : List Char} : IsInteger digits →
    Derives digits (.value (.natural (Text.Decimal.value digits)))
  | other {sign digits fraction exponent : List Char} : sign = [] ∨ sign = ['-'] → IsInteger digits →
    IsFraction fraction → IsExponent exponent → ¬ (sign = [] ∧ fraction = [] ∧ exponent = []) →
      Derives (sign ++ (digits ++ (fraction ++ exponent))) (.value .other)
  | string {s : List Char} {parts : List StringPart} : Spells s parts →
    Derives ('\x22' :: (s ++ ['\x22'])) (.value (stringOf parts))
  | emptyList {gap : List Char} : Blanks gap → Derives ('[' :: (gap ++ [']'])) (.value (.array []))
  | list {s : List Char} {vs : List Value} : Derives s (.items vs) →
    Derives ('[' :: (s ++ [']'])) (.value (.array vs))
  | emptyObject {gap : List Char} : Blanks gap → Derives ('\x7b' :: (gap ++ ['\x7d'])) (.value (.object []))
  | object {s : List Char} {ms : List (Option String × Value)} : Derives s (.members ms) →
    Derives ('\x7b' :: (s ++ ['\x7d'])) (.value (objectOf ms))
  | item {before s after : List Char} {v : Value} : Blanks before → Derives s (.value v) → Blanks after →
    Derives (before ++ (s ++ after)) (.items [v])
  | items {before s after t : List Char} {v : Value} {vs : List Value} : Blanks before → Derives s (.value v) →
    Blanks after → Derives t (.items vs) → Derives (before ++ (s ++ (after ++ ',' :: t))) (.items (v :: vs))
  | member {before name gap gap' s after : List Char} {parts : List StringPart} {v : Value} : Blanks before →
    Spells name parts → Blanks gap → Blanks gap' → Derives s (.value v) → Blanks after →
      Derives (before ++ '\x22' :: (name ++ '\x22' :: (gap ++ ':' :: (gap' ++ (s ++ after)))))
        (.members [(textOf? parts, v)])
  | members {before name gap gap' s after t : List Char} {parts : List StringPart} {v : Value}
    {ms : List (Option String × Value)} : Blanks before → Spells name parts → Blanks gap → Blanks gap' →
    Derives s (.value v) → Blanks after → Derives t (.members ms) →
      Derives (before ++ '\x22' :: (name ++ '\x22' :: (gap ++ ':' :: (gap' ++ (s ++ (after ++ ',' :: t))))))
        (.members ((textOf? parts, v) :: ms))

def IsText (s : List Char) (v : Value) : Prop :=
  ∃ before t after, s = before ++ (t ++ after) ∧ Blanks before ∧ Derives t (.value v) ∧ Blanks after

/-! Objects. -/

def named (members : List (String × Value)) : List (Option String × Value) :=
  members.map fun (name, v) => (some name, v)

theorem mapM_named {f : Option String × Value → Option (String × Value)}
    (each : ∀ name v, f (some name, v) = some (name, v)) (members : List (String × Value)) :
    (named members).mapM f = some members := by
  induction members with
  | nil => rfl
  | cons member members ih =>
    rw [named] at ih
    rw [named, List.map_cons, List.mapM_cons, ih, each]
    rfl

theorem mapM_unnamed {f : Option String × Value → Option (String × Value)} (refused : ∀ v, f (none, v) = none)
    {members : List (Option String × Value)} {v : Value} (within : (none, v) ∈ members) : members.mapM f = none := by
  induction members with
  | nil => cases within
  | cons member members ih =>
    rw [List.mapM_cons]
    rcases List.mem_cons.mp within with rfl | within
    · rw [refused]
      rfl
    · rw [ih within]
      cases f member <;> rfl

theorem named_or (members : List (Option String × Value)) :
    (∃ ms, members = named ms) ∨ ∃ v, (none, v) ∈ members := by
  induction members with
  | nil => exact .inl ⟨[], rfl⟩
  | cons member members ih =>
    obtain ⟨name, v⟩ := member
    cases name with
    | none => exact .inr ⟨v, List.mem_cons_self⟩
    | some name =>
      rcases ih with ⟨ms, rfl⟩ | ⟨w, within⟩
      · exact .inl ⟨(name, v) :: ms, rfl⟩
      · exact .inr ⟨w, List.mem_cons_of_mem _ within⟩

theorem objectOf_named (members : List (String × Value)) : objectOf (named members) = .object members := by
  rw [objectOf, mapM_named]
  intro name v
  rfl

theorem objectOf_cases (members : List (Option String × Value)) :
    (∃ ms, members = named ms ∧ objectOf members = .object ms) ∨
      (∃ v, (none, v) ∈ members) ∧ objectOf members = .unpaired := by
  rcases named_or members with ⟨ms, rfl⟩ | ⟨v, within⟩
  · exact .inl ⟨ms, rfl, objectOf_named ms⟩
  · refine .inr ⟨⟨v, within⟩, ?_⟩
    rw [objectOf, mapM_unnamed ?_ within]
    intro v
    rfl

theorem named_inj {a b : List (String × Value)} : named a = named b ↔ a = b := by
  refine ⟨fun same => ?_, congrArg named⟩
  have objects := congrArg objectOf same
  rw [objectOf_named, objectOf_named] at objects
  exact Value.object.inj objects

theorem objectOf_eq_object {members : List (Option String × Value)} {ms : List (String × Value)} :
    objectOf members = .object ms ↔ members = named ms := by
  rcases objectOf_cases members with ⟨is, rfl, object⟩ | ⟨⟨v, within⟩, object⟩
  · rw [object, Value.object.injEq, named_inj]
  · rw [object]
    refine ⟨nofun, ?_⟩
    rintro rfl
    simp [named] at within

/-! What the reader makes of it. -/

theorem isBlank_iff {c : Char} : isBlank c = true ↔ c = ' ' ∨ c = '\n' ∨ c = '\t' ∨ c = '\r' := by
  simp [isBlank, or_assoc]

theorem skipBlanks_append {gap : List Char} (blank : Blanks gap) (s : List Char) :
    skipBlanks (gap ++ s) = skipBlanks s :=
  List.dropWhile_append_of_pos fun c within => isBlank_iff.mpr (blank c within)

theorem escape?_short {e c : Char} (short : (e, c) ∈ shortEscapes) (rest : List Char) :
    e ≠ 'u' ∧ escape? (e :: rest) = some (.char c, rest) := by
  simp only [shortEscapes, List.mem_cons, Prod.mk.injEq, List.not_mem_nil, or_false] at short
  rcases short with ⟨rfl, rfl⟩ | ⟨rfl, rfl⟩ | ⟨rfl, rfl⟩ | ⟨rfl, rfl⟩ | ⟨rfl, rfl⟩ | ⟨rfl, rfl⟩ | ⟨rfl, rfl⟩ |
    ⟨rfl, rfl⟩ <;> exact ⟨by decide, rfl⟩

theorem hexQuad?_eq_some {s rest : List Char} {n : Nat} (read : hexQuad? s = some (n, rest)) :
    ∃ a b c d, s = a :: b :: c :: d :: rest ∧ Text.Hex.number? [a, b, c, d] = some n := by
  unfold hexQuad? at read
  split at read
  · rename_i a b c d rest'
    obtain ⟨m, number, same⟩ := Option.map_eq_some_iff.mp read
    cases same
    exact ⟨a, b, c, d, rfl, number⟩
  · cases read

theorem hexQuad?_digits {a b c d : Char} {n : Nat} (number : Text.Hex.number? [a, b, c, d] = some n)
    (rest : List Char) : hexQuad? (a :: b :: c :: d :: rest) = some (n, rest) := by
  rw [hexQuad?, number]
  rfl

theorem escape?_code {a b c d : Char} {n : Nat} {rest : List Char} (number : Text.Hex.number? [a, b, c, d] = some n)
    (alone : ∀ e f g h more low, rest = '\\' :: 'u' :: e :: f :: g :: h :: more →
      Text.Hex.number? [e, f, g, h] = some low → ¬ IsPair n low) :
    escape? ('u' :: a :: b :: c :: d :: rest) = some (unit n, rest) := by
  rw [escape?, if_pos rfl, hexQuad?_digits number]
  simp only [unit]
  split
  · rfl
  · rename_i half
    split
    · rename_i more
      cases follows : hexQuad? more with
      | none => rfl
      | some low =>
        obtain ⟨low, after⟩ := low
        obtain ⟨e, f, g, h, rfl, quad⟩ := hexQuad?_eq_some follows
        have other := alone e f g h after low rfl quad
        simp only [IsPair] at other
        exact if_neg (by omega)
    · rfl

theorem escape?_pair {a b c d e f g h : Char} {high low : Nat} (first : Text.Hex.number? [a, b, c, d] = some high)
    (second : Text.Hex.number? [e, f, g, h] = some low) (pair : IsPair high low) (rest : List Char) :
    escape? ('u' :: a :: b :: c :: d :: '\\' :: 'u' :: e :: f :: g :: h :: rest) =
      some (.char (joinSurrogates high low), rest) := by
  simp only [IsPair] at pair
  rw [escape?, if_pos rfl, hexQuad?_digits first]
  simp only
  rw [if_neg (by omega), hexQuad?_digits second]
  exact if_pos (by omega)

theorem stringUnits_cons {fuel : Nat} {c : Char} {s rest : List Char} {u : StringUnit} (some : 0 < fuel)
    (inside : c ≠ '\x22') (printed : 0x20 ≤ c.toNat)
    (front : (if c = '\\' then escape? s else .some (.char c, s)) = .some (u, rest)) :
    stringUnits fuel (c :: s) = (stringUnits (fuel - 1) rest).map fun (us, after) => (u :: us, after) := by
  obtain ⟨fuel, rfl⟩ := Nat.exists_eq_add_of_le' some
  rw [stringUnits, if_neg inside, if_neg (Nat.not_lt.mpr printed), front]
  simp only
  split <;> simp [*]

theorem stringUnits_spells {s : List Char} {parts : List StringPart} (spelt : Spells s parts) (fuel : Nat)
    (enough : s.length < fuel) (rest : List Char) :
    stringUnits fuel (s ++ '\x22' :: rest) = some (units parts, rest) := by
  have some : 0 < fuel := Nat.zero_lt_of_lt enough
  -- along the units, not the characters: two codes that are a pair are read in one step, and are one unit
  induction parts using units.induct generalizing s fuel with
  | case1 =>
    cases spelt
    obtain ⟨fuel, rfl⟩ := Nat.exists_eq_add_of_le' some
    rw [List.nil_append, stringUnits, if_pos rfl, units]
  | case2 c parts ih =>
    cases spelt with
    | plain inside other printed spelt =>
      rw [List.length_cons] at enough
      rw [List.cons_append, stringUnits_cons some inside printed (if_neg other),
        ih spelt (fuel - 1) (by omega) (by omega), units]
      rfl
    | short escape spelt =>
      simp only [List.length_cons] at enough
      simp only [List.cons_append]
      rw [stringUnits_cons some (by decide) (by decide) ((if_pos rfl).trans (escape?_short escape _).2),
        ih spelt (fuel - 1) (by omega) (by omega), units]
      rfl
  | case3 n low more pair ih =>
    cases spelt with
    | code first spelt =>
      cases spelt with
      | code second spelt =>
        simp only [List.length_cons] at enough
        simp only [List.cons_append]
        rw [stringUnits_cons some (by decide) (by decide) ((if_pos rfl).trans (escape?_pair first second pair _)),
          ih spelt (fuel - 1) (by omega) (by omega), units, if_pos pair]
        rfl
  | case4 n low more apart ih =>
    cases spelt with
    | code first spelt =>
      simp only [List.length_cons] at enough
      simp only [List.cons_append]
      rw [stringUnits_cons some (by decide) (by decide) ((if_pos rfl).trans (escape?_code first ?_)),
          ih spelt (fuel - 1) (by omega) (by omega), units, if_neg apart]
      · rfl
      · -- the four digits that follow in the text are those of the code that follows in the string
        intro e f g h after low' same number
        cases spelt with
        | code second _ =>
          cases same
          cases second.symm.trans number
          exact apart
  | case5 n parts other ih =>
    cases spelt with
    | code first spelt =>
      simp only [List.length_cons] at enough
      simp only [List.cons_append]
      rw [stringUnits_cons some (by decide) (by decide) ((if_pos rfl).trans (escape?_code first ?_)),
          ih spelt (fuel - 1) (by omega) (by omega), units.eq_4 n parts other]
      · rfl
      · intro e f g h after low same
        cases spelt with
        | nil => cases same
        | plain _ escaped _ _ => exact absurd (List.cons.inj same).1 escaped
        | short escape _ => exact absurd (List.cons.inj (List.cons.inj same).2).1 (escape?_short escape []).1
        | code _ _ => exact absurd rfl (other _ _)

theorem string?_spells {s : List Char} {parts : List StringPart} (spelt : Spells s parts) (rest : List Char) :
    string? (s ++ '\x22' :: rest) = some (textOf? parts, rest) := by
  have enough : s.length < (s ++ '\x22' :: rest).length + 1 := by
    rw [List.length_append]
    omega
  rw [string?, stringUnits_spells spelt _ enough]
  rfl

def Closes (rest : List Char) : Prop := ∀ c ∈ rest.head?, isBlank c = true ∨ c = ',' ∨ c = ']' ∨ c = '\x7d'

theorem closes_append {after rest : List Char} (blank : Blanks after) (closes : Closes rest) :
    Closes (after ++ rest) := by
  cases after with
  | nil => exact closes
  | cons c after =>
    rintro _ ⟨⟩
    exact .inl (isBlank_iff.mpr (blank c List.mem_cons_self))

def Stops (marks rest : List Char) : Prop := ∀ c ∈ rest.head?, Text.Decimal.isDigit c = false ∧ c ∉ marks

theorem Closes.stops {rest : List Char} (closes : Closes rest) : Stops ['.', 'e', 'E'] rest := by
  intro c first
  have ends : c = ' ' ∨ c = '\n' ∨ c = '\t' ∨ c = '\r' ∨ c = ',' ∨ c = ']' ∨ c = '\x7d' := by
    simpa only [isBlank_iff, or_assoc] using closes c first
  rcases ends with rfl | rfl | rfl | rfl | rfl | rfl | rfl <;> decide

theorem span_digits {digits rest marks : List Char} (all : ∀ c ∈ digits, '0' ≤ c ∧ c ≤ '9')
    (stops : Stops marks rest) : (digits ++ rest).takeWhile Text.Decimal.isDigit = digits ∧
      (digits ++ rest).dropWhile Text.Decimal.isDigit = rest := by
  have each : ∀ c ∈ digits, Text.Decimal.isDigit c = true := fun c within =>
    (Text.Decimal.isDigit_iff c).mpr (all c within)
  rw [List.takeWhile_append_of_pos each, List.dropWhile_append_of_pos each]
  cases rest with
  | nil => exact ⟨List.append_nil _, rfl⟩
  | cons c rest =>
    have other : ¬ Text.Decimal.isDigit c = true := by simp [(stops c rfl).1]
    rw [List.takeWhile_cons_of_neg other, List.dropWhile_cons_of_neg other, List.append_nil]
    exact ⟨rfl, rfl⟩

theorem IsFraction.stops {fraction rest : List Char} (fractional : IsFraction fraction) (stops : Stops ['.'] rest) :
    Stops [] (fraction ++ rest) := by
  rcases fractional with rfl | ⟨digits, rfl, -⟩
  · exact fun c first => ⟨(stops c first).1, List.not_mem_nil⟩
  · rintro _ ⟨⟩
    decide

theorem IsExponent.stops {exponent rest : List Char} (exponential : IsExponent exponent)
    (stops : Stops ['.', 'e', 'E'] rest) : Stops ['.'] (exponent ++ rest) := by
  rcases exponential with rfl | ⟨e, sign, digits, rfl, rfl | rfl, -⟩
  · exact fun c first => ⟨(stops c first).1, fun mark => (stops c first).2 (by simp_all)⟩
  · rintro _ ⟨⟩
    decide
  · rintro _ ⟨⟩
    decide

theorem fraction?_append {fraction rest : List Char} (fractional : IsFraction fraction) (stops : Stops ['.'] rest) :
    fraction? (fraction ++ rest) = some (!fraction.isEmpty, rest) := by
  rcases fractional with rfl | ⟨digits, rfl, some, all⟩
  · cases rest with
    | nil => rfl
    | cons c rest =>
      have other : c ≠ '.' := fun same => (stops c rfl).2 (List.mem_singleton.mpr same)
      rw [List.nil_append, fraction?]
      · rfl
      · exact fun _ same => other (List.cons.inj same).1
  · obtain ⟨took, left⟩ := span_digits all stops
    rw [List.cons_append, fraction?, took, left]
    obtain ⟨digit, digits, rfl⟩ := List.exists_cons_of_ne_nil some
    rfl

theorem exponent?_sign {e : Char} {sign : List Char} (digits : List Char) (mark : e = 'e' ∨ e = 'E')
    (signed : sign = ['+'] ∨ sign = ['-'] ∨ sign = [] ∧ ∀ c ∈ digits.head?, c ≠ '+' ∧ c ≠ '-') :
    exponent? (e :: (sign ++ digits)) = if digits.takeWhile Text.Decimal.isDigit = [] then none
      else some (true, digits.dropWhile Text.Decimal.isDigit) := by
  rcases signed with rfl | rfl | ⟨rfl, unsigned⟩
  · simp only [exponent?, List.singleton_append, if_pos mark]
    cases digits.takeWhile Text.Decimal.isDigit <;> rfl
  · simp only [exponent?, List.singleton_append, if_pos mark]
    cases digits.takeWhile Text.Decimal.isDigit <;> rfl
  · cases digits with
    | nil => simp [exponent?, mark]
    | cons digit digits =>
      obtain ⟨plus, minus⟩ := unsigned digit rfl
      simp only [exponent?, List.nil_append, if_pos mark, List.cons.injEq, plus, minus, false_and, imp_self,
        implies_true]
      cases (digit :: digits).takeWhile Text.Decimal.isDigit <;> rfl

theorem exponent?_other {c : Char} (s : List Char) (other : ¬ (c = 'e' ∨ c = 'E')) :
    exponent? (c :: s) = some (false, c :: s) := by
  unfold exponent?
  exact if_neg other

theorem exponent?_append {exponent rest : List Char} (exponential : IsExponent exponent)
    (stops : Stops ['.', 'e', 'E'] rest) : exponent? (exponent ++ rest) = some (!exponent.isEmpty, rest) := by
  rcases exponential with rfl | ⟨e, sign, digits, rfl, mark, signed, some, all⟩
  · cases rest with
    | nil => rfl
    | cons c rest => exact exponent?_other rest fun same => (stops c rfl).2 (by simpa using .inr same)
  · obtain ⟨took, left⟩ := span_digits all stops
    have unsigned : ∀ c ∈ (digits ++ rest).head?, c ≠ '+' ∧ c ≠ '-' := by
      obtain ⟨digit, digits, rfl⟩ := List.exists_cons_of_ne_nil some
      rintro _ ⟨⟩
      constructor <;> rintro rfl <;> exact absurd (all _ List.mem_cons_self) (by decide)
    have front := exponent?_sign (digits ++ rest) mark
      (signed.elim (fun same => .inr (.inr ⟨same, unsigned⟩)) fun same => same.imp id .inl)
    rw [took, left, if_neg some] at front
    simpa using front

theorem number?_sign {sign : List Char} (s : List Char)
    (signed : sign = ['-'] ∨ sign = [] ∧ ∀ c ∈ s.head?, c ≠ '-') :
    number? (sign ++ s) =
      let digits := s.takeWhile Text.Decimal.isDigit
      if digits.isEmpty ∨ (digits.head? = some '0' ∧ 1 < digits.length) then none
      else (fraction? (s.dropWhile Text.Decimal.isDigit)).bind fun fraction =>
        (exponent? fraction.2).map fun exponent =>
          (if sign = [] ∧ fraction.1 = false ∧ exponent.1 = false then .natural (Text.Decimal.value digits) else .other,
            exponent.2) := by
  rcases signed with rfl | ⟨rfl, unsigned⟩
  · simp only [number?, List.singleton_append, true_or, if_true]
    split_ifs
    · rfl
    · rcases fraction? (s.dropWhile Text.Decimal.isDigit) with - | ⟨fraction, t⟩
      · rfl
      · rcases whole : exponent? t with - | ⟨exponent, t⟩ <;> simp [whole]
  · cases s with
    | nil => rfl
    | cons c s =>
      have plain := unsigned c rfl
      simp only [number?, List.nil_append, List.cons.injEq, plain, false_and, imp_self, implies_true]
      split_ifs
      · rfl
      · rcases fraction? ((c :: s).dropWhile Text.Decimal.isDigit) with - | ⟨fraction, t⟩
        · rfl
        · rcases whole : exponent? t with - | ⟨exponent, t⟩
          · simp [whole]
          · cases fraction <;> cases exponent <;> simp [whole]

theorem isInteger_iff {digits : List Char} (all : ∀ c ∈ digits, '0' ≤ c ∧ c ≤ '9') :
    IsInteger digits ↔ ¬ (digits.isEmpty = true ∨ digits.head? = some '0' ∧ 1 < digits.length) := by
  cases digits with
  | nil => simp [IsInteger, IsDigits]
  | cons digit digits =>
    have others := (List.forall_mem_cons.mp all).2
    have alone : (digit = '0' → digit = '0' ∧ digits = []) ↔ (digit = '0' → digits = []) := by tauto
    simpa [IsInteger, IsDigits, all, alone] using fun _ : digit = '0' → digits = [] => others

theorem number?_append {sign digits fraction exponent rest : List Char} (signed : sign = [] ∨ sign = ['-'])
    (integer : IsInteger digits) (fractional : IsFraction fraction) (exponential : IsExponent exponent)
    (stops : Stops ['.', 'e', 'E'] rest) :
    number? (sign ++ (digits ++ (fraction ++ (exponent ++ rest)))) =
      some (if sign = [] ∧ fraction = [] ∧ exponent = [] then .natural (Text.Decimal.value digits) else .other,
        rest) := by
  obtain ⟨took, left⟩ := span_digits integer.1.2 (fractional.stops (exponential.stops stops))
  have unsigned : ∀ c ∈ (digits ++ (fraction ++ (exponent ++ rest))).head?, c ≠ '-' := by
    obtain ⟨digit, digits, rfl⟩ := List.exists_cons_of_ne_nil integer.1.1
    rintro _ ⟨⟩ rfl
    exact absurd (integer.1.2 _ List.mem_cons_self) (by decide)
  rw [number?_sign _ (signed.symm.imp_right fun same => ⟨same, unsigned⟩)]
  simp only [took, left]
  rw [if_neg ((isInteger_iff integer.1.2).mp integer)]
  simp only [fraction?_append fractional (exponential.stops stops), Option.bind_some,
    exponent?_append exponential stops, Option.map_some, Bool.not_eq_false', List.isEmpty_iff]

/-! Values. -/

theorem value?_skip {gap : List Char} (blank : Blanks gap) (fuel : Nat) (s : List Char) :
    value? fuel (gap ++ s) = value? fuel s := by
  cases fuel with
  | zero => rfl
  | succ fuel => rw [value?, value?, skipBlanks_append blank]

theorem skipBlanks_cons {c : Char} (printed : isBlank c = false) (s : List Char) : skipBlanks (c :: s) = c :: s :=
  List.dropWhile_cons_of_neg (by simp [printed])

def BeginsNumber (c : Char) : Prop := c = '-' ∨ '0' ≤ c ∧ c ≤ '9'

instance (c : Char) : Decidable (BeginsNumber c) := inferInstanceAs (Decidable (_ ∨ _))

theorem BeginsNumber.not_blank {c : Char} (begins : BeginsNumber c) : isBlank c = false := by
  rw [Bool.eq_false_iff, ne_eq, isBlank_iff]
  rintro (rfl | rfl | rfl | rfl) <;> exact absurd begins (by decide)

theorem value?_number {c : Char} (begins : BeginsNumber c) (fuel : Nat) (s : List Char) :
    value? (fuel + 1) (c :: s) = number? (c :: s) := by
  rw [value?, skipBlanks_cons begins.not_blank]
  split
  case h_8 => rfl
  case h_1 same => cases same
  all_goals
    rename_i same
    cases same
    exact absurd begins (by decide)

def Reads (s : List Char) : Phrase → Prop
  -- an item costs a step beside those of its value, which may have one character only: hence twice the length
  | .value v => ∀ fuel rest, 2 * s.length ≤ fuel → Closes rest → value? fuel (s ++ rest) = some (v, rest)
  | .items vs => ∀ fuel rest, 2 * s.length < fuel → items? fuel (s ++ ']' :: rest) = some (vs, rest)
  | .members ms => ∀ fuel rest, 2 * s.length < fuel → members? fuel (s ++ '\x7d' :: rest) = some (ms, rest)

theorem Reads.of_value {s : List Char} {v : Value} (written : s ≠ [])
    (each : ∀ fuel rest, 2 * s.length ≤ fuel + 1 → Closes rest → value? (fuel + 1) (s ++ rest) = some (v, rest)) :
    Reads s (.value v) := by
  intro fuel rest enough closes
  have long := List.length_pos_iff.mpr written
  obtain ⟨fuel, rfl⟩ := Nat.exists_eq_add_of_le' (show 1 ≤ fuel by omega)
  exact each fuel rest enough closes

theorem Reads.of_items {s : List Char} {vs : List Value}
    (each : ∀ fuel rest, 2 * s.length ≤ fuel → items? (fuel + 1) (s ++ ']' :: rest) = some (vs, rest)) :
    Reads s (.items vs) := by
  intro fuel rest enough
  obtain ⟨fuel, rfl⟩ := Nat.exists_eq_add_of_le' (Nat.zero_lt_of_lt enough)
  exact each fuel rest (Nat.le_of_lt_succ enough)

theorem Reads.of_members {s : List Char} {ms : List (Option String × Value)}
    (each : ∀ fuel rest, 2 * s.length ≤ fuel → members? (fuel + 1) (s ++ '\x7d' :: rest) = some (ms, rest)) :
    Reads s (.members ms) := by
  intro fuel rest enough
  obtain ⟨fuel, rfl⟩ := Nat.exists_eq_add_of_le' (Nat.zero_lt_of_lt enough)
  exact each fuel rest (Nat.le_of_lt_succ enough)

theorem Reads.value {s : List Char} {v : Value} (reads : Reads s (.value v)) {fuel : Nat}
    (enough : 2 * s.length ≤ fuel) {before after rest : List Char} (blank : Blanks before) (blank' : Blanks after)
    (closes : Closes rest) :
    value? fuel (before ++ (s ++ (after ++ rest))) = some (v, after ++ rest) := by
  rw [value?_skip blank]
  exact reads fuel _ enough (closes_append blank' closes)

theorem Derives.begins {s : List Char} {v : Value} (derived : Derives s (.value v)) :
    ∃ c t, s = c :: t ∧ isBlank c = false ∧ c ≠ ']' := by
  have integer {digits : List Char} (integer : IsInteger digits) :
      ∃ c t, digits = c :: t ∧ isBlank c = false ∧ c ≠ ']' := by
    obtain ⟨digit, digits, rfl⟩ := List.exists_cons_of_ne_nil integer.1.1
    have begins : BeginsNumber digit := .inr (integer.1.2 digit List.mem_cons_self)
    refine ⟨digit, digits, rfl, begins.not_blank, ?_⟩
    rintro rfl
    exact absurd begins (by decide)
  cases derived with
  | null | yes | no => exact ⟨_, _, rfl, rfl, by decide⟩
  | natural whole => exact integer whole
  | other signed whole _ _ _ =>
    rcases signed with rfl | rfl
    · obtain ⟨c, t, rfl, other⟩ := integer whole
      exact ⟨c, _, rfl, other⟩
    · exact ⟨_, _, rfl, rfl, by decide⟩
  | string _ | emptyList _ | list _ | emptyObject _ | object _ => exact ⟨_, _, rfl, rfl, by decide⟩

theorem Derives.items_begin {s : List Char} {vs : List Value} (derived : Derives s (.items vs)) (rest : List Char) :
    ∃ c t, skipBlanks (s ++ rest) = c :: t ∧ c ≠ ']' := by
  cases derived with
  | item blank derived _ =>
    obtain ⟨c, t, rfl, printed, other⟩ := derived.begins
    exact ⟨c, _, by rw [List.append_assoc, skipBlanks_append blank]; exact skipBlanks_cons printed _, other⟩
  | items blank derived _ _ =>
    obtain ⟨c, t, rfl, printed, other⟩ := derived.begins
    exact ⟨c, _, by rw [List.append_assoc, skipBlanks_append blank]; exact skipBlanks_cons printed _, other⟩

theorem Derives.members_begin {s : List Char} {ms : List (Option String × Value)} (derived : Derives s (.members ms))
    (rest : List Char) : ∃ t, skipBlanks (s ++ rest) = '\x22' :: t := by
  cases derived with
  | member blank _ _ _ _ _ =>
    exact ⟨_, by rw [List.append_assoc, skipBlanks_append blank]; exact skipBlanks_cons rfl _⟩
  | members blank _ _ _ _ _ _ =>
    exact ⟨_, by rw [List.append_assoc, skipBlanks_append blank]; exact skipBlanks_cons rfl _⟩

theorem reads_number {sign digits fraction exponent : List Char} (signed : sign = [] ∨ sign = ['-'])
    (integer : IsInteger digits) (fractional : IsFraction fraction) (exponential : IsExponent exponent) :
    Reads (sign ++ (digits ++ (fraction ++ exponent))) (.value
      (if sign = [] ∧ fraction = [] ∧ exponent = [] then .natural (Text.Decimal.value digits) else .other)) := by
  have written : digits ≠ [] := integer.1.1
  refine .of_value (by simp [written]) fun fuel rest enough closes => ?_
  obtain ⟨c, s, split, begins⟩ :
      ∃ c s, sign ++ (digits ++ (fraction ++ (exponent ++ rest))) = c :: s ∧ BeginsNumber c := by
    obtain ⟨digit, digits, rfl⟩ := List.exists_cons_of_ne_nil written
    rcases signed with rfl | rfl
    · exact ⟨digit, _, rfl, .inr (integer.1.2 digit List.mem_cons_self)⟩
    · exact ⟨'-', _, rfl, .inl rfl⟩
  simp only [List.append_assoc]
  rw [split, value?_number begins, ← split]
  exact number?_append signed integer fractional exponential closes.stops

theorem value?_string {s : List Char} {parts : List StringPart} (spelt : Spells s parts) (fuel : Nat)
    (rest : List Char) : value? (fuel + 1) ('\x22' :: (s ++ '\x22' :: rest)) = some (stringOf parts, rest) := by
  rw [value?, skipBlanks_cons rfl]
  simp only [string?_spells spelt, stringOf]
  cases textOf? parts <;> rfl

theorem value?_emptyList {gap : List Char} (blank : Blanks gap) (fuel : Nat) (rest : List Char) :
    value? (fuel + 1) ('[' :: (gap ++ ']' :: rest)) = some (.array [], rest) := by
  rw [value?, skipBlanks_cons rfl]
  simp only [skipBlanks_append blank, skipBlanks_cons (show isBlank ']' = false from rfl)]

theorem value?_list {s : List Char} (front : ∃ c t, skipBlanks s = c :: t ∧ c ≠ ']') (fuel : Nat) :
    value? (fuel + 1) ('[' :: s) = (items? fuel s).map fun (items, rest) => (.array items, rest) := by
  obtain ⟨c, t, front, other⟩ := front
  rw [value?, skipBlanks_cons rfl]
  simp only [front]
  split
  · rename_i same
    exact absurd (List.cons.inj same).1 other
  · rfl

theorem value?_emptyObject {gap : List Char} (blank : Blanks gap) (fuel : Nat) (rest : List Char) :
    value? (fuel + 1) ('\x7b' :: (gap ++ '\x7d' :: rest)) = some (.object [], rest) := by
  rw [value?, skipBlanks_cons rfl]
  simp only [skipBlanks_append blank, skipBlanks_cons (show isBlank '\x7d' = false from rfl)]

theorem value?_object {s : List Char} (front : ∃ t, skipBlanks s = '\x22' :: t) (fuel : Nat) :
    value? (fuel + 1) ('\x7b' :: s) = (members? fuel s).map fun (members, rest) => (objectOf members, rest) := by
  obtain ⟨t, front⟩ := front
  rw [value?, skipBlanks_cons rfl]
  simp only [front]
  rfl

theorem items?_last {fuel : Nat} {s after rest : List Char} {v : Value} (blank : Blanks after)
    (front : value? fuel s = some (v, after ++ ']' :: rest)) : items? (fuel + 1) s = some ([v], rest) := by
  rw [items?, front]
  simp only [skipBlanks_append blank, skipBlanks_cons (show isBlank ']' = false from rfl)]

theorem items?_more {fuel : Nat} {s after rest : List Char} {v : Value} (blank : Blanks after)
    (front : value? fuel s = some (v, after ++ ',' :: rest)) :
    items? (fuel + 1) s = (items? fuel rest).map fun (items, rest) => (v :: items, rest) := by
  rw [items?, front]
  simp only [skipBlanks_append blank, skipBlanks_cons (show isBlank ',' = false from rfl)]

theorem members?_last {fuel : Nat} {before name gap s after rest : List Char} {parts : List StringPart} {v : Value}
    (blank : Blanks before) (spelt : Spells name parts) (blank' : Blanks gap) (blank'' : Blanks after)
    (front : value? fuel s = some (v, after ++ '\x7d' :: rest)) :
    members? (fuel + 1) (before ++ '\x22' :: (name ++ '\x22' :: (gap ++ ':' :: s))) =
      some ([(textOf? parts, v)], rest) := by
  rw [members?, skipBlanks_append blank, skipBlanks_cons rfl]
  simp only [string?_spells spelt, skipBlanks_append blank', skipBlanks_cons (show isBlank ':' = false from rfl), front,
    skipBlanks_append blank'', skipBlanks_cons (show isBlank '\x7d' = false from rfl)]

theorem members?_more {fuel : Nat} {before name gap s after rest : List Char} {parts : List StringPart} {v : Value}
    (blank : Blanks before) (spelt : Spells name parts) (blank' : Blanks gap) (blank'' : Blanks after)
    (front : value? fuel s = some (v, after ++ ',' :: rest)) :
    members? (fuel + 1) (before ++ '\x22' :: (name ++ '\x22' :: (gap ++ ':' :: s))) =
      (members? fuel rest).map fun (members, rest) => ((textOf? parts, v) :: members, rest) := by
  rw [members?, skipBlanks_append blank, skipBlanks_cons rfl]
  simp only [string?_spells spelt, skipBlanks_append blank', skipBlanks_cons (show isBlank ':' = false from rfl), front,
    skipBlanks_append blank'', skipBlanks_cons (show isBlank ',' = false from rfl)]

theorem closes_cons {c : Char} (mark : c = ',' ∨ c = ']' ∨ c = '\x7d') (rest : List Char) : Closes (c :: rest) := by
  rintro _ ⟨⟩
  exact .inr mark

theorem Derives.reads {s : List Char} {p : Phrase} (derived : Derives s p) : Reads s p := by
  induction derived with
  | null | yes | no => exact .of_value (by decide) fun _ _ _ _ => rfl
  | natural integer => simpa using reads_number (.inl rfl) integer (.inl rfl) (.inl rfl)
  | other signed integer fractional exponential marked =>
    simpa only [if_neg marked] using reads_number signed integer fractional exponential
  | string spelt =>
    exact .of_value (List.cons_ne_nil _ _) fun fuel rest _ _ => by simpa using value?_string spelt fuel rest
  | emptyList blank =>
    exact .of_value (List.cons_ne_nil _ _) fun fuel rest _ _ => by simpa using value?_emptyList blank fuel rest
  | emptyObject blank =>
    exact .of_value (List.cons_ne_nil _ _) fun fuel rest _ _ => by simpa using value?_emptyObject blank fuel rest
  | list derived ih =>
    refine .of_value (List.cons_ne_nil _ _) fun fuel rest enough _ => ?_
    simp only [List.length_cons, List.length_append, List.cons_append, List.append_assoc, List.nil_append] at enough ⊢
    rw [value?_list (derived.items_begin _), ih fuel rest (by omega)]
    rfl
  | object derived ih =>
    refine .of_value (List.cons_ne_nil _ _) fun fuel rest enough _ => ?_
    simp only [List.length_cons, List.length_append, List.cons_append, List.append_assoc, List.nil_append] at enough ⊢
    rw [value?_object (derived.members_begin _), ih fuel rest (by omega)]
    rfl
  | item blank _ blank' ih =>
    refine .of_items fun fuel rest enough => ?_
    simp only [List.length_append, List.append_assoc] at enough ⊢
    exact items?_last blank' (ih.value (by omega) blank blank' (closes_cons (by decide) rest))
  | items blank _ blank' _ ih ih' =>
    refine .of_items fun fuel rest enough => ?_
    simp only [List.length_append, List.length_cons, List.append_assoc, List.cons_append] at enough ⊢
    rw [items?_more blank' (ih.value (by omega) blank blank' (closes_cons (by decide) _)), ih' fuel rest (by omega)]
    rfl
  | member blank spelt blank' blank'' _ blank''' ih =>
    refine .of_members fun fuel rest enough => ?_
    simp only [List.length_append, List.length_cons, List.append_assoc, List.cons_append] at enough ⊢
    exact members?_last blank spelt blank' blank'''
      (ih.value (by omega) blank'' blank''' (closes_cons (by decide) rest))
  | members blank spelt blank' blank'' _ blank''' _ ih ih' =>
    refine .of_members fun fuel rest enough => ?_
    simp only [List.length_append, List.length_cons, List.append_assoc, List.cons_append] at enough ⊢
    rw [members?_more blank spelt blank' blank'''
      (ih.value (by omega) blank'' blank''' (closes_cons (by decide) _)), ih' fuel rest (by omega)]
    rfl

theorem read?_of_isText {text : String} {v : Value} (spelt : IsText text.toList v) : read? text = some v := by
  obtain ⟨before, t, after, split, blank, derived, blank'⟩ := spelt
  have reads : value? (2 * text.toList.length + 2) text.toList = some (v, after) := by
    have enough : 2 * t.length ≤ 2 * (before ++ (t ++ after)).length + 2 := by
      simp only [List.length_append]
      omega
    have closes : Closes [] := nofun
    simpa [split] using derived.reads.value enough blank blank' closes
  have empty : skipBlanks after = [] := List.dropWhile_eq_nil_iff.mpr fun c within => isBlank_iff.mpr (blank' c within)
  unfold read?
  simp only [reads, empty]
  rfl

end Gateway.Json
