import Gateway.Text.Blank
import Gateway.Text.Decimal
import Mathlib.Data.List.Induction
import Mathlib.Data.List.TakeWhile
import Mathlib.Data.Nat.Digits.Defs

namespace Gateway

namespace Text

theorem exists_trim (s : List Char) : ∃ left right, s = left ++ (trim s ++ right) ∧
    (∀ c ∈ left, isBlank c = true) ∧ ∀ c ∈ right, isBlank c = true := by
  refine ⟨s.takeWhile isBlank, ((trimLeft s).reverse.takeWhile isBlank).reverse, ?_, fun c => List.mem_takeWhile_imp,
    fun c within => List.mem_takeWhile_imp (List.mem_reverse.mp within)⟩
  have back := congrArg List.reverse (List.takeWhile_append_dropWhile (p := isBlank) (l := (trimLeft s).reverse))
  rw [List.reverse_append, List.reverse_reverse] at back
  rw [trim, trimRight, back, trimLeft, List.takeWhile_append_dropWhile]

theorem trim_eq {left word right : List Char} (before : ∀ c ∈ left, isBlank c = true)
    (after : ∀ c ∈ right, isBlank c = true) (first : ∀ c ∈ word.head?, isBlank c = false)
    (last : ∀ c ∈ word.getLast?, isBlank c = false) (some : word ≠ []) : trim (left ++ (word ++ right)) = word := by
  have start : trimLeft (left ++ (word ++ right)) = word ++ right := by
    rw [trimLeft, List.dropWhile_append_of_pos before]
    obtain ⟨c, rest, rfl⟩ := List.exists_cons_of_ne_nil some
    exact List.dropWhile_cons_of_neg (by simp [first c rfl])
  have finish : (word ++ right).reverse.dropWhile isBlank = word.reverse := by
    rw [List.reverse_append, List.dropWhile_append_of_pos fun c within => after c (List.mem_reverse.mp within)]
    obtain ⟨c, rest, split⟩ := List.exists_cons_of_ne_nil (mt List.reverse_eq_nil_iff.mp some)
    have ends : isBlank c = false := last c (by simp [List.getLast?_eq_head?_reverse, split])
    rw [split]
    exact List.dropWhile_cons_of_neg (by simp [ends])
  rw [trim, start, trimRight, finish, List.reverse_reverse]

namespace Decimal

def Numeral (word : List Char) (n : Nat) : Prop :=
  ∃ sign digits, word = sign ++ digits ∧ (sign = [] ∨ sign = ['+']) ∧ digits ≠ [] ∧
    (∀ c ∈ digits, '0' ≤ c ∧ c ≤ '9') ∧ n = Nat.ofDigits 10 (digits.reverse.map fun c => c.toNat - '0'.toNat)

/-- A number as it may be written: digits, after an optional plus, with blanks around them. -/
def Writes (text : List Char) (n : Nat) : Prop :=
  ∃ left sign digits right, text = left ++ (sign ++ digits ++ right) ∧ digits ≠ [] ∧
    (∀ c ∈ left ++ right, isBlank c = true) ∧ (sign = [] ∨ sign = ['+']) ∧
    (∀ c ∈ digits, '0' ≤ c ∧ c ≤ '9') ∧ n = Nat.ofDigits 10 (digits.reverse.map fun c => c.toNat - '0'.toNat)

theorem value_concat (digits : List Char) (c : Char) : value (digits ++ [c]) = 10 * value digits + digitValue c :=
  List.foldl_append

theorem value_eq_ofDigits (digits : List Char) :
    value digits = Nat.ofDigits 10 (digits.reverse.map fun c => c.toNat - '0'.toNat) := by
  induction digits using List.reverseRecOn with
  | nil => rfl
  | append_singleton digits c ih =>
    rw [value_concat, ih, List.reverse_concat, List.map_cons, Nat.ofDigits_cons, Nat.add_comm]
    rfl

theorem isDigit_iff (c : Char) : isDigit c = true ↔ '0' ≤ c ∧ c ≤ '9' := by
  simp [isDigit]

theorem isBlank_digit {c : Char} (digit : '0' ≤ c ∧ c ≤ '9') : isBlank c = false := by
  have low : 48 ≤ c.toNat := UInt32.le_iff_toNat_le.mp digit.1
  have high : c.toNat ≤ 57 := UInt32.le_iff_toNat_le.mp digit.2
  simp only [isBlank, Bool.or_eq_false_iff, Bool.and_eq_false_iff, decide_eq_false_iff_not, beq_eq_false_iff_ne]
  omega

theorem ofDigits?_eq_some_iff {bound n : Nat} {digits : List Char} : ofDigits? bound digits = some n ↔
    digits ≠ [] ∧ (∀ c ∈ digits, '0' ≤ c ∧ c ≤ '9') ∧ value digits = n ∧ n ≤ bound := by
  have all : digits.all isDigit = true ↔ ∀ c ∈ digits, '0' ≤ c ∧ c ≤ '9' := by
    simp only [List.all_eq_true, isDigit_iff]
  unfold ofDigits?
  rw [Option.ite_none_right_eq_some, Option.some.injEq, all]
  constructor
  · rintro ⟨⟨some, digits, small⟩, rfl⟩
    exact ⟨some, digits, rfl, small⟩
  · rintro ⟨some, digits, rfl, small⟩
    exact ⟨⟨some, digits, small⟩, rfl⟩

theorem read?_digits (bound : Nat) {digits : List Char} (all : ∀ c ∈ digits, '0' ≤ c ∧ c ≤ '9') :
    read? bound digits = ofDigits? bound digits := by
  unfold read?
  split
  · exact absurd (all '+' List.mem_cons_self) (by decide)
  · rfl

/-- A number is read from a word exactly if the word writes it and it is small enough. -/
theorem read?_eq_some_iff {bound n : Nat} {word : List Char} :
    read? bound word = some n ↔ Numeral word n ∧ n ≤ bound := by
  constructor
  · intro taken
    unfold read? at taken
    split at taken
    · rename_i digits
      obtain ⟨some, all, rfl, small⟩ := ofDigits?_eq_some_iff.mp taken
      exact ⟨⟨['+'], digits, rfl, .inr rfl, some, all, value_eq_ofDigits digits⟩, small⟩
    · obtain ⟨some, all, rfl, small⟩ := ofDigits?_eq_some_iff.mp taken
      exact ⟨⟨[], word, rfl, .inl rfl, some, all, value_eq_ofDigits word⟩, small⟩
  · rintro ⟨⟨sign, digits, rfl, signed, some, all, rfl⟩, small⟩
    have taken : ofDigits? bound digits = Option.some _ :=
      ofDigits?_eq_some_iff.mpr ⟨some, all, value_eq_ofDigits digits, small⟩
    rcases signed with rfl | rfl
    · rw [List.nil_append, read?_digits bound all, taken]
    · exact taken

theorem Numeral.isBlank {word : List Char} {n : Nat} (numeral : Numeral word n) :
    ∀ c ∈ word, Text.isBlank c = false := by
  obtain ⟨sign, digits, rfl, rfl | rfl, -, all, -⟩ := numeral
  · exact fun c within => isBlank_digit (all c within)
  · exact List.forall_mem_append.mpr ⟨List.forall_mem_singleton.mpr rfl, fun c within => isBlank_digit (all c within)⟩

/-- A number is read from a text exactly if the text writes it and it is small enough. -/
theorem read?_trim_eq_some_iff {bound n : Nat} {text : List Char} :
    read? bound (trim text) = some n ↔ Writes text n ∧ n ≤ bound := by
  rw [read?_eq_some_iff]
  refine and_congr_left fun _ => ⟨?_, ?_⟩
  · rintro ⟨sign, digits, trimmed, signed, some, all, number⟩
    obtain ⟨left, right, split, before, after⟩ := exists_trim text
    exact ⟨left, sign, digits, right, trimmed ▸ split, some, List.forall_mem_append.mpr ⟨before, after⟩, signed, all,
      number⟩
  · rintro ⟨left, sign, digits, right, rfl, some, blank, signed, all, number⟩
    obtain ⟨before, after⟩ := List.forall_mem_append.mp blank
    have numeral : Numeral (sign ++ digits) n := ⟨sign, digits, rfl, signed, some, all, number⟩
    rwa [trim_eq before after (fun c starts => numeral.isBlank c (List.mem_of_head? starts))
      (fun c ends => numeral.isBlank c (List.mem_of_getLast? ends)) (List.append_ne_nil_of_right_ne_nil _ some)]

theorem digit_spec (n : Nat) (small : n < 10) :
    ('0' ≤ Char.ofNat (48 + n) ∧ Char.ofNat (48 + n) ≤ '9') ∧ digitValue (Char.ofNat (48 + n)) = n := by
  revert n
  decide

theorem digitsWithin_all (steps n : Nat) : ∀ c ∈ digitsWithin steps n, '0' ≤ c ∧ c ≤ '9' := by
  induction steps generalizing n with
  | zero => exact nofun
  | succ steps ih =>
    unfold digitsWithin
    split
    · rename_i single
      exact List.forall_mem_singleton.mpr (digit_spec n single).1
    · exact List.forall_mem_append.mpr
        ⟨ih (n / 10), List.forall_mem_singleton.mpr (digit_spec (n % 10) (Nat.mod_lt n (by decide))).1⟩

theorem value_digitsWithin {steps n : Nat} (enough : n < steps) : value (digitsWithin steps n) = n := by
  induction steps generalizing n with
  | zero => exact absurd enough (Nat.not_lt_zero n)
  | succ steps ih =>
    unfold digitsWithin
    split
    · rename_i single
      exact (value_concat [] _).trans ((Nat.zero_add _).trans (digit_spec n single).2)
    · rw [value_concat, ih (by omega), (digit_spec (n % 10) (Nat.mod_lt n (by decide))).2]
      exact Nat.div_add_mod n 10

theorem digitsWithin_head {steps n : Nat} (enough : n < steps) :
    ∃ c rest, digitsWithin steps n = c :: rest ∧ (c = '0' → n = 0) := by
  induction steps generalizing n with
  | zero => exact absurd enough (Nat.not_lt_zero n)
  | succ steps ih =>
    unfold digitsWithin
    split
    · rename_i single
      refine ⟨_, [], rfl, fun zero => ?_⟩
      rw [← (digit_spec n single).2, zero]
      rfl
    · rename_i more
      obtain ⟨c, rest, front, zero⟩ := ih (n := n / 10) (by omega)
      refine ⟨c, _, by rw [front]; rfl, fun same => ?_⟩
      have := zero same
      omega

theorem digits_all (n : Nat) : ∀ c ∈ digits n, '0' ≤ c ∧ c ≤ '9' := digitsWithin_all (n + 1) n

theorem value_digits (n : Nat) : value (digits n) = n := value_digitsWithin (Nat.lt_succ_self n)

theorem digits_head (n : Nat) : ∃ c rest, digits n = c :: rest ∧ (c = '0' → n = 0) :=
  digitsWithin_head (Nat.lt_succ_self n)

end Decimal

end Text

end Gateway
