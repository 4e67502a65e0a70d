import Gateway.Id.Json
import Gateway.Proofs.Http.Lines
import Gateway.Proofs.Identifier
import Gateway.Proofs.Json.Printer

namespace Gateway

namespace Text

theorem le_iff_toNat_le {a c : Char} : a ≤ c ↔ a.toNat ≤ c.toNat := UInt32.le_iff_toNat_le

theorem toNat_ofNat_ascii {n : Nat} (small : n < 0x80) : (Char.ofNat n).toNat = n := Utf8.toNat_ofNat (.inl (by omega))

namespace Ascii

theorem toNat_lowerChar (c : Char) :
    (lowerChar c).toNat = if 65 ≤ c.toNat ∧ c.toNat ≤ 90 then c.toNat + 32 else c.toNat := by
  simp only [lowerChar, le_iff_toNat_le, Char.reduceToNat]
  split
  · exact toNat_ofNat_ascii (by omega)
  · rfl

theorem lowerChar_eq_iff {c d : Char} (plain : d.toNat < 65 ∨ 122 < d.toNat) : lowerChar c = d ↔ c = d := by
  rw [← Char.toNat_inj, ← Char.toNat_inj, toNat_lowerChar]
  split <;> omega

theorem lowerChar_lowerChar (c : Char) : lowerChar (lowerChar c) = lowerChar c := by
  rw [← Char.toNat_inj, toNat_lowerChar, toNat_lowerChar]
  split_ifs <;> omega

theorem lowerChar_ascii {c : Char} (ascii : (lowerChar c).toNat < 0x80) : c.toNat < 0x80 := by
  rw [toNat_lowerChar] at ascii
  split at ascii <;> omega

theorem lower_append (s t : String) : lower (s ++ t) = lower s ++ lower t := by
  rw [lower, String.toList_append, List.map_append, String.ofList_append]
  rfl

end Ascii

namespace Hex

open Ascii (lowerChar toNat_lowerChar)

theorem toNat_digit {n : Nat} (small : n < 16) : (digit n).toNat = if n < 10 then 48 + n else 87 + n := by
  rw [digit, toNat_ofNat_ascii]
  split <;> omega

theorem value?_eq_some_iff {c : Char} {n : Nat} : value? c = some n ↔ n < 16 ∧ lowerChar c = digit n := by
  have digits (small : n < 16) : lowerChar c = digit n ↔ (lowerChar c).toNat = if n < 10 then 48 + n else 87 + n := by
    rw [← toNat_digit small, Char.toNat_inj]
  rw [and_congr_right digits, toNat_lowerChar]
  simp only [value?, le_iff_toNat_le, Char.reduceToNat]
  split_ifs <;> simp only [Option.some.injEq, false_iff] <;> omega

theorem pair_iff {high low : Char} {b : UInt8} :
    (∃ h l, value? high = some h ∧ value? low = some l ∧ .ofNat (16 * h + l) = b) ↔
      [lowerChar high, lowerChar low] = encodeByte b := by
  have bound := b.toNat_lt
  rw [encodeByte, List.cons.injEq, List.cons.injEq]
  constructor
  · rintro ⟨h, l, first, second, rfl⟩
    obtain ⟨smallHigh, first⟩ := value?_eq_some_iff.mp first
    obtain ⟨smallLow, second⟩ := value?_eq_some_iff.mp second
    rw [UInt8.toNat_ofNat', Nat.mod_eq_of_lt (by omega), show (16 * h + l) / 16 = h by omega,
      show (16 * h + l) % 16 = l by omega]
    exact ⟨first, second, rfl⟩
  · rintro ⟨first, second, -⟩
    refine ⟨b.toNat / 16, b.toNat % 16, value?_eq_some_iff.mpr ⟨by omega, first⟩,
      value?_eq_some_iff.mpr ⟨by omega, second⟩, ?_⟩
    rw [Nat.div_add_mod, UInt8.ofNat_toNat]

theorem decode?_cons_eq_some_iff {high low : Char} {rest : List Char} {b : UInt8} {bytes : Bytes} :
    decode? (high :: low :: rest) = some (b :: bytes) ↔
      [lowerChar high, lowerChar low] = encodeByte b ∧ decode? rest = some bytes := by
  rw [← pair_iff, decode?]
  cases value? high with
  | none => simp
  | some h =>
    cases value? low with
    | none => simp
    | some l => cases decode? rest <;> simp

theorem decode?_eq_some_iff {digits : List Char} {bytes : Bytes} :
    decode? digits = some bytes ↔ digits.map lowerChar = encode bytes := by
  induction bytes generalizing digits with
  | nil =>
    match digits with
    | [] => exact iff_of_true rfl rfl
    | [c] => exact iff_of_false nofun nofun
    | high :: low :: rest =>
      refine iff_of_false (fun taken => ?_) nofun
      rw [decode?] at taken
      split at taken <;> cases taken
  | cons b bytes ih =>
    rw [encode, List.flatMap_cons, ← encode]
    match digits with
    | [] | [c] => simp [decode?, encodeByte]
    | high :: low :: rest =>
      rw [decode?_cons_eq_some_iff, ih]
      simp [encodeByte, and_assoc]

end Hex

end Text

namespace Uuid

open Text.Ascii (lower lower_append lowerChar lowerChar_eq_iff)

def spellings (id : Uuid) : List String :=
  [id.text, "\x7b" ++ id.text ++ "\x7d", "urn:uuid:" ++ id.text, String.ofList (Text.Hex.encode id.bytes)]

def SpelledBy (id : Uuid) (s : String) : Prop := ∃ spelling ∈ id.spellings, Text.Ascii.sameText s spelling = true

theorem ofDigits?_eq_some_iff {digits : List Char} {id : Uuid} :
    ofDigits? digits = some id ↔ digits.map lowerChar = Text.Hex.encode id.bytes := by
  rw [← Text.Hex.decode?_eq_some_iff, ofDigits?]
  cases Text.Hex.decode? digits with
  | none => simp
  | some bytes =>
    simp only [Option.dite_none_right_eq_some, Option.some.injEq]
    constructor
    · rintro ⟨_, rfl⟩
      rfl
    · rintro rfl
      exact ⟨id.length_bytes, rfl⟩

theorem map_hyphenate (digits : List Char) :
    (hyphenate digits).map lowerChar = hyphenate (digits.map lowerChar) := by
  have hyphen : lowerChar '-' = '-' := by decide
  simp [hyphenate, List.map_take, List.map_drop, hyphen]

theorem hyphenate_groups {s : List Char} (full : s.length = 36) (placed : ∀ i ∈ hyphens, s[i]? = some '-') :
    hyphenate (s.take 8 ++ (s.drop 9).take 4 ++ (s.drop 14).take 4 ++ (s.drop 19).take 4 ++ s.drop 24) = s := by
  have cut {i : Nat} (hyphen : i ∈ hyphens) : s.drop i = '-' :: s.drop (i + 1) := by
    rw [List.drop_eq_getElem?_toList_append, placed i hyphen]
    rfl
  have group (i : Nat) : (s.drop i).take 4 ++ s.drop (i + 4) = s.drop i := by
    rw [← List.drop_drop, List.take_append_drop]
  simp only [List.append_assoc]
  rw [hyphenate_append, ← cut (i := 23) (by decide), group 19, ← cut (i := 18) (by decide), group 14,
    ← cut (i := 13) (by decide), group 9, ← cut (i := 8) (by decide), List.take_append_drop]
  all_goals
    simp only [List.length_take, List.length_drop, full]
    decide

theorem ofDigits?_map_lowerChar (digits : List Char) : ofDigits? (digits.map lowerChar) = ofDigits? digits := by
  have same : (digits.map lowerChar).map lowerChar = digits.map lowerChar := by
    rw [List.map_map]
    exact List.map_congr_left fun c _ => Text.Ascii.lowerChar_lowerChar c
  ext id
  rw [ofDigits?_eq_some_iff, ofDigits?_eq_some_iff, same]

theorem ofGroups?_map_lowerChar (s : List Char) : ofGroups? (s.map lowerChar) = ofGroups? s := by
  have hyphen (c : Char) : lowerChar c = '-' ↔ c = '-' := lowerChar_eq_iff (.inl (by decide))
  have placed (i : Nat) : (s.map lowerChar)[i]? = some '-' ↔ s[i]? = some '-' := by
    rw [List.getElem?_map]
    cases s[i]? with
    | none => exact iff_of_false nofun nofun
    | some c => exact Option.some_inj.trans ((hyphen c).trans Option.some_inj.symm)
  simp only [ofGroups?, List.length_map, placed, ← List.map_take, ← List.map_drop, ← List.map_append,
    ofDigits?_map_lowerChar]

theorem ofGroups?_eq_some_iff {s : List Char} {id : Uuid} : ofGroups? s = some id ↔ s.map lowerChar = id.chars := by
  constructor
  · intro taken
    rw [ofGroups?, Option.ite_none_right_eq_some, ofDigits?_eq_some_iff, List.all_eq_true] at taken
    obtain ⟨⟨full, placed⟩, digits⟩ := taken
    rw [← hyphenate_groups full fun i within => of_decide_eq_true (placed i within), map_hyphenate, digits, chars]
  · intro written
    rw [← ofGroups?_map_lowerChar, written, ofGroups?_chars]

def IsPlain (c : Char) : Prop := 45 ≤ c.toNat ∧ c.toNat ≤ 57 ∨ 97 ≤ c.toNat ∧ c.toNat ≤ 102

theorem isPlain_digits {bytes : Bytes} : ∀ c ∈ Text.Hex.encode bytes, IsPlain c := by
  intro c within
  obtain ⟨b, -, digit⟩ := List.mem_flatMap.mp within
  have bound := b.toNat_lt
  simp only [Text.Hex.encodeByte, List.mem_cons, List.not_mem_nil, or_false] at digit
  unfold IsPlain
  rcases digit with rfl | rfl
  all_goals
    rw [Text.Hex.toNat_digit (by omega)]
    split <;> omega

theorem isPlain_chars (id : Uuid) : ∀ c ∈ id.chars, IsPlain c := by
  have hyphen : IsPlain '-' := .inl ⟨by decide, by decide⟩
  have part {n m : Nat} : ∀ c ∈ ((Text.Hex.encode id.bytes).drop n).take m, IsPlain c :=
    fun c within => isPlain_digits c (List.mem_of_mem_drop (List.mem_of_mem_take within))
  simp only [chars, hyphenate, List.forall_mem_append, List.forall_mem_cons]
  exact ⟨⟨⟨⟨part (n := 0), hyphen, part⟩, hyphen, part⟩, hyphen, part⟩, hyphen,
    fun c within => isPlain_digits c (List.mem_of_mem_drop within)⟩

theorem IsPlain.ascii {c : Char} (plain : IsPlain c) : c.toNat < 0x80 := by
  unfold IsPlain at plain
  omega

theorem ascii_chars (id : Uuid) : ∀ c ∈ id.chars, c.toNat < 0x80 := fun c within => (id.isPlain_chars c within).ascii

-- The list is what is decided: there are finitely many characters, but too many to go through.
theorem ascii_urn : ∀ c ∈ urn, c.toNat < 0x80 := by
  have ascii : urn.all (·.toNat < 0x80) := by decide
  simpa using ascii

theorem escapeChar_plain {c : Char} (plain : IsPlain c) : Json.escapeChar c = [c] := by
  have other {d : Char} (apart : d.toNat < 45 ∨ d.toNat = 92) : c ≠ d := by
    rintro rfl
    unfold IsPlain at plain
    omega
  unfold IsPlain at plain
  simp only [Json.escapeChar]
  rw [if_neg (other (.inl (by decide))), if_neg (other (.inr (by decide)))]
  repeat rw [if_neg (by omega)]

theorem size_of_ascii {s : List Char} (ascii : ∀ c ∈ s.map lowerChar, c.toNat < 0x80) :
    size s = (s.map lowerChar).length := by
  have bytes := Http.bytes_ascii fun c within => Text.Ascii.lowerChar_ascii (ascii _ (List.mem_map_of_mem within))
  rw [Text.bytes, String.toList_ofList] at bytes
  rw [size, bytes, List.length_map, List.length_map]

theorem length_chars (id : Uuid) : id.chars.length = 36 := length_hyphenate _ id.length_digits

theorem unbraced?_eq_some_iff {s inside : List Char} :
    unbraced? s = some inside ↔ s = '\x7b' :: (inside ++ ['\x7d']) := by
  constructor
  · intro found
    unfold unbraced? at found
    split at found
    · rename_i rest
      rw [Option.ite_none_right_eq_some] at found
      obtain ⟨closed, same⟩ := found
      obtain ⟨rest, rfl⟩ := List.getLast?_eq_some_iff.mp closed
      rw [List.dropLast_concat] at same
      rw [Option.some.inj same]
    · cases found
  · rintro rfl
    simp [unbraced?]

theorem afterUrn?_eq_some_iff {s inside : List Char} :
    afterUrn? s = some inside ↔ ∃ start, s = start ++ inside ∧ start.map lowerChar = urn := by
  rw [afterUrn?, Option.ite_none_right_eq_some, Option.some.injEq]
  constructor
  · rintro ⟨start, rfl⟩
    exact ⟨s.take 9, (List.take_append_drop 9 s).symm, start⟩
  · rintro ⟨start, rfl, same⟩
    have nine : start.length = 9 := by
      rw [← start.length_map lowerChar, same]
      rfl
    rw [List.take_left' nine, List.drop_left' nine]
    exact ⟨same, rfl⟩

def Form.id? (f : Form) : Option Uuid :=
  if f.grouped then ofGroups? f.text else if size f.text = 32 then ofDigits? f.text else none

theorem id?_grouped (s : List Char) : (⟨true, s⟩ : Form).id? = ofGroups? s := rfl

theorem id?_bare {s : List Char} (sized : size s ≠ 32) : (⟨false, s⟩ : Form).id? = none := if_neg sized

theorem parse_ok_iff_id? {s : String} {id : Uuid} : parse s = .ok id ↔ (form s.toList).id? = some id := by
  unfold parse
  dsimp only
  rw [← Form.id?]
  cases (form s.toList).id? with
  | none => simp
  | some other => rw [Except.ok.injEq, Option.some.injEq]

theorem form_braced {s inside : List Char} (sized : size s = 38) (found : unbraced? s = some inside) :
    form s = ⟨true, inside⟩ := by
  rw [form, if_neg (by omega), if_pos sized, found]

theorem form_urned {s inside : List Char} (sized : size s = 45) (found : afterUrn? s = some inside) :
    form s = ⟨true, inside⟩ := by
  rw [form, if_neg (by omega), if_neg (by omega), if_pos sized, found]

theorem form_bare {s : List Char} (sized : size s = 32) : form s = ⟨false, s⟩ := by
  rw [form, if_neg (by omega), if_neg (by omega), if_neg (by omega)]

theorem braced_of_lower {s inside : List Char} (lower : s.map lowerChar = '\x7b' :: (inside ++ ['\x7d'])) :
    ∃ within, s = '\x7b' :: (within ++ ['\x7d']) ∧ within.map lowerChar = inside := by
  obtain ⟨c, rest, rfl, first, others⟩ := List.map_eq_cons_iff.mp lower
  obtain ⟨within, last, rfl, inner, close⟩ := List.map_eq_append_iff.mp others
  obtain ⟨d, rfl, closing⟩ := List.map_eq_singleton_iff.mp close
  rw [lowerChar_eq_iff (.inr (by decide))] at first closing
  rw [first, closing]
  exact ⟨within, rfl, inner⟩

inductive Spells (id : Uuid) : List Char → Prop where
  | grouped : Spells id id.chars
  | braced : Spells id ('\x7b' :: (id.chars ++ ['\x7d']))
  | named : Spells id (urn ++ id.chars)
  | bare : Spells id (Text.Hex.encode id.bytes)

theorem Spells.ascii {id : Uuid} {w : List Char} (spells : id.Spells w) : ∀ c ∈ w, c.toNat < 0x80 := by
  cases spells with
  | grouped => exact id.ascii_chars
  | braced =>
    exact List.forall_mem_cons.mpr ⟨by decide, List.forall_mem_append.mpr
      ⟨id.ascii_chars, List.forall_mem_singleton.mpr (by decide)⟩⟩
  | named => exact List.forall_mem_append.mpr ⟨ascii_urn, id.ascii_chars⟩
  | bare => exact fun c within => (isPlain_digits c within).ascii

theorem spells_of_id? {s : List Char} {id : Uuid} (taken : (form s).id? = some id) : id.Spells (s.map lowerChar) := by
  unfold form at taken
  split_ifs at taken with text braced named
  · rw [ofGroups?_eq_some_iff.mp taken]
    exact .grouped
  · split at taken
    · rename_i inside found
      have written := ofGroups?_eq_some_iff.mp taken
      rw [unbraced?_eq_some_iff.mp found, List.map_cons, List.map_append, written]
      exact .braced
    · rw [id?_bare (by rw [braced]; decide)] at taken
      cases taken
  · split at taken
    · rename_i inside found
      have written := ofGroups?_eq_some_iff.mp taken
      obtain ⟨start, rfl, urn⟩ := afterUrn?_eq_some_iff.mp found
      rw [List.map_append, urn, written]
      exact .named
    · rw [id?_bare (by rw [named]; decide)] at taken
      cases taken
  · rw [Form.id?, if_neg Bool.false_ne_true, Option.ite_none_right_eq_some] at taken
    rw [ofDigits?_eq_some_iff.mp taken.2]
    exact .bare

theorem Spells.id?_form {s : List Char} {id : Uuid} (spells : id.Spells (s.map lowerChar)) :
    (form s).id? = some id := by
  have size := size_of_ascii spells.ascii
  generalize written : s.map lowerChar = w at spells size
  cases spells with
  | grouped =>
    rw [form, if_pos (size.trans id.length_chars), id?_grouped]
    exact ofGroups?_eq_some_iff.mpr written
  | braced =>
    obtain ⟨inside, rfl, inner⟩ := braced_of_lower written
    rw [form_braced (size.trans (by simp [id.length_chars])) (unbraced?_eq_some_iff.mpr rfl), id?_grouped]
    exact ofGroups?_eq_some_iff.mpr inner
  | named =>
    obtain ⟨start, inside, rfl, named, inner⟩ := List.map_eq_append_iff.mp written
    have long : (urn ++ id.chars).length = 45 := by
      rw [List.length_append, id.length_chars]
      rfl
    rw [form_urned (size.trans long) (afterUrn?_eq_some_iff.mpr ⟨start, rfl, named⟩), id?_grouped]
    exact ofGroups?_eq_some_iff.mpr inner
  | bare =>
    have sized := size.trans id.length_digits
    rw [form_bare sized, Form.id?, if_neg Bool.false_ne_true, if_pos sized]
    exact ofDigits?_eq_some_iff.mpr written

theorem map_lowerChar_plain {s : List Char} (plain : ∀ c ∈ s, IsPlain c) : s.map lowerChar = s := by
  refine (List.map_congr_left fun c within => ?_).trans (List.map_id s)
  have plain := plain c within
  unfold IsPlain at plain
  rw [id_eq, ← Char.toNat_inj, Text.Ascii.toNat_lowerChar, if_neg (by omega)]

theorem lower_text (id : Uuid) : lower id.text = id.text := by
  rw [lower, text, String.toList_ofList, map_lowerChar_plain id.isPlain_chars]

theorem lower_spelling {id : Uuid} {spelling : String} (listed : spelling ∈ id.spellings) :
    lower spelling = spelling := by
  simp only [spellings, List.mem_cons, List.not_mem_nil, or_false] at listed
  rcases listed with rfl | rfl | rfl | rfl
  · exact id.lower_text
  · rw [lower_append, lower_append, lower_text, show lower "\x7b" = "\x7b" by decide,
      show lower "\x7d" = "\x7d" by decide]
  · rw [lower_append, lower_text, show lower "urn:uuid:" = "urn:uuid:" by decide]
  · rw [lower, String.toList_ofList, map_lowerChar_plain isPlain_digits]

theorem spelledBy_iff {id : Uuid} {s : String} : id.SpelledBy s ↔ lower s ∈ id.spellings := by
  have same {spelling : String} (listed : spelling ∈ id.spellings) :
      Text.Ascii.sameText s spelling = true ↔ lower s = spelling := by
    rw [Text.Ascii.sameText, beq_iff_eq, ← String.ofList_inj]
    exact ⟨fun same => same.trans (lower_spelling listed), fun same => same.trans (lower_spelling listed).symm⟩
  constructor
  · rintro ⟨spelling, listed, alike⟩
    rwa [(same listed).mp alike]
  · exact fun listed => ⟨_, listed, (same listed).mpr rfl⟩

theorem mem_spellings_iff {id : Uuid} {s : String} : s ∈ id.spellings ↔ id.Spells s.toList := by
  have named : "urn:uuid:".toList = urn := rfl
  have texts : id.spellings.map String.toList =
      [id.chars, '\x7b' :: (id.chars ++ ['\x7d']), urn ++ id.chars, Text.Hex.encode id.bytes] := by
    simp [spellings, text, named]
  rw [← List.mem_map_of_injective (f := String.toList) fun _ _ => String.toList_injective, texts]
  simp only [List.mem_cons, List.not_mem_nil, or_false]
  generalize s.toList = w
  constructor
  · rintro (rfl | rfl | rfl | rfl)
    exacts [.grouped, .braced, .named, .bare]
  · intro spells
    cases spells <;> simp only [true_or, or_true]

/-- An identifier is read from a text exactly if the text is one of its spellings in some case. -/
theorem parse_eq_ok_iff {s : String} {id : Uuid} : parse s = .ok id ↔ id.SpelledBy s := by
  rw [parse_ok_iff_id?, spelledBy_iff, mem_spellings_iff, lower, String.toList_ofList]
  exact ⟨spells_of_id?, Spells.id?_form⟩

theorem bytes_text (id : Uuid) : Text.bytes id.text = id.chars.map fun c => .ofNat c.toNat :=
  Http.bytes_ascii id.ascii_chars

theorem length_bytes_text (id : Uuid) : (Text.bytes id.text).length = 36 := by
  rw [id.bytes_text, List.length_map, id.length_chars]

theorem zero_not_mem_bytes_text (id : Uuid) : 0 ∉ Text.bytes id.text := by
  rw [id.bytes_text, List.mem_map]
  rintro ⟨c, within, zero⟩
  have plain := id.isPlain_chars c within
  have small := congrArg UInt8.toNat zero
  rw [UInt8.toNat_ofNat', Nat.mod_eq_of_lt (by have := plain.ascii; omega)] at small
  rcases plain with plain | plain <;> exact absurd (small ▸ plain.1) (by decide)

theorem text_string (id : Uuid) : (Json.Value.string id.text).text = "\"" ++ id.text ++ "\"" := by
  have text : id.text.toList = id.chars := String.toList_ofList
  have plain : id.chars.flatMap Json.escapeChar = id.chars := by
    rw [List.flatMap_congr fun c within => escapeChar_plain (id.isPlain_chars c within), List.flatMap_singleton']
  calc String.ofList (Json.quote id.text)
      = String.ofList (['\x22'] ++ id.text.toList ++ ['\x22']) := by
        rw [Json.quote, text, plain, List.singleton_append]
    _ = String.ofList ['\x22'] ++ id.text ++ String.ofList ['\x22'] := by
        rw [String.ofList_append, String.ofList_append, String.ofList_toList]

theorem read_eq_ok_iff {s : String} {id : Uuid} : read s = .ok id ↔ id.SpelledBy s := by
  rw [← parse_eq_ok_iff, read]
  cases parse s with
  | error fault => exact iff_of_false nofun nofun
  | ok other => rw [Except.ok.injEq, Except.ok.injEq]

theorem spelledBy_text (id : Uuid) : id.SpelledBy id.text := ⟨id.text, List.mem_cons_self, beq_self_eq_true _⟩

theorem read_text (id : Uuid) : read id.text = .ok id := read_eq_ok_iff.mpr id.spelledBy_text

variable {α : Type} {make : Uuid → α}

theorem map_read_eq_ok_iff (apart : Function.Injective make) {s : String} {id : Uuid} :
    (read s).map make = .ok (make id) ↔ id.SpelledBy s := by
  rw [← read_eq_ok_iff]
  cases read s with
  | error e => exact iff_of_false nofun nofun
  | ok other => rw [Except.map, Except.ok.injEq, Except.ok.injEq, apart.eq_iff]

theorem read?_string (make : Uuid → α) (id : Uuid) : (Json.read? (Json.Value.string id.text).text).bind
    (fun value => (Json.text? value).bind fun s => ((read s).map make).toOption) = some (make id) := by
  simp only [Json.read?_text, Option.bind_some, Json.text?, read_text]
  rfl

end Uuid

theorem ConnectionId.read_eq (s : String) : read s = (Uuid.read s).map mk := by
  unfold read
  cases Uuid.read s <;> rfl

theorem RequestId.read_eq (s : String) : read s = (Uuid.read s).map mk := by
  unfold read
  cases Uuid.read s <;> rfl

end Gateway
