import Gateway.Json.Printer
import Gateway.Proofs.Json.Grammar

namespace Gateway.Json

theorem hex_digits (n : Nat) (control : n < 0x20) :
    Text.Hex.number? ['0', '0', Text.Hex.digit (n / 16), Text.Hex.digit (n % 16)] = some n := by
  revert n
  decide

theorem units_code (n : Nat) (parts : List StringPart) (whole : n < 0xD800) :
    units (.code n :: parts) = .char (Char.ofNat n) :: units parts := by
  have alone : unit n = .char (Char.ofNat n) := if_pos (.inl whole)
  cases parts with
  | nil => exact congrArg (· :: []) alone
  | cons part parts =>
    cases part with
    | char c => exact congrArg (· :: units (.char c :: parts)) alone
    | code low => rw [units, if_neg fun pair => absurd pair.1.1 (Nat.not_le.mpr whole), alone]

theorem escapeChar_spec (c : Char) : ∃ part : StringPart,
    (∀ s parts, Spells s parts → Spells (escapeChar c ++ s) (part :: parts)) ∧
    ∀ parts, units (part :: parts) = .char c :: units parts := by
  have short {n : Nat} (code : c.toNat = n) : c = Char.ofNat n := by rw [← code, Char.ofNat_toNat]
  unfold escapeChar
  -- only the last case but one prints a code; these have two digits, so none is half of a pair
  split_ifs with quote backslash bs tab lf ff cr control
  · exact ⟨.char c, fun s parts spelt => .short (by rw [quote]; decide) spelt, fun _ => rfl⟩
  · exact ⟨.char c, fun s parts spelt => .short (by rw [backslash]; decide) spelt, fun _ => rfl⟩
  · exact ⟨.char c, fun s parts spelt => .short (by rw [short bs]; decide) spelt, fun _ => rfl⟩
  · exact ⟨.char c, fun s parts spelt => .short (by rw [short tab]; decide) spelt, fun _ => rfl⟩
  · exact ⟨.char c, fun s parts spelt => .short (by rw [short lf]; decide) spelt, fun _ => rfl⟩
  · exact ⟨.char c, fun s parts spelt => .short (by rw [short ff]; decide) spelt, fun _ => rfl⟩
  · exact ⟨.char c, fun s parts spelt => .short (by rw [short cr]; decide) spelt, fun _ => rfl⟩
  · refine ⟨.code c.toNat, fun s parts spelt => .code (hex_digits c.toNat control) spelt, fun parts => ?_⟩
    rw [units_code c.toNat parts (by omega), Char.ofNat_toNat]
  · exact ⟨.char c, fun s parts spelt => .plain quote backslash (Nat.not_lt.mp control) spelt, fun _ => rfl⟩

theorem spells_escape (s : List Char) :
    ∃ parts, Spells (s.flatMap escapeChar) parts ∧ unitsText? (units parts) = some s := by
  induction s with
  | nil => exact ⟨[], .nil, rfl⟩
  | cons c s ih =>
    obtain ⟨parts, spelt, same⟩ := ih
    obtain ⟨part, spells, stands⟩ := escapeChar_spec c
    refine ⟨part :: parts, spells _ _ spelt, ?_⟩
    rw [stands, unitsText?, same]
    rfl

theorem quote_spec (s : String) :
    ∃ inside parts, quote s = '\x22' :: (inside ++ ['\x22']) ∧ Spells inside parts ∧ textOf? parts = some s := by
  obtain ⟨parts, spelt, same⟩ := spells_escape s.toList
  refine ⟨s.toList.flatMap escapeChar, parts, rfl, spelt, ?_⟩
  rw [textOf?, same]
  exact congrArg some (String.ofList_toList)

theorem isInteger_digits (n : Nat) : IsInteger (Text.Decimal.digits n) := by
  obtain ⟨c, rest, front, zero⟩ := Text.Decimal.digits_head n
  refine ⟨⟨by rw [front]; exact List.cons_ne_nil c rest, Text.Decimal.digits_all n⟩, fun first => ?_⟩
  rw [front] at first
  rw [zero (Option.some.inj first)]
  rfl

theorem blanks_nil : Blanks [] := nofun

theorem items_derive {item : Value} {items : List Value}
    (each : ∀ v ∈ item :: items, Derives v.chars (.value v)) :
    ∃ s, itemsChars (item :: items) = s ++ [']'] ∧ Derives s (.items (item :: items)) := by
  induction items generalizing item with
  | nil =>
    have derived := Derives.item blanks_nil (each item List.mem_cons_self) blanks_nil
    rw [List.nil_append, List.append_nil] at derived
    exact ⟨item.chars, rfl, derived⟩
  | cons next items ih =>
    obtain ⟨first, others⟩ := List.forall_mem_cons.mp each
    obtain ⟨s, split, more⟩ := ih others
    refine ⟨_, ?_, .items blanks_nil first blanks_nil more⟩
    rw [itemsChars, split]
    · simp
    · exact List.cons_ne_nil next items

theorem array_derives {items : List Value} (each : ∀ v ∈ items, Derives v.chars (.value v)) :
    Derives (Value.array items).chars (.value (.array items)) := by
  cases items with
  | nil => exact .emptyList blanks_nil
  | cons item items =>
    obtain ⟨s, split, derived⟩ := items_derive each
    show Derives ('[' :: itemsChars (item :: items)) _
    rw [split]
    exact .list derived

theorem members_derive {member : String × Value} {members : List (String × Value)}
    (each : ∀ m ∈ member :: members, Derives m.2.chars (.value m.2)) :
    ∃ s, membersChars (member :: members) = s ++ ['\x7d'] ∧
      Derives s (.members (named (member :: members))) := by
  induction members generalizing member with
  | nil =>
    obtain ⟨name, v⟩ := member
    obtain ⟨inside, parts, quoted, spelt, same⟩ := quote_spec name
    have derived := Derives.member blanks_nil spelt blanks_nil blanks_nil (each _ List.mem_cons_self) blanks_nil
    rw [same] at derived
    refine ⟨_, ?_, derived⟩
    rw [membersChars, quoted]
    simp
  | cons next members ih =>
    obtain ⟨name, v⟩ := member
    obtain ⟨first, others⟩ := List.forall_mem_cons.mp each
    obtain ⟨inside, parts, quoted, spelt, same⟩ := quote_spec name
    obtain ⟨s, split, more⟩ := ih others
    have derived := Derives.members blanks_nil spelt blanks_nil blanks_nil first blanks_nil more
    rw [same] at derived
    refine ⟨_, ?_, derived⟩
    rw [membersChars, quoted, split]
    · simp
    · exact List.cons_ne_nil next members

theorem object_derives {members : List (String × Value)} (each : ∀ m ∈ members, Derives m.2.chars (.value m.2)) :
    Derives (Value.object members).chars (.value (.object members)) := by
  cases members with
  | nil => exact .emptyObject blanks_nil
  | cons member members =>
    obtain ⟨s, split, derived⟩ := members_derive each
    show Derives ('\x7b' :: membersChars (member :: members)) _
    rw [split, ← objectOf_named]
    exact .object derived

mutual

theorem Value.derives : (v : Value) → Derives v.chars (.value v)
  | .null => .null
  | .bool true => .yes
  | .bool false => .no
  | .natural n => by
    have derived := Derives.natural (isInteger_digits n)
    rwa [Text.Decimal.value_digits] at derived
  | .other => .other (.inr rfl) (isInteger_digits 0) (.inl rfl) (.inl rfl) (by decide)
  | .string s => by
    obtain ⟨inside, parts, split, spelt, same⟩ := quote_spec s
    have derived := Derives.string spelt
    rwa [stringOf, same, ← split] at derived
  | .unpaired => .string (.code (show Text.Hex.number? ['d', '8', '0', '0'] = some 0xD800 by decide) .nil)
  | .array items => array_derives (each_item items)
  | .object members => object_derives (each_member members)

theorem each_item : (items : List Value) → ∀ v ∈ items, Derives v.chars (.value v)
  | [] => nofun
  | item :: items => List.forall_mem_cons.mpr ⟨item.derives, each_item items⟩

theorem each_member : (members : List (String × Value)) → ∀ m ∈ members, Derives m.2.chars (.value m.2)
  | [] => nofun
  | (_, v) :: members => List.forall_mem_cons.mpr ⟨v.derives, each_member members⟩

end

theorem isText_text (v : Value) : IsText v.text.toList v := by
  refine ⟨[], v.chars, [], ?_, blanks_nil, v.derives, blanks_nil⟩
  rw [Value.text, String.toList_ofList, List.append_nil, List.nil_append]

theorem read?_text (v : Value) : read? v.text = some v := read?_of_isText (isText_text v)

def NoControls (s : List Char) : Prop := ∀ c ∈ s, 0x20 ≤ c.toNat

instance (s : List Char) : Decidable (NoControls s) :=
  decidable_of_iff (s.all (0x20 ≤ ·.toNat) = true) (by simp only [List.all_eq_true, decide_eq_true_eq, NoControls])

theorem NoControls.append {s t : List Char} (left : NoControls s) (right : NoControls t) : NoControls (s ++ t) :=
  List.forall_mem_append.mpr ⟨left, right⟩

theorem NoControls.cons {c : Char} {s : List Char} (first : 0x20 ≤ c.toNat) (rest : NoControls s) :
    NoControls (c :: s) := List.forall_mem_cons.mpr ⟨first, rest⟩

theorem noControls_code (n : Nat) (control : n < 0x20) :
    NoControls ['\\', 'u', '0', '0', Text.Hex.digit (n / 16), Text.Hex.digit (n % 16)] := by
  revert n
  decide

theorem noControls_escapeChar (c : Char) : NoControls (escapeChar c) := by
  unfold escapeChar
  split_ifs with quote backslash bs tab lf ff cr control
  iterate 7 decide
  · exact noControls_code c.toNat control
  · intro d within
    rw [List.mem_singleton.mp within]
    exact Nat.not_lt.mp control

theorem noControls_quote (s : String) : NoControls (quote s) := by
  have inside : NoControls (s.toList.flatMap escapeChar) := by
    intro c within
    obtain ⟨d, _, printed⟩ := List.mem_flatMap.mp within
    exact noControls_escapeChar d c printed
  have ends : NoControls ['\x22'] := by decide
  exact (ends.append inside).append ends

theorem noControls_digits (n : Nat) : NoControls (Text.Decimal.digits n) := by
  intro c within
  have least : ('0' : Char).toNat ≤ c.toNat := (Text.Decimal.digits_all n c within).1
  exact Nat.le_trans (by decide) least

mutual

theorem Value.noControls : (v : Value) → NoControls v.chars
  | .null => by decide
  | .bool true => by decide
  | .bool false => by decide
  | .natural n => noControls_digits n
  | .other => by decide
  | .string s => noControls_quote s
  | .unpaired => by decide
  | .array items => (noControls_items items).cons (by decide)
  | .object members => (noControls_members members).cons (by decide)

theorem noControls_items : (items : List Value) → NoControls (itemsChars items)
  | [] => by decide
  | [item] => item.noControls.append (noControls_items [])
  | item :: next :: rest => item.noControls.append ((noControls_items (next :: rest)).cons (by decide))

theorem noControls_members : (members : List (String × Value)) → NoControls (membersChars members)
  | [] => by decide
  | [(name, v)] => ((noControls_quote name).append (v.noControls.cons (by decide))).append (noControls_members [])
  | (name, v) :: next :: rest =>
    ((noControls_quote name).append (v.noControls.cons (by decide))).append
      ((noControls_members (next :: rest)).cons (by decide))

end

end Gateway.Json
