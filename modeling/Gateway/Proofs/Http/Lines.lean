import Gateway.Proofs.Request.Headers

namespace Gateway.Http

def lowerByte (b : UInt8) : UInt8 := if 65 ≤ b.toNat ∧ b.toNat ≤ 90 then .ofNat (b.toNat + 32) else b

def plainText (value : Bytes) : String := String.ofList (value.map fun b => Char.ofNat b.toNat)

theorem isPlainByte_iff (b : UInt8) : isPlainByte b = true ↔ b.toNat = 9 ∨ 32 ≤ b.toNat ∧ b.toNat < 127 := by
  simp only [isPlainByte, Bool.or_eq_true, beq_iff_eq, Bool.and_eq_true, decide_eq_true_eq, UInt8.le_iff_toNat_le,
    UInt8.lt_iff_toNat_lt, ← UInt8.toNat_inj]
  rfl

theorem isPlainByte_lowerByte (b : UInt8) : isPlainByte (lowerByte b) = isPlainByte b := by
  rw [Bool.eq_iff_iff, isPlainByte_iff, isPlainByte_iff, lowerByte]
  split
  · rw [UInt8.toNat_ofNat']
    omega
  · rfl

theorem all_isPlainByte_lower (value : Bytes) : (value.map lowerByte).all isPlainByte = value.all isPlainByte := by
  rw [List.all_map]
  exact congrArg (value.all ·) (funext isPlainByte_lowerByte)

theorem toNat_charOfByte (b : UInt8) : (Char.ofNat b.toNat).toNat = b.toNat := by
  have small : b.toNat < 256 := b.toNat_lt
  exact Text.Utf8.toNat_ofNat (.inl (by omega))

theorem lowerChar_charOfByte (b : UInt8) :
    Text.Ascii.lowerChar (Char.ofNat b.toNat) = Char.ofNat (lowerByte b).toNat := by
  have letters : ('A' ≤ Char.ofNat b.toNat ∧ Char.ofNat b.toNat ≤ 'Z') ↔ 65 ≤ b.toNat ∧ b.toNat ≤ 90 := by
    rw [Char.le_def, Char.le_def, UInt32.le_iff_toNat_le, UInt32.le_iff_toNat_le]
    change 65 ≤ (Char.ofNat b.toNat).toNat ∧ (Char.ofNat b.toNat).toNat ≤ 90 ↔ _
    rw [toNat_charOfByte]
  rw [Text.Ascii.lowerChar, lowerByte]
  simp only [letters, toNat_charOfByte]
  split
  · rw [UInt8.toNat_ofNat', Nat.mod_eq_of_lt (by omega)]
  · rfl

theorem bytes_ascii {text : List Char} (ascii : ∀ c ∈ text, c.toNat < 0x80) :
    Text.bytes (String.ofList text) = text.map fun c => .ofNat c.toNat := by
  rw [Text.bytes, String.toList_ofList]
  induction text with
  | nil => rfl
  | cons c text ih =>
    obtain ⟨first, others⟩ := List.forall_mem_cons.mp ascii
    rw [Text.Utf8.encode, List.flatMap_cons, ← Text.Utf8.encode, ih others, Text.Utf8.encodeChar, if_pos first]
    rfl

theorem bytes_plainText {value : Bytes} (plain : value.all isPlainByte = true) :
    Text.bytes (plainText value) = value := by
  have ascii : ∀ c ∈ value.map fun b => Char.ofNat b.toNat, c.toNat < 0x80 := by
    intro c within
    obtain ⟨b, member, rfl⟩ := List.mem_map.mp within
    have bounds := (isPlainByte_iff b).mp (List.all_eq_true.mp plain b member)
    rw [toNat_charOfByte]
    omega
  rw [plainText, bytes_ascii ascii, List.map_map]
  refine (List.map_congr_left fun b _ => ?_).trans (List.map_id value)
  rw [Function.comp, toNat_charOfByte, UInt8.ofNat_toNat, id]

theorem lower_plainText (value : Bytes) : Text.Ascii.lower (plainText value) = plainText (value.map lowerByte) := by
  rw [Text.Ascii.lower, plainText, plainText, String.toList_ofList, List.map_map, List.map_map]
  exact congrArg _ (List.map_congr_left fun b _ => lowerChar_charOfByte b)

namespace Headers

def lines (raw : List (String × Bytes)) (name : String) : List Bytes :=
  (raw.filter fun field => Text.Ascii.lower field.1 == name).map (·.2)

theorem lines_append (raw more : List (String × Bytes)) (name : String) :
    lines (raw ++ more) name = lines raw name ++ lines more name := by
  rw [lines, List.filter_append, List.map_append, ← lines, ← lines]

theorem lines_cons (field : String × Bytes) (raw : List (String × Bytes)) (name : String) :
    lines (field :: raw) name = (if Text.Ascii.lower field.1 = name then [field.2] else []) ++ lines raw name := by
  by_cases named : Text.Ascii.lower field.1 = name <;> simp [lines, named]

theorem ofRaw?_eq_some_iff (raw : List (String × Bytes)) (headers : Headers) : ofRaw? raw = some headers ↔
    (∀ field ∈ raw, WellFormed field) ∧ headers = (raw.map kept).foldl append [] := by
  suffices taken : (ofRaw? raw).isSome → ∀ field ∈ raw, WellFormed field by
    constructor
    · intro same
      have wellFormed := taken (by rw [same]; rfl)
      rw [ofRaw?_wellFormed wellFormed] at same
      exact ⟨wellFormed, (Option.some.inj same).symm⟩
    · rintro ⟨wellFormed, rfl⟩
      exact ofRaw?_wellFormed wellFormed
  induction raw using List.reverseRecOn with
  | nil => exact fun _ _ member => absurd member List.not_mem_nil
  | append_singleton raw field ih =>
    rw [ofRaw?_concat]
    intro taken
    split at taken
    · rename_i earlier name value before token bytes
      have named := Option.ite_none_right_eq_some.mp token
      have valued := Option.ite_none_right_eq_some.mp bytes
      have last : WellFormed field := ⟨named.1.1, named.1.2, valued.1⟩
      intro other member
      rcases List.mem_append.mp member with member | member
      · exact ih (by rw [before]; rfl) other member
      · exact List.mem_singleton.mp member ▸ last
    · cases taken

theorem values_eq_lines {raw : List (String × Bytes)} {headers : Headers} (read : ofRaw? raw = some headers)
    (name : String) : headers.values name = lines raw name := by
  obtain ⟨-, rfl⟩ := (ofRaw?_eq_some_iff raw headers).mp read
  rw [values_foldl, values, List.filter_map, List.map_map]
  rfl

theorem get?_eq_head? (headers : Headers) (name : String) : headers.get? name = (headers.values name).head? := by
  rw [get?, values, List.head?_map, List.head?_filter]

def readLine (first : Option Bytes) : Option String :=
  first.bind fun value => if value.all isPlainByte then some (plainText value) else none

theorem readLine_eq_some_iff (first : Option Bytes) (text : String) : readLine first = some text ↔
    ∃ value, first = some value ∧ value.all isPlainByte = true ∧ text = plainText value := by
  rw [readLine, Option.bind_eq_some_iff]
  simp only [Option.ite_none_right_eq_some, Option.some.injEq, eq_comm (a := text)]

theorem text?_eq_readLine {raw : List (String × Bytes)} {headers : Headers} (read : ofRaw? raw = some headers)
    (name : String) : headers.text? name = readLine (lines raw name).head? := by
  rw [text?, get?_eq_head?, values_eq_lines read]
  cases (lines raw name).head? with
  | none => rfl
  | some value =>
    show (if value.all isPlainByte then Text.ofBytes? value else none) =
      if value.all isPlainByte then some (plainText value) else none
    split
    · rename_i plain
      rw [Text.ofBytes?_eq_some_iff, bytes_plainText plain]
    · rfl

end Headers

end Gateway.Http
