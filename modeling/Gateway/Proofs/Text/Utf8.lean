import Gateway.Text.Utf8
import Mathlib.Data.List.Basic

namespace Gateway.Text

namespace Utf8

theorem toNat_ofNat {n : Nat} (valid : n.isValidChar) : (Char.ofNat n).toNat = n := by
  unfold Char.ofNat
  rw [dif_pos valid]
  rfl

theorem continuation_bytes (bits size : Nat) {tail : List Nat} (rest : Bytes)
    (bounds : ∀ b ∈ tail, b < 0x40) :
    continuation bits size tail.length (tail.map (fun b => .ofNat (0x80 + b)) ++ rest) =
      .char (.ofNat (tail.foldl (fun bits b => bits * 0x40 + b) bits)) (size + tail.length) := by
  induction tail generalizing bits size with
  | nil => rfl
  | cons b tail ih =>
    obtain ⟨first, others⟩ := List.forall_mem_cons.mp bounds
    have byte : (UInt8.ofNat (0x80 + b)).toNat = 0x80 + b := by
      rw [UInt8.toNat_ofNat']
      omega
    rw [List.map_cons, List.cons_append, List.length_cons, continuation, byte, if_pos (by omega),
      show (0x80 + b) % 0x40 = b by omega, ih _ _ others, List.foldl_cons]
    exact congrArg _ (by omega)

theorem continuation_char {bits size left : Nat} {rest : Bytes} {c : Char} {n : Nat}
    (read : continuation bits size left rest = .char c n) :
    ∃ (tail : List Nat) (after : Bytes), rest = tail.map (fun b => .ofNat (0x80 + b)) ++ after ∧
      tail.length = left ∧ (∀ b ∈ tail, b < 0x40) ∧ n = size + left ∧
      c = .ofNat (tail.foldl (fun bits b => bits * 0x40 + b) bits) := by
  induction left generalizing bits size rest with
  | zero =>
    cases read
    exact ⟨[], rest, rfl, rfl, List.forall_mem_nil _, rfl, rfl⟩
  | succ left ih =>
    cases rest with
    | nil => cases read
    | cons b rest =>
      rw [continuation] at read
      split at read
      · rename_i within
        obtain ⟨tail, after, rfl, long, bounds, rfl, spelt⟩ := ih read
        have byte : UInt8.ofNat (0x80 + b.toNat % 0x40) = b := by
          rw [show 0x80 + b.toNat % 0x40 = b.toNat by omega, UInt8.ofNat_toNat]
        refine ⟨b.toNat % 0x40 :: tail, after, ?_, congrArg (· + 1) long, ?_, by omega, spelt⟩
        · rw [List.map_cons, List.cons_append, byte]
        · exact List.forall_mem_cons.mpr ⟨by omega, bounds⟩
      · cases read

theorem lead_two {b : Nat} (least : 0xC2 ≤ b) (most : b < 0xE0) : lead b = some (2, 0x80, 0xBF) := by
  rw [lead, if_neg (by omega), if_pos most]

theorem lead_three {b : Nat} (least : 0xE0 ≤ b) (most : b < 0xF0) :
    lead b = some (3, if b = 0xE0 then 0xA0 else 0x80, if b = 0xED then 0x9F else 0xBF) := by
  by_cases first : b = 0xE0
  · rw [first]
    rfl
  · by_cases second : b = 0xED
    · rw [second]
      rfl
    · rw [lead, if_neg (by omega), if_neg (by omega), if_neg first, if_neg second, if_pos most, if_neg first,
        if_neg second]

theorem lead_four {b : Nat} (least : 0xF0 ≤ b) (most : b ≤ 0xF4) :
    lead b = some (4, if b = 0xF0 then 0x90 else 0x80, if b = 0xF4 then 0x8F else 0xBF) := by
  by_cases first : b = 0xF0
  · rw [first]
    rfl
  · by_cases last : b = 0xF4
    · rw [last]
      rfl
    · rw [lead, if_neg (by omega), if_neg (by omega), if_neg (by omega), if_neg (by omega), if_neg (by omega),
        if_neg first, if_pos (by omega), if_neg first, if_neg last]

theorem lead_bounds {b : Nat} {rule : Nat × Nat × Nat} (starts : lead b = some rule) : 0xC2 ≤ b ∧ b ≤ 0xF4 := by
  unfold lead at starts
  grind

theorem toNat_byte {n : Nat} (small : n < 0x100) : (UInt8.ofNat n).toNat = n := by
  rw [UInt8.toNat_ofNat']
  omega

theorem front_long {c : Char} {b first least greatest : Nat} (tail : List Nat) (rest : Bytes)
    (starts : lead b = some (tail.length + 2, least, greatest))
    (within : least ≤ 0x80 + first ∧ 0x80 + first ≤ greatest) (small : first < 0x40)
    (bounds : ∀ b ∈ tail, b < 0x40)
    (spells : tail.foldl (fun bits b => bits * 0x40 + b)
      (b % (if tail.length = 0 then 0x20 else if tail.length = 1 then 0x10 else 0x08) * 0x40 + first) = c.toNat) :
    front (.ofNat b) (.ofNat (0x80 + first) :: tail.map (fun b => .ofNat (0x80 + b)) ++ rest) =
      .char c (tail.length + 2) := by
  have ends := lead_bounds starts
  rw [front, toNat_byte (by omega), if_neg (by omega), starts, List.cons_append]
  simp only [toNat_byte (show 0x80 + first < 0x100 by omega), if_pos within, Nat.add_sub_cancel, Nat.reduceEqDiff,
    Nat.add_eq_right]
  rw [continuation_bytes _ _ rest bounds, show (0x80 + first) % 0x40 = first by omega, spells, Char.ofNat_toNat,
    Nat.add_comm]

theorem front_encodeChar (c : Char) (rest : Bytes) :
    ∃ b tail, encodeChar c = b :: tail ∧ front b (tail ++ rest) = .char c (tail.length + 1) := by
  have valid : c.toNat < 0xD800 ∨ 0xDFFF < c.toNat ∧ c.toNat < 0x110000 := c.valid
  unfold encodeChar
  dsimp only
  split
  · refine ⟨_, [], rfl, ?_⟩
    rw [front, toNat_byte (by omega), if_pos ‹_›, Char.ofNat_toNat]
    rfl
  · split
    · refine ⟨_, _, rfl, front_long [] rest (lead_two (by omega) (by omega)) (by omega) (by omega)
        (List.forall_mem_nil _) ?_⟩
      rw [List.foldl_nil, List.length_nil, if_pos rfl]
      omega
    · split
      · refine ⟨_, _, rfl, front_long [c.toNat % 0x40] rest (lead_three (by omega) (by omega)) ?_ (by omega)
          (by simp [Nat.mod_lt]) ?_⟩
        · constructor <;> split <;> omega
        · simp only [List.foldl_cons, List.foldl_nil, List.length_singleton, Nat.one_ne_zero, if_false, if_true]
          omega
      · refine ⟨_, _, rfl, front_long [c.toNat / 0x40 % 0x40, c.toNat % 0x40] rest
          (lead_four (by omega) (by omega)) ?_ (by omega) (by simp [Nat.mod_lt]) ?_⟩
        · constructor <;> split <;> omega
        · simp only [List.foldl_cons, List.foldl_nil, List.length_cons, List.length_nil, Nat.reduceAdd,
            Nat.reduceEqDiff, if_false]
          omega

theorem encodeChar_two {a b : Nat} (least : 2 ≤ a) (most : a < 0x20) (small : b < 0x40) :
    encodeChar (.ofNat (a * 0x40 + b)) = [.ofNat (0xC0 + a), .ofNat (0x80 + b)] := by
  have bits : (Char.ofNat (a * 0x40 + b)).toNat = a * 0x40 + b := toNat_ofNat (.inl (by omega))
  rw [encodeChar, bits, if_neg (by omega), if_pos (by omega), show (a * 0x40 + b) / 0x40 = a by omega,
    show (a * 0x40 + b) % 0x40 = b by omega]

theorem encodeChar_three {a b c : Nat} (most : a < 0x10) (large : a = 0 → 0x20 ≤ b) (plain : a = 0xD → b < 0x20)
    (small : b < 0x40 ∧ c < 0x40) : encodeChar (.ofNat ((a * 0x40 + b) * 0x40 + c)) =
      [.ofNat (0xE0 + a), .ofNat (0x80 + b), .ofNat (0x80 + c)] := by
  have bits : (Char.ofNat ((a * 0x40 + b) * 0x40 + c)).toNat = (a * 0x40 + b) * 0x40 + c := by
    refine toNat_ofNat ?_
    unfold Nat.isValidChar
    omega
  rw [encodeChar, bits, if_neg (by omega), if_neg (by omega), if_pos (by omega),
    show ((a * 0x40 + b) * 0x40 + c) / 0x1000 = a by omega,
    show ((a * 0x40 + b) * 0x40 + c) / 0x40 % 0x40 = b by omega,
    show ((a * 0x40 + b) * 0x40 + c) % 0x40 = c by omega]

theorem encodeChar_four {a b c d : Nat} (most : a ≤ 4) (large : a = 0 → 0x10 ≤ b) (last : a = 4 → b < 0x10)
    (small : b < 0x40 ∧ c < 0x40 ∧ d < 0x40) : encodeChar (.ofNat (((a * 0x40 + b) * 0x40 + c) * 0x40 + d)) =
      [.ofNat (0xF0 + a), .ofNat (0x80 + b), .ofNat (0x80 + c), .ofNat (0x80 + d)] := by
  have bits : (Char.ofNat (((a * 0x40 + b) * 0x40 + c) * 0x40 + d)).toNat =
      ((a * 0x40 + b) * 0x40 + c) * 0x40 + d := by
    refine toNat_ofNat ?_
    unfold Nat.isValidChar
    omega
  rw [encodeChar, bits, if_neg (by omega), if_neg (by omega), if_neg (by omega),
    show (((a * 0x40 + b) * 0x40 + c) * 0x40 + d) / 0x40000 = a by omega,
    show (((a * 0x40 + b) * 0x40 + c) * 0x40 + d) / 0x1000 % 0x40 = b by omega,
    show (((a * 0x40 + b) * 0x40 + c) * 0x40 + d) / 0x40 % 0x40 = c by omega,
    show (((a * 0x40 + b) * 0x40 + c) * 0x40 + d) % 0x40 = d by omega]

theorem ofNat_eq {b : UInt8} {n : Nat} (same : n = b.toNat) : UInt8.ofNat n = b := by
  rw [same, UInt8.ofNat_toNat]

theorem front_char {b : UInt8} {rest : Bytes} {c : Char} {size : Nat} (read : front b rest = .char c size) :
    ∃ tail after, rest = tail ++ after ∧ encodeChar c = b :: tail ∧ size = tail.length + 1 := by
  unfold front at read
  split at read
  · rename_i ascii
    cases read
    refine ⟨[], rest, rfl, ?_, rfl⟩
    rw [encodeChar, toNat_ofNat (.inl (by omega)), if_pos ascii, UInt8.ofNat_toNat]
  · rename_i long
    split at read
    · cases read
    · rename_i least greatest starts
      cases rest with
      | nil => cases read
      | cons second rest =>
        dsimp only at read
        split at read
        · rename_i within
          obtain ⟨tail, after, rfl, count, bounds, rfl, rfl⟩ := continuation_char read
          have ends := lead_bounds starts
          -- the number of bytes is that of the lead, and its bounds keep the bits in their range
          rcases show b.toNat < 0xE0 ∨ 0xE0 ≤ b.toNat ∧ b.toNat < 0xF0 ∨ 0xF0 ≤ b.toNat by omega with
            two | ⟨three, most⟩ | four
          · rw [lead_two ends.1 two] at starts
            cases starts
            obtain rfl : tail = [] := List.length_eq_zero_iff.mp count
            refine ⟨[second], after, rfl, ?_, rfl⟩
            show encodeChar (.ofNat (b.toNat % 0x20 * 0x40 + second.toNat % 0x40)) = _
            rw [encodeChar_two (by omega) (by omega) (by omega), ofNat_eq (b := b) (by omega),
              ofNat_eq (b := second) (by omega)]
          · rw [lead_three three most] at starts
            cases starts
            obtain ⟨third, rfl⟩ := List.length_eq_one_iff.mp count
            have small := bounds third (List.mem_singleton_self third)
            have least : b.toNat = 0xE0 → 0xA0 ≤ second.toNat := fun first => by simpa [first] using within.1
            have greatest : b.toNat = 0xED → second.toNat ≤ 0x9F := fun last => by simpa [last] using within.2
            have bounds : 0x80 ≤ second.toNat ∧ second.toNat ≤ 0xBF := by grind
            refine ⟨[second, .ofNat (0x80 + third)], after, rfl, ?_, rfl⟩
            show encodeChar (.ofNat ((b.toNat % 0x10 * 0x40 + second.toNat % 0x40) * 0x40 + third)) = _
            rw [encodeChar_three (by omega) (by omega) (by omega) (by omega), ofNat_eq (b := b) (by omega),
              ofNat_eq (b := second) (by omega)]
          · rw [lead_four four ends.2] at starts
            cases starts
            obtain ⟨third, fourth, rfl⟩ := List.length_eq_two.mp count
            obtain ⟨small, last, _⟩ : third < 0x40 ∧ fourth < 0x40 ∧ True := by simpa using bounds
            have least : b.toNat = 0xF0 → 0x90 ≤ second.toNat := fun first => by simpa [first] using within.1
            have greatest : b.toNat = 0xF4 → second.toNat ≤ 0x8F := fun last => by simpa [last] using within.2
            have bounds : 0x80 ≤ second.toNat ∧ second.toNat ≤ 0xBF := by grind
            refine ⟨[second, .ofNat (0x80 + third), .ofNat (0x80 + fourth)], after, rfl, ?_, rfl⟩
            show encodeChar (.ofNat (((b.toNat % 0x08 * 0x40 + second.toNat % 0x40) * 0x40 + third) * 0x40 + fourth)) = _
            rw [encodeChar_four (by omega) (by omega) (by omega) (by omega), ofNat_eq (b := b) (by omega),
              ofNat_eq (b := second) (by omega)]
        · cases read

theorem piecesAfter_append (tail rest : Bytes) : piecesAfter tail.length (tail ++ rest) = pieces rest := by
  induction tail with
  | nil => rfl
  | cons b tail ih =>
    rw [← ih]
    rfl

theorem pieces_encodeChar (c : Char) (rest : Bytes) :
    pieces (encodeChar c ++ rest) = .char c (encodeChar c).length :: pieces rest := by
  obtain ⟨b, tail, spelt, read⟩ := front_encodeChar c rest
  rw [spelt, List.cons_append, pieces, piecesAfter, read, List.length_cons]
  exact congrArg _ (piecesAfter_append tail rest)

theorem spell_encode (s : List Char) (start : Nat) : spell start (pieces (encode s)) = .ok s := by
  induction s generalizing start with
  | nil => rfl
  | cons c s ih =>
    rw [encode, List.flatMap_cons, pieces_encodeChar, spell]
    rw [encode] at ih
    rw [ih]

theorem spell_pieces {bytes : Bytes} {s : List Char} {start : Nat} (read : spell start (pieces bytes) = .ok s) :
    encode s = bytes := by
  induction s generalizing bytes start with
  | nil =>
    cases bytes with
    | nil => rfl
    | cons b rest =>
      rw [pieces, piecesAfter] at read
      cases piece : front b rest with
      | char c size =>
        rw [piece] at read
        dsimp only [spell] at read
        split at read <;> cases read
      | malformed | incomplete =>
        rw [piece] at read
        cases read
  | cons c s ih =>
    cases bytes with
    | nil => cases read
    | cons b rest =>
      rw [pieces, piecesAfter] at read
      cases piece : front b rest with
      | char first size =>
        obtain ⟨tail, after, rfl, spelt, rfl⟩ := front_char piece
        rw [piece] at read
        dsimp only [spell, Piece.size] at read
        rw [Nat.add_sub_cancel, piecesAfter_append] at read
        split at read
        · rename_i others
          cases read
          rw [encode, List.flatMap_cons, spelt, List.cons_append, ← ih others, encode]
        · cases read
      | malformed | incomplete =>
        rw [piece] at read
        cases read

theorem decode_eq_ok_iff (bytes : Bytes) (s : List Char) : decode bytes = .ok s ↔ bytes = encode s := by
  constructor
  · intro read
    exact (spell_pieces read).symm
  · rintro rfl
    exact spell_encode s 0

end Utf8

theorem ofBytes?_eq_some_iff (data : Bytes) (s : String) : ofBytes? data = some s ↔ data = bytes s := by
  unfold ofBytes?
  constructor
  · intro read
    split at read
    · rename_i chars decoded
      cases read
      rw [bytes, String.toList_ofList]
      exact (Utf8.decode_eq_ok_iff _ _).mp decoded
    · cases read
  · rintro rfl
    rw [bytes, (Utf8.decode_eq_ok_iff _ _).mpr rfl]
    exact congrArg some (String.ofList_toList)

end Gateway.Text
