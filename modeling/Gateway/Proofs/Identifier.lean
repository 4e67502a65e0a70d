import Gateway.Event
import Gateway.Id

namespace Gateway

namespace Text.Hex

theorem value?_digit (n : Nat) (bound : n < 16) : value? (digit n) = some n := by
  have all : ∀ m ∈ List.range 16, value? (digit m) = some m := by decide
  exact all n (List.mem_range.mpr bound)

theorem length_encode (bytes : Bytes) : (encode bytes).length = 2 * bytes.length := by
  induction bytes with
  | nil => rfl
  | cons b rest ih =>
    simp only [encode, List.flatMap_cons, encodeByte, List.length_append, List.length_cons,
      List.length_nil] at ih ⊢
    omega

theorem decode?_encode (bytes : Bytes) : decode? (encode bytes) = some bytes := by
  induction bytes with
  | nil => rfl
  | cons b rest ih =>
    have bound := b.toNat_lt
    have whole : 16 * (b.toNat / 16) + b.toNat % 16 = b.toNat := by omega
    simp only [encode] at ih
    simp only [encode, List.flatMap_cons, encodeByte, List.cons_append, List.nil_append, decode?,
      value?_digit (b.toNat / 16) (by omega), value?_digit (b.toNat % 16) (by omega), ih, whole,
      UInt8.ofNat_toNat]

end Text.Hex

namespace Uuid

theorem length_digits (id : Uuid) : (Text.Hex.encode id.bytes).length = 32 := by
  rw [Text.Hex.length_encode, id.length_bytes]

theorem length_hyphenate (digits : List Char) (full : digits.length = 32) :
    (hyphenate digits).length = 36 := by
  simp only [hyphenate, List.length_append, List.length_cons, List.length_take, List.length_drop]
  omega

theorem hyphenate_append {a b c d : List Char} (e : List Char) (ha : a.length = 8) (hb : b.length = 4)
    (hc : c.length = 4) (hd : d.length = 4) : hyphenate (a ++ (b ++ (c ++ (d ++ e)))) =
      a ++ '-' :: (b ++ '-' :: (c ++ '-' :: (d ++ '-' :: e))) := by
  simp [hyphenate, List.drop_append, List.drop_eq_nil_of_le, ha, hb, hc, hd]

theorem ofGroups?_hyphenate (digits : List Char) (full : digits.length = 32) :
    ofGroups? (hyphenate digits) = ofDigits? digits := by
  obtain ⟨a, digits, rfl, ha⟩ : ∃ a b, digits = a ++ b ∧ a.length = 8 :=
    ⟨digits.take 8, digits.drop 8, by simp, by simp; omega⟩
  obtain ⟨b, digits, rfl, hb⟩ : ∃ b c, digits = b ++ c ∧ b.length = 4 :=
    ⟨digits.take 4, digits.drop 4, by simp, by simp at full ⊢; omega⟩
  obtain ⟨c, digits, rfl, hc⟩ : ∃ c d, digits = c ++ d ∧ c.length = 4 :=
    ⟨digits.take 4, digits.drop 4, by simp, by simp at full ⊢; omega⟩
  obtain ⟨d, e, rfl, hd⟩ : ∃ d e, digits = d ++ e ∧ d.length = 4 :=
    ⟨digits.take 4, digits.drop 4, by simp, by simp at full ⊢; omega⟩
  have he : e.length = 12 := by simp at full; omega
  have sized : (hyphenate (a ++ (b ++ (c ++ (d ++ e))))).length = 36 := length_hyphenate _ full
  rw [hyphenate_append e ha hb hc hd] at sized ⊢
  have placed : hyphens.all (fun i =>
      (a ++ '-' :: (b ++ '-' :: (c ++ '-' :: (d ++ '-' :: e))))[i]? = some '-') = true := by
    simp [hyphens, List.getElem?_append, List.getElem?_cons, ha, hb, hc, hd]
  rw [ofGroups?, if_pos ⟨sized, placed⟩]
  congr 1
  simp [List.drop_append, List.drop_eq_nil_of_le, ha, hb, hc, hd]

theorem ofGroups?_chars (id : Uuid) : ofGroups? id.chars = some id := by
  rw [chars, ofGroups?_hyphenate _ id.length_digits, ofDigits?, Text.Hex.decode?_encode]
  simp only [id.length_bytes, dite_true]

theorem text_injective {a b : Uuid} (same : a.text = b.text) : a = b := by
  have chars : a.chars = b.chars := String.ofList_injective same
  have left := ofGroups?_chars a
  rw [chars, ofGroups?_chars b] at left
  exact (Option.some.inj left).symm

@[simp] theorem text_inj {a b : Uuid} : a.text = b.text ↔ a = b := ⟨text_injective, congrArg text⟩

@[simp] theorem serverId_ne_text (id : Uuid) : serverId ≠ id.text := by
  intro same
  have sizes := congrArg String.length same
  rw [text, String.length_ofList, chars, length_hyphenate _ id.length_digits] at sizes
  exact absurd sizes (by decide)

end Uuid

end Gateway
