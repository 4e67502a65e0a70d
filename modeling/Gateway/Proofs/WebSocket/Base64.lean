import Gateway.WebSocket.Base64
import Mathlib.Algebra.Ring.Nat

namespace Gateway.WebSocket.Base64

def bits : Nat → Nat → List Bool
  | 0, _ => []
  | width + 1, n => bits width (n / 2) ++ [n % 2 == 1]

def alphabet : List Char := "ABCDEFGHIJKLMNOPQRSTUVWXYZabcdefghijklmnopqrstuvwxyz0123456789+/".toList

/-- The bits of some characters, each of them told by its place in the alphabet. -/
def spelt (places : List (Fin 64)) : List Bool := places.flatMap fun place : Fin 64 => bits 6 place

/-- The text of some bytes: characters for their bits, six by six, and padding. -/
def Writes (data : Bytes) (text : List Char) : Prop :=
  ∃ (places : List (Fin 64)) (zeros padding : Nat),
    text = places.map (fun place => alphabet[place]) ++ List.replicate padding '=' ∧
    spelt places = data.flatMap (fun byte => bits 8 byte.toNat) ++ List.replicate zeros false ∧
    zeros < 6 ∧ padding < 4 ∧ 4 ∣ text.length

theorem length_bits (width n : Nat) : (bits width n).length = width := by
  induction width generalizing n with
  | zero => rfl
  | succ width ih => rw [bits, List.length_append, ih, List.length_singleton]

theorem bits_add (left right n : Nat) : bits (left + right) n = bits left (n / 2 ^ right) ++ bits right n := by
  induction right generalizing n with
  | zero => simp [bits]
  | succ right ih =>
    rw [← Nat.add_assoc, bits, ih, bits, Nat.div_div_eq_div_mul, ← Nat.pow_succ', List.append_assoc]

theorem bits_mod (width n : Nat) : bits width (n % 2 ^ width) = bits width n := by
  induction width generalizing n with
  | zero => rfl
  | succ width ih =>
    have half : n % 2 ^ (width + 1) / 2 = n / 2 % 2 ^ width := by
      rw [Nat.pow_succ', Nat.mod_mul_right_div_self]
    have last : n % 2 ^ (width + 1) % 2 = n % 2 := by
      rw [Nat.pow_succ', Nat.mod_mul_right_mod]
    rw [bits, half, last, ih, bits]

theorem bits_congr {width m n : Nat} (same : m % 2 ^ width = n % 2 ^ width) : bits width m = bits width n := by
  rw [← bits_mod, same, bits_mod]

theorem bits_six (n : Nat) : bits 6 (n % 64) = bits 6 n := bits_mod 6 n

theorem bits_injective {m n : Fin 64} (same : bits 6 m = bits 6 n) : m = n := by
  have value : ∀ n : Fin 64, (bits 6 n).foldl (fun (m : Nat) bit => 2 * m + bit.toNat) 0 = n.val := by decide
  exact Fin.ext ((value m).symm.trans ((congrArg _ same).trans (value n)))

theorem bits_three {a b c : Nat} (small : a < 256 ∧ b < 256 ∧ c < 256) :
    let n := (a * 256 + b) * 256 + c
    bits 6 (n / 262144) ++ (bits 6 (n / 4096 % 64) ++ (bits 6 (n / 64 % 64) ++ bits 6 (n % 64))) =
      bits 8 a ++ (bits 8 b ++ bits 8 c) := by
  intro n
  have sixes : bits 24 n = bits 6 (n / 262144) ++ (bits 6 (n / 4096) ++ (bits 6 (n / 64) ++ bits 6 n)) := by
    simp only [bits_add 6 18, bits_add 6 12, bits_add 6 6, Nat.reducePow]
  have eights : bits 24 n = bits 8 (n / 65536) ++ (bits 8 (n / 256) ++ bits 8 n) := by
    simp only [bits_add 8 16, bits_add 8 8, Nat.reducePow]
  have first : n / 65536 = a := by omega
  have second : bits 8 (n / 256) = bits 8 b := bits_congr (by omega)
  have third : bits 8 n = bits 8 c := bits_congr (by omega)
  rw [bits_six, bits_six, bits_six, ← sixes, eights, first, second, third]

theorem bits_two {a b : Nat} (small : a < 256 ∧ b < 256) :
    let n := (a * 256 + b) * 4
    bits 6 (n / 4096) ++ (bits 6 (n / 64 % 64) ++ bits 6 (n % 64)) =
      bits 8 a ++ (bits 8 b ++ List.replicate 2 false) := by
  intro n
  have sixes : bits 18 n = bits 6 (n / 4096) ++ (bits 6 (n / 64) ++ bits 6 n) := by
    simp only [bits_add 6 12, bits_add 6 6, Nat.reducePow]
  have eights : bits 18 n = bits 8 (n / 1024) ++ (bits 8 (n / 4) ++ bits 2 n) := by
    simp only [bits_add 8 10, bits_add 8 2, Nat.reducePow]
  have first : n / 1024 = a := by omega
  have second : bits 8 (n / 4) = bits 8 b := bits_congr (by omega)
  have spare : bits 2 n = bits 2 0 := bits_congr (by omega)
  rw [bits_six, bits_six, ← sixes, eights, first, second, spare]
  rfl

theorem bits_one (a : Nat) :
    let n := a * 16
    bits 6 (n / 64) ++ bits 6 (n % 64) = bits 8 a ++ List.replicate 4 false := by
  intro n
  have sixes : bits 12 n = bits 6 (n / 64) ++ bits 6 n := bits_add 6 6 n
  have eights : bits 12 n = bits 8 (n / 16) ++ bits 4 n := bits_add 8 4 n
  have first : n / 16 = a := by omega
  have spare : bits 4 n = bits 4 0 := bits_congr (by omega)
  rw [bits_six, ← sixes, eights, first, spare]
  rfl

theorem digit_place (place : Fin 64) : digit place = alphabet[place] := by
  revert place
  decide

theorem spelt_append (places more : List (Fin 64)) : spelt (places ++ more) = spelt places ++ spelt more :=
  List.flatMap_append

theorem length_spelt (places : List (Fin 64)) : (spelt places).length = 6 * places.length := by
  induction places with
  | nil => rfl
  | cons place places ih =>
    rw [← List.singleton_append, spelt_append, List.length_append, ih, List.length_append]
    exact Nat.mul_add 6 1 places.length |>.symm

theorem spelt_injective {places more : List (Fin 64)} (same : spelt places = spelt more) : places = more := by
  have length : places.length = more.length := by
    have bits := congrArg List.length same
    rw [length_spelt, length_spelt] at bits
    exact Nat.eq_of_mul_eq_mul_left (by decide) bits
  induction places generalizing more with
  | nil => exact (List.length_eq_zero_iff.mp length.symm).symm
  | cons place places ih =>
    cases more with
    | nil => cases length
    | cons other more =>
      obtain ⟨first, rest⟩ := List.append_inj same ((length_bits 6 place).trans (length_bits 6 other).symm)
      rw [bits_injective first, ih rest (Nat.succ.inj length)]

theorem length_bytes (data : Bytes) : (data.flatMap fun byte => bits 8 byte.toNat).length = 8 * data.length := by
  induction data with
  | nil => rfl
  | cons byte data ih =>
    rw [List.flatMap_cons, List.length_append, ih, length_bits, List.length_cons]
    omega

theorem Writes.unique {data : Bytes} {text other : List Char} (writes : Writes data text) (also : Writes data other) :
    text = other := by
  obtain ⟨places, zeros, padding, rfl, spells, few, short, quarters⟩ := writes
  obtain ⟨places', zeros', padding', rfl, spells', few', short', quarters'⟩ := also
  have length := congrArg List.length spells
  have length' := congrArg List.length spells'
  rw [length_spelt, List.length_append, length_bytes, List.length_replicate] at length length'
  obtain rfl : zeros = zeros' := by omega
  obtain rfl : places = places' := spelt_injective (spells.trans spells'.symm)
  simp only [List.length_append, List.length_map, List.length_replicate] at quarters quarters'
  obtain rfl : padding = padding' := by omega
  rfl

theorem writes_nil : Writes [] [] := ⟨[], 0, 0, rfl, rfl, by decide, by decide, Nat.dvd_zero 4⟩

theorem Writes.cons {first data : Bytes} {text : List Char} (writes : Writes data text) {places : List (Fin 64)}
    (whole : spelt places = first.flatMap fun byte => bits 8 byte.toNat) (quarters : 4 ∣ places.length) :
    Writes (first ++ data) (places.map (fun place : Fin 64 => digit place) ++ text) := by
  obtain ⟨more, zeros, padding, rfl, spells, few, short, length⟩ := writes
  refine ⟨places ++ more, zeros, padding, ?_, ?_, few, short, ?_⟩
  · simp only [List.map_append, List.append_assoc, digit_place]
  · rw [spelt_append, whole, spells, List.flatMap_append, List.append_assoc]
  · rw [List.length_append, List.length_map]
    exact Nat.dvd_add quarters length

theorem writes_encode (data : Bytes) : Writes data (encode data) := by
  fun_induction encode data with
  | case1 => exact writes_nil
  | case2 a n =>
    have small := a.toNat_lt
    refine ⟨[⟨n / 64, by omega⟩, ⟨n % 64, by omega⟩], 4, 2, ?_, ?_, by decide, by decide, by simp⟩
    · simp only [List.map_cons, List.map_nil, ← digit_place]
      rfl
    · simpa [spelt] using bits_one a.toNat
  | case3 a b n =>
    have small := And.intro a.toNat_lt b.toNat_lt
    refine ⟨[⟨n / 4096, by omega⟩, ⟨n / 64 % 64, by omega⟩, ⟨n % 64, by omega⟩], 2, 1, ?_, ?_, by decide, by decide,
      by simp⟩
    · simp only [List.map_cons, List.map_nil, ← digit_place]
      rfl
    · simpa [spelt] using bits_two small
  | case4 a b c rest n ih =>
    have small := And.intro a.toNat_lt (And.intro b.toNat_lt c.toNat_lt)
    let places : List (Fin 64) :=
      [⟨n / 262144, by omega⟩, ⟨n / 4096 % 64, by omega⟩, ⟨n / 64 % 64, by omega⟩, ⟨n % 64, by omega⟩]
    have whole : spelt places = [a, b, c].flatMap fun byte => bits 8 byte.toNat := by
      simpa [spelt, places] using bits_three small
    exact ih.cons whole (by simp [places])

theorem eq_encode_iff (data : Bytes) (text : List Char) : text = encode data ↔ Writes data text :=
  ⟨fun same => same ▸ writes_encode data, fun writes => writes.unique (writes_encode data)⟩

theorem length_encode (data : Bytes) : (encode data).length = 4 * ((data.length + 2) / 3) := by
  obtain ⟨places, zeros, padding, text, spells, few, short, quarters⟩ := writes_encode data
  have length := congrArg List.length spells
  rw [length_spelt, List.length_append, length_bytes, List.length_replicate] at length
  rw [text, List.length_append, List.length_map, List.length_replicate] at quarters ⊢
  omega

theorem mem_encode {data : Bytes} {c : Char} (within : c ∈ encode data) : c ∈ alphabet ∨ c = '=' := by
  obtain ⟨places, zeros, padding, text, -⟩ := writes_encode data
  rw [text] at within
  rcases List.mem_append.mp within with letter | filler
  · obtain ⟨place, -, rfl⟩ := List.mem_map.mp letter
    exact .inl (List.getElem_mem _)
  · exact .inr (List.eq_of_mem_replicate filler)

end Gateway.WebSocket.Base64
