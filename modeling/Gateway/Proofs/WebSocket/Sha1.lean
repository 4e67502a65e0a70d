import Gateway.Id
import Gateway.WebSocket.Sha1
import Mathlib.Algebra.Ring.Nat

namespace Gateway.WebSocket.Sha1

open Uuid (bigEndian length_bigEndian)

def wordsBytes (words : List UInt32) : Bytes := words.flatMap fun word => bigEndian 4 word.toNat

def Pads (message padded : Bytes) : Prop :=
  ∃ zeros, padded = message ++ 0x80 :: List.replicate zeros 0 ++ bigEndian 8 (8 * message.length) ∧
    64 ∣ padded.length ∧ ∀ fewer, 64 ∣ message.length + 1 + fewer + 8 → zeros ≤ fewer

structure Continues (block : List UInt32) (word : Nat → UInt32) : Prop where
  first : ∀ t < 16, block[t]? = some (word t)
  later : ∀ t, 16 ≤ t → t < 80 →
    word t = rotate (word (t - 3) ^^^ word (t - 8) ^^^ word (t - 14) ^^^ word (t - 16)) 1

def logic (round : Nat) (x y z : UInt32) : UInt32 :=
  if round < 20 then (x &&& y) ^^^ (~~~x &&& z)
  else if round < 40 then x ^^^ y ^^^ z
  else if round < 60 then (x &&& y) ^^^ (x &&& z) ^^^ (y &&& z)
  else x ^^^ y ^^^ z

def constant (round : Nat) : UInt32 :=
  if round < 20 then 0x5A827999 else if round < 40 then 0x6ED9EBA1 else if round < 60 then 0x8F1BBCDC else 0xCA62C1D6

def turn (round : Nat) (s : State) (word : UInt32) : State :=
  ⟨rotate s.a 5 + logic round s.b s.c s.d + s.e + constant round + word, s.a, rotate s.b 30, s.c, s.d⟩

def Stirs (s : State) (block : List UInt32) (after : State) : Prop :=
  ∃ (word : Nat → UInt32) (state : Nat → State), Continues block word ∧ state 0 = s ∧
    (∀ t < 80, state (t + 1) = turn t (state t) (word t)) ∧
    after = ⟨s.a + (state 80).a, s.b + (state 80).b, s.c + (state 80).c, s.d + (state 80).d, s.e + (state 80).e⟩

inductive StirsAll : State → List (List UInt32) → State → Prop where
  | nil (s : State) : StirsAll s [] s
  | cons {s t u : State} {block : List UInt32} {rest : List (List UInt32)} (size : block.length = 16)
      (first : Stirs s block t) (others : StirsAll t rest u) : StirsAll s (block :: rest) u

def Digests (message digest : Bytes) : Prop :=
  ∃ padded blocks s, Pads message padded ∧ padded = wordsBytes blocks.flatten ∧ StirsAll initial blocks s ∧
    digest = wordsBytes [s.a, s.b, s.c, s.d, s.e]

theorem bigEndian_add (left right n : Nat) :
    bigEndian (left + right) n = bigEndian left (n / 256 ^ right) ++ bigEndian right n := by
  induction right generalizing n with
  | zero => simp [bigEndian]
  | succ right ih =>
    rw [← Nat.add_assoc, bigEndian, ih, bigEndian, Nat.div_div_eq_div_mul, ← Nat.pow_succ', List.append_assoc]

theorem bigEndian_mod (count n : Nat) : bigEndian count (n % 256 ^ count) = bigEndian count n := by
  induction count generalizing n with
  | zero => rfl
  | succ count ih =>
    rw [bigEndian, Nat.pow_succ', Nat.mod_mul_right_div_self, Nat.mod_mul_right_mod, ih, bigEndian]

theorem wordBytes_eq (word : UInt32) : wordBytes word = bigEndian 4 word.toNat := by
  have byte (shift : UInt32) (small : shift.toNat < 32) :
      (word >>> shift).toUInt8 = .ofNat (word.toNat / 2 ^ shift.toNat % 256) := by
    apply UInt8.toNat_inj.mp
    rw [UInt32.toNat_toUInt8, UInt32.toNat_shiftRight, UInt8.toNat_ofNat', Nat.mod_eq_of_lt small,
      Nat.shiftRight_eq_div_pow, Nat.mod_mod]
  have last : word.toUInt8 = .ofNat (word.toNat % 256) := by
    apply UInt8.toNat_inj.mp
    rw [UInt32.toNat_toUInt8, UInt8.toNat_ofNat', Nat.mod_mod]
  simp only [bigEndian, wordBytes, byte 24 (by decide), byte 16 (by decide), byte 8 (by decide), last,
    Nat.div_div_eq_div_mul]
  rfl

theorem toNat_word (a b c d : UInt8) :
    ((a.toUInt32 <<< 24) ||| (b.toUInt32 <<< 16) ||| (c.toUInt32 <<< 8) ||| d.toUInt32).toNat =
      ((a.toNat * 256 + b.toNat) * 256 + c.toNat) * 256 + d.toNat := by
  have join (high : Nat) (low : UInt8) : high <<< 8 ||| low.toNat = high * 256 + low.toNat := by
    rw [← Nat.shiftLeft_add_eq_or_of_lt low.toNat_lt, Nat.shiftLeft_eq]
  have small := And.intro a.toNat_lt (And.intro b.toNat_lt (And.intro c.toNat_lt d.toNat_lt))
  have shift (byte : UInt8) (places : UInt32) (within : places.toNat ≤ 24) :
      (byte.toUInt32 <<< places).toNat = byte.toNat <<< places.toNat := by
    have bound : byte.toNat * 2 ^ places.toNat < 2 ^ 32 := by
      calc byte.toNat * 2 ^ places.toNat < 2 ^ 8 * 2 ^ places.toNat :=
            Nat.mul_lt_mul_of_pos_right byte.toNat_lt (Nat.two_pow_pos _)
        _ ≤ 2 ^ 8 * 2 ^ 24 := Nat.mul_le_mul_left _ (Nat.pow_le_pow_right (by decide) within)
        _ = 2 ^ 32 := rfl
    rw [UInt32.toNat_shiftLeft, UInt8.toNat_toUInt32, Nat.mod_eq_of_lt (show places.toNat < 32 by omega),
      Nat.shiftLeft_eq, Nat.mod_eq_of_lt bound]
  simp only [UInt32.toNat_or, shift a 24 (by decide), shift b 16 (by decide), shift c 8 (by decide),
    UInt8.toNat_toUInt32]
  calc a.toNat <<< 24 ||| b.toNat <<< 16 ||| c.toNat <<< 8 ||| d.toNat
      = ((a.toNat <<< 8 ||| b.toNat) <<< 8 ||| c.toNat) <<< 8 ||| d.toNat := by
        simp only [Nat.shiftLeft_or_distrib, ← Nat.shiftLeft_add]
    _ = ((a.toNat * 256 + b.toNat) * 256 + c.toNat) * 256 + d.toNat := by simp only [join]

theorem wordsBytes_words {bytes : Bytes} (whole : 4 ∣ bytes.length) : wordsBytes (words bytes) = bytes := by
  fun_induction words bytes with
  | case1 a b c d rest ih =>
    have others : wordsBytes (words rest) = rest := ih ((Nat.dvd_add_left (Nat.dvd_refl 4)).mp whole)
    have small := And.intro a.toNat_lt (And.intro b.toNat_lt (And.intro c.toNat_lt d.toNat_lt))
    have digit {n : Nat} (byte : UInt8) (same : n % 256 = byte.toNat) : UInt8.ofNat (n % 256) = byte := by
      rw [same, UInt8.ofNat_toNat]
    rw [wordsBytes, List.flatMap_cons, ← wordsBytes, others, toNat_word]
    simp only [bigEndian, List.nil_append, List.cons_append]
    rw [digit a (by omega), digit b (by omega), digit c (by omega), digit d (by omega)]
  | case2 bytes short =>
    have few : bytes.length < 4 := by
      rcases bytes with _ | ⟨a, _ | ⟨b, _ | ⟨c, _ | ⟨d, rest⟩⟩⟩⟩
      case cons.cons.cons.cons => exact absurd rfl (short a b c d rest)
      all_goals simp
    exact (List.length_eq_zero_iff.mp (Nat.eq_zero_of_dvd_of_lt whole few)).symm

theorem length_wordsBytes (words : List UInt32) : (wordsBytes words).length = 4 * words.length := by
  induction words with
  | nil => rfl
  | cons word words ih =>
    rw [wordsBytes, List.flatMap_cons, ← wordsBytes, List.length_append, ih, length_bigEndian, List.length_cons]
    omega

theorem pad_eq (message : Bytes) : pad message = message ++ 0x80 ::
    List.replicate ((119 - message.length % 64) % 64) 0 ++ bigEndian 8 (8 * message.length) := by
  have word (n : Nat) : wordBytes (UInt32.ofNat n) = bigEndian 4 n := by
    rw [wordBytes_eq, UInt32.toNat_ofNat']
    exact bigEndian_mod 4 n
  rw [pad, word, word, List.append_assoc]
  exact congrArg _ (bigEndian_add 4 4 (8 * message.length)).symm

theorem pads_pad (message : Bytes) : Pads message (pad message) := by
  refine ⟨_, pad_eq message, ?_, fun fewer whole => by omega⟩
  simp only [pad_eq, List.length_append, List.length_cons, List.length_replicate, length_bigEndian]
  omega

theorem drop_expand (count : Nat) (schedule : List UInt32) : (expand count schedule).drop count = schedule := by
  induction count generalizing schedule with
  | zero => rfl
  | succ count ih => rw [expand, ← List.drop_drop, ih, List.drop_one, List.tail_cons]

theorem getD_drop (words : List UInt32) (count place : Nat) :
    words.getD (count + place) 0 = (words.drop count).getD place 0 := by
  rw [List.getD_eq_getElem?_getD, List.getD_eq_getElem?_getD, List.getElem?_drop]

theorem getD_expand {count place : Nat} (new : place < count) (schedule : List UInt32) :
    let words := expand count schedule
    words.getD place 0 = rotate (words.getD (place + 3) 0 ^^^ words.getD (place + 8) 0 ^^^
      words.getD (place + 14) 0 ^^^ words.getD (place + 16) 0) 1 := by
  intro words
  induction count generalizing schedule with
  | zero => exact absurd new (Nat.not_lt_zero _)
  | succ count ih =>
    rcases Nat.lt_succ_iff_lt_or_eq.mp new with later | rfl
    · exact ih later _
    · have behind := drop_expand place (rotate (schedule.getD 2 0 ^^^ schedule.getD 7 0 ^^^ schedule.getD 13 0 ^^^
        schedule.getD 15 0) 1 :: schedule)
      have word : words.getD place 0 = words.getD (place + 0) 0 := rfl
      rw [word, getD_drop, getD_drop, getD_drop, getD_drop, getD_drop]
      simp only [words, expand, behind]
      rfl

def wordAt (block : List UInt32) (t : Nat) : UInt32 := (expand 64 block.reverse).getD (79 - t) 0

theorem length_expand (count : Nat) (schedule : List UInt32) :
    (expand count schedule).length = count + schedule.length := by
  induction count generalizing schedule with
  | zero => exact (Nat.zero_add _).symm
  | succ count ih =>
    rw [expand, ih, List.length_cons]
    omega

theorem continues_wordAt {block : List UInt32} (size : block.length = 16) : Continues block (wordAt block) := by
  constructor
  case first =>
    intro t early
    have place : 79 - t = 64 + (15 - t) := by omega
    rw [wordAt, place, getD_drop, drop_expand, List.getD_eq_getElem?_getD, List.getElem?_reverse (by omega),
      show block.length - 1 - (15 - t) = t by omega, List.getElem?_eq_getElem (by omega), Option.getD_some]
  case later =>
    intro t late within
    have new : 79 - t < 64 := by omega
    have recurrence := getD_expand new block.reverse
    rw [show 79 - t + 3 = 79 - (t - 3) by omega, show 79 - t + 8 = 79 - (t - 8) by omega,
      show 79 - t + 14 = 79 - (t - 14) by omega, show 79 - t + 16 = 79 - (t - 16) by omega] at recurrence
    exact recurrence

theorem getElem?_schedule {block : List UInt32} (size : block.length = 16) {t : Nat} (within : t < 80) :
    (schedule block)[t]? = some (wordAt block t) := by
  have length : (expand 64 block.reverse).length = 80 := by rw [length_expand, List.length_reverse, size]
  rw [schedule, List.getElem?_reverse (by omega), length, wordAt, List.getD_eq_getElem?_getD,
    List.getElem?_eq_getElem (by omega), Option.getD_some]

theorem logic_mix (round : Nat) (s : State) : mix round s = (logic round s.b s.c s.d, constant round) := by
  have choice (x y z : UInt32) : (x &&& y) ||| (~~~x &&& z) = (x &&& y) ^^^ (~~~x &&& z) := by
    apply UInt32.toBitVec_inj.mp
    apply BitVec.eq_of_getLsbD_eq
    intro i within
    simp only [UInt32.toBitVec_or, UInt32.toBitVec_xor, UInt32.toBitVec_and, UInt32.toBitVec_not, BitVec.getLsbD_or,
      BitVec.getLsbD_xor, BitVec.getLsbD_and, BitVec.getLsbD_not, within]
    cases x.toBitVec.getLsbD i <;> cases y.toBitVec.getLsbD i <;> cases z.toBitVec.getLsbD i <;> rfl
  have majority (x y z : UInt32) : (x &&& y) ||| (x &&& z) ||| (y &&& z) = (x &&& y) ^^^ (x &&& z) ^^^ (y &&& z) := by
    apply UInt32.toBitVec_inj.mp
    apply BitVec.eq_of_getLsbD_eq
    intro i _
    simp only [UInt32.toBitVec_or, UInt32.toBitVec_xor, UInt32.toBitVec_and, BitVec.getLsbD_or, BitVec.getLsbD_xor,
      BitVec.getLsbD_and]
    cases x.toBitVec.getLsbD i <;> cases y.toBitVec.getLsbD i <;> cases z.toBitVec.getLsbD i <;> rfl
  unfold mix logic constant
  rw [choice, majority]
  split
  · rfl
  · split
    · rfl
    · split <;> rfl

def stateAt (word : Nat → UInt32) (s : State) : Nat → State
  | 0 => s
  | t + 1 => turn t (stateAt word s t) (word t)

theorem rounds_stateAt (word : Nat → UInt32) (s : State) {words : List UInt32} {t : Nat}
    (each : ∀ i < words.length, words[i]? = some (word (t + i))) :
    rounds t words (stateAt word s t) = stateAt word s (t + words.length) := by
  induction words generalizing t with
  | nil => rfl
  | cons first rest ih =>
    have here : first = word t := Option.some.inj (each 0 (Nat.succ_pos _))
    have there : ∀ i < rest.length, rest[i]? = some (word (t + 1 + i)) := by
      intro i within
      rw [Nat.add_assoc, Nat.add_comm 1 i]
      exact each (i + 1) (Nat.succ_lt_succ within)
    rw [rounds, logic_mix, List.length_cons, Nat.add_comm rest.length 1, ← Nat.add_assoc, ← ih there, here]
    rfl

theorem stirs_block {words : List UInt32} (size : words.length = 16) (s : State) : Stirs s words (block s words) := by
  refine ⟨wordAt words, stateAt (wordAt words) s, continues_wordAt size, rfl, fun _ _ => rfl, ?_⟩
  have length : (schedule words).length = 80 := by
    rw [schedule, List.length_reverse, length_expand, List.length_reverse, size]
  have each : ∀ i < (schedule words).length, (schedule words)[i]? = some (wordAt words (0 + i)) := by
    intro i within
    rw [Nat.zero_add]
    exact getElem?_schedule size (length ▸ within)
  have all := rounds_stateAt (wordAt words) s each
  rw [length, Nat.zero_add] at all
  rw [block, show rounds 0 (schedule words) s = _ from all]

theorem stirsAll_blocks {count : Nat} {words : List UInt32} (whole : words.length = 16 * count) (s : State) :
    ∃ parts, parts.flatten = words ∧ StirsAll s parts (blocks count words s) := by
  induction count generalizing words s with
  | zero => exact ⟨[], (List.length_eq_zero_iff.mp whole).symm, .nil s⟩
  | succ count ih =>
    have size : (words.take 16).length = 16 := List.length_take_of_le (by omega)
    have left : (words.drop 16).length = 16 * count := by
      rw [List.length_drop]
      omega
    obtain ⟨parts, same, others⟩ := ih left (block s (words.take 16))
    refine ⟨words.take 16 :: parts, ?_, .cons size (stirs_block size s) others⟩
    rw [List.flatten_cons, same, List.take_append_drop]

theorem digests_digest (message : Bytes) : Digests message (digest message) := by
  have pads := pads_pad message
  obtain ⟨_, _, blocksWhole, _⟩ := pads
  have wordsWhole : 4 ∣ (pad message).length := Nat.dvd_trans (by decide) blocksWhole
  have bytes := wordsBytes_words wordsWhole
  have length := length_wordsBytes (words (pad message))
  rw [bytes] at length
  have whole : (words (pad message)).length = 16 * ((words (pad message)).length / 16) := by omega
  obtain ⟨parts, same, stirs⟩ := stirsAll_blocks whole initial
  refine ⟨pad message, parts, _, pads_pad message, ?_, stirs, ?_⟩
  · rw [same, bytes]
  · simp only [digest, wordBytes_eq, wordsBytes, List.flatMap_cons, List.flatMap_nil, List.append_nil,
      List.append_assoc]

theorem Digests.length {message digest : Bytes} (digests : Digests message digest) : digest.length = 20 := by
  obtain ⟨_, _, _, _, _, _, rfl⟩ := digests
  exact length_wordsBytes _

theorem Pads.unique {message padded other : Bytes} (pads : Pads message padded) (also : Pads message other) :
    padded = other := by
  obtain ⟨zeros, rfl, whole, least⟩ := pads
  obtain ⟨zeros', rfl, whole', least'⟩ := also
  simp only [List.length_append, List.length_cons, List.length_replicate, length_bigEndian] at whole whole'
  obtain rfl : zeros = zeros' := Nat.le_antisymm (least zeros' (by omega)) (least' zeros (by omega))
  rfl

theorem bigEndian_injective {count m n : Nat} (small : m < 256 ^ count ∧ n < 256 ^ count)
    (same : bigEndian count m = bigEndian count n) : m = n := by
  induction count generalizing m n with
  | zero => omega
  | succ count ih =>
    rw [Nat.pow_succ'] at small
    obtain ⟨high, low⟩ := List.append_inj same (by simp)
    have halves := ih (by omega) high
    have last := congrArg UInt8.toNat (List.singleton_inj.mp low)
    rw [UInt8.toNat_ofNat', UInt8.toNat_ofNat'] at last
    omega

theorem wordsBytes_injective {left right : List UInt32} (same : wordsBytes left = wordsBytes right) : left = right := by
  have length : left.length = right.length := by
    have bytes := congrArg List.length same
    rw [length_wordsBytes, length_wordsBytes] at bytes
    omega
  induction left generalizing right with
  | nil => exact (List.length_eq_zero_iff.mp length.symm).symm
  | cons first left ih =>
    cases right with
    | nil => cases length
    | cons other right =>
      obtain ⟨here, there⟩ := List.append_inj same (by simp)
      rw [UInt32.toNat_inj.mp (bigEndian_injective ⟨first.toNat_lt, other.toNat_lt⟩ here),
        ih there (Nat.succ.inj length)]

theorem Continues.unique {block : List UInt32} {word other : Nat → UInt32} (continues : Continues block word)
    (also : Continues block other) : ∀ t < 80, word t = other t := by
  intro t
  induction t using Nat.strongRecOn with
  | ind t ih =>
    intro within
    by_cases early : t < 16
    · exact Option.some.inj ((continues.first t early).symm.trans (also.first t early))
    · rw [continues.later t (by omega) within, also.later t (by omega) within, ih (t - 3) (by omega) (by omega),
        ih (t - 8) (by omega) (by omega), ih (t - 14) (by omega) (by omega), ih (t - 16) (by omega) (by omega)]

theorem Stirs.unique {s t u : State} {block : List UInt32} (stirs : Stirs s block t) (also : Stirs s block u) :
    t = u := by
  obtain ⟨word, state, continues, start, turns, rfl⟩ := stirs
  obtain ⟨word', state', continues', start', turns', rfl⟩ := also
  have same : ∀ t ≤ 80, state t = state' t := by
    intro t within
    induction t with
    | zero => rw [start, start']
    | succ t ih => rw [turns t within, turns' t within, ih (by omega), continues.unique continues' t within]
  rw [same 80 (Nat.le_refl 80)]

theorem StirsAll.unique {s t u : State} {blocks others : List (List UInt32)} (stirs : StirsAll s blocks t)
    (also : StirsAll s others u) (same : blocks.flatten = others.flatten) : t = u := by
  induction stirs generalizing others u with
  | nil s =>
    cases also with
    | nil => rfl
    | cons size =>
      have length := congrArg List.length same
      rw [List.flatten_cons, List.length_append, size, List.flatten_nil, List.length_nil] at length
      omega
  | cons size first _ ih =>
    cases also with
    | nil =>
      have length := congrArg List.length same
      rw [List.flatten_cons, List.length_append, size, List.flatten_nil, List.length_nil] at length
      omega
    | cons size' first' rest' =>
      obtain ⟨rfl, there⟩ := List.append_inj same (size.trans size'.symm)
      cases first.unique first'
      exact ih rest' there

theorem eq_digest_iff (message bytes : Bytes) : bytes = digest message ↔ Digests message bytes := by
  refine ⟨fun same => same ▸ digests_digest message, fun digests => ?_⟩
  obtain ⟨_, blocks, s, pads, whole, stirs, rfl⟩ := digests
  obtain ⟨_, others, t, pads', whole', stirs', same⟩ := digests_digest message
  have flat := wordsBytes_injective (whole.symm.trans ((pads.unique pads').trans whole'))
  rw [same, stirs.unique stirs' flat]

theorem length_digest (message : Bytes) : (digest message).length = 20 := (digests_digest message).length

end Gateway.WebSocket.Sha1
