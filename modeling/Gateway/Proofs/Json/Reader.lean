import Gateway.Proofs.Json.Grammar

namespace Gateway.Json

theorem skipBlanks_split (s : List Char) : ∃ gap, s = gap ++ skipBlanks s ∧ Blanks gap :=
  ⟨s.takeWhile isBlank, List.takeWhile_append_dropWhile.symm, fun _ within =>
    isBlank_iff.mp (List.mem_takeWhile_imp within)⟩

theorem mem_shortEscapes {e c : Char} (simple : simpleEscape? e = some c) : (e, c) ∈ shortEscapes := by
  unfold simpleEscape? at simple
  split_ifs at simple with marks b f n r t
  · cases simple
    rcases marks with rfl | rfl | rfl <;> decide
  all_goals
    cases simple
    subst_vars
    decide

inductive Escape : List Char → StringUnit → List Char → Prop where
  | short {e c : Char} {rest : List Char} : (e, c) ∈ shortEscapes → Escape (e :: rest) (.char c) rest
  | pair {a b c d e f g h : Char} {high low : Nat} {rest : List Char} : Text.Hex.number? [a, b, c, d] = some high →
    Text.Hex.number? [e, f, g, h] = some low → IsPair high low →
      Escape ('u' :: a :: b :: c :: d :: '\\' :: 'u' :: e :: f :: g :: h :: rest) (.char (joinSurrogates high low)) rest
  | code {a b c d : Char} {n : Nat} {rest : List Char} : Text.Hex.number? [a, b, c, d] = some n →
    (∀ e f g h more low, rest = '\\' :: 'u' :: e :: f :: g :: h :: more → Text.Hex.number? [e, f, g, h] = some low →
      ¬ IsPair n low) → Escape ('u' :: a :: b :: c :: d :: rest) (unit n) rest

theorem escape?_sound {s rest : List Char} {u : StringUnit} (read : escape? s = some (u, rest)) :
    Escape s u rest := by
  cases s with
  | nil => cases read
  | cons e s =>
    by_cases code : e = 'u'
    · subst code
      cases first : hexQuad? s with
      | none => simp [escape?, first] at read
      | some front =>
        obtain ⟨n, more⟩ := front
        obtain ⟨a, b, c, d, rfl, number⟩ := hexQuad?_eq_some first
        -- what is read is known from the grammar, once it is known whether the other half follows
        by_cases follows : ∃ e f g h rest low, more = '\\' :: 'u' :: e :: f :: g :: h :: rest ∧
            Text.Hex.number? [e, f, g, h] = some low ∧ IsPair n low
        · obtain ⟨e, f, g, h, after, low, rfl, second, pair⟩ := follows
          cases (escape?_pair number second pair after).symm.trans read
          exact .pair number second pair
        · have alone : ∀ e f g h rest low, more = '\\' :: 'u' :: e :: f :: g :: h :: rest →
              Text.Hex.number? [e, f, g, h] = some low → ¬ IsPair n low :=
            fun e f g h rest low same second pair => follows ⟨e, f, g, h, rest, low, same, second, pair⟩
          cases (escape?_code number alone).symm.trans read
          exact .code number alone
    · rw [escape?, if_neg code] at read
      obtain ⟨c, simple, same⟩ := Option.map_eq_some_iff.mp read
      cases same
      exact .short (mem_shortEscapes simple)

theorem units_alone {n : Nat} {inside rest : List Char} {parts : List StringPart} (spelt : Spells inside parts)
    (alone : ∀ e f g h more low, inside ++ '\x22' :: rest = '\\' :: 'u' :: e :: f :: g :: h :: more →
      Text.Hex.number? [e, f, g, h] = some low → ¬ IsPair n low) :
    units (.code n :: parts) = unit n :: units parts := by
  cases spelt with
  | nil | plain _ _ _ _ | short _ _ => rfl
  | code second _ => rw [units, if_neg (alone _ _ _ _ _ _ rfl second)]

theorem stringUnits_sound {fuel : Nat} {s rest : List Char} {us : List StringUnit}
    (read : stringUnits fuel s = some (us, rest)) :
    ∃ inside parts, s = inside ++ '\x22' :: rest ∧ Spells inside parts ∧ units parts = us := by
  induction fuel generalizing s us with
  | zero => cases read
  | succ fuel ih =>
    cases s with
    | nil => cases read
    | cons c s =>
      by_cases quote : c = '\x22'
      · rw [stringUnits, if_pos quote] at read
        cases read
        exact ⟨[], [], by rw [quote]; rfl, .nil, rfl⟩
      · by_cases control : c.toNat < 0x20
        · rw [stringUnits, if_neg quote, if_pos control] at read
          cases read
        · cases front : if c = '\\' then escape? s else some (.char c, s) with
          | none => simp [stringUnits, quote, control, front] at read
          | some front' =>
            obtain ⟨u, more⟩ := front'
            rw [stringUnits_cons (Nat.succ_pos fuel) quote (Nat.not_lt.mp control) front] at read
            obtain ⟨⟨us, _⟩, others, same⟩ := Option.map_eq_some_iff.mp read
            cases same
            obtain ⟨inside, parts, rfl, spelt, rfl⟩ := ih others
            by_cases escaped : c = '\\'
            · rw [if_pos escaped] at front
              subst escaped
              cases escape?_sound front with
              | short escape => exact ⟨_, _, rfl, .short escape spelt, rfl⟩
              | pair first second pair =>
                exact ⟨_, _, rfl, .code first (.code second spelt), by rw [units, if_pos pair]⟩
              | code number alone => exact ⟨_, _, rfl, .code number spelt, units_alone spelt alone⟩
            · rw [if_neg escaped] at front
              cases front
              exact ⟨_, _, rfl, .plain quote escaped (Nat.not_lt.mp control) spelt, rfl⟩

theorem string?_sound {s rest : List Char} {t : Option String} (read : string? s = some (t, rest)) :
    ∃ inside parts, s = inside ++ '\x22' :: rest ∧ Spells inside parts ∧ textOf? parts = t := by
  rw [string?] at read
  cases units : stringUnits (s.length + 1) s with
  | none => simp [units] at read
  | some front =>
    obtain ⟨us, after⟩ := front
    simp only [units] at read
    cases read
    obtain ⟨inside, parts, split, spelt, rfl⟩ := stringUnits_sound units
    exact ⟨inside, parts, split, spelt, rfl⟩

theorem takeWhile_digits (s : List Char) : ∀ c ∈ s.takeWhile Text.Decimal.isDigit, '0' ≤ c ∧ c ≤ '9' :=
  fun c within => (Text.Decimal.isDigit_iff c).mp (List.mem_takeWhile_imp within)

theorem digits_split (s : List Char) :
    s = s.takeWhile Text.Decimal.isDigit ++ s.dropWhile Text.Decimal.isDigit :=
  List.takeWhile_append_dropWhile.symm

theorem fraction?_sound {s rest : List Char} {there : Bool} (read : fraction? s = some (there, rest)) :
    ∃ fraction, s = fraction ++ rest ∧ IsFraction fraction ∧ there = !fraction.isEmpty := by
  unfold fraction? at read
  split at read
  · rename_i more
    split at read
    · cases read
    · rename_i some
      cases read
      exact ⟨_, congrArg ('.' :: ·) (digits_split more), .inr ⟨_, rfl, some, takeWhile_digits more⟩, rfl⟩
  · cases read
    exact ⟨[], rfl, .inl rfl, rfl⟩

theorem sign_split (s : List Char) : ∃ sign digits, s = sign ++ digits ∧
    (sign = ['+'] ∨ sign = ['-'] ∨ sign = [] ∧ ∀ c ∈ digits.head?, c ≠ '+' ∧ c ≠ '-') := by
  cases s with
  | nil => exact ⟨[], [], rfl, .inr (.inr ⟨rfl, nofun⟩)⟩
  | cons c s =>
    by_cases plus : c = '+'
    · exact ⟨[c], s, rfl, .inl (by rw [plus])⟩
    · by_cases minus : c = '-'
      · exact ⟨[c], s, rfl, .inr (.inl (by rw [minus]))⟩
      · refine ⟨[], c :: s, rfl, .inr (.inr ⟨rfl, ?_⟩)⟩
        rintro _ ⟨⟩
        exact ⟨plus, minus⟩

theorem exponent?_sound {s rest : List Char} {there : Bool} (read : exponent? s = some (there, rest)) :
    ∃ exponent, s = exponent ++ rest ∧ IsExponent exponent ∧ there = !exponent.isEmpty := by
  cases s with
  | nil =>
    cases read
    exact ⟨[], rfl, .inl rfl, rfl⟩
  | cons e s =>
    by_cases mark : e = 'e' ∨ e = 'E'
    · obtain ⟨sign, digits, rfl, signed⟩ := sign_split s
      rw [exponent?_sign digits mark signed] at read
      split_ifs at read with some
      cases read
      refine ⟨e :: (sign ++ digits.takeWhile Text.Decimal.isDigit), ?_, ?_, rfl⟩
      · rw [List.cons_append, List.append_assoc, ← digits_split]
      · exact .inr ⟨e, sign, _, rfl, mark, by tauto, some, takeWhile_digits digits⟩
    · rw [exponent?_other s mark] at read
      cases read
      exact ⟨[], rfl, .inl rfl, rfl⟩

theorem number?_sound {s rest : List Char} {v : Value} (read : number? s = some (v, rest)) :
    ∃ t, s = t ++ rest ∧ Derives t (.value v) := by
  obtain ⟨sign, s, rfl, signed⟩ : ∃ sign t, s = sign ++ t ∧ (sign = ['-'] ∨ sign = [] ∧ ∀ c ∈ t.head?, c ≠ '-') := by
    by_cases minus : s.head? = some '-'
    · obtain ⟨t, rfl⟩ := List.head?_eq_some_iff.mp minus
      exact ⟨['-'], t, rfl, .inl rfl⟩
    · exact ⟨[], s, rfl, .inr ⟨rfl, fun c first same => minus (same ▸ first)⟩⟩
  rw [number?_sign s signed] at read
  simp only at read
  split_ifs at read with malformed
  have integer := (isInteger_iff (takeWhile_digits s)).mpr malformed
  obtain ⟨⟨_, t⟩, first, read⟩ := Option.bind_eq_some_iff.mp read
  obtain ⟨⟨_, t⟩, second, read⟩ := Option.map_eq_some_iff.mp read
  obtain ⟨fraction, left, fractional, rfl⟩ := fraction?_sound first
  obtain ⟨exponent, rfl, exponential, rfl⟩ := exponent?_sound second
  cases read
  refine ⟨sign ++ (s.takeWhile Text.Decimal.isDigit ++ (fraction ++ exponent)), ?_, ?_⟩
  · rw [List.append_assoc, List.append_assoc, List.append_assoc, ← left, ← digits_split]
  · simp only [Bool.not_eq_false', List.isEmpty_iff]
    split_ifs with whole
    · obtain ⟨rfl, rfl, rfl⟩ := whole
      simpa using Derives.natural integer
    · exact .other (signed.symm.imp_left And.left) integer fractional exponential whole

theorem afterWord?_sound {word : String} {s rest : List Char} (read : afterWord? word s = some rest) :
    s = word.toList ++ rest := by
  unfold afterWord? at read
  split_ifs at read with front
  obtain ⟨t, rfl⟩ := List.isPrefixOf_iff_prefix.mp front
  rw [← String.length_toList, List.drop_left] at read
  rw [Option.some.inj read]

structure SoundWith (fuel : Nat) : Prop where
  value : ∀ s v rest, value? fuel s = some (v, rest) →
    ∃ gap t, s = gap ++ (t ++ rest) ∧ Blanks gap ∧ Derives t (.value v)
  items : ∀ s vs rest, items? fuel s = some (vs, rest) → ∃ t, s = t ++ ']' :: rest ∧ Derives t (.items vs)
  members : ∀ s ms rest, members? fuel s = some (ms, rest) → ∃ t, s = t ++ '\x7d' :: rest ∧ Derives t (.members ms)

variable {fuel : Nat} {s rest : List Char}

theorem items?_sound (sound : SoundWith fuel) {vs : List Value} (read : items? (fuel + 1) s = some (vs, rest)) :
    ∃ t, s = t ++ ']' :: rest ∧ Derives t (.items vs) := by
  rw [items?] at read
  cases front : value? fuel s with
  | none => simp [front] at read
  | some front' =>
    obtain ⟨v, more⟩ := front'
    simp only [front] at read
    obtain ⟨gap, t, rfl, blank, derived⟩ := sound.value _ _ _ front
    obtain ⟨gap', left, blank'⟩ := skipBlanks_split more
    split at read
    · rename_i mark
      cases read
      rw [mark] at left
      exact ⟨_, by rw [left]; simp, .item blank derived blank'⟩
    · rename_i mark
      obtain ⟨⟨vs, _⟩, others, same⟩ := Option.map_eq_some_iff.mp read
      cases same
      obtain ⟨t', rfl, derived'⟩ := sound.items _ _ _ others
      rw [mark] at left
      exact ⟨_, by rw [left]; simp, .items blank derived blank' derived'⟩
    · cases read

theorem members?_sound (sound : SoundWith fuel) {ms : List (Option String × Value)}
    (read : members? (fuel + 1) s = some (ms, rest)) : ∃ t, s = t ++ '\x7d' :: rest ∧ Derives t (.members ms) := by
  rw [members?] at read
  obtain ⟨before, split, blank⟩ := skipBlanks_split s
  split at read
  · rename_i quoted
    rw [quoted] at split
    split at read
    · rename_i name more string
      obtain ⟨inside, parts, rfl, spelt, rfl⟩ := string?_sound string
      obtain ⟨gap, left, blank'⟩ := skipBlanks_split more
      split at read
      · rename_i mark
        rw [mark] at left
        split at read
        · cases read
        · rename_i v more' front
          obtain ⟨gap', t, rfl, blank'', derived⟩ := sound.value _ _ _ front
          obtain ⟨after, left', blank'''⟩ := skipBlanks_split more'
          split at read
          · rename_i mark'
            cases read
            rw [mark'] at left'
            exact ⟨_, by rw [split, left, left']; simp, .member blank spelt blank' blank'' derived blank'''⟩
          · rename_i mark'
            obtain ⟨⟨ms, _⟩, others, same⟩ := Option.map_eq_some_iff.mp read
            cases same
            obtain ⟨t', rfl, derived'⟩ := sound.members _ _ _ others
            rw [mark'] at left'
            exact ⟨_, by rw [split, left, left']; simp, .members blank spelt blank' blank'' derived blank''' derived'⟩
          · cases read
      · cases read
    · cases read
  · cases read

theorem value?_sound (sound : SoundWith fuel) {v : Value} (read : value? (fuel + 1) s = some (v, rest)) :
    ∃ gap t, s = gap ++ (t ++ rest) ∧ Blanks gap ∧ Derives t (.value v) := by
  obtain ⟨gap, left, blank⟩ := skipBlanks_split s
  suffices derived : ∃ t, skipBlanks s = t ++ rest ∧ Derives t (.value v) by
    obtain ⟨t, front, derived⟩ := derived
    exact ⟨gap, t, front ▸ left, blank, derived⟩
  have word {c : Char} {name : String} {more : List Char} {w : Value} (first : skipBlanks s = c :: more)
      (read : (afterWord? name more).map (fun rest => (w, rest)) = some (v, rest))
      (derived : Derives (c :: name.toList) (.value w)) : ∃ t, skipBlanks s = t ++ rest ∧ Derives t (.value v) := by
    obtain ⟨_, there, same⟩ := Option.map_eq_some_iff.mp read
    cases same
    exact ⟨_, by rw [first, afterWord?_sound there]; rfl, derived⟩
  rw [value?] at read
  split at read
  · cases read
  · rename_i more quoted
    rw [quoted]
    cases string : string? more with
    | none => simp [string] at read
    | some front =>
      obtain ⟨t, after⟩ := front
      obtain ⟨inside, parts, rfl, spelt, rfl⟩ := string?_sound string
      have same : v = stringOf parts ∧ rest = after := by
        rw [string] at read
        rw [stringOf]
        generalize textOf? parts = t at read ⊢
        cases t <;> cases read <;> exact ⟨rfl, rfl⟩
      obtain ⟨rfl, rfl⟩ := same
      exact ⟨_, by simp, .string spelt⟩
  · rename_i more mark
    rw [mark]
    obtain ⟨gap', left', blank'⟩ := skipBlanks_split more
    split at read
    · rename_i mark'
      cases read
      rw [mark'] at left'
      exact ⟨_, by rw [left']; simp, .emptyList blank'⟩
    · obtain ⟨⟨vs, _⟩, items, same⟩ := Option.map_eq_some_iff.mp read
      cases same
      obtain ⟨t, rfl, derived⟩ := sound.items _ _ _ items
      exact ⟨_, by simp, .list derived⟩
  · rename_i more mark
    rw [mark]
    obtain ⟨gap', left', blank'⟩ := skipBlanks_split more
    split at read
    · rename_i mark'
      cases read
      rw [mark'] at left'
      exact ⟨_, by rw [left']; simp, .emptyObject blank'⟩
    · obtain ⟨⟨ms, _⟩, members, same⟩ := Option.map_eq_some_iff.mp read
      cases same
      obtain ⟨t, rfl, derived⟩ := sound.members _ _ _ members
      exact ⟨_, by simp, .object derived⟩
  · exact word ‹_› read .null
  · exact word ‹_› read .yes
  · exact word ‹_› read .no
  · exact number?_sound read

theorem sound_with (fuel : Nat) : SoundWith fuel := by
  -- values, items and members call each other, always with less fuel
  induction fuel with
  | zero => exact ⟨nofun, nofun, nofun⟩
  | succ fuel ih => exact ⟨fun _ _ _ => value?_sound ih, fun _ _ _ => items?_sound ih, fun _ _ _ => members?_sound ih⟩

theorem read?_eq_some_iff {text : String} {v : Value} : read? text = some v ↔ IsText text.toList v := by
  refine ⟨fun read => ?_, read?_of_isText⟩
  unfold read? at read
  cases front : value? (2 * text.toList.length + 2) text.toList with
  | none => simp [front] at read
  | some front' =>
    obtain ⟨w, rest⟩ := front'
    simp only [front] at read
    split_ifs at read with empty
    cases read
    obtain ⟨before, t, split, blank, derived⟩ := (sound_with _).value _ _ _ front
    obtain ⟨after, left, blank'⟩ := skipBlanks_split rest
    rw [List.isEmpty_iff.mp empty, List.append_nil] at left
    exact ⟨before, t, after, left ▸ split, blank, derived, blank'⟩

end Gateway.Json
