import Gateway.Abi.Argument
import Gateway.Proofs.Text.Utf8

namespace Gateway

def ZeroFree (s : String) : Prop := ∀ c ∈ s.toList, c.toNat ≠ 0

namespace ZeroFree

instance (s : String) : Decidable (ZeroFree s) :=
  decidable_of_iff (s.toList.all (·.toNat != 0) = true) (by simp only [List.all_eq_true, bne_iff_ne, ZeroFree, ne_eq])

theorem append {s t : String} (left : ZeroFree s) (right : ZeroFree t) : ZeroFree (s ++ t) := by
  intro c within
  rw [String.toList_append] at within
  cases List.mem_append.mp within with
  | inl within => exact left c within
  | inr within => exact right c within

theorem filter_toList {s : String} (free : ZeroFree s) : String.ofList (s.toList.filter (·.toNat != 0)) = s := by
  rw [List.filter_eq_self.mpr fun c within => bne_iff_ne.mpr (free c within), String.ofList_toList]

theorem ofNat (n : Nat) : ZeroFree (toString n) := by
  intro c within
  have digit : c.isDigit = true := by
    rw [show toString n = n.repr from rfl, Nat.toList_repr] at within
    exact Nat.isDigit_of_mem_toDigits (by omega) (by omega) within
  intro zero
  rw [show c = '\x00' from Char.toNat_inj.mp zero] at digit
  exact absurd digit (by decide)

theorem ofInt (n : Int) : ZeroFree (toString n) :=
  match n with
  | .ofNat n => ofNat n
  | .negSucc n => append (by decide : ZeroFree "-") (ofNat (n + 1))

theorem ofBytes? {bytes : Bytes} {s : String} (read : Text.ofBytes? (Abi.TextPointer.terminated bytes) = some s) :
    ZeroFree s := by
  intro c within zero
  have byte : (0 : UInt8) ∈ Abi.TextPointer.terminated bytes := by
    rw [(Text.ofBytes?_eq_some_iff _ _).mp read]
    refine List.mem_flatMap.mpr ⟨c, within, ?_⟩
    rw [show c = '\x00' from Char.toNat_inj.mp zero]
    decide
  exact absurd (List.all_eq_true.mp List.all_takeWhile 0 byte) (by decide)

end ZeroFree

namespace Uuid

theorem unbraced?_subset {s inside : List Char} (braced : unbraced? s = some inside) : inside ⊆ s := by
  unfold unbraced? at braced
  split at braced
  · split at braced
    · cases braced
      exact fun c within => List.mem_cons_of_mem _ (List.dropLast_subset _ within)
    · cases braced
  · cases braced

theorem afterUrn?_subset {s inside : List Char} (prefixed : afterUrn? s = some inside) : inside ⊆ s := by
  unfold afterUrn? at prefixed
  split at prefixed
  · cases prefixed
    exact List.drop_subset 9 s
  · cases prefixed

theorem form_subset (s : List Char) : (form s).text ⊆ s := by
  unfold form
  split
  · exact List.Subset.refl s
  · split
    · split
      · exact unbraced?_subset ‹_›
      · exact List.Subset.refl s
    · split
      · split
        · exact afterUrn?_subset ‹_›
        · exact List.Subset.refl s
      · exact List.Subset.refl s

theorem scan_error {s : List Char} {offset : Nat} {fault : Fault} (bad : scan offset s = .error fault) :
    ∃ c ∈ s, ∃ n, fault = .character c n := by
  induction s generalizing offset with
  | nil => cases bad
  | cons c rest ih =>
    have later {offset : Nat} (bad : scan offset rest = .error fault) : ∃ d ∈ c :: rest, ∃ n, fault = .character d n := by
      obtain ⟨d, within, shown⟩ := ih bad
      exact ⟨d, List.mem_cons_of_mem _ within, shown⟩
    rw [scan] at bad
    split at bad
    · split at bad
      · cases bad
      · cases bad
        exact later ‹_›
    · split at bad
      · exact later bad
      · cases bad
        exact ⟨c, List.mem_cons_self, offset, rfl⟩

theorem groupFault_ne (start last : Nat) (found : List Nat) (c : Char) (offset : Nat) :
    groupFault start last found ≠ .character c offset := by
  unfold groupFault
  dsimp only
  generalize List.findIdx? _ _ = misplaced
  cases misplaced <;> nofun

theorem fault_character {f : Form} {c : Char} {offset : Nat} (shown : f.fault = .character c offset) : c ∈ f.text := by
  have taken {start : Nat} {inside : List Char} (part : inside ⊆ f.text) {n : Nat}
      (bad : scan start inside = .error (.character c n)) : c ∈ f.text := by
    obtain ⟨d, within, n, same⟩ := scan_error bad
    cases same
    exact part within
  unfold Form.fault at shown
  dsimp only at shown
  split at shown
  · cases shown
  · split at shown
    · rename_i place
      rw [shown] at place
      refine taken ?_ place
      -- the groups stand in the text as it is, within its braces, or after its prefix
      split
      · exact List.Subset.refl _
      · split
        · exact unbraced?_subset ‹_›
        · split
          · exact afterUrn?_subset ‹_›
          · exact List.Subset.refl _
    · grind [groupFault_ne]

theorem message_zeroFree {fault : Fault} (free : ∀ c offset, fault = .character c offset → c.toNat ≠ 0) :
    ZeroFree fault.message := by
  cases fault with
  | length found => exact (by decide : ZeroFree "invalid length: found ").append (.ofNat found)
  | character c offset =>
    have shown : ZeroFree (String.singleton c) := by
      intro d within
      rw [String.toList_singleton, List.mem_singleton] at within
      rw [within]
      exact free c offset rfl
    exact (((by decide : ZeroFree "invalid character: found `").append shown).append
      (by decide : ZeroFree "` at ")).append (.ofNat offset)
  | groupCount found =>
    exact (by decide : ZeroFree "invalid group count: expected 5, found ").append (.ofNat found)
  | groupLength group expected found =>
    exact (((((by decide : ZeroFree "invalid group length in group ").append (.ofNat group)).append
      (by decide : ZeroFree ": expected ")).append (.ofNat expected)).append
        (by decide : ZeroFree ", found ")).append (.ofNat found)

theorem parse_zeroFree {s : String} {fault : Fault} (bad : parse s = .error fault) (free : ZeroFree s) :
    ZeroFree (InvalidId.describe s fault.message) := by
  have shown : ZeroFree fault.message := by
    unfold parse at bad
    dsimp only at bad
    split at bad
    · cases bad
    · cases bad
      exact message_zeroFree fun c _ shown => free c (form_subset _ (fault_character shown))
  exact (((by decide : ZeroFree "invalid identifier '").append free).append (by decide : ZeroFree "': ")).append shown

end Uuid

end Gateway
