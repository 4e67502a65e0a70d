import Gateway.Http.Head
import Gateway.Proofs.Abi.Message
import Gateway.Proofs.Json.Printer
import Gateway.Proofs.Request.Headers

namespace Gateway

open Http (Field Headers Method RequestHead Uri)

theorem Text.zero_notMem_encodeChar {c : Char} (some : c.toNat ≠ 0) : (0 : UInt8) ∉ Utf8.encodeChar c := by
  have bound : c.toNat < 0x110000 := by
    have valid : c.toNat.isValidChar := c.valid
    unfold Nat.isValidChar at valid
    omega
  have zero (n : Nat) : 0 = UInt8.ofNat n ↔ n % 0x100 = 0 := eq_comm.trans (UInt8.ofNat_eq_iff_mod_eq_toNat n 0)
  unfold Utf8.encodeChar
  dsimp only
  split_ifs <;> simp only [List.mem_cons, List.not_mem_nil, or_false, zero] <;> omega

namespace ZeroFree

theorem bytes {s : String} (free : ZeroFree s) : (0 : UInt8) ∉ Text.bytes s := by
  intro within
  obtain ⟨c, listed, zero⟩ := List.mem_flatMap.mp within
  exact Text.zero_notMem_encodeChar (free c listed) zero

theorem of_all {kind : Char → Bool} (excluded : kind '\x00' = false) {s : List Char} (all : s.all kind = true) :
    ZeroFree (String.ofList s) := by
  intro c within zero
  rw [String.toList_ofList] at within
  have taken := List.all_eq_true.mp all c within
  rw [show c = '\x00' from Char.toNat_inj.mp zero, excluded] at taken
  cases taken

theorem method (m : Method) : ZeroFree m.name := by
  have token := m.isToken_name
  unfold Http.isToken at token
  rw [← String.ofList_toList (s := m.name)]
  exact of_all (by decide) (Bool.and_eq_true_iff.mp token).2

end ZeroFree

/-- A target whose path and query a host reads whole. -/
structure Http.Uri.Legible (uri : Uri) : Prop where
  path : ZeroFree uri.path
  query : ZeroFree (uri.query.getD "")

namespace Http.Uri

theorem legible_ofParts {path : List Char} {query? : Option (List Char)}
    (allowed : (path.all isPathChar && (query?.getD []).all isQueryChar) = true) :
    Legible ⟨if path.isEmpty then "/" else String.ofList path, query?.map String.ofList⟩ := by
  obtain ⟨pathChars, queryChars⟩ := Bool.and_eq_true_iff.mp allowed
  constructor
  · dsimp only
    split
    · decide
    · exact .of_all (by decide) pathChars
  · cases query? with
    | none => exact (by decide : ZeroFree "")
    | some query => exact .of_all (by decide) queryChars

theorem legible_ofPath? {s : List Char} {uri : Uri} (read : ofPath? s = some uri) : uri.Legible := by
  obtain ⟨allowed, same⟩ := Option.ite_none_right_eq_some.mp read
  rw [← Option.some.inj same]
  exact legible_ofParts allowed

theorem legible_read? {text : String} {uri : Uri} (read : read? text = some uri) : uri.Legible := by
  unfold read? at read
  dsimp only at read
  split at read
  · cases read
  · split at read
    · cases read
    · cases read
      exact ⟨by decide, by decide⟩
    · exact legible_ofPath? read
    · split at read
      · split at read
        · cases read
        · split at read
          · exact legible_ofPath? read
          · cases read
      · split at read
        · cases read
          exact ⟨by decide, by decide⟩
        · cases read

end Http.Uri

namespace Http.Headers

theorem zero_notMem_fieldValue? {bytes value : Bytes} (taken : fieldValue? bytes = some value) : 0 ∉ value := by
  unfold fieldValue? at taken
  split at taken
  · rename_i all
    cases taken
    intro within
    exact absurd (List.all_eq_true.mp all 0 within) (by decide)
  · cases taken

theorem zero_notMem_ofRaw? {raw : List (String × Bytes)} {headers : Headers} (taken : ofRaw? raw = some headers) :
    ∀ field ∈ headers, 0 ∉ field.value := by
  induction raw using List.reverseRecOn generalizing headers with
  | nil =>
    cases taken
    exact List.forall_mem_nil _
  | append_singleton raw field ih =>
    rw [ofRaw?_concat] at taken
    split at taken
    · rename_i earlier name value before _ valid
      cases taken
      obtain ⟨front, back, split, added, _⟩ := append_split earlier ⟨name, value⟩
      have kept := ih before
      rw [split, List.forall_mem_append] at kept
      rw [added, List.forall_mem_append, List.forall_mem_cons]
      exact ⟨kept.1, zero_notMem_fieldValue? valid, kept.2⟩
    · cases taken

end Http.Headers

namespace RequestRecord

def Legible (record : RequestRecord) : Prop := ∀ part value, record.field? part = some value → 0 ∉ value

theorem mem_insertField {fields : List Field} {field x : Field} (within : x ∈ insertField fields field) :
    x = field ∨ x ∈ fields := by
  induction fields with
  | nil => exact .inl (List.mem_singleton.mp within)
  | cons first rest ih =>
    unfold insertField at within
    split at within
    · exact (List.mem_cons.mp within).imp_right (List.mem_cons_of_mem _)
    · rcases List.mem_cons.mp within with rfl | later
      · exact .inr List.mem_cons_self
      · exact (ih later).imp_right (List.mem_cons_of_mem _)

theorem mem_foldl_insertField {fields : List Field} {x : Field} (within : x ∈ fields.foldl insertField []) :
    x ∈ fields := by
  induction fields using List.reverseRecOn with
  | nil => exact within
  | append_singleton fields field ih =>
    rw [List.foldl_append] at within
    rcases mem_insertField within with rfl | earlier
    · exact List.mem_append_right _ List.mem_cons_self
    · exact List.mem_append_left _ (ih earlier)

theorem headersJson_zeroFree (record : RequestRecord) : ZeroFree record.headersJson := by
  intro c within zero
  rw [headersJson, Json.Value.text, String.toList_ofList] at within
  have graphic := Json.Value.noControls _ c within
  omega

theorem legible_ofHead {method uri : String} {raw : List (String × Bytes)} {head : RequestHead}
    (read : RequestHead.read? method uri raw = some head) {route : String} (free : ZeroFree route) (id : RequestId)
    (response : Nat) : (ofHead id head.method head.uri head.headers route response).Legible := by
  obtain ⟨m, _, rest⟩ := Option.bind_eq_some_iff.mp read
  obtain ⟨u, target, rest⟩ := Option.bind_eq_some_iff.mp rest
  obtain ⟨headers, fields, made⟩ := Option.bind_eq_some_iff.mp rest
  cases made
  have legible := Uri.legible_read? target
  intro part value found
  cases part with
  | method =>
    cases found
    exact (ZeroFree.method m).bytes
  | url =>
    cases found
    exact legible.path.bytes
  | query =>
    cases found
    exact legible.query.bytes
  | endpoint =>
    cases found
    exact free.bytes
  | header name =>
    obtain ⟨field, chosen, rfl⟩ := Option.map_eq_some_iff.mp found
    exact Headers.zero_notMem_ofRaw? fields field (mem_foldl_insertField (List.mem_of_find?_eq_some chosen))
  | allHeaders =>
    cases found
    exact (headersJson_zeroFree _).bytes

end RequestRecord

end Gateway
