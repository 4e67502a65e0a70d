import Gateway.Proofs.Http.Header
import Gateway.Proofs.Json.Printer
import Gateway.Proofs.Json.Reader
import Gateway.Proofs.Text.Lossy
import Gateway.Request.Record
import Mathlib.Data.List.Induction

namespace Gateway

open Http (Field Headers)

theorem Text.Ascii.lower_beq (s t : String) : (lower s == lower t) = sameText s t := by
  rw [Bool.eq_iff_iff, sameText, beq_iff_eq, beq_iff_eq, lower, lower, String.ofList_inj]

theorem eraseDups_concat (names : List String) (name : String) :
    (names ++ [name]).eraseDups = if name ∈ names then names.eraseDups else names.eraseDups ++ [name] := by
  have one : [name].eraseDups = [name] := by rw [List.eraseDups_cons]; rfl
  rw [List.eraseDups_append]
  split <;> simp_all [List.removeAll]

namespace Http.Headers

def WellFormed (field : String × Bytes) : Prop :=
  isToken field.1 = true ∧ field.1.length ≤ maxFieldName ∧ field.2.all isValueByte = true

instance (field : String × Bytes) : Decidable (WellFormed field) := inferInstanceAs (Decidable (_ ∧ _ ∧ _))

def kept (field : String × Bytes) : Field := ⟨Text.Ascii.lower field.1, field.2⟩

theorem ofRaw?_concat (raw : List (String × Bytes)) (field : String × Bytes) : ofRaw? (raw ++ [field]) =
    match ofRaw? raw, fieldName? field.1, fieldValue? field.2 with
    | some headers, some name, some value => some (append headers ⟨name, value⟩)
    | _, _, _ => none := List.foldl_concat ..

theorem ofRaw?_wellFormed {raw : List (String × Bytes)} (wellFormed : ∀ field ∈ raw, WellFormed field) :
    ofRaw? raw = some ((raw.map kept).foldl append []) := by
  induction raw using List.reverseRecOn with
  | nil => rfl
  | append_singleton raw field ih =>
    obtain ⟨earlier, last⟩ := List.forall_mem_append.mp wellFormed
    obtain ⟨token, short, bytes⟩ := last field List.mem_cons_self
    have name : fieldName? field.1 = some (Text.Ascii.lower field.1) := if_pos ⟨token, short⟩
    have value : fieldValue? field.2 = some field.2 := if_pos bytes
    rw [ofRaw?_concat, ih earlier, name, value, List.map_append, List.foldl_append]
    rfl

theorem append_split (headers : Headers) (field : Field) : ∃ before after, headers = before ++ after ∧
    headers.append field = before ++ field :: after ∧ (after = [] ∨ field.name ∈ before.map (·.name)) := by
  induction headers with
  | nil => exact ⟨[], [], rfl, rfl, .inl rfl⟩
  | cons first rest ih =>
    unfold append
    split
    · rename_i last
      exact ⟨[first], rest, rfl, rfl, .inr (by simp [last.1])⟩
    · obtain ⟨before, after, split, added, place⟩ := ih
      refine ⟨first :: before, after, by rw [split]; rfl, by rw [added]; rfl, ?_⟩
      exact place.imp_right (List.mem_cons_of_mem _)

theorem names_append (headers : Headers) (field : Field) :
    ((headers.append field).map (·.name)).eraseDups = (headers.map (·.name) ++ [field.name]).eraseDups := by
  obtain ⟨before, after, rfl, added, place⟩ := headers.append_split field
  rw [added]
  rcases place with rfl | known
  · simp
  · rw [eraseDups_concat, if_pos (by simp [List.mem_map.mp known]), List.map_append, List.map_append,
      List.eraseDups_append, List.eraseDups_append, List.map_cons]
    rw [List.removeAll, List.filter_cons_of_neg (by simpa using known)]
    rfl

theorem names_foldl (fields : List Field) :
    ((fields.foldl append []).map (·.name)).eraseDups = (fields.map (·.name)).eraseDups := by
  induction fields using List.reverseRecOn with
  | nil => rfl
  | append_singleton fields field ih =>
    have known (name : String) : name ∈ (fields.foldl append []).map (·.name) ↔ name ∈ fields.map (·.name) := by
      rw [← List.mem_eraseDups, ih, List.mem_eraseDups]
    rw [List.foldl_append, List.foldl_cons, List.foldl_nil, names_append, List.map_append, List.map_singleton,
      eraseDups_concat, eraseDups_concat, ih]
    simp only [known]

theorem values_foldl (fields : List Field) (name : String) :
    values (fields.foldl append []) name = values fields name := by
  induction fields using List.reverseRecOn with
  | nil => rfl
  | append_singleton fields field ih =>
    rw [List.foldl_append, List.foldl_cons, List.foldl_nil, values_append, ih]
    by_cases same : field.name = name <;> simp [values, same]

theorem getLast?_values (fields : List Field) (name : String) :
    (values fields name).getLast? = (fields.reverse.find? (·.name == name)).map (·.value) := by
  rw [values, List.getLast?_map, List.getLast?_filter]

end Http.Headers

namespace RequestRecord

open Http.Headers (WellFormed kept values values_foldl names_foldl getLast?_values ofRaw?_wellFormed)

theorem names_insertField (fields : List Field) (field : Field) : (insertField fields field).map (·.name) =
    if field.name ∈ fields.map (·.name) then fields.map (·.name) else fields.map (·.name) ++ [field.name] := by
  induction fields with
  | nil => rfl
  | cons first rest ih =>
    unfold insertField
    split
    · rename_i same
      simp [same]
    · rename_i other
      rw [List.map_cons, ih]
      have apart : field.name ≠ first.name := fun same => other same.symm
      by_cases known : field.name ∈ rest.map (·.name) <;> simp [known, apart]

theorem find?_insertField (fields : List Field) (field : Field) (name : String) :
    (insertField fields field).find? (·.name == name) =
      if field.name = name then some field else fields.find? (·.name == name) := by
  induction fields with
  | nil => by_cases same : field.name = name <;> simp [insertField, same]
  | cons first rest ih =>
    unfold insertField
    split
    · rename_i same
      by_cases named : field.name = name <;> simp [named, same]
    · rename_i other
      rw [List.find?_cons, ih, List.find?_cons]
      by_cases named : field.name = name
      · have apart : (first.name == name) = false := beq_eq_false_iff_ne.mpr fun same => other (same.trans named.symm)
        simp only [apart, if_pos named]
      · rw [if_neg named, if_neg named]

theorem names_foldl_insertField (fields : List Field) :
    (fields.foldl insertField []).map (·.name) = (fields.map (·.name)).eraseDups := by
  induction fields using List.reverseRecOn with
  | nil => rfl
  | append_singleton fields field ih =>
    rw [List.foldl_append, List.foldl_cons, List.foldl_nil, names_insertField, ih, List.map_append, List.map_singleton,
      eraseDups_concat]
    simp only [List.mem_eraseDups]

theorem find?_foldl_insertField (fields : List Field) (name : String) :
    (fields.foldl insertField []).find? (·.name == name) = fields.reverse.find? (·.name == name) := by
  induction fields using List.reverseRecOn with
  | nil => rfl
  | append_singleton fields field ih =>
    rw [List.foldl_append, List.foldl_cons, List.foldl_nil, find?_insertField, ih, List.reverse_append,
      List.reverse_singleton, List.singleton_append]
    by_cases same : field.name = name
    · rw [if_pos same, List.find?_cons_of_pos (by simpa using same)]
    · rw [if_neg same, List.find?_cons_of_neg (by simpa using same)]

theorem find?_of_nodup {fields : List Field} (distinct : (fields.map (·.name)).Nodup) {field : Field}
    (within : field ∈ fields) : fields.find? (·.name == field.name) = some field := by
  induction fields with
  | nil => cases within
  | cons first rest ih =>
    rw [List.map_cons, List.nodup_cons] at distinct
    rcases List.mem_cons.mp within with rfl | later
    · exact List.find?_cons_of_pos (beq_self_eq_true _)
    · have apart : first.name ≠ field.name := fun same => distinct.1 (same ▸ List.mem_map_of_mem later)
      rw [List.find?_cons_of_neg (by simpa using apart)]
      exact ih distinct.2 later

theorem nodup_insertField {fields : List Field} (distinct : (fields.map (·.name)).Nodup) (field : Field) :
    ((insertField fields field).map (·.name)).Nodup := by
  rw [names_insertField]
  split
  · exact distinct
  · rename_i unknown
    simp only [List.nodup_append, distinct, true_and, List.mem_singleton]
    refine ⟨by simp, ?_⟩
    rintro name known _ rfl rfl
    exact unknown known

theorem nodup_foldl_insertField (fields : List Field) : ((fields.foldl insertField []).map (·.name)).Nodup := by
  induction fields using List.reverseRecOn with
  | nil => exact List.nodup_nil
  | append_singleton fields field ih =>
    rw [List.foldl_append, List.foldl_cons, List.foldl_nil]
    exact nodup_insertField ih field

theorem value_of_name (raw : List (String × Bytes)) (name : String) :
    ((((raw.map kept).foldl Headers.append []).foldl insertField []).find? (·.name == name)).map (·.value) =
      (raw.reverse.find? fun field => Text.Ascii.lower field.1 == name).map (·.2) := by
  have last := getLast?_values ((raw.map kept).foldl Headers.append []) name
  rw [values_foldl, getLast?_values] at last
  rw [find?_foldl_insertField, ← last, ← List.map_reverse, List.find?_map, Option.map_map]
  rfl

/-- Every list of header fields that may arrive is taken. The record of the request has one field for each name, in the
    order in which the names first arrived, with the bytes of the last value that arrived for it; a name is found in any
    case, and no other is. Their JSON text is an object of the same names in the same order, and of the values as text:
    broken parts are replaced, and a value that is text stays as it is. -/
theorem headers_record (id : RequestId) (method : Http.Method) (uri : Http.Uri) (route : String) (response : Nat)
    (raw : List (String × Bytes)) (wellFormed : ∀ field ∈ raw, WellFormed field) :
    ∃ headers, Headers.ofRaw? raw = some headers ∧
      let record := ofHead id method uri headers route response
      record.headers.map (·.name) = (raw.map fun field => Text.Ascii.lower field.1).eraseDups ∧
      (record.headers.map (·.name)).Nodup ∧
      (∀ field ∈ record.headers,
        (raw.reverse.find? fun sent => Text.Ascii.lower sent.1 == field.name).map (·.2) = some field.value) ∧
      (∀ name, record.header? name = (raw.reverse.find? fun field => Text.Ascii.sameText field.1 name).map (·.2)) ∧
      (∀ v, Json.IsText record.headersJson.toList v ↔ v = .object (record.headers.map fun field =>
        (field.name, .string (String.ofList (Text.Utf8.lossy field.value))))) ∧
      ∀ field ∈ record.headers, Text.Utf8.Mends field.value (Text.Utf8.lossy field.value) ∧
        ∀ s, field.value = Text.bytes s → String.ofList (Text.Utf8.lossy field.value) = s := by
  refine ⟨_, ofRaw?_wellFormed wellFormed, ?_⟩
  intro record
  have headers : record.headers = ((raw.map kept).foldl Headers.append []).foldl insertField [] := rfl
  have distinct : (record.headers.map (·.name)).Nodup := nodup_foldl_insertField _
  refine ⟨?_, distinct, fun field within => ?_, fun name => ?_, fun v => ?_,
    fun field _ => ⟨Text.Utf8.mends_lossy _, ?_⟩⟩
  · rw [headers, names_foldl_insertField, names_foldl, List.map_map]
    rfl
  · rw [← value_of_name, ← headers, find?_of_nodup distinct within]
    rfl
  · rw [header?, headers, value_of_name]
    simp only [Text.Ascii.lower_beq]
  · rw [← Json.read?_eq_some_iff, headersJson, Json.read?_text, Option.some_inj, eq_comm]
  · rintro s same
    rw [same, Text.bytes, Text.Utf8.lossy_encode, String.ofList_toList]

def quoted : List (String × Bytes) :=
  [("X-Name", Text.bytes "first"), ("Accept", [0x61, 0xE9, 0x62]), ("x-nAME", Text.bytes "\"last\"\té")]

theorem headers_record_quoted : ∃ headers, Headers.ofRaw? quoted = some headers ∧
    let record := ofHead ⟨.fresh 0 1⟩ ⟨"GET", by decide⟩ ⟨"/", none⟩ headers "/" 0
    record.headers.map (·.name) = ["x-name", "accept"] ∧
    record.header? "X-NAME" = some (Text.bytes "\"last\"\té") ∧ record.header? "cookie" = none ∧
    Json.IsText record.headersJson.toList
      (.object [("x-name", .string "\"last\"\té"), ("accept", .string "a\uFFFDb")]) := by
  obtain ⟨headers, taken, names, _, _, found, json, _⟩ :=
    headers_record ⟨.fresh 0 1⟩ ⟨"GET", by decide⟩ ⟨"/", none⟩ "/" 0 quoted (by decide)
  refine ⟨headers, taken, names.trans (by decide), (found _).trans (by decide), (found _).trans (by decide),
    (json _).mpr ?_⟩
  have grouped : headers = [⟨"x-name", Text.bytes "first"⟩, ⟨"x-name", Text.bytes "\"last\"\té"⟩,
      ⟨"accept", [0x61, 0xE9, 0x62]⟩] := Option.some.inj (taken.symm.trans (by decide))
  rw [grouped]
  rfl

end RequestRecord

end Gateway
