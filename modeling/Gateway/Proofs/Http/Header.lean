import Gateway.Http.Header

namespace Gateway.Http.Headers

def values (headers : Headers) (name : String) : List Bytes :=
  (headers.filter (·.name == name)).map (·.value)

theorem values_cons (first : Field) (rest : Headers) (name : String) :
    values (first :: rest) name = (if first.name = name then [first.value] else []) ++ values rest name := by
  by_cases same : first.name = name <;> simp [values, same]

theorem values_of_not_contains {headers : Headers} {name : String} (absent : ¬ headers.contains name = true) :
    headers.values name = [] := by
  rw [contains, List.any_eq_true] at absent
  rw [values, List.map_eq_nil_iff, List.filter_eq_nil_iff]
  exact fun field member same => absent ⟨field, member, same⟩

theorem values_append (headers : Headers) (field : Field) (name : String) :
    (headers.append field).values name =
      headers.values name ++ if field.name = name then [field.value] else [] := by
  induction headers with
  | nil => exact (values_cons field [] name).trans (List.append_nil _)
  | cons first rest ih =>
    unfold append
    split
    · rename_i last
      obtain ⟨same, absent⟩ := last
      rw [values_cons, values_cons, values_cons]
      by_cases named : field.name = name
      · subst named
        rw [values_of_not_contains absent, List.append_nil, List.append_nil]
      · simp [named]
    · rw [values_cons, ih, values_cons, List.append_assoc]

end Gateway.Http.Headers
