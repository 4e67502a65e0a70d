namespace Gateway

class Named (α : Type) where
  all : List α
  name : α → String
  mem_all : ∀ a : α, a ∈ all
  name_injective : ∀ a b : α, name a = name b → a = b

namespace Named

variable {α : Type} [Named α]

def read? (s : String) : Option α := all.find? fun a => name a == s

theorem read?_name (a : α) : read? (name a) = some a := by
  unfold read?
  cases h : (all : List α).find? fun b => name b == name a with
  | none => simpa using List.find?_eq_none.mp h a (mem_all a)
  | some b => rw [name_injective b a (by simpa using List.find?_some h)]

theorem name_of_read? {s : String} {a : α} (h : read? s = some a) : name a = s := by
  simpa using List.find?_some h

end Named

end Gateway
