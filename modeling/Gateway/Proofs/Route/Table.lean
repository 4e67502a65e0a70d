import Gateway.Route

namespace Gateway

open Http (Method)

namespace Verb

/-- The requests that a verb is for. Those for a WebSocket connection have a verb of their own; all others are for
    the verb that has the name of their method, and for `any`. -/
inductive Covers : Verb → Method → Bool → Prop where
  | upgrade (method : Method) : Covers .ws method true
  | whatever (method : Method) : Covers .any method false
  | named {verb : Verb} {method : Method} (listed : verb ∈ methods) (same : verb.name = method.name) :
      Covers verb method false

theorem ofMethod?_eq_some_iff (method : Method) (verb : Verb) :
    ofMethod? method = some verb ↔ verb ∈ methods ∧ verb.name = method.name := by
  unfold ofMethod?
  constructor
  · intro found
    exact ⟨List.mem_of_find?_eq_some found, by simpa using List.find?_some found⟩
  · rintro ⟨listed, same⟩
    cases found : methods.find? (·.name == method.name) with
    | none => simpa [same] using List.find?_eq_none.mp found verb listed
    | some other =>
      have also : other.name = method.name := by simpa using List.find?_some found
      exact congrArg some (Named.name_injective other verb (also.trans same.symm))

theorem accepts_iff (verb : Verb) (method : Method) (websocket : Bool) :
    verb.accepts method websocket = true ↔ Covers verb method websocket := by
  constructor
  · intro accepted
    cases verb with
    | ws => exact (show websocket = true from accepted) ▸ .upgrade method
    | any =>
      cases websocket with
      | false => exact .whatever method
      | true => cases accepted
    | _ =>
      simp only [accepts, Bool.and_eq_true, Bool.not_eq_true', beq_iff_eq] at accepted
      obtain ⟨rfl, own⟩ := accepted
      obtain ⟨listed, same⟩ := (ofMethod?_eq_some_iff method _).mp own
      exact .named listed same
  · intro covers
    cases covers with
    | upgrade | whatever => rfl
    | named listed same =>
      have own := (ofMethod?_eq_some_iff method verb).mpr ⟨listed, same⟩
      cases verb with
      | ws | any => exact absurd listed (by decide)
      | _ => simp [accepts, own]

theorem Covers.kind {verb : Verb} {method : Method} {websocket : Bool} (covers : Covers verb method websocket) :
    decide (verb = .ws) = websocket := by
  cases covers with
  | upgrade | whatever => rfl
  | named listed =>
    refine decide_eq_false fun same => ?_
    exact absurd (same ▸ listed) (by decide)

end Verb

namespace RouteTable

/-- The table after some registrations in order, each of a pattern for a verb. -/
def ofList (registrations : List (Verb × String)) : RouteTable :=
  registrations.foldl (fun table registration => table.add registration.1 registration.2) .empty

/-- A registration answers a request with what it captures: its verb is for the request, and its pattern matches the
    path. -/
structure Answers (registration : Verb × String) (method : Method) (path : String) (websocket : Bool)
    (params : List (String × String)) : Prop where
  covers : registration.1.Covers method websocket
  taken : (RoutePattern.read registration.2).match? path = some params

theorem routes_ofList (registrations : List (Verb × String)) :
    (ofList registrations).routes = registrations.map fun (verb, pattern) => (verb, RoutePattern.read pattern) := by
  have after (table : RouteTable) : (registrations.foldl (fun table registration =>
      table.add registration.1 registration.2) table).routes =
        table.routes ++ registrations.map fun (verb, pattern) => (verb, RoutePattern.read pattern) := by
    induction registrations generalizing table with
    | nil => exact (List.append_nil _).symm
    | cons registration rest ih =>
      rw [List.foldl_cons, ih, add, List.append_assoc]
      rfl
  exact after .empty

variable (method : Method) (path : String) (websocket : Bool)

def answer? (registration : Verb × String) : Option RouteMatch :=
  if registration.1.accepts method websocket then
    ((RoutePattern.read registration.2).match? path).map fun params => ⟨registration.1, registration.2, params⟩
  else none

theorem find?_ofList (registrations : List (Verb × String)) :
    (ofList registrations).find? method path websocket = registrations.findSome? (answer? method path websocket) := by
  rw [find?, routes_ofList, List.findSome?_map]
  congr 1
  funext registration
  simp only [Function.comp, answer?]
  cases (RoutePattern.read registration.2).match? path <;> rfl

variable {method path websocket} {registration : Verb × String} {found : RouteMatch}

theorem answer?_eq_some_iff : answer? method path websocket registration = some found ↔
    registration = (found.verb, found.pattern) ∧ Answers registration method path websocket found.params := by
  obtain ⟨verb, pattern, params⟩ := found
  rw [answer?, Option.ite_none_right_eq_some, Verb.accepts_iff, Option.map_eq_some_iff]
  constructor
  · rintro ⟨covers, _, taken, same⟩
    cases same
    exact ⟨rfl, covers, taken⟩
  · rintro ⟨rfl, covers, taken⟩
    exact ⟨covers, params, taken, rfl⟩

theorem answer?_eq_none_iff : answer? method path websocket registration = none ↔
    ∀ params, ¬ Answers registration method path websocket params := by
  rw [Option.eq_none_iff_forall_ne_some]
  constructor
  · intro silent params answers
    exact silent ⟨registration.1, registration.2, params⟩ (answer?_eq_some_iff.mpr ⟨rfl, answers⟩)
  · intro silent found answered
    exact silent found.params (answer?_eq_some_iff.mp answered).2

theorem answer?_of_other_kind (other : decide (registration.1 = .ws) ≠ websocket) :
    answer? method path websocket registration = none :=
  answer?_eq_none_iff.mpr fun _ answers => other answers.covers.kind

/-- For all registrations and every request: the answer is that of the first registration that answers, and there is
    none exactly if no registration answers. So an answer stays as it is whatever is registered afterwards, what is
    registered once more changes no answer, only registrations for WebSocket connections answer requests for one and
    they answer no others, and the registrations for the other kind of request might as well not be there. -/
theorem first_answer (registrations : List (Verb × String)) (method : Method) (path : String) (websocket : Bool) :
    let look := fun made => (ofList made).find? method path websocket
    (∀ found, look registrations = some found ↔ ∃ earlier later,
      registrations = earlier ++ (found.verb, found.pattern) :: later ∧
      Answers (found.verb, found.pattern) method path websocket found.params ∧
      ∀ registration ∈ earlier, ∀ params, ¬ Answers registration method path websocket params) ∧
    (look registrations = none ↔
      ∀ registration ∈ registrations, ∀ params, ¬ Answers registration method path websocket params) ∧
    (∀ found later, look registrations = some found → look (registrations ++ later) = some found) ∧
    (∀ registration ∈ registrations, ∀ later,
      look (registrations ++ registration :: later) = look (registrations ++ later)) ∧
    (∀ found, look registrations = some found → (found.verb = .ws ↔ websocket = true)) ∧
    look (registrations.filter fun registration => decide (registration.1 = .ws) == websocket) =
      look registrations := by
  intro look
  have looks (made : List (Verb × String)) : look made = made.findSome? (answer? method path websocket) :=
    find?_ofList method path websocket made
  refine ⟨fun found => ?_, ?_, fun found later answered => ?_, fun registration listed later => ?_,
    fun found answered => ?_, ?_⟩
  · rw [looks, List.findSome?_eq_some_iff]
    constructor
    · rintro ⟨earlier, registration, later, rfl, answered, silent⟩
      obtain ⟨rfl, answers⟩ := answer?_eq_some_iff.mp answered
      exact ⟨earlier, later, rfl, answers, fun other before => answer?_eq_none_iff.mp (silent other before)⟩
    · rintro ⟨earlier, later, split, answers, silent⟩
      exact ⟨earlier, _, later, split, answer?_eq_some_iff.mpr ⟨rfl, answers⟩,
        fun other before => answer?_eq_none_iff.mpr (silent other before)⟩
  · rw [looks, List.findSome?_eq_none_iff]
    exact forall₂_congr fun _ _ => answer?_eq_none_iff
  · rw [looks] at answered ⊢
    rw [List.findSome?_append, answered, Option.some_or]
  · -- what was registered before either answers already, or would not answer the second time either
    rw [looks, looks, List.findSome?_append, List.findSome?_append, List.findSome?_cons]
    cases before : registrations.findSome? (answer? method path websocket) with
    | some found => rw [Option.some_or, Option.some_or]
    | none => rw [List.findSome?_eq_none_iff.mp before registration listed]
  · rw [looks] at answered
    obtain ⟨registration, _, own⟩ := List.exists_of_findSome?_eq_some answered
    obtain ⟨rfl, answers⟩ := answer?_eq_some_iff.mp own
    rw [← answers.covers.kind, decide_eq_true_iff]
  · rw [looks, looks, ← List.head?_filterMap, ← List.head?_filterMap, List.filterMap_filter]
    congr 2
    funext registration
    split
    · rfl
    · rename_i other
      exact (answer?_of_other_kind (by simpa using other)).symm

/-- Registered later, the exact path is not asked, neither for a plain request nor for a WebSocket connection. -/
theorem first_answer_shadowed :
    let registrations := [(Verb.any, "/items/:id"), (.get, "/items/special"), (.ws, "/*"), (.ws, "/items/:id")]
    let get : Method := ⟨"GET", by decide⟩
    (ofList (registrations ++ [(.get, "/*")])).find? get "/items/special" false =
      some ⟨.any, "/items/:id", [("id", "special")]⟩ ∧
    (ofList (registrations ++ [(.any, "/items/:id"), (.get, "/*")])).find? get "/items" false = some ⟨.get, "/*", []⟩ ∧
    (ofList [(.ws, "/*"), (.ws, "/items/:id")]).find? get "/items/special" true = some ⟨.ws, "/*", []⟩ := by
  intro registrations get
  obtain ⟨first, _, stays, _, _, _⟩ := first_answer registrations get "/items/special" false
  obtain ⟨_, _, _, again, _, _⟩ := first_answer registrations get "/items" false
  obtain ⟨_, _, _, _, _, apart⟩ := first_answer registrations get "/items/special" true
  refine ⟨stays _ _ ((first _).mpr ⟨[], _, rfl, ⟨.whatever get, by decide⟩, nofun⟩), ?_, ?_⟩
  · exact (again (.any, "/items/:id") (by decide) [(.get, "/*")]).trans (by decide)
  · exact apart.trans (by decide)

end RouteTable

end Gateway
