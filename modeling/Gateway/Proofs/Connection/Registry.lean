import Gateway.Connection.Registry

namespace Gateway.ConnectionRegistry

open WebSocket (Closure Outbound)

def Distinct (r : ConnectionRegistry) : Prop := (r.entries.map (·.1)).Nodup

theorem find?_congr {r s : ConnectionRegistry} (same : s.entries = r.entries) (id : ConnectionId) :
    s.find? id = r.find? id := by
  simp only [find?, same]

theorem Distinct.congr {r s : ConnectionRegistry} (same : s.entries = r.entries) (distinct : r.Distinct) :
    s.Distinct := by
  rw [Distinct, same]
  exact distinct

theorem liveLine?_eq (r : ConnectionRegistry) (id : ConnectionId) :
    r.liveLine? id = (r.find? id).bind ConnectionEntry.line? := by
  unfold liveLine?
  cases r.find? id <;> rfl

theorem liveLine?_congr {r s : ConnectionRegistry} (same : s.entries = r.entries) (id : ConnectionId) :
    s.liveLine? id = r.liveLine? id := by
  rw [liveLine?_eq, liveLine?_eq, find?_congr same]

theorem find?_isNone_iff (r : ConnectionRegistry) (id : ConnectionId) :
    r.find? id = none ↔ id ∉ r.entries.map (·.1) := by
  simp only [find?, Option.map_eq_none_iff, List.find?_eq_none, beq_iff_eq, List.mem_map, not_exists,
    not_and]

theorem find?_eq_some_iff {r : ConnectionRegistry} (distinct : r.Distinct) (id : ConnectionId)
    (entry : ConnectionEntry) : r.find? id = some entry ↔ (id, entry) ∈ r.entries := by
  obtain ⟨_, _, entries, _, _, _⟩ := r
  simp only [Distinct, find?, Option.map_eq_some_iff] at distinct ⊢
  induction entries with
  | nil => simp
  | cons e rest ih =>
    obtain ⟨id', entry'⟩ := e
    obtain ⟨absent, distinct⟩ := List.nodup_cons.mp distinct
    by_cases same : id' = id
    · subst same
      have fresh : (id', entry) ∉ rest := fun member => absent (List.mem_map.mpr ⟨_, member, rfl⟩)
      simp [fresh, eq_comm]
    · simp [same, Ne.symm same, ih distinct]

@[simp] theorem entries_modifyLine (r : ConnectionRegistry) (n : Nat) (f : Line → Line) :
    (r.modifyLine n f).entries = r.entries := rfl

@[simp] theorem entries_openLine (r : ConnectionRegistry) (id : ConnectionId) :
    (r.openLine id).2.entries = r.entries := rfl

@[simp] theorem entries_sendLine (r : ConnectionRegistry) (n : Nat) (frame : Outbound)
    (policy : BackpressurePolicy) : (r.sendLine n frame policy).2.entries = r.entries := by
  unfold sendLine
  split <;> rfl

@[simp] theorem entries_send (r : ConnectionRegistry) (id : ConnectionId) (frame : Outbound) :
    (r.send id frame).2.entries = r.entries := by
  unfold send
  split
  · exact entries_sendLine _ _ _ _
  · rfl

theorem entries_sendLines (frame : Outbound) (ns : List Nat) (r : ConnectionRegistry) :
    (sendLines frame ns r).2.entries = r.entries := by
  induction ns generalizing r with
  | nil => rfl
  | cons n rest ih => exact (ih _).trans (entries_sendLine _ _ _ _)

@[simp] theorem entries_broadcast (r : ConnectionRegistry) (frame : Outbound) :
    (r.broadcast frame).2.entries = r.entries := entries_sendLines _ _ _

@[simp] theorem entries_disconnect (r : ConnectionRegistry) (id : ConnectionId) (closure : Closure) :
    (r.disconnect id closure).2.entries = r.entries := by
  unfold disconnect
  split
  · split <;> rfl
  · rfl

theorem entries_closeLines (closure : Closure) (ns : List Nat) (r : ConnectionRegistry) :
    (closeLines closure ns r).entries = r.entries := by
  induction ns generalizing r with
  | nil => rfl
  | cons n rest ih => exact (ih _).trans (entries_modifyLine _ _ _)

theorem register_eq (r : ConnectionRegistry) (id : ConnectionId) (line : Nat) :
    r.register id line = if !r.accepting || r.contains id then (false, r) else
      (true, { r with
        entries := r.entries ++ [(id, .live line)]
        totalRegistered := r.totalRegistered + 1 }) := by
  unfold register registerThen
  cases !r.accepting || r.contains id <;> rfl

theorem registerThen_eq {α : Type} (r : ConnectionRegistry) (id : ConnectionId) (line : Nat)
    (onRegistered : α → α) (a : α) : r.registerThen id line onRegistered a =
      ((r.register id line).1, if (r.register id line).1 then onRegistered a else a,
        (r.register id line).2) := by
  unfold register registerThen
  cases !r.accepting || r.contains id <;> rfl

theorem register_accepted (r : ConnectionRegistry) (id : ConnectionId) (line : Nat) :
    (r.register id line).1 = true ↔ r.accepting = true ∧ r.find? id = none := by
  rw [register_eq, contains]
  cases r.accepting <;> cases r.find? id <;> simp

theorem register_refused (r : ConnectionRegistry) (id : ConnectionId) (line : Nat)
    (refused : (r.register id line).1 = false) : (r.register id line).2 = r := by
  rw [register_eq] at refused ⊢
  split <;> simp_all

theorem find?_register (r : ConnectionRegistry) (id : ConnectionId) (line : Nat)
    (accepted : (r.register id line).1 = true) (other : ConnectionId) :
    (r.register id line).2.find? other = if other = id then some (.live line) else r.find? other := by
  have free := (r.register_accepted id line).mp accepted
  have absent : r.entries.find? (·.1 == id) = none := by simpa [find?] using free.2
  have taken : (!r.accepting || r.contains id) = false := by simp [free, contains]
  simp only [register_eq, taken, Bool.false_eq_true, ite_false, find?, List.find?_append]
  by_cases same : other = id
  · subst same
    simp [absent]
  · simp [same, Ne.symm same]

theorem Distinct.register {r : ConnectionRegistry} (distinct : r.Distinct) (id : ConnectionId) (line : Nat) :
    (r.register id line).2.Distinct := by
  rw [register_eq]
  split
  · exact distinct
  · rename_i free
    simp only [Bool.or_eq_true, Bool.not_eq_true', not_or, contains, Bool.not_eq_true,
      Option.isSome_eq_false_iff, Option.isNone_iff_eq_none] at free
    have absent := (r.find?_isNone_iff id).mp free.2
    simp only [Distinct, List.map_append, List.map_cons, List.map_nil]
    refine List.nodup_append.mpr ⟨distinct, by simp, ?_⟩
    intro other member id' same
    rw [List.mem_singleton.mp same]
    exact fun equal => absent (equal ▸ member)

theorem find?_map (entries : List (ConnectionId × ConnectionEntry)) (id : ConnectionId)
    (f : ConnectionId → ConnectionEntry → ConnectionEntry) :
    ((entries.map fun e => (e.1, f e.1 e.2)).find? (·.1 == id)).map (·.2) =
      ((entries.find? (·.1 == id)).map (·.2)).map (f id) := by
  induction entries with
  | nil => rfl
  | cons e rest ih =>
    by_cases same : e.1 = id
    · subst same
      simp
    · have different : (e.1 == id) = false := by simpa using same
      simpa [different] using ih

theorem keys_map (entries : List (ConnectionId × ConnectionEntry))
    (f : ConnectionId → ConnectionEntry → ConnectionEntry) :
    (entries.map fun e => (e.1, f e.1 e.2)).map (·.1) = entries.map (·.1) := by
  simp [Function.comp_def]

theorem entries_fade (r : ConnectionRegistry) (id : ConnectionId) (live : (r.fade id).1 = true) :
    (r.fade id).2.entries =
      r.entries.map fun e => (e.1, if e.1 = id then .faded else e.2) := by
  unfold fade at live ⊢
  split
  · apply List.map_congr_left
    intro e _
    split <;> rfl
  · rename_i absent
    simp [absent] at live

theorem fade_live (r : ConnectionRegistry) (id : ConnectionId) :
    (r.fade id).1 = (r.liveLine? id).isSome := by
  unfold fade
  split <;> simp_all

theorem fade_failed (r : ConnectionRegistry) (id : ConnectionId) (failed : (r.fade id).1 = false) :
    (r.fade id).2 = r := by
  unfold fade at failed ⊢
  split <;> simp_all

theorem find?_fade (r : ConnectionRegistry) (id other : ConnectionId) :
    (r.fade id).2.find? other =
      if other = id then (r.find? id).map fun _ => .faded else r.find? other := by
  cases live : (r.fade id).1 with
  | true =>
    rw [find?, entries_fade r id live, find?_map r.entries other fun key e => if key = id then .faded else e]
    by_cases same : other = id
    · subst same
      simp [find?]
    · simp only [same, if_false, find?]
      exact Option.map_id'
  | false =>
    rw [fade_failed r id live]
    rw [fade_live, liveLine?_eq] at live
    split
    · rename_i same
      subst same
      cases found : r.find? other with
      | none => rfl
      | some entry => cases entry <;> simp_all [ConnectionEntry.line?]
    · rfl

theorem Distinct.fade {r : ConnectionRegistry} (distinct : r.Distinct) (id : ConnectionId) :
    (r.fade id).2.Distinct := by
  cases live : (r.fade id).1 with
  | true =>
    rw [Distinct, entries_fade r id live, keys_map r.entries fun key e => if key = id then .faded else e]
    exact distinct
  | false => rwa [fade_failed r id live]

theorem Distinct.purge {r : ConnectionRegistry} (distinct : r.Distinct) : r.purge.2.Distinct :=
  List.Nodup.sublist (List.Sublist.map _ List.filter_sublist) distinct

theorem find?_purge {r : ConnectionRegistry} (distinct : r.Distinct) (id : ConnectionId) :
    r.purge.2.find? id = (r.find? id).filter (!·.isFaded) := by
  ext entry
  rw [find?_eq_some_iff distinct.purge, Option.filter_eq_some_iff, find?_eq_some_iff distinct]
  simp [purge]

theorem entries_shutDown (r : ConnectionRegistry) (closure : Closure) :
    (r.shutDown closure).2.entries = r.entries.map fun e => (e.1, .faded) := by
  simp only [shutDown, entries_closeLines]

theorem find?_shutDown (r : ConnectionRegistry) (closure : Closure) (id : ConnectionId) :
    (r.shutDown closure).2.find? id = (r.find? id).map fun _ => .faded := by
  rw [find?, entries_shutDown]
  exact find?_map r.entries id fun _ _ => .faded

theorem Distinct.shutDown {r : ConnectionRegistry} (distinct : r.Distinct) (closure : Closure) :
    (r.shutDown closure).2.Distinct := by
  rw [Distinct, entries_shutDown, keys_map r.entries fun _ _ => .faded]
  exact distinct

theorem mem_live (r : ConnectionRegistry) (id : ConnectionId) (line : Nat) :
    (id, line) ∈ r.live ↔ (id, ConnectionEntry.live line) ∈ r.entries := by
  simp only [live, List.mem_filterMap, Option.map_eq_some_iff, Prod.mk.injEq, Prod.exists]
  constructor
  · rintro ⟨_, entry, member, _, found, rfl, rfl⟩
    cases entry <;> simp_all [ConnectionEntry.line?]
  · intro member
    exact ⟨id, .live line, member, line, rfl, rfl, rfl⟩

theorem mem_shutDown {r : ConnectionRegistry} (distinct : r.Distinct) (closure : Closure) (id : ConnectionId) :
    id ∈ (r.shutDown closure).1 ↔ (r.liveLine? id).isSome = true := by
  have gives : (r.shutDown closure).1 = r.live.map (·.1) := rfl
  rw [gives, liveLine?_eq]
  constructor
  · intro member
    obtain ⟨⟨id, line⟩, listed, rfl⟩ := List.mem_map.mp member
    have found := (find?_eq_some_iff distinct _ _).mpr ((r.mem_live _ line).mp listed)
    simp [found, ConnectionEntry.line?]
  · intro live
    cases found : r.find? id with
    | none => simp [found] at live
    | some entry =>
      cases entry with
      | faded => simp [found, ConnectionEntry.line?] at live
      | live line =>
        exact List.mem_map.mpr ⟨(id, line), (r.mem_live _ _).mpr ((find?_eq_some_iff distinct _ _).mp found), rfl⟩

theorem Distinct.nodup_shutDown {r : ConnectionRegistry} (distinct : r.Distinct) (closure : Closure) :
    (r.shutDown closure).1.Nodup := by
  have gives : (r.shutDown closure).1 = r.live.map (·.1) := rfl
  rw [gives]
  refine List.Nodup.sublist ?_ distinct
  unfold live
  induction r.entries with
  | nil => exact List.Sublist.slnil
  | cons e rest ih =>
    obtain ⟨id, entry⟩ := e
    cases entry with
    | live line => exact ih.cons_cons id
    | faded => exact ih.cons id

end Gateway.ConnectionRegistry
