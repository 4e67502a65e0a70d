import Gateway.Request.Registry

namespace Gateway.RequestRegistry

open Http (StatusCode)

theorem has_iff (r : RequestRegistry) (id : RequestId) : r.has id = true ↔ ∃ x ∈ r.records, x.id = id := by
  simp [has, find?]

theorem has_congr {r s : RequestRegistry} (same : s.records = r.records) (id : RequestId) :
    s.has id = r.has id := by
  simp only [has, find?, same]

@[simp] theorem records_openResponse (r : RequestRegistry) : r.openResponse.2.records = r.records := rfl

@[simp] theorem records_modifyResponse (r : RequestRegistry) (n : Nat) (f : Response → Response) :
    (r.modifyResponse n f).records = r.records := rfl

@[simp] theorem records_withResponse {α : Type} (r : RequestRegistry) (id : RequestId) (unknown : α)
    (f : Response → α × Response) : (r.withResponse id unknown f).2.records = r.records := by
  unfold withResponse
  split <;> rfl

@[simp] theorem records_write (r : RequestRegistry) (id : RequestId) (data : Bytes) :
    (r.write id data).2.records = r.records := records_withResponse _ _ _ _

@[simp] theorem records_setStatus (r : RequestRegistry) (id : RequestId) (line : String) :
    (r.setStatus id line).2.records = r.records := records_withResponse _ _ _ _

@[simp] theorem records_setHeader (r : RequestRegistry) (id : RequestId) (name value : String) :
    (r.setHeader id name value).2.records = r.records := records_withResponse _ _ _ _

@[simp] theorem records_pollHead (r : RequestRegistry) (n : Nat) : (r.pollHead n).2.records = r.records := by
  unfold pollHead
  split <;> rfl

@[simp] theorem records_pollBody (r : RequestRegistry) (n : Nat) :
    (r.pollBody n).2.2.records = r.records := by
  unfold pollBody
  split <;> rfl

theorem begin_accepted (r : RequestRegistry) (x : RequestRecord) : (r.begin x).1 = !r.has x.id := by
  unfold begin
  split <;> simp_all

theorem has_begin (r : RequestRegistry) (x : RequestRecord) (id : RequestId) :
    (r.begin x).2.has id = (r.has id || x.id == id) := by
  unfold begin
  split
  · rename_i taken
    by_cases same : x.id = id
    · simp [← same, taken]
    · simp [same]
  · rw [Bool.eq_iff_iff]
    simp [has_iff, or_and_right, exists_or]

theorem has_remove (r : RequestRegistry) (id other : RequestId) :
    (r.remove id).has other = (r.has other && other != id) := by
  rw [Bool.eq_iff_iff, has_iff]
  simp only [remove, List.mem_filter, bne_iff_ne, Bool.and_eq_true, has_iff]
  constructor
  · rintro ⟨x, ⟨member, different⟩, rfl⟩
    exact ⟨⟨x, member, rfl⟩, different⟩
  · rintro ⟨⟨x, member, rfl⟩, different⟩
    exact ⟨x, ⟨member, different⟩, rfl⟩

theorem abort_known (r : RequestRegistry) (id : RequestId) : (r.abort id).1 = r.has id := by
  unfold abort has
  cases r.find? id <;> rfl

theorem has_abort (r : RequestRegistry) (id other : RequestId) :
    (r.abort id).2.has other = (r.has other && other != id) := by
  unfold abort
  cases found : r.find? id with
  | some x => exact (has_congr (records_modifyResponse _ _ _) other).trans (r.has_remove id other)
  | none =>
    by_cases same : other = id
    · subst same
      simp [has, found]
    · simp [same]

theorem has_finish (r : RequestRegistry) (id other : RequestId) (data : Bytes) :
    (r.finish id data).2.has other =
      (r.has other && (other != id || (r.responseOf? id).isNone)) := by
  unfold finish
  cases r.responseOf? id with
  | none => simp
  | some found =>
    simp only [Option.isNone_some, Bool.or_false]
    exact (has_congr (records_modifyResponse _ _ _) other).trans (r.has_remove id other)

theorem has_of_has_finish {r : RequestRegistry} {id other : RequestId} {data : Bytes}
    (left : (r.finish id data).2.has other = true) : r.has other = true := by
  rw [has_finish, Bool.and_eq_true] at left
  exact left.1

theorem has_of_has_tryEnd {r : RequestRegistry} {id other : RequestId} {data : Bytes} {totalSize : Nat}
    (left : (r.tryEnd id data totalSize).2.has other = true) : r.has other = true := by
  unfold tryEnd at left
  split at left
  · exact left
  · split at left
    · exact left
    · split at left
      · exact has_of_has_finish left
      · rwa [has_congr (records_write r id data)] at left

theorem not_has_of_finish {r : RequestRegistry} {id : RequestId} {data : Bytes}
    (ended : (r.finish id data).1 = .sentAndEnded) : (r.finish id data).2.has id = false := by
  rw [has_finish]
  unfold finish at ended
  cases known : r.responseOf? id with
  | none => simp [known] at ended
  | some found => simp

theorem not_has_of_tryEnd {r : RequestRegistry} {id : RequestId} {data : Bytes} {totalSize : Nat}
    (ended : (r.tryEnd id data totalSize).1 = .sentAndEnded) :
    (r.tryEnd id data totalSize).2.has id = false := by
  unfold tryEnd at ended ⊢
  split at ended
  · cases ended
  · split at ended
    · cases ended
    · rename_i room
      split at ended
      · rename_i complete
        simp only [room, complete, if_false, if_true]
        exact not_has_of_finish ended
      · unfold write withResponse at ended
        split at ended
        · cases ended
        · simp only at ended
          split at ended <;> cases ended

theorem records_abortAll (r : RequestRegistry) (status : StatusCode) : (r.abortAll status).2.records = [] := by
  have keeps : ∀ (xs : List RequestRecord) (s : RequestRegistry),
      (xs.foldl (fun s x => s.modifyResponse x.response (·.abortWith status)) s).records = s.records := by
    intro xs
    induction xs with
    | nil => exact fun _ => rfl
    | cons x rest ih => exact fun s => ih _
  exact keeps _ _

theorem has_abortAll (r : RequestRegistry) (status : StatusCode) (id : RequestId) :
    (r.abortAll status).2.has id = false := by
  simp [has, find?, records_abortAll]

end Gateway.RequestRegistry
