import Gateway.Proofs.Request.TryEnd

namespace Gateway

namespace Response

variable {x : Response} {data : Bytes}

def body (x : Response) : List Bytes × Nat × Nat := (x.chunks, x.buffered, x.queued)

def Takes (x : Response) : Prop := x.isOpen = true ∧ x.receiving = true

theorem body_accept (x : Response) (filled : data ≠ []) :
    (x.accept data).body = (x.chunks ++ [data], x.buffered + data.length, x.queued + data.length) := by
  rw [accept, body, if_neg filled]

theorem write_refused (refuses : ¬ x.Takes) (filled : data ≠ []) :
    (x.write data).1 = false ∧ (x.write data).2.body = x.body := by
  obtain ⟨head, chunks, isOpen, receiving, buffered, queued, wanted⟩ := x
  have nonempty : data.isEmpty = false := by simpa using filled
  cases isOpen with
  | false => cases head <;> exact ⟨rfl, rfl⟩
  | true =>
    cases receiving with
    | false => cases head <;> simp [write, push, flushHead, body, nonempty]
    | true => exact absurd ⟨rfl, rfl⟩ refuses

end Response

namespace RequestRegistry

variable {r : RequestRegistry} {id : RequestId} {n : Nat} {response : Response} {data : Bytes}

/-- Between two states of the registry the data was added to the body of a request's response, behind all that was
    there, and nothing happened to the other responses. -/
def Appended (r after : RequestRegistry) (id : RequestId) (data : Bytes) : Prop :=
  ∃ n response, r.responseOf? id = some (n, response) ∧
    (after.response? n).map Response.body =
      some (response.chunks ++ [data], response.buffered + data.length, response.queued + data.length) ∧
    ∀ m, m ≠ n → after.response? m = r.response? m

def Kept (r after : RequestRegistry) : Prop :=
  ∀ m, (after.response? m).map Response.body = (r.response? m).map Response.body

/-- An answer that tells of data as sent if it was added, and only then. -/
structure Honest (r : RequestRegistry) (id : RequestId) (data : Bytes) (answer : ResponseStatus × RequestRegistry) :
    Prop where
  sent : answer.1.isSent = true → r.Appended answer.2 id data
  unsent : r.Kept answer.2 → answer.1 = .notSent ∨ answer.1 = .noSuchRequest

theorem Appended.not_kept {after : RequestRegistry} (appended : r.Appended after id data) (filled : data ≠ []) :
    ¬ r.Kept after := by
  intro kept
  obtain ⟨n, response, known, grown, _⟩ := appended
  obtain ⟨_, _, _, found⟩ := responseOf?_eq_some_iff.mp known
  have same := (kept n).symm.trans grown
  rw [found] at same
  have more : response.queued = response.queued + data.length := congrArg (·.2.2) (Option.some.inj same)
  have positive : 0 < data.length := List.length_pos_iff.mpr filled
  omega

theorem honest_of_appended {answer : ResponseStatus × RequestRegistry} (appended : r.Appended answer.2 id data)
    (filled : data ≠ []) : r.Honest id data answer :=
  ⟨fun _ => appended, fun kept => absurd kept (appended.not_kept filled)⟩

theorem honest_iff_of_kept {answer : ResponseStatus × RequestRegistry} (kept : r.Kept answer.2) (filled : data ≠ []) :
    r.Honest id data answer ↔ answer.1.isSent = false := by
  constructor
  · intro honest
    exact Bool.eq_false_iff.mpr fun sent => (honest.sent sent).not_kept filled kept
  · intro unsent
    refine ⟨fun sent => ?_, fun _ => ?_⟩
    · rw [unsent] at sent
      cases sent
    · cases status : answer.1 <;> simp_all [ResponseStatus.isSent]

theorem kept_refl (r : RequestRegistry) : r.Kept r := fun _ => rfl

theorem honest_unknown (r : RequestRegistry) (id : RequestId) (filled : data ≠ []) :
    r.Honest id data (.noSuchRequest, r) :=
  (honest_iff_of_kept r.kept_refl filled).mpr rfl

theorem appended_modify (known : r.responseOf? id = some (n, response)) {f : Response → Response}
    (grown : (f response).body = (response.chunks ++ [data], response.buffered + data.length, response.queued + data.length)) :
    r.Appended (r.modifyResponse n f) id data := by
  obtain ⟨_, _, _, found⟩ := responseOf?_eq_some_iff.mp known
  refine ⟨n, response, known, ?_, fun m other => response?_modifyResponse_other r other.symm f⟩
  rw [response?_modifyResponse, found, ← grown]
  rfl

theorem kept_modify (found : r.response? n = some response) {f : Response → Response}
    (same : (f response).body = response.body) : r.Kept (r.modifyResponse n f) := by
  intro m
  by_cases here : m = n
  · subst here
    rw [response?_modifyResponse, found]
    exact congrArg some same
  · rw [response?_modifyResponse_other r (Ne.symm here)]

theorem write_taken (known : r.responseOf? id = some (n, response)) (takes : response.Takes) (filled : data ≠ []) :
    r.Appended (r.write id data).2 id data := by
  have accepted := Response.write_eq_accept takes.1 takes.2 data
  rw [write, withResponse_known known]
  refine appended_modify known ?_
  dsimp only
  rw [accepted, response.body_accept filled]

theorem write_refused (known : r.responseOf? id = some (n, response)) (refuses : ¬ response.Takes) (filled : data ≠ []) :
    (r.write id data).1 = .noSuchRequest ∧ r.Kept (r.write id data).2 := by
  obtain ⟨_, _, _, found⟩ := responseOf?_eq_some_iff.mp known
  obtain ⟨refused, same⟩ := Response.write_refused refuses filled
  rw [write, withResponse_known known]
  dsimp only
  rw [refused]
  exact ⟨rfl, kept_modify found same⟩

theorem finish_taken (known : r.responseOf? id = some (n, response)) (takes : response.Takes) (filled : data ≠ []) :
    r.Appended (r.finish id data).2 id data := by
  have accepted := Response.write_eq_accept takes.1 takes.2 data
  have grown : r.Appended (r.modifyResponse n fun x => (x.finishWith data).2) id data := by
    refine appended_modify known ?_
    dsimp only [Response.finishWith]
    rw [accepted]
    exact response.body_accept filled
  rw [finish_known known]
  exact grown

theorem finish_refused (known : r.responseOf? id = some (n, response)) (refuses : ¬ response.Takes) (filled : data ≠ []) :
    (r.finish id data).1 = .sentAndEnded ∧ r.Kept (r.finish id data).2 := by
  obtain ⟨_, _, _, found⟩ := responseOf?_eq_some_iff.mp known
  obtain ⟨_, same⟩ := Response.write_refused refuses filled
  have kept : r.Kept (r.modifyResponse n fun x => (x.finishWith data).2) := kept_modify found same
  rw [finish_known known]
  exact ⟨rfl, kept⟩

theorem honest_write (r : RequestRegistry) (id : RequestId) (filled : data ≠ []) : r.Honest id data (r.write id data) := by
  cases known : r.responseOf? id with
  | none =>
    rw [write, withResponse_unknown known]
    exact r.honest_unknown id filled
  | some found =>
    by_cases takes : found.2.Takes
    · exact honest_of_appended (write_taken known takes filled) filled
    · obtain ⟨answer, kept⟩ := write_refused known takes filled
      rw [honest_iff_of_kept kept filled, answer]
      rfl

theorem honest_finish_iff (known : r.responseOf? id = some (n, response)) (filled : data ≠ []) :
    r.Honest id data (r.finish id data) ↔ response.Takes := by
  by_cases takes : response.Takes
  · exact iff_of_true (honest_of_appended (finish_taken known takes filled) filled) takes
  · obtain ⟨answer, kept⟩ := finish_refused known takes filled
    rw [honest_iff_of_kept kept filled, answer]
    exact iff_of_false nofun takes

theorem tryEnd_cases (known : r.responseOf? id = some (n, response)) (data : Bytes) (totalSize : Nat) :
    (0 < response.buffered ∧ r.maxBackpressure < response.buffered + data.length) ∧
      r.tryEnd id data totalSize = (.notSent, r.modifyResponse n fun x => { x with writableWanted := true }) ∨
    ¬(0 < response.buffered ∧ r.maxBackpressure < response.buffered + data.length) ∧
      r.tryEnd id data totalSize =
        if totalSize ≤ response.queued + data.length then r.finish id data else r.write id data := by
  by_cases full : 0 < response.buffered ∧ r.maxBackpressure < response.buffered + data.length
  · exact .inl ⟨full, tryEnd_full known full totalSize⟩
  · refine .inr ⟨full, ?_⟩
    simp only [tryEnd, known, if_neg full]

theorem honest_tryEnd_iff (known : r.responseOf? id = some (n, response)) (filled : data ≠ []) (totalSize : Nat) :
    r.Honest id data (r.tryEnd id data totalSize) ↔ response.Takes ∨ response.queued + data.length < totalSize ∨
      0 < response.buffered ∧ r.maxBackpressure < response.buffered + data.length := by
  obtain ⟨_, _, _, found⟩ := responseOf?_eq_some_iff.mp known
  rcases tryEnd_cases known data totalSize with ⟨full, answer⟩ | ⟨room, answer⟩
  · -- held back, which is not told as sent, and leaves a wish to be told when there is room
    have kept : r.Kept (r.modifyResponse n fun x => { x with writableWanted := true }) := kept_modify found rfl
    rw [answer, honest_iff_of_kept kept filled]
    exact iff_of_true rfl (.inr (.inr full))
  · rw [answer]
    split
    · rename_i complete
      rw [honest_finish_iff known filled]
      constructor
      · exact .inl
      · rintro (takes | short | full)
        · exact takes
        · omega
        · exact absurd full room
    · rename_i short
      exact iff_of_true (r.honest_write id filled) (.inr (.inl (Nat.lt_of_not_le short)))

theorem lost_of_not_honest (known : r.responseOf? id = some (n, response)) (filled : data ≠ []) (totalSize : Nat)
    (untrue : ¬ r.Honest id data (r.tryEnd id data totalSize)) :
    (r.tryEnd id data totalSize).1 = .sentAndEnded ∧ r.Kept (r.tryEnd id data totalSize).2 := by
  rw [honest_tryEnd_iff known filled totalSize] at untrue
  obtain ⟨refuses, untrue⟩ := not_or.mp untrue
  obtain ⟨complete, room⟩ := not_or.mp untrue
  rcases tryEnd_cases known data totalSize with ⟨full, _⟩ | ⟨_, answer⟩
  · exact absurd full room
  · rw [answer, if_pos (Nat.le_of_not_lt complete)]
    exact finish_refused known refuses filled

/-- In every state of the registry, for every request and every part that is not empty: a write tells of the part as
    sent exactly if it was added to the body. The last part of a body is answered so exactly if the request is unknown
    or its body is taken, and so is a part of a body of known size, unless it is held back or more is to come. In all
    other cases the part is told as sent, and nothing was added to any body. -/
theorem sent_tells_appended (r : RequestRegistry) (id : RequestId) (filled : data ≠ []) (totalSize : Nat) :
    r.Honest id data (r.write id data) ∧
    (r.Honest id data (r.finish id data) ↔
      ∀ n response, r.responseOf? id = some (n, response) → response.Takes) ∧
    (r.Honest id data (r.tryEnd id data totalSize) ↔
      ∀ n response, r.responseOf? id = some (n, response) →
        response.Takes ∨ response.queued + data.length < totalSize ∨
          0 < response.buffered ∧ r.maxBackpressure < response.buffered + data.length) ∧
    ∀ answer ∈ [r.finish id data, r.tryEnd id data totalSize],
      ¬ r.Honest id data answer → answer.1 = .sentAndEnded ∧ r.Kept answer.2 := by
  have written := r.honest_write id filled
  cases found : r.responseOf? id with
  | none =>
    have finished : r.finish id data = (.noSuchRequest, r) := by simp only [finish, found]
    have offered : r.tryEnd id data totalSize = (.noSuchRequest, r) := by simp only [tryEnd, found]
    have unknown := r.honest_unknown id filled
    rw [finished, offered]
    have nobody {P : Nat → Response → Prop} (n : Nat) (response : Response)
        (known : none = some (n, response)) : P n response := by cases known
    refine ⟨written, iff_of_true unknown nobody, iff_of_true unknown nobody, fun answer listed untrue => ?_⟩
    have same : answer = (.noSuchRequest, r) := by simpa using listed
    exact absurd (same ▸ unknown) untrue
  | some known =>
    obtain ⟨n, response⟩ := known
    have finished := honest_finish_iff found filled
    have offered := honest_tryEnd_iff found filled totalSize
    have only {P : Nat → Response → Prop} :
        (∀ m other, some (n, response) = some (m, other) → P m other) ↔ P n response := by
      constructor
      · exact fun each => each n response rfl
      · rintro holds _ _ ⟨rfl⟩
        exact holds
    rw [only, only]
    refine ⟨written, finished, offered, fun answer listed untrue => ?_⟩
    have either : answer = r.finish id data ∨ answer = r.tryEnd id data totalSize := by simpa using listed
    rcases either with rfl | rfl
    · exact finish_refused found (mt finished.mpr untrue) filled
    · exact lost_of_not_honest found filled totalSize untrue

/-- Three bytes wait and two more come, for which a connection that takes four has no room now. -/
theorem sent_tells_appended_crowded :
    let r := (empty 4).run [.takeIn posted, .write posted.id [1, 2, 3]]
    (r.write posted.id [4, 5]).1 = .sentNotEnded ∧ r.Appended (r.write posted.id [4, 5]).2 posted.id [4, 5] ∧
      r.Honest posted.id [4, 5] (r.finish posted.id [4, 5]) ∧
      (r.tryEnd posted.id [4, 5] 5).1 = .notSent ∧ r.Honest posted.id [4, 5] (r.tryEnd posted.id [4, 5] 5) := by
  intro r
  have filled : ([4, 5] : Bytes) ≠ [] := by decide
  obtain ⟨written, finished, offered, _⟩ := sent_tells_appended r posted.id filled 5
  have answer : (r.write posted.id [4, 5]).1 = .sentNotEnded := by decide
  have own : r.responseOf? posted.id = some (0, ⟨.ready .initial, [[1, 2, 3]], true, true, 3, 3, false⟩) := by decide
  refine ⟨answer, written.sent (by rw [answer]; rfl), finished.mpr ?_, by decide, offered.mpr ?_⟩
  · intro n response known
    cases own.symm.trans known
    exact ⟨rfl, rfl⟩
  · intro n response known
    cases own.symm.trans known
    exact .inr (.inr (by decide))

/-- The connection of a request takes no more of its body. What ends the body is told as sent, also if it is a part of
    a body of known size, and is added nowhere. -/
theorem end_told_as_sent :
    let r := (empty 1024).run [.takeIn posted, .hangUp 0]
    ∀ answer ∈ [r.finish posted.id [1], r.tryEnd posted.id [1] 1],
      answer.1 = .sentAndEnded ∧ r.Kept answer.2 ∧ ¬ r.Honest posted.id [1] answer := by
  intro r answer listed
  have own : r.responseOf? posted.id = some (0, Response.start.hangUp) := by decide
  have refuses : ¬ Response.start.hangUp.Takes := by
    rintro ⟨_, receiving⟩
    cases receiving
  have same : r.tryEnd posted.id [1] 1 = r.finish posted.id [1] := rfl
  rw [same] at listed
  have filled : ([1] : Bytes) ≠ [] := by decide
  obtain ⟨sent, kept⟩ := finish_refused own refuses filled
  have only : answer = r.finish posted.id [1] := by simpa using listed
  rw [only, honest_iff_of_kept kept filled, sent]
  exact ⟨rfl, kept, by decide⟩

end RequestRegistry

end Gateway
