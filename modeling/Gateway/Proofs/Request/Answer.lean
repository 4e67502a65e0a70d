import Gateway.Proofs.Request.Ledger
import Gateway.Proofs.Request.Registry

namespace Gateway

open Http (StatusCode)

namespace RequestRegistry

theorem response?_modifyResponse (r : RequestRegistry) (n : Nat) (f : Response → Response) :
    (r.modifyResponse n f).response? n = (r.response? n).map f := by
  simp [modifyResponse, response?]

theorem response?_modifyResponse_other (r : RequestRegistry) {n m : Nat} (other : m ≠ n)
    (f : Response → Response) : (r.modifyResponse m f).response? n = r.response? n := by
  simp [modifyResponse, response?, other]

theorem modifyResponse_same {r : RequestRegistry} {n : Nat} {response : Response}
    (found : r.response? n = some response) : (r.modifyResponse n fun _ => response) = r := by
  obtain ⟨_, _, responses⟩ := r
  simp only [response?] at found
  simp only [modifyResponse, mk.injEq, true_and]
  apply List.ext_getElem?
  intro m
  rw [List.getElem?_modify]
  split
  · rename_i same
    subst same
    rw [found]
    rfl
  · exact Option.map_id'

theorem find?_remove (r : RequestRegistry) (id : RequestId) : (r.remove id).find? id = none := by
  rw [remove, find?, List.find?_eq_none]
  intro record member same
  have kept := (List.mem_filter.mp member).2
  simp_all

theorem response?_foldl_abort (records : List RequestRecord) (r : RequestRegistry) (status : StatusCode)
    (n : Nat) : (records.foldl (fun r record => r.modifyResponse record.response (·.abortWith status)) r).response? n =
      (r.response? n).map fun response =>
        if records.any (·.response == n) = true then response.abortWith status else response := by
  induction records generalizing r with
  | nil => exact Option.map_id'.symm
  | cons record rest ih =>
    rw [List.foldl_cons, ih]
    by_cases same : record.response = n
    · subst same
      rw [response?_modifyResponse, Option.map_map]
      congr 1
      funext response
      simp only [Function.comp_apply, List.any_cons, beq_self_eq_true, Bool.true_or, if_true]
      split
      · exact response.abortWith_abortWith status
      · rfl
    · rw [response?_modifyResponse_other _ same]
      simp [same]

theorem response?_abortAll (r : RequestRegistry) (status : StatusCode) (n : Nat) :
    (r.abortAll status).2.response? n = (r.response? n).map fun response =>
      if r.records.any (·.response == n) = true then response.abortWith status else response :=
  response?_foldl_abort r.records { r with records := [] } status n

end RequestRegistry

namespace Ledger

/-- The account of the response of a request. The body is open as long as the request is known and was
    not given up. -/
structure Accounts (l : Ledger) (r : RequestRegistry) (id : RequestId) (n : Nat) : Prop where
  known : ∀ record, r.find? id = some record → record.response = n
  response : ∃ response, r.response? n = some response ∧ l.Matches response ∧
    response.isOpen = (r.has id && !l.isAborted)

variable {l : Ledger} {r : RequestRegistry} {id : RequestId} {n : Nat} {response : Response}

theorem Accounts.responseOf? (accounts : l.Accounts r id n) (found : r.response? n = some response)
    (has : r.has id = true) : r.responseOf? id = some (n, response) := by
  obtain ⟨record, known⟩ := Option.isSome_iff_exists.mp has
  have numbered := accounts.known record known
  subst numbered
  simp only [RequestRegistry.responseOf?, known, found, Option.map_some]

theorem responseOf?_none (r : RequestRegistry) (id : RequestId) (left : r.has id = false) :
    r.responseOf? id = none := by
  have absent : r.find? id = none := by simpa [RequestRegistry.has] using left
  simp only [RequestRegistry.responseOf?, absent]

theorem Accounts.modify {m : Ledger} (accounts : l.Accounts r id n) (found : r.response? n = some response)
    (f : Response → Response) (matched : m.Matches (f response))
    (isOpen : (f response).isOpen = (r.has id && !m.isAborted)) : m.Accounts (r.modifyResponse n f) id n := by
  refine ⟨accounts.known, f response, ?_, matched, isOpen⟩
  rw [RequestRegistry.response?_modifyResponse, found]
  rfl

theorem Accounts.remove {m : Ledger} (found : r.response? n = some response) (f : Response → Response)
    (matched : m.Matches (f response)) (closed : (f response).isOpen = false) :
    m.Accounts ((r.remove id).modifyResponse n f) id n := by
  refine ⟨fun record known => ?_, f response, ?_, matched, ?_⟩
  · rw [show ((r.remove id).modifyResponse n f).find? id = none from r.find?_remove id] at known
    cases known
  · rw [RequestRegistry.response?_modifyResponse]
    exact congrArg (Option.map f) found
  · have left : ((r.remove id).modifyResponse n f).has id = false :=
      congrArg Option.isSome (r.find?_remove id)
    rw [closed, left, Bool.false_and]

/-! Each call of the host, with what it answers. -/

theorem Accounts.withResponse_eq {α : Type} (accounts : l.Accounts r id n)
    (found : r.response? n = some response) (has : r.has id = true) (unknown : α)
    (f : Response → α × Response) :
    r.withResponse id unknown f = ((f response).1, r.modifyResponse n fun _ => (f response).2) := by
  rw [RequestRegistry.withResponse, accounts.responseOf? found has]

theorem Accounts.withResponse {m : Ledger} {α : Type} (accounts : l.Accounts r id n)
    (found : r.response? n = some response) (has : r.has id = true) (unknown : α) (f : Response → α × Response)
    (matched : m.Matches (f response).2) (isOpen : (f response).2.isOpen = (r.has id && !m.isAborted)) :
    (r.withResponse id unknown f).1 = (f response).1 ∧ m.Accounts (r.withResponse id unknown f).2 id n := by
  rw [accounts.withResponse_eq found has]
  exact ⟨rfl, accounts.modify found (fun _ => (f response).2) matched isOpen⟩

theorem withResponse_left {α : Type} (left : r.has id = false) (unknown : α) (f : Response → α × Response) :
    r.withResponse id unknown f = (unknown, r) := by
  rw [RequestRegistry.withResponse, responseOf?_none r id left]

theorem isAborted_send (l : Ledger) (data : Bytes) : (l.send data).isAborted = l.isAborted := by
  unfold send
  split <;> rfl

theorem isAborted_setStatus (l : Ledger) (line : String) (status : RequestStatus) :
    (l.note (.setStatus line) (.status status)).isAborted = l.isAborted := by
  cases status with
  | ok =>
    dsimp only [note]
    cases StatusCode.ofLine? line <;> rfl
  | _ => rfl

theorem Accounts.setStatus (accounts : l.Accounts r id n) (line : String) :
    (l.note (.setStatus line) (.status (r.setStatus id line).1)).Accounts (r.setStatus id line).2 id n := by
  obtain ⟨response, found, matched, isOpen⟩ := accounts.response
  unfold RequestRegistry.setStatus
  cases has : r.has id with
  | false =>
    rw [withResponse_left has]
    exact accounts
  | true =>
    have set := accounts.withResponse found has .noSuchRequest (·.setStatus line) (matched.setStatus line)
      (by rw [Response.isOpen_setStatus, isAborted_setStatus, isOpen])
    rw [set.1]
    exact set.2

theorem Accounts.setHeader (accounts : l.Accounts r id n) (name value : String) :
    (l.note (.setHeader name value) (.status (r.setHeader id name value).1)).Accounts
      (r.setHeader id name value).2 id n := by
  obtain ⟨response, found, matched, isOpen⟩ := accounts.response
  unfold RequestRegistry.setHeader
  cases has : r.has id with
  | false =>
    rw [withResponse_left has]
    exact accounts
  | true =>
    have aborted : (l.note (.setHeader name value) (.status (response.setHeader name value).1)).isAborted =
        l.isAborted := by
      cases (response.setHeader name value).1 <;> rfl
    have set := accounts.withResponse found has .noSuchRequest (·.setHeader name value)
      (matched.setHeader name value) (by rw [Response.isOpen_setHeader, aborted, isOpen])
    rw [set.1]
    exact set.2

theorem Accounts.write (accounts : l.Accounts r id n) (data : Bytes) :
    (r.write id data).1 = .sentNotEnded ∧ (l.send data).Accounts (r.write id data).2 id n ∨
    (r.write id data).1 = .noSuchRequest ∧ l.Accounts (r.write id data).2 id n := by
  obtain ⟨response, found, matched, isOpen⟩ := accounts.response
  unfold RequestRegistry.write
  cases has : r.has id with
  | false =>
    rw [withResponse_left has]
    exact .inr ⟨rfl, accounts⟩
  | true =>
    cases opened : response.isOpen with
    | true =>
      obtain ⟨accepted, still, written⟩ := matched.write opened data
      have sent := accounts.withResponse found has ResponseStatus.noSuchRequest (fun response =>
        (if (response.write data).1 then .sentNotEnded else .noSuchRequest, (response.write data).2))
        written (by rw [isAborted_send, ← isOpen, opened]; exact still)
      dsimp only at sent
      rw [accepted, if_pos rfl] at sent
      exact .inl sent
    | false =>
      have refused := matched.write_closed opened data
      have kept := accounts.withResponse found has ResponseStatus.noSuchRequest (fun response =>
        (if (response.write data).1 then .sentNotEnded else .noSuchRequest, (response.write data).2))
        (m := l) (by rw [refused]; exact matched) (by rw [refused]; exact isOpen)
      dsimp only at kept
      rw [refused, if_neg Bool.false_ne_true] at kept
      exact .inr kept

theorem Accounts.finish (accounts : l.Accounts r id n) (data : Bytes) :
    (r.finish id data).1 = .sentAndEnded ∧ (l.send data).Accounts (r.finish id data).2 id n ∨
    (r.finish id data).1 = .noSuchRequest ∧ l.Accounts (r.finish id data).2 id n := by
  obtain ⟨response, found, matched, isOpen⟩ := accounts.response
  unfold RequestRegistry.finish
  cases has : r.has id with
  | false =>
    rw [responseOf?_none r id has]
    exact .inr ⟨rfl, accounts⟩
  | true =>
    rw [accounts.responseOf? found has]
    refine .inl ⟨rfl, Accounts.remove found _ ?_ rfl⟩
    cases opened : response.isOpen with
    | true => exact matched.finishWith opened data
    | false =>
      have aborted : l.isAborted = true := by simpa [has, opened] using isOpen
      rw [matched.finishWith_closed opened data, send, if_pos aborted]
      exact matched

/-- A part of a body of known size is held back, or it is taken like any other, or like the last one. -/
theorem Accounts.tryEnd (accounts : l.Accounts r id n) (data : Bytes) (totalSize : Nat) :
    (l.note (.tryEnd data totalSize) (.sent (r.tryEnd id data totalSize).1)).Accounts
      (r.tryEnd id data totalSize).2 id n := by
  obtain ⟨response, found, matched, isOpen⟩ := accounts.response
  cases has : r.has id with
  | false =>
    rw [RequestRegistry.tryEnd, responseOf?_none r id has]
    exact accounts
  | true =>
    rw [RequestRegistry.tryEnd, accounts.responseOf? found has]
    by_cases full : 0 < response.buffered ∧ r.maxBackpressure < response.buffered + data.length
    · simp only [if_pos full]
      exact accounts.modify found (fun response => response.wantWritable.2) matched.wantWritable
        (response.isOpen_wantWritable.trans isOpen)
    · by_cases complete : totalSize ≤ response.queued + data.length
      · simp only [if_neg full, if_pos complete]
        rcases accounts.finish data with ⟨answer, next⟩ | ⟨answer, next⟩ <;> rw [answer] <;> exact next
      · simp only [if_neg full, if_neg complete]
        rcases accounts.write data with ⟨answer, next⟩ | ⟨answer, next⟩ <;> rw [answer] <;> exact next

theorem isAborted_abort (l : Ledger) (status : StatusCode) : (l.abort status).isAborted = true := by
  unfold abort
  split <;> rfl

theorem Matches.abort_closed (matched : l.Matches response) (closed : response.isOpen = false)
    (status : StatusCode) : (l.abort status).Matches response := by
  have out := matched.headOut_of_closed closed
  rw [abort, if_pos out]
  exact ⟨matched.receiving, matched.head, matched.data, matched.queued, matched.buffered, matched.early,
    fun _ => closed⟩

theorem Accounts.abortWith (accounts : l.Accounts r id n) (status : StatusCode) :
    (l.abort status).Accounts (r.modifyResponse n (·.abortWith status)) id n := by
  obtain ⟨response, found, matched, isOpen⟩ := accounts.response
  refine accounts.modify found (·.abortWith status) (matched.abortWith status) ?_
  rw [Response.isOpen_abortWith, isAborted_abort, Bool.not_true, Bool.and_false]

theorem Accounts.abortAll (accounts : l.Accounts r id n) (status : StatusCode) :
    (l.abort status).Accounts (r.abortAll status).2 id n := by
  obtain ⟨response, found, matched, isOpen⟩ := accounts.response
  have left := r.has_abortAll status id
  have after := r.response?_abortAll status n
  rw [found, Option.map_some] at after
  refine ⟨fun record known => ?_, ?_⟩
  · rw [RequestRegistry.has, known] at left
    cases left
  · rw [left, Bool.false_and]
    by_cases referred : r.records.any (·.response == n) = true
    · rw [if_pos referred] at after
      exact ⟨_, after, matched.abortWith status, response.isOpen_abortWith status⟩
    · -- a response that no record refers to belongs to a request that has left
      have gone : r.has id = false := by
        rw [Bool.eq_false_iff]
        intro has
        obtain ⟨record, known⟩ := Option.isSome_iff_exists.mp has
        have listed : record ∈ r.records := List.mem_of_find?_eq_some known
        exact referred (List.any_eq_true.mpr ⟨record, listed, beq_iff_eq.mpr (accounts.known record known)⟩)
      rw [gone, Bool.false_and] at isOpen
      rw [if_neg referred] at after
      exact ⟨response, after, matched.abort_closed isOpen status, isOpen⟩

theorem pollHead_found (found : r.response? n = some response) :
    (r.pollHead n).1 = response.pollHead.1 ∧
      (r.pollHead n).2 = r.modifyResponse n fun _ => response.pollHead.2 := by
  rw [RequestRegistry.pollHead, found]
  exact ⟨rfl, rfl⟩

theorem pollBody_found (found : r.response? n = some response) :
    (r.pollBody n).1 = response.pollBody.1 ∧
      (r.pollBody n).2.2 = r.modifyResponse n fun _ => response.pollBody.2.2 := by
  rw [RequestRegistry.pollBody, found]
  exact ⟨rfl, rfl⟩

theorem Accounts.pollHead (accounts : l.Accounts r id n) :
    (l.note .pollHead (.head (r.pollHead n).1)).Accounts (r.pollHead n).2 id n := by
  obtain ⟨response, found, matched, isOpen⟩ := accounts.response
  obtain ⟨answer, after⟩ := pollHead_found found
  have aborted : (l.note .pollHead (.head response.pollHead.1)).isAborted = l.isAborted := by
    cases response.pollHead.1 <;> rfl
  rw [answer, after]
  exact accounts.modify found _ matched.pollHead.1 (by rw [Response.isOpen_pollHead, aborted, isOpen])

theorem Accounts.pollBody (accounts : l.Accounts r id n) :
    (l.note .pollBody (.body (r.pollBody n).1)).Accounts (r.pollBody n).2.2 id n := by
  obtain ⟨response, found, matched, isOpen⟩ := accounts.response
  obtain ⟨answer, after⟩ := pollBody_found found
  have aborted : (l.note .pollBody (.body response.pollBody.1)).isAborted = l.isAborted := by
    cases response.pollBody.1 <;> rfl
  rw [answer, after]
  exact accounts.modify found _ matched.pollBody.1 (by rw [Response.isOpen_pollBody, aborted, isOpen])

end Ledger

/-- The answer to a move on the response of a request, and the registry after it. -/
def AnswerMove.apply (id : RequestId) (n : Nat) (r : RequestRegistry) : AnswerMove → Reply × RequestRegistry
  | setStatus line => (.status (r.setStatus id line).1, (r.setStatus id line).2)
  | setHeader name value => (.status (r.setHeader id name value).1, (r.setHeader id name value).2)
  | write data => (.sent (r.write id data).1, (r.write id data).2)
  | tryEnd data totalSize => (.sent (r.tryEnd id data totalSize).1, (r.tryEnd id data totalSize).2)
  | finish data => (.sent (r.finish id data).1, (r.finish id data).2)
  | abortAll status => (.done, (r.abortAll status).2)
  | abortWith status => (.done, r.modifyResponse n (·.abortWith status))
  | pollHead => (.head (r.pollHead n).1, (r.pollHead n).2)
  | pollBody => (.body (r.pollBody n).1, (r.pollBody n).2.2)

namespace RequestRegistry

/-- A run of moves on the response of a request: each with its answer, and the registry after all. -/
def answer (id : RequestId) (n : Nat) (r : RequestRegistry) :
    List AnswerMove → List (AnswerMove × Reply) × RequestRegistry
  | [] => ([], r)
  | move :: rest =>
    let (reply, r) := move.apply id n r
    let (replies, r) := r.answer id n rest
    ((move, reply) :: replies, r)

theorem answer_append (r : RequestRegistry) (id : RequestId) (n : Nat) (first second : List AnswerMove) :
    (r.answer id n (first ++ second)).1 =
        (r.answer id n first).1 ++ ((r.answer id n first).2.answer id n second).1 ∧
      (r.answer id n (first ++ second)).2 = ((r.answer id n first).2.answer id n second).2 := by
  induction first generalizing r with
  | nil => exact ⟨rfl, rfl⟩
  | cons move rest ih =>
    obtain ⟨transcript, after⟩ := ih (move.apply id n r).2
    exact ⟨congrArg (_ :: ·) transcript, after⟩

def takeIn (r : RequestRegistry) (record : RequestRecord) : RequestRegistry :=
  let (n, opened) := r.openResponse
  (opened.begin { record with response := n }).2

end RequestRegistry

namespace Ledger

variable {l : Ledger} {r : RequestRegistry} {id : RequestId} {n : Nat}

theorem Accounts.apply (accounts : l.Accounts r id n) (move : AnswerMove) :
    (l.note move (move.apply id n r).1).Accounts (move.apply id n r).2 id n := by
  cases move with
  | setStatus line => exact accounts.setStatus line
  | setHeader name value => exact accounts.setHeader name value
  | write data =>
    rcases accounts.write data with ⟨answer, next⟩ | ⟨answer, next⟩ <;>
      simp only [AnswerMove.apply, answer] <;> exact next
  | tryEnd data totalSize => exact accounts.tryEnd data totalSize
  | finish data =>
    rcases accounts.finish data with ⟨answer, next⟩ | ⟨answer, next⟩ <;>
      simp only [AnswerMove.apply, answer] <;> exact next
  | abortAll status => exact accounts.abortAll status
  | abortWith status => exact accounts.abortWith status
  | pollHead => exact accounts.pollHead
  | pollBody => exact accounts.pollBody

theorem Accounts.answer (accounts : l.Accounts r id n) (moves : List AnswerMove) :
    Accounts ((r.answer id n moves).1.foldl (fun l (move, reply) => l.note move reply) l)
      (r.answer id n moves).2 id n := by
  induction moves generalizing l r with
  | nil => exact accounts
  | cons move rest ih => exact ih (accounts.apply move)

theorem accounts_takeIn (record : RequestRecord) (fresh : r.has record.id = false) :
    start.Accounts (r.takeIn record) record.id r.responses.length := by
  have unknown : r.find? record.id = none := by simpa [RequestRegistry.has] using fresh
  have admitted : r.takeIn record =
      { r with
        responses := r.responses ++ [.start]
        records := r.records ++ [{ record with response := r.responses.length }] } := by
    have free : r.openResponse.2.has record.id = false := fresh
    show (r.openResponse.2.begin { record with response := r.responses.length }).2 = _
    rw [RequestRegistry.begin, if_neg (Bool.eq_false_iff.mp free)]
    rfl
  have found : (r.takeIn record).find? record.id = some { record with response := r.responses.length } := by
    rw [admitted, RequestRegistry.find?, List.find?_append, show r.records.find? _ = none from unknown]
    simp
  refine ⟨fun other known => ?_, .start, ?_, matches_start, ?_⟩
  · rw [found] at known
    cases known
    rfl
  · rw [admitted, RequestRegistry.response?]
    simp
  · rw [RequestRegistry.has, found]
    rfl

theorem Accounts.headersSent (accounts : l.Accounts r id n) (has : r.has id = true) :
    (∀ line, (r.setStatus id line).1 = .headersSent ↔ l.headOut = true) ∧
    ∀ name value, (r.setHeader id name value).1 = .headersSent ↔ l.headOut = true := by
  obtain ⟨response, found, matched, _⟩ := accounts.response
  rw [← matched.headSent]
  refine ⟨fun line => ?_, fun name value => ?_⟩
  · rw [RequestRegistry.setStatus, accounts.withResponse_eq found has]
    exact response.setStatus_headersSent line
  · rw [RequestRegistry.setHeader, accounts.withResponse_eq found has]
    exact response.setHeader_headersSent name value

theorem Accounts.refused (accounts : l.Accounts r id n) :
    (∀ line, (r.setStatus id line).1 ≠ .ok → (r.setStatus id line).2 = r) ∧
    ∀ name value, (r.setHeader id name value).1 ≠ .ok → (r.setHeader id name value).2 = r := by
  obtain ⟨response, found, _⟩ := accounts.response
  cases has : r.has id with
  | false =>
    refine ⟨fun line _ => ?_, fun name value _ => ?_⟩
    · rw [RequestRegistry.setStatus, withResponse_left has]
    · rw [RequestRegistry.setHeader, withResponse_left has]
  | true =>
    refine ⟨fun line => ?_, fun name value => ?_⟩
    · rw [RequestRegistry.setStatus, accounts.withResponse_eq found has]
      intro refused
      rw [Response.setStatus_refused line refused]
      exact RequestRegistry.modifyResponse_same found
    · rw [RequestRegistry.setHeader, accounts.withResponse_eq found has]
      intro refused
      rw [Response.setHeader_refused name value refused]
      exact RequestRegistry.modifyResponse_same found

end Ledger

namespace RequestRegistry

/-- After any moves on the response of a request that was just taken in, with the ledger of what they were
    answered: the parts of the body that were handed out begin what was accepted, and are all of it when
    the connection is told of the end; the counters count both; the head is out since the first part, end
    or giving up, is handed out once, with what was set before, and comes before any part of the body; and
    a setting is answered with `headersSent` just if the head is out, and changes nothing if it is not
    accepted. -/
theorem response_account (r : RequestRegistry) (record : RequestRecord) (fresh : r.has record.id = false)
    (moves : List AnswerMove) :
    let n := r.responses.length
    let run := (r.takeIn record).answer record.id n moves
    let l := Ledger.ofTranscript run.1
    ∃ response, run.2.response? n = some response ∧
      (l.polled <+: l.accepted ∧ ((run.2.pollBody n).1 = .done → l.polled = l.accepted)) ∧
      (response.queued = l.accepted.length ∧ response.buffered + l.polled.length = response.queued) ∧
      (response.headSent = l.headOut ∧
        (l.headOut = false → (run.2.pollHead n).1 = .pending) ∧
        (l.headOut = true → l.isTaken = true → (run.2.pollHead n).1 = .closed) ∧
        (l.headOut = true → l.isTaken = false → ∃ head, (run.2.pollHead n).1 = .head head ∧ l.Agrees head) ∧
        ∀ chunk, (run.2.pollBody n).1 = .data chunk → l.headOut = true) ∧
      (run.2.has record.id = true →
        (∀ line, (run.2.setStatus record.id line).1 = .headersSent ↔ l.headOut = true) ∧
        ∀ name value, (run.2.setHeader record.id name value).1 = .headersSent ↔ l.headOut = true) ∧
      (∀ line, (run.2.setStatus record.id line).1 ≠ .ok → (run.2.setStatus record.id line).2 = run.2) ∧
      ∀ name value, (run.2.setHeader record.id name value).1 ≠ .ok →
        (run.2.setHeader record.id name value).2 = run.2 := by
  intro n run l
  have accounts : l.Accounts run.2 record.id n := (Ledger.accounts_takeIn record fresh).answer moves
  obtain ⟨response, found, matched, isOpen⟩ := accounts.response
  have head := (Ledger.pollHead_found found).1
  have body := (Ledger.pollBody_found found).1
  obtain ⟨_, done, early⟩ := matched.pollBody
  obtain ⟨_, pending, closed, given⟩ := matched.pollHead
  rw [head, body]
  exact ⟨response, found, ⟨matched.polled_prefix, done⟩, ⟨matched.queued, matched.buffered_add_polled⟩,
    ⟨matched.headSent, pending, closed, given, early⟩, accounts.headersSent, accounts.refused⟩

/-- A request whose response is given in two parts, with a status and a field of its own. -/
def posted : RequestRecord := .ofHead ⟨.fresh 0 2⟩ ⟨"PUT", by decide⟩ ⟨"/up", none⟩ [] "/up" 0

def conversation : List AnswerMove :=
  [.setStatus "201 Created", .setHeader "X-Part" "1", .write [1, 2], .setHeader "X-Part" "2", .pollHead,
    .pollBody, .tryEnd [3] 3, .pollBody]

theorem response_account_conversation :
    let run := ((empty 4).takeIn posted).answer posted.id 0 conversation
    let l := Ledger.ofTranscript run.1
    (empty 4).has posted.id = false ∧ l.polled = [1, 2, 3] ∧ l.accepted = [1, 2, 3] := by
  intro run l
  obtain ⟨response, _, ⟨_, done⟩, _⟩ := response_account (empty 4) posted rfl conversation
  have ends : (run.2.pollBody 0).1 = .done := by decide
  have polled : l.polled = [1, 2, 3] := by decide
  exact ⟨rfl, polled, (done ends).symm.trans polled⟩

end RequestRegistry

end Gateway
