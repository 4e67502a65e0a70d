import Gateway.Proofs.Engine
import Gateway.Proofs.Request.TryEnd
import Mathlib.Data.List.Induction

namespace Gateway

open Http (StatusCode)

namespace Response

variable {x : Response}

structure Grows (x y : Response) : Prop where
  wanted : y.writableWanted = x.writableWanted
  buffered : x.buffered ≤ y.buffered

theorem Grows.refl (x : Response) : x.Grows x := ⟨rfl, Nat.le_refl _⟩

theorem Grows.trans {y z : Response} (first : x.Grows y) (second : y.Grows z) : x.Grows z :=
  ⟨second.wanted.trans first.wanted, Nat.le_trans first.buffered second.buffered⟩

theorem grows_setStatus (x : Response) (line : String) : x.Grows (x.setStatus line).2 := by
  unfold setStatus
  split
  · split <;> exact ⟨rfl, Nat.le_refl _⟩
  all_goals exact .refl x

theorem grows_setHeader (x : Response) (name value : String) : x.Grows (x.setHeader name value).2 := by
  unfold setHeader
  split
  · split <;> exact ⟨rfl, Nat.le_refl _⟩
  all_goals exact .refl x

theorem grows_flushHead (x : Response) : x.Grows x.flushHead := by
  unfold flushHead
  split <;> exact ⟨rfl, Nat.le_refl _⟩

theorem grows_push (x : Response) (data : Bytes) : x.Grows (x.push data).2 := by
  unfold push
  split
  · exact .refl x
  · split
    · exact .refl x
    · split
      · exact .refl x
      · exact ⟨rfl, Nat.le_add_right _ _⟩

theorem grows_write (x : Response) (data : Bytes) : x.Grows (x.write data).2 :=
  x.grows_flushHead.trans (grows_push _ data)

theorem grows_finishWith (x : Response) (data : Bytes) : x.Grows (x.finishWith data).2 :=
  (x.grows_write data).trans ⟨rfl, Nat.le_refl _⟩

theorem grows_abortWith (x : Response) (status : StatusCode) : x.Grows (x.abortWith status) := by
  unfold abortWith
  split <;> exact ⟨rfl, Nat.le_refl _⟩

theorem grows_pollHead (x : Response) : x.Grows x.pollHead.2 := by
  unfold pollHead
  split
  · exact .refl x
  · exact ⟨rfl, Nat.le_refl _⟩
  all_goals exact .refl x

theorem drained_pollBody (sized : x.buffered = x.chunks.flatten.length)
    (waits : x.writableWanted = true → 0 < x.buffered) :
    x.pollBody.2.1 =
      if 0 < x.buffered ∧ x.pollBody.2.2.buffered = 0 ∧ x.writableWanted = true then some x.queued else none := by
  cases parts : x.chunks with
  | nil =>
    have nothing : x.buffered = 0 := by rw [sized, parts]; rfl
    rw [pollBody_nil parts]
    exact (if_neg fun all => absurd nothing (Nat.ne_of_gt all.1)).symm
  | cons chunk rest =>
    have left : x.pollBody.2.2.buffered = x.buffered - chunk.length := by
      rw [pollBody, parts]
      dsimp only
      split <;> rfl
    rw [left]
    by_cases drains : x.buffered - chunk.length = 0 ∧ x.writableWanted = true
    · rw [if_pos ⟨waits drains.2, drains⟩]
      simp only [pollBody, parts, if_pos drains]
    · rw [if_neg fun all => drains all.2]
      simp only [pollBody, parts, if_neg drains]

theorem wanted_pollBody (waits : x.writableWanted = true → 0 < x.buffered) :
    (x.pollBody.2.2.writableWanted = true ↔ x.writableWanted = true ∧ x.pollBody.2.1 = none) ∧
      (x.pollBody.2.2.writableWanted = true → 0 < x.pollBody.2.2.buffered) := by
  cases parts : x.chunks with
  | nil =>
    rw [pollBody_nil parts]
    exact ⟨by simp, waits⟩
  | cons chunk rest =>
    by_cases drains : x.buffered - chunk.length = 0 ∧ x.writableWanted = true
    · simp only [pollBody, parts, if_pos drains]
      simp
    · simp only [pollBody, parts, if_neg drains]
      refine ⟨by simp, fun wanted => ?_⟩
      have positive : x.buffered - chunk.length ≠ 0 := fun none => drains ⟨none, wanted⟩
      omega

end Response

namespace AnswerMove

def applyTo (id : RequestId) (n : Nat) (e : Engine) : AnswerMove → Engine
  | pollBody => (e.pollBody id n).2
  | move => (e.withRequests fun r => move.apply id n r).2

def IsRefused (id : RequestId) (r : RequestRegistry) : AnswerMove → Prop
  | tryEnd data totalSize => (r.tryEnd id data totalSize).1 = .notSent
  | _ => False

end AnswerMove

namespace Ledger

variable {l : Ledger} {r : RequestRegistry} {id : RequestId} {n : Nat} {x : Response}

theorem Accounts.responseOf?_cases (accounts : l.Accounts r id n) (found : r.response? n = some x) :
    r.responseOf? id = none ∨ r.responseOf? id = some (n, x) := by
  cases has : r.has id with
  | true => exact .inr (accounts.responseOf? found has)
  | false => exact .inl (responseOf?_none r id has)

theorem Accounts.grows_withResponse {α : Type} (accounts : l.Accounts r id n) (found : r.response? n = some x)
    (unknown : α) {f : Response → α × Response} (grows : ∀ x : Response, x.Grows (f x).2) :
    ∃ y, (r.withResponse id unknown f).2.response? n = some y ∧ x.Grows y := by
  rcases accounts.responseOf?_cases found with absent | known
  · rw [RequestRegistry.withResponse_unknown absent]
    exact ⟨x, found, .refl x⟩
  · rw [RequestRegistry.withResponse_known known, RequestRegistry.response?_modifyResponse, found]
    exact ⟨_, rfl, grows x⟩

theorem Accounts.grows_finish (accounts : l.Accounts r id n) (found : r.response? n = some x) (data : Bytes) :
    ∃ y, (r.finish id data).2.response? n = some y ∧ x.Grows y := by
  rcases accounts.responseOf?_cases found with absent | known
  · rw [RequestRegistry.finish_unknown absent]
    exact ⟨x, found, .refl x⟩
  · have left : (r.remove id).response? n = some x := found
    rw [RequestRegistry.finish_known known, RequestRegistry.response?_modifyResponse, left]
    exact ⟨_, rfl, x.grows_finishWith data⟩

theorem Accounts.wanted_host (accounts : l.Accounts r id n) (found : r.response? n = some x) {move : AnswerMove}
    (host : move ≠ .pollBody) :
    ∃ y, (move.apply id n r).2.response? n = some y ∧ x.buffered ≤ y.buffered ∧
      (move.IsRefused id r → y.writableWanted = true ∧ 0 < x.buffered) ∧
      (¬ move.IsRefused id r → y.writableWanted = x.writableWanted) := by
  have grown {s : RequestRegistry} (accepted : ¬ move.IsRefused id r)
      (grows : ∃ y, s.response? n = some y ∧ x.Grows y) :
      ∃ y, s.response? n = some y ∧ x.buffered ≤ y.buffered ∧
        (move.IsRefused id r → y.writableWanted = true ∧ 0 < x.buffered) ∧
        (¬ move.IsRefused id r → y.writableWanted = x.writableWanted) := by
    obtain ⟨y, after, grows⟩ := grows
    exact ⟨y, after, grows.buffered, fun refused => absurd refused accepted, fun _ => grows.wanted⟩
  cases move with
  | setStatus line => exact grown not_false (accounts.grows_withResponse found _ fun x => x.grows_setStatus line)
  | setHeader name value =>
    exact grown not_false (accounts.grows_withResponse found _ fun x => x.grows_setHeader name value)
  | write data => exact grown not_false (accounts.grows_withResponse found _ fun x => x.grows_write data)
  | tryEnd data totalSize =>
    rcases accounts.responseOf?_cases found with absent | known
    · have unknown : r.tryEnd id data totalSize = (.noSuchRequest, r) := by
        rw [RequestRegistry.tryEnd, absent]
      refine grown (fun refused => ?_) ⟨x, ?_, .refl x⟩
      · rw [AnswerMove.IsRefused, unknown] at refused
        cases refused
      · rw [AnswerMove.apply, unknown]
        exact found
    · have refused := RequestRegistry.tryEnd_notSent_iff known data totalSize
      by_cases full : 0 < x.buffered ∧ r.maxBackpressure < x.buffered + data.length
      · refine ⟨{ x with writableWanted := true }, ?_, Nat.le_refl _, fun _ => ⟨rfl, full.1⟩,
          fun accepted => absurd (refused.mpr full) accepted⟩
        rw [AnswerMove.apply, RequestRegistry.tryEnd_full known full, RequestRegistry.response?_modifyResponse, found]
        rfl
      · refine grown (fun answer => full (refused.mp answer)) ?_
        simp only [AnswerMove.apply, RequestRegistry.tryEnd, known, if_neg full]
        split
        · exact accounts.grows_finish found data
        · exact accounts.grows_withResponse found _ fun x => x.grows_write data
  | finish data => exact grown not_false (accounts.grows_finish found data)
  | abortAll status =>
    refine grown not_false ⟨_, (r.response?_abortAll status n).trans (congrArg _ found), ?_⟩
    split
    · exact x.grows_abortWith status
    · exact .refl x
  | abortWith status =>
    refine grown not_false ⟨_, (r.response?_modifyResponse n _).trans (congrArg _ found), ?_⟩
    exact x.grows_abortWith status
  | pollHead =>
    refine grown not_false ⟨x.pollHead.2, ?_, x.grows_pollHead⟩
    rw [AnswerMove.apply, (pollHead_found found).2, RequestRegistry.response?_modifyResponse, found]
    rfl
  | pollBody => exact absurd rfl host

end Ledger

namespace Engine

variable {e : Engine} {id : RequestId} {n : Nat}

def takeIn (e : Engine) (record : RequestRecord) : Engine := { e with requests := e.requests.takeIn record }

def answered (id : RequestId) (n : Nat) (e : Engine) (moves : List AnswerMove) : Engine :=
  moves.foldl (AnswerMove.applyTo id n) e

/-- What host and connection have seen of the response after some moves. -/
def ledger (id : RequestId) (n : Nat) (e : Engine) (moves : List AnswerMove) : Ledger :=
  Ledger.ofTranscript (e.requests.answer id n moves).1

def waiting (e : Engine) (n : Nat) : Nat :=
  match e.requests.response? n with
  | some response => response.buffered
  | none => 0

/-- In a run of moves, some part was refused, and nothing was told since. -/
def Refused (id : RequestId) (n : Nat) (e : Engine) (moves : List AnswerMove) : Prop :=
  ∃ earlier move later, moves = earlier ++ move :: later ∧
    move.IsRefused id (e.answered id n earlier).requests ∧
    (e.answered id n moves).queue = (e.answered id n (earlier ++ [move])).queue

theorem answered_append (e : Engine) (id : RequestId) (n : Nat) (first second : List AnswerMove) :
    e.answered id n (first ++ second) = (e.answered id n first).answered id n second := List.foldl_append

theorem answered_snoc (e : Engine) (id : RequestId) (n : Nat) (moves : List AnswerMove) (move : AnswerMove) :
    e.answered id n (moves ++ [move]) = move.applyTo id n (e.answered id n moves) :=
  e.answered_append id n moves [move]

theorem requests_applyTo (e : Engine) (id : RequestId) (n : Nat) (move : AnswerMove) :
    (move.applyTo id n e).requests = (move.apply id n e.requests).2 := by
  cases move with
  | pollBody => exact e.requests_pollBody id n
  | _ => rfl

theorem requests_answered (e : Engine) (id : RequestId) (n : Nat) (moves : List AnswerMove) :
    (e.answered id n moves).requests = (e.requests.answer id n moves).2 := by
  induction moves generalizing e with
  | nil => rfl
  | cons move rest ih =>
    refine (ih (move.applyTo id n e)).trans ?_
    rw [requests_applyTo]
    rfl

theorem ledger_snoc (e : Engine) (id : RequestId) (n : Nat) (moves : List AnswerMove) (move : AnswerMove) :
    e.ledger id n (moves ++ [move]) =
      (e.ledger id n moves).note move (move.apply id n (e.answered id n moves).requests).1 := by
  rw [ledger, (e.requests.answer_append id n moves [move]).1, Ledger.ofTranscript, List.foldl_append,
    requests_answered]
  rfl

theorem polled_ledger_append (e : Engine) (id : RequestId) (n : Nat) (moves later : List AnswerMove) :
    (e.ledger id n moves).polled <+: (e.ledger id n (moves ++ later)).polled := by
  induction later using List.reverseRecOn with
  | nil => exact (List.append_nil moves).symm ▸ List.prefix_refl _
  | append_singleton later move ih =>
    rw [← List.append_assoc, ledger_snoc]
    exact ih.trans (Ledger.polled_note _ _ _)

theorem queue_applyTo (e : Engine) (id : RequestId) (n : Nat) (move : AnswerMove) :
    ∃ events, (move.applyTo id n e).queue = e.queue.extend events ∧
      (move ≠ .pollBody → events = []) := by
  cases move with
  | pollBody => exact ⟨_, e.queue_pollBody id n, fun host => absurd rfl host⟩
  | _ => exact ⟨[], (EventQueue.extend_nil _).symm, fun _ => rfl⟩

theorem queue_answered (e : Engine) (id : RequestId) (n : Nat) (moves : List AnswerMove) :
    ∃ events, (e.answered id n moves).queue = e.queue.extend events := by
  induction moves generalizing e with
  | nil => exact ⟨[], (EventQueue.extend_nil _).symm⟩
  | cons move rest ih =>
    obtain ⟨first, told, _⟩ := e.queue_applyTo id n move
    obtain ⟨others, after⟩ := ih (move.applyTo id n e)
    refine ⟨first ++ others, after.trans ?_⟩
    rw [told, EventQueue.extend_extend]

theorem refused_snoc (e : Engine) (id : RequestId) (n : Nat) (moves : List AnswerMove) (move : AnswerMove) :
    e.Refused id n (moves ++ [move]) ↔
      move.IsRefused id (e.answered id n moves).requests ∨
      e.Refused id n moves ∧ (move.applyTo id n (e.answered id n moves)).queue = (e.answered id n moves).queue := by
  rw [← answered_snoc]
  -- the part that was refused is this move's own, or one of an earlier move that nothing was told after
  constructor
  · rintro ⟨earlier, first, later, split, refused, quiet⟩
    rcases List.eq_nil_or_concat later with rfl | ⟨middle, last, rfl⟩
    · obtain ⟨rfl, same⟩ := List.append_inj' split rfl
      cases same
      exact .inl refused
    · rw [List.concat_eq_append, ← List.cons_append, ← List.append_assoc] at split
      obtain ⟨rfl, same⟩ := List.append_inj' split rfl
      cases same
      have whole : earlier ++ first :: middle = (earlier ++ [first]) ++ middle := by simp
      obtain ⟨events, between⟩ := (e.answered id n (earlier ++ [first])).queue_answered id n middle
      obtain ⟨told, after⟩ := (e.answered id n (earlier ++ first :: middle)).queue_answered id n [move]
      rw [← answered_append, ← whole] at between
      rw [← answered_append] at after
      rw [after, between, EventQueue.extend_extend] at quiet
      have silent := List.append_eq_nil_iff.mp (EventQueue.extend_eq_self quiet)
      rw [silent.1, EventQueue.extend_nil] at between
      rw [silent.2, EventQueue.extend_nil] at after
      exact .inr ⟨⟨earlier, first, middle, rfl, refused, between⟩, after⟩
  · rintro (refused | ⟨⟨earlier, first, later, rfl, refused, quiet⟩, silent⟩)
    · exact ⟨moves, move, [], rfl, refused, rfl⟩
    · refine ⟨earlier, first, later ++ [move], ?_, refused, silent.trans quiet⟩
      rw [List.append_assoc, List.cons_append]

/-- The response after some moves: the host waits for it exactly if a part was refused and nothing was told
    since, and then something waits. -/
structure Tracks (id : RequestId) (n : Nat) (e : Engine) (moves : List AnswerMove) (x : Response) : Prop where
  found : (e.answered id n moves).requests.response? n = some x
  accounts : (e.ledger id n moves).Accounts (e.answered id n moves).requests id n
  wanted : x.writableWanted = true ↔ e.Refused id n moves
  waits : x.writableWanted = true → 0 < x.buffered

variable {moves : List AnswerMove} {x : Response}

theorem Tracks.matched (tracks : e.Tracks id n moves x) : (e.ledger id n moves).Matches x := by
  obtain ⟨_, same, matched, _⟩ := tracks.accounts.response
  cases tracks.found.symm.trans same
  exact matched

theorem Tracks.waiting (tracks : e.Tracks id n moves x) : (e.answered id n moves).waiting n = x.buffered := by
  rw [Engine.waiting, tracks.found]

theorem drained_found {r : RequestRegistry} (found : r.response? n = some x) :
    (r.pollBody n).2.1 = x.pollBody.2.1 := by
  rw [RequestRegistry.pollBody, found]

theorem Tracks.told (tracks : e.Tracks id n moves x) :
    (AnswerMove.applyTo id n (e.answered id n moves) .pollBody).queue =
      (e.answered id n moves).queue.extend (x.pollBody.2.1.toList.map fun written =>
        (e.answered id n moves).cut .writable id.text (Text.bytes (Text.Decimal.text written))) := by
  rw [← drained_found tracks.found]
  exact queue_pollBody _ _ _

theorem Tracks.found_poll (tracks : e.Tracks id n moves x) :
    (e.answered id n (moves ++ [.pollBody])).requests.response? n = some x.pollBody.2.2 := by
  rw [answered_snoc, requests_applyTo, AnswerMove.apply, (Ledger.pollBody_found tracks.found).2,
    RequestRegistry.response?_modifyResponse, tracks.found]
  rfl

theorem Tracks.snoc (tracks : e.Tracks id n moves x) (move : AnswerMove) :
    ∃ y, e.Tracks id n (moves ++ [move]) y := by
  have accounts : (e.ledger id n (moves ++ [move])).Accounts (e.answered id n (moves ++ [move])).requests id n := by
    rw [ledger_snoc, answered_snoc, requests_applyTo]
    exact tracks.accounts.apply move
  -- a poll takes the wish away exactly when it tells; a call of the host makes it exactly when it refuses
  by_cases poll : move = .pollBody
  · subst poll
    have drained := Response.wanted_pollBody tracks.waits
    refine ⟨x.pollBody.2.2, tracks.found_poll, accounts, ?_, drained.2⟩
    have quiet : (AnswerMove.applyTo id n (e.answered id n moves) .pollBody).queue =
        (e.answered id n moves).queue ↔ x.pollBody.2.1 = none := by
      rw [tracks.told]
      constructor
      · intro same
        simpa using EventQueue.extend_eq_self same
      · intro none
        rw [none]
        exact EventQueue.extend_nil _
    rw [refused_snoc, quiet, drained.1, tracks.wanted]
    simp [AnswerMove.IsRefused]
  · obtain ⟨y, after, grows, refuses, keeps⟩ := tracks.accounts.wanted_host tracks.found poll
    have found : (e.answered id n (moves ++ [move])).requests.response? n = some y := by
      rw [answered_snoc, requests_applyTo]
      exact after
    have quiet : (move.applyTo id n (e.answered id n moves)).queue = (e.answered id n moves).queue := by
      obtain ⟨events, told, silent⟩ := (e.answered id n moves).queue_applyTo id n move
      rw [told, silent poll, EventQueue.extend_nil]
    refine ⟨y, found, accounts, ?_, ?_⟩
    · rw [refused_snoc]
      by_cases refused : move.IsRefused id (e.answered id n moves).requests
      · exact ⟨fun _ => .inl refused, fun _ => (refuses refused).1⟩
      · rw [keeps refused, tracks.wanted]
        exact ⟨fun before => .inr ⟨before, quiet⟩, fun either => (either.resolve_left refused).1⟩
    · intro wanted
      by_cases refused : move.IsRefused id (e.answered id n moves).requests
      · exact Nat.lt_of_lt_of_le (refuses refused).2 grows
      · rw [keeps refused] at wanted
        exact Nat.lt_of_lt_of_le (tracks.waits wanted) grows

theorem tracks_takeIn (e : Engine) (record : RequestRecord) (fresh : e.requests.has record.id = false)
    (moves : List AnswerMove) :
    ∃ x, (e.takeIn record).Tracks record.id e.requests.responses.length moves x := by
  induction moves using List.reverseRecOn with
  | nil =>
    refine ⟨.start, ?_, Ledger.accounts_takeIn record fresh, ?_, nofun⟩
    · show (e.requests.takeIn record).response? _ = _
      rw [RequestRegistry.takeIn_free record fresh]
      exact List.getElem?_concat_length
    · refine ⟨nofun, ?_⟩
      rintro ⟨earlier, move, later, split, _⟩
      cases List.append_eq_nil_iff.mp split.symm
      contradiction
  | append_singleton moves move ih =>
    obtain ⟨x, tracks⟩ := ih
    exact tracks.snoc move

theorem Tracks.poll (tracks : e.Tracks id n moves x) : e.Tracks id n (moves ++ [.pollBody]) x.pollBody.2.2 := by
  obtain ⟨y, next⟩ := tracks.snoc .pollBody
  have same : x.pollBody.2.2 = y := Option.some.inj (tracks.found_poll.symm.trans next.found)
  rwa [same]

/-- The next poll takes the last of what waits, and a part was refused before. -/
structure Drains (id : RequestId) (n : Nat) (e : Engine) (moves : List AnswerMove) : Prop where
  full : 0 < (e.answered id n moves).waiting n
  empty : (e.answered id n (moves ++ [.pollBody])).waiting n = 0
  refused : e.Refused id n moves

def drained (id : RequestId) (n : Nat) (e : Engine) (moves : List AnswerMove) : Envelope :=
  e.cut .writable id.text (Text.bytes (Text.Decimal.text (e.ledger id n moves).polled.length))

theorem Tracks.drains_iff (tracks : e.Tracks id n moves x) :
    e.Drains id n moves ↔ 0 < x.buffered ∧ x.pollBody.2.2.buffered = 0 ∧ x.writableWanted = true := by
  constructor
  · rintro ⟨full, empty, refused⟩
    exact ⟨tracks.waiting ▸ full, tracks.poll.waiting ▸ empty, tracks.wanted.mpr refused⟩
  · rintro ⟨full, empty, wanted⟩
    exact ⟨tracks.waiting.symm ▸ full, tracks.poll.waiting.symm ▸ empty, tracks.wanted.mp wanted⟩

theorem Tracks.queue_drains (tracks : e.Tracks id n moves x) (drains : e.Drains id n moves) :
    (e.answered id n (moves ++ [.pollBody])).queue =
      (e.answered id n moves).queue.extend [e.drained id n (moves ++ [.pollBody])] := by
  have drained := tracks.drains_iff.mp drains
  -- nothing waits any more, so all that was accepted has been handed out
  have counted := tracks.poll.matched.buffered_add_polled
  rw [drained.2.1, Nat.zero_add, Response.queued_pollBody] at counted
  rw [answered_snoc, tracks.told, Response.drained_pollBody tracks.matched.buffered tracks.waits, if_pos drained,
    Engine.drained, counted]
  obtain ⟨events, told⟩ := e.queue_answered id n moves
  refine congrArg (fun event => (e.answered id n moves).queue.extend [event]) (cut_congr ?_ _ _ _)
  rw [told, EventQueue.maxPayload_extend]

theorem Tracks.queue_keeps (tracks : e.Tracks id n moves x) (keeps : ¬ e.Drains id n moves) :
    (e.answered id n (moves ++ [.pollBody])).queue = (e.answered id n moves).queue := by
  rw [tracks.drains_iff] at keeps
  rw [answered_snoc, tracks.told, Response.drained_pollBody tracks.matched.buffered tracks.waits, if_neg keeps]
  exact EventQueue.extend_nil _

theorem Tracks.content_of_empty (tracks : e.Tracks id n moves x) (empty : (e.answered id n moves).waiting n = 0) :
    ¬ e.Refused id n moves := by
  intro refused
  have some := tracks.waits (tracks.wanted.mpr refused)
  rw [tracks.waiting] at empty
  omega

theorem Tracks.queue_polls (tracks : e.Tracks id n moves x) (content : ¬ e.Refused id n moves) (more : Nat) :
    (e.answered id n (moves ++ .replicate more .pollBody)).queue = (e.answered id n moves).queue := by
  induction more generalizing moves x with
  | zero => rw [List.replicate_zero, List.append_nil]
  | succ more ih =>
    have quiet := tracks.queue_keeps fun drains => content drains.refused
    have still : ¬ e.Refused id n (moves ++ [.pollBody]) := by
      rw [refused_snoc]
      exact fun either => content (either.resolve_left not_false).1
    rw [List.replicate_succ, List.append_cons, ih tracks.poll still, quiet]

theorem Tracks.queue_drained (tracks : e.Tracks id n moves x) (refused : e.Refused id n moves) :
    ∃ k, ∀ more, k ≤ more → (e.answered id n (moves ++ .replicate more .pollBody)).queue =
      (e.answered id n moves).queue.extend [e.drained id n (moves ++ .replicate k .pollBody)] := by
  -- each poll takes one of the chunks, and the last one drains the body
  induction parts : x.chunks generalizing moves x with
  | nil =>
    have some := tracks.waits (tracks.wanted.mpr refused)
    rw [tracks.matched.buffered, parts] at some
    exact absurd some (Nat.lt_irrefl 0)
  | cons chunk rest ih =>
    by_cases drains : e.Drains id n moves
    · have content := tracks.poll.content_of_empty drains.empty
      refine ⟨1, fun more enough => ?_⟩
      obtain ⟨others, rfl⟩ := Nat.exists_eq_add_of_le' enough
      rw [List.replicate_succ, List.append_cons, tracks.poll.queue_polls content others, tracks.queue_drains drains]
      rfl
    · have quiet := tracks.queue_keeps drains
      have still : e.Refused id n (moves ++ [.pollBody]) := by
        rw [refused_snoc, ← answered_snoc]
        exact .inr ⟨refused, quiet⟩
      obtain ⟨k, told⟩ := ih tracks.poll still (by rw [Response.chunks_pollBody, parts]; rfl)
      refine ⟨k + 1, fun more enough => ?_⟩
      obtain ⟨others, rfl⟩ := Nat.exists_eq_add_of_le' enough
      have next := told (others + k) (Nat.le_add_left _ _)
      rwa [quiet, ← List.append_cons, ← List.append_cons, ← List.replicate_succ, ← List.replicate_succ] at next

/-- As long as nothing more is accepted after a poll that took the last of what waits, no part is refused. -/
theorem Tracks.accepts (tracks : e.Tracks id n moves x) (empty : x.buffered = 0) {later : List AnswerMove}
    {z : Response} (after : e.Tracks id n (moves ++ later) z)
    (same : (e.ledger id n (moves ++ later)).accepted = (e.ledger id n moves).accepted) (data : Bytes) (size : Nat) :
    ((e.answered id n (moves ++ later)).requests.tryEnd id data size).1 ≠ .notSent := by
  have before := tracks.matched.buffered_add_polled
  have now := after.matched.buffered_add_polled
  have grown := (e.polled_ledger_append id n moves later).length_le
  rw [tracks.matched.queued] at before
  rw [after.matched.queued, same] at now
  intro refused
  rcases after.accounts.responseOf?_cases after.found with absent | known
  · rw [RequestRegistry.tryEnd, absent] at refused
    cases refused
  · have full := ((RequestRegistry.tryEnd_notSent_iff known data size).mp refused).1
    omega

/-- For every run of the host's and the connection's moves on the response of a new request, what the next
    move does:

    * it adds an event to the queue exactly if it is a poll that takes the last of what waits and some part
      was refused since the last event; the event tells how much was handed out;
    * no refusal is forgotten: while one is open something waits, and enough polls bring the one event;
    * after the event no part is refused until more was accepted. -/
theorem writable_events (e : Engine) (record : RequestRecord) (fresh : e.requests.has record.id = false)
    (moves : List AnswerMove) :
    let id := record.id
    let n := e.requests.responses.length
    let begun := e.takeIn record
    let now := begun.answered id n moves
    (∀ move, move = .pollBody ∧ begun.Drains id n moves →
      (begun.answered id n (moves ++ [move])).queue =
        now.queue.extend [begun.drained id n (moves ++ [move])]) ∧
    (∀ move, ¬ (move = .pollBody ∧ begun.Drains id n moves) →
      (begun.answered id n (moves ++ [move])).queue = now.queue) ∧
    (now.waiting n = 0 → ¬ begun.Refused id n moves) ∧
    (begun.Refused id n moves → ∃ k, ∀ more, k ≤ more →
      (begun.answered id n (moves ++ .replicate more .pollBody)).queue =
        now.queue.extend [begun.drained id n (moves ++ .replicate k .pollBody)]) ∧
    (begun.Drains id n moves → ∀ later data size,
      (begun.ledger id n (moves ++ .pollBody :: later)).accepted =
        (begun.ledger id n (moves ++ [.pollBody])).accepted →
      ((begun.answered id n (moves ++ .pollBody :: later)).requests.tryEnd id data size).1 ≠ .notSent) := by
  intro id n begun now
  obtain ⟨x, tracks⟩ := e.tracks_takeIn record fresh moves
  refine ⟨?_, fun move keeps => ?_, tracks.content_of_empty, tracks.queue_drained, ?_⟩
  · rintro _ ⟨rfl, drains⟩
    exact tracks.queue_drains drains
  · by_cases poll : move = .pollBody
    · subst poll
      exact tracks.queue_keeps fun drains => keeps ⟨rfl, drains⟩
    · obtain ⟨events, told, silent⟩ := now.queue_applyTo id n move
      rw [answered_snoc, told, silent poll, EventQueue.extend_nil]
  · intro drains later data size same
    have empty : x.pollBody.2.2.buffered = 0 := tracks.poll.waiting ▸ drains.empty
    obtain ⟨z, after⟩ := e.tracks_takeIn record fresh (moves ++ .pollBody :: later)
    rw [List.append_cons] at after same ⊢
    exact tracks.poll.accepts empty after same data size

open RequestRegistry (posted)

/-- Two parts are refused behind one that waits. The poll that takes it tells the host once, and then either
    part is accepted. -/
theorem writable_events_refused_twice :
    let e := start { maxBackpressure := 4 }
    let begun := e.takeIn posted
    let moves : List AnswerMove := [.write [1, 2, 3], .tryEnd [4, 5] 9, .tryEnd [6, 7] 9]
    let now := begun.answered posted.id 0 (moves ++ [.pollBody])
    e.requests.has posted.id = false ∧ begun.Drains posted.id 0 moves ∧
    now.queue.events = [.capped .writable posted.id.text (Text.bytes (Text.Decimal.text 3)) e.config.maxPayloadSize] ∧
    (now.requests.tryEnd posted.id [4, 5] 9).1 ≠ .notSent := by
  intro e begun moves now
  have drains : begun.Drains posted.id 0 moves :=
    ⟨by decide, by decide, [.write [1, 2, 3]], .tryEnd [4, 5] 9, [.tryEnd [6, 7] 9], rfl, rfl, rfl⟩
  obtain ⟨told, _, _, _, accepts⟩ := writable_events e posted rfl moves
  exact ⟨rfl, drains, congrArg EventQueue.events (told .pollBody ⟨rfl, drains⟩), accepts drains [] [4, 5] 9 rfl⟩

end Engine

end Gateway
