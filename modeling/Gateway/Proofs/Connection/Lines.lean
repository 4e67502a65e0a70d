import Gateway.Proofs.Connection.LifeCycle
import Mathlib.Algebra.Ring.Nat
import Mathlib.Data.List.Nodup

namespace Gateway

open WebSocket (Closure Outbound)

namespace WebSocket.Outbound

def dataFrames (frames : List Outbound) : List Outbound := frames.filter (!·.isClose)

def total (frames : List Outbound) : Nat := (frames.map size).sum

theorem dataFrames_append (first second : List Outbound) :
    dataFrames (first ++ second) = dataFrames first ++ dataFrames second := List.filter_append ..

theorem dataFrames_single {frame : Outbound} (data : frame.isClose = false) : dataFrames [frame] = [frame] := by
  simp [dataFrames, data]

theorem total_append (first second : List Outbound) : total (first ++ second) = total first + total second := by
  simp [total]

theorem total_perm {first second : List Outbound} (perm : first.Perm second) : total first = total second :=
  (perm.map _).sum_nat

end WebSocket.Outbound

namespace Line

/-- What one call adds to a line: nothing, the frame that it sends, or a close. A frame is added only if
    there is a session to take it and no more waits than may, and it counts; a close never counts. -/
inductive Gains (policy : BackpressurePolicy) (sent : Option Outbound) (line : Line) : List Outbound → Line → Prop where
  | nothing : Gains policy sent line [] line
  | frame {frame : Outbound} (given : sent = some frame) (receiving : line.receiving = true)
      (room : line.buffered ≤ policy.maxBackpressure) : Gains policy sent line [frame]
        { line with queued := line.queued ++ [frame], buffered := line.buffered + frame.size }
  | close (closure : Closure) (receiving : line.receiving = true) :
      Gains policy sent line [.close closure] { line with queued := line.queued ++ [.close closure] }

variable {policy : BackpressurePolicy} {sent : Option Outbound} {line after : Line} {frames : List Outbound}

theorem send_accepted (receiving : line.receiving = true) (room : line.buffered ≤ policy.maxBackpressure)
    (frame : Outbound) : line.send frame policy =
      (if policy.maxBackpressure < line.buffered + frame.size then .backpressure else .success,
        { line with queued := line.queued ++ [frame], buffered := line.buffered + frame.size }) := by
  unfold send
  rw [receiving, if_neg (by decide), if_neg (Nat.not_lt.mpr room)]

theorem send_dropped (refused : ¬ (line.receiving = true ∧ line.buffered ≤ policy.maxBackpressure))
    (frame : Outbound) : line.send frame policy = (.dropped,
      if line.receiving = true ∧ policy.maxBackpressure < line.buffered ∧ policy.closeOnLimit = true then
        { line with queued := line.queued ++ [.close overLimit] }
      else line) := by
  unfold send
  cases receiving : line.receiving with
  | false => rfl
  | true =>
    have full : policy.maxBackpressure < line.buffered := Nat.lt_of_not_le fun room => refused ⟨receiving, room⟩
    rw [if_neg (by decide), if_pos full]
    cases policy.closeOnLimit with
    | false => simp
    | true => simp [full, close, receiving]

theorem gains_close (policy : BackpressurePolicy) (sent : Option Outbound) (line : Line) (closure : Closure) :
    ∃ frames, Gains policy sent line frames (line.close closure).2 := by
  unfold close
  split
  · exact ⟨_, .close closure ‹_›⟩
  · exact ⟨_, .nothing⟩

theorem gains_send (line : Line) (frame : Outbound) (policy : BackpressurePolicy) :
    ∃ frames, Gains policy (some frame) line frames (line.send frame policy).2 := by
  by_cases accepted : line.receiving = true ∧ line.buffered ≤ policy.maxBackpressure
  · rw [send_accepted accepted.1 accepted.2]
    exact ⟨_, .frame rfl accepted.1 accepted.2⟩
  · rw [send_dropped accepted]
    dsimp only
    split
    · rename_i full
      exact ⟨_, .close overLimit full.1⟩
    · exact ⟨_, .nothing⟩

theorem Gains.queued (gains : Gains policy sent line frames after) : after.queued = line.queued ++ frames := by
  cases gains with
  | nothing => exact (List.append_nil _).symm
  | frame | close => rfl

theorem Gains.id_eq (gains : Gains policy sent line frames after) : after.id = line.id := by
  cases gains <;> rfl

theorem Gains.receiving_eq (gains : Gains policy sent line frames after) : after.receiving = line.receiving := by
  cases gains <;> rfl

theorem closedTimes_zero (closure : Closure) (line : Line) : line.closedTimes closure 0 = line := by
  simp [closedTimes]

theorem closedTimes_one (closure : Closure) (line : Line) : line.closedTimes closure 1 = (line.close closure).2 := by
  rw [← closedTimes_close, closedTimes_zero]

end Line

def ConnectionCall.frame? : ConnectionCall → Option Outbound
  | send _ frame | broadcast frame => some frame
  | _ => none

def ConnectionCall.Adds : ConnectionCall → Prop
  | modifyLine _ _ => False
  | _ => True

namespace ConnectionRegistry

variable {r s : ConnectionRegistry}

def waiting (r : ConnectionRegistry) (n : Nat) : List Outbound := ((r.line? n).map (·.queued)).getD []

/-- The frames that came to wait on a line between two states of the registry. -/
def posted (r s : ConnectionRegistry) (n : Nat) : List Outbound := (s.waiting n).drop (r.waiting n).length

theorem waiting_found {n : Nat} {line : Line} (found : r.line? n = some line) : r.waiting n = line.queued := by
  rw [waiting, found]
  rfl

theorem waiting_absent {n : Nat} (absent : r.line? n = none) : r.waiting n = [] := by
  rw [waiting, absent]
  rfl

theorem posted_gains {policy : BackpressurePolicy} {sent : Option Outbound} {frames : List Outbound} {n : Nat}
    {line after : Line} (found : r.line? n = some line) (left : s.line? n = some after)
    (gains : line.Gains policy sent frames after) : r.posted s n = frames := by
  rw [posted, waiting_found found, waiting_found left, gains.queued, List.drop_left]

theorem line?_sendLine (r : ConnectionRegistry) (n m : Nat) (frame : Outbound) (policy : BackpressurePolicy) :
    (r.sendLine n frame policy).2.line? m =
      if n = m then (r.line? m).map fun line => (line.send frame policy).2 else r.line? m := by
  unfold sendLine
  split
  · rename_i line found
    rw [line?_modifyLine]
    split
    · rename_i same
      rw [← same, found]
      rfl
    · rfl
  · rename_i absent
    split
    · rename_i same
      rw [← same, absent]
      rfl
    · rfl

theorem policy_sendLine (r : ConnectionRegistry) (n : Nat) (frame : Outbound) (policy : BackpressurePolicy) :
    (r.sendLine n frame policy).2.policy = r.policy := by
  obtain ⟨_, rewired⟩ := r.rewired_sendLine n frame policy
  rw [rewired]

theorem line?_sendLines (frame : Outbound) {ns : List Nat} (once : ns.Nodup) (r : ConnectionRegistry) (m : Nat) :
    (sendLines frame ns r).2.line? m =
      if m ∈ ns then (r.line? m).map fun line => (line.send frame r.policy).2 else r.line? m := by
  induction ns generalizing r with
  | nil => rfl
  | cons n rest ih =>
    obtain ⟨absent, once⟩ := List.nodup_cons.mp once
    have others := ih once (r.sendLine n frame r.policy).2
    rw [policy_sendLine, line?_sendLine] at others
    refine others.trans ?_
    by_cases same : n = m
    · subst same
      rw [if_neg absent, if_pos rfl, if_pos List.mem_cons_self]
    · rw [if_neg same]
      simp [Ne.symm same]

theorem line?_send {id : ConnectionId} {n : Nat} (live : r.liveLine? id = some n) (frame : Outbound) (m : Nat) :
    (r.send id frame).2.line? m =
      if n = m then (r.line? m).map fun line => (line.send frame r.policy).2 else r.line? m := by
  rw [send, live]
  exact r.line?_sendLine n m frame r.policy

theorem send_absent {id : ConnectionId} (absent : r.liveLine? id = none) (frame : Outbound) :
    r.send id frame = (.notFound, r) := by
  rw [send, absent]

theorem send_answer {id : ConnectionId} {n : Nat} {line : Line} (live : r.liveLine? id = some n)
    (found : r.line? n = some line) (frame : Outbound) : (r.send id frame).1 = (line.send frame r.policy).1 := by
  rw [send, live]
  show (r.sendLine n frame r.policy).1 = _
  rw [sendLine, found]

theorem line?_disconnect (r : ConnectionRegistry) (id : ConnectionId) (closure : Closure) (m : Nat) :
    (r.disconnect id closure).2.line? m =
      if r.liveLine? id = some m then (r.line? m).map fun line => (line.close closure).2 else r.line? m := by
  unfold disconnect
  split
  · rename_i n live
    rw [live]
    split
    · rename_i line found
      rw [line?_modifyLine]
      by_cases same : n = m
      · rw [if_pos same, if_pos (congrArg some same), ← same, found]
        rfl
      · rw [if_neg same, if_neg (fun equal => same (Option.some.inj equal))]
    · rename_i absent
      split
      · rename_i same
        rw [← Option.some.inj same, absent]
        rfl
      · rfl
  · rename_i absent
    rw [absent]
    rfl

/-- Every live connection is on the line that was opened for it. -/
structure Wired (r : ConnectionRegistry) : Prop where
  distinct : r.Distinct
  own : ∀ id n, r.liveLine? id = some n → (r.line? n).map (·.id) = some id

theorem wired_empty (policy : BackpressurePolicy) : (empty policy).Wired := ⟨List.nodup_nil, nofun⟩

theorem Wired.injective (wired : r.Wired) {a b : ConnectionId} {n : Nat} (first : r.liveLine? a = some n)
    (second : r.liveLine? b = some n) : a = b :=
  Option.some.inj ((wired.own a n first).symm.trans (wired.own b n second))

theorem mem_live_iff (distinct : r.Distinct) (id : ConnectionId) (n : Nat) :
    (id, n) ∈ r.live ↔ r.liveLine? id = some n := by
  rw [mem_live, ← find?_eq_some_iff distinct, liveLine?_eq]
  cases r.find? id with
  | none => simp
  | some entry => cases entry <;> simp [ConnectionEntry.line?]

theorem Wired.nodup_lines (wired : r.Wired) : (r.live.map (·.2)).Nodup := by
  have once : r.live.Nodup := List.Nodup.of_map Prod.fst (wired.distinct.nodup_shutDown (.of .normal ""))
  refine List.Nodup.map_on ?_ once
  rintro ⟨a, n⟩ first ⟨b, m⟩ second same
  cases same
  rw [mem_live_iff wired.distinct] at first second
  rw [wired.injective first second]

theorem Wired.line?_broadcast (wired : r.Wired) (frame : Outbound) (m : Nat) :
    (r.broadcast frame).2.line? m =
      if m ∈ r.live.map (·.2) then (r.line? m).map fun line => (line.send frame r.policy).2 else r.line? m :=
  line?_sendLines frame wired.nodup_lines r m

theorem Wired.line?_shutDown (wired : r.Wired) (closure : Closure) (m : Nat) :
    (r.shutDown closure).2.line? m =
      if m ∈ r.live.map (·.2) then (r.line? m).map fun line => (line.close closure).2 else r.line? m := by
  refine (line?_closeLines closure (r.live.map (·.2)) r m).trans ?_
  split
  · rename_i listed
    rw [List.count_eq_one_of_mem wired.nodup_lines listed]
    exact Option.map_congr fun line _ => line.closedTimes_one closure
  · rename_i absent
    rw [List.count_eq_zero_of_not_mem absent]
    exact (Option.map_congr fun line _ => line.closedTimes_zero closure).trans Option.map_id'

theorem Wired.gains (wired : r.Wired) {call : ConnectionCall} (adds : call.Adds) {n : Nat} {line : Line}
    (found : r.line? n = some line) : ∃ after frames, (r.call call).line? n = some after ∧
      line.Gains r.policy call.frame? frames after := by
  have same (unchanged : (r.call call).line? n = r.line? n) : ∃ after frames, (r.call call).line? n = some after ∧
      line.Gains r.policy call.frame? frames after := ⟨line, [], unchanged.trans found, .nothing⟩
  cases call with
  | openLine id =>
    refine same ?_
    show (r.lines ++ [Line.opened id])[n]? = r.lines[n]?
    exact List.getElem?_append_left (List.getElem?_eq_some_iff.mp found).1
  | register id m =>
    refine same ?_
    show (r.register id m).2.line? n = _
    rw [register_eq]
    split <;> rfl
  | fade id =>
    refine same ?_
    show (r.fade id).2.line? n = _
    unfold fade
    split <;> rfl
  | purge | reopen => exact same rfl
  | shutDown closure =>
    have after := wired.line?_shutDown closure n
    split at after
    · obtain ⟨frames, gains⟩ := line.gains_close r.policy none closure
      exact ⟨_, frames, by rw [call, after, found]; rfl, gains⟩
    · exact same after
  | send id frame =>
    cases live : r.liveLine? id with
    | none => exact same (by rw [call, send_absent live])
    | some m =>
      have after := line?_send live frame n
      split at after
      · obtain ⟨frames, gains⟩ := line.gains_send frame r.policy
        exact ⟨_, frames, by rw [call, after, found]; rfl, gains⟩
      · exact same after
  | broadcast frame =>
    have after := wired.line?_broadcast frame n
    split at after
    · obtain ⟨frames, gains⟩ := line.gains_send frame r.policy
      exact ⟨_, frames, by rw [call, after, found]; rfl, gains⟩
    · exact same after
  | disconnect id closure =>
    have after := r.line?_disconnect id closure n
    split at after
    · obtain ⟨frames, gains⟩ := line.gains_close r.policy none closure
      exact ⟨_, frames, by rw [call, after, found]; rfl, gains⟩
    · exact same after
  | modifyLine => exact adds.elim

theorem Wired.absent (wired : r.Wired) {call : ConnectionCall} (adds : call.Adds) (opens : ∀ id, call ≠ .openLine id)
    {n : Nat} (absent : r.line? n = none) : (r.call call).line? n = none := by
  cases call with
  | openLine id => exact absurd rfl (opens id)
  | register id m =>
    show (r.register id m).2.line? n = _
    rw [register_eq]
    split <;> exact absent
  | fade id =>
    show (r.fade id).2.line? n = _
    unfold fade
    split <;> exact absent
  | purge | reopen => exact absent
  | shutDown closure =>
    refine (wired.line?_shutDown closure n).trans ?_
    simp [absent]
  | send id frame =>
    cases live : r.liveLine? id with
    | none => rwa [call, send_absent live]
    | some m =>
      refine (line?_send live frame n).trans ?_
      simp [absent]
  | broadcast frame =>
    refine (wired.line?_broadcast frame n).trans ?_
    simp [absent]
  | disconnect id closure =>
    refine (r.line?_disconnect id closure n).trans ?_
    simp [absent]
  | modifyLine => exact adds.elim

theorem policy_quiet (r : ConnectionRegistry) {call : ConnectionCall} (quiet : call.Quiet) :
    (r.call call).policy = r.policy := by
  rcases r.call_quiet quiet with ⟨_, rewired⟩ | rfl
  · rw [rewired]
  · rfl

theorem policy_call (r : ConnectionRegistry) (call : ConnectionCall) : (r.call call).policy = r.policy := by
  cases call with
  | register id n =>
    show (r.register id n).2.policy = _
    rw [register_eq]
    split <;> rfl
  | fade id =>
    show (r.fade id).2.policy = _
    unfold fade
    split <;> rfl
  | purge => rfl
  | shutDown closure =>
    obtain ⟨_, rewired⟩ := rewired_closeLines closure (r.live.map (·.2)) r
    show (closeLines closure (r.live.map (·.2)) r).policy = _
    rw [rewired]
  | _ =>
    apply policy_quiet
    trivial

theorem line?_openLine (r : ConnectionRegistry) (id : ConnectionId) (m : Nat) :
    (r.openLine id).2.line? m = if m = r.lines.length then some (.opened id) else r.line? m := by
  show (r.lines ++ [Line.opened id])[m]? = _
  split
  · rename_i last
    rw [last, List.getElem?_concat_length]
  · rename_i other
    rw [List.getElem?_append]
    split
    · rfl
    · rename_i outside
      rw [List.getElem?_eq_none (by simp; omega)]
      exact (List.getElem?_eq_none (by omega)).symm

theorem Distinct.live_call (distinct : r.Distinct) {call : ConnectionCall} {id : ConnectionId} {n : Nat}
    (live : (r.call call).liveLine? id = some n) : r.liveLine? id = some n ∨ call = .register id n := by
  rw [liveLine?_eq] at live ⊢
  cases call with
  | register other m =>
    change ((r.register other m).2.find? id).bind _ = _ at live
    cases accepted : (r.register other m).1 with
    | true =>
      rw [find?_register r other m accepted] at live
      split at live
      · rename_i same
        cases live
        exact .inr (same ▸ rfl)
      · exact .inl live
    | false =>
      rw [register_refused r other m accepted] at live
      exact .inl live
  | fade other =>
    change ((r.fade other).2.find? id).bind _ = _ at live
    rw [find?_fade] at live
    split at live
    · cases found : r.find? other <;> simp [found, ConnectionEntry.line?] at live
    · exact .inl live
  | purge =>
    change (r.purge.2.find? id).bind _ = _ at live
    rw [find?_purge distinct] at live
    cases found : r.find? id with
    | none => simp [found] at live
    | some entry =>
      cases entry with
      | live line =>
        rw [found] at live
        exact .inl live
      | faded =>
        rw [found] at live
        cases live
  | shutDown closure =>
    change ((r.shutDown closure).2.find? id).bind _ = _ at live
    rw [find?_shutDown] at live
    cases found : r.find? id <;> simp [found, ConnectionEntry.line?] at live
  | _ =>
    refine .inl ((congrArg (·.bind ConnectionEntry.line?) (r.find?_quiet ?_ id)).symm.trans live)
    trivial

theorem Wired.call (wired : r.Wired) {call : ConnectionCall} (adds : call.Adds)
    (fits : ∀ id n, call = .register id n → (r.line? n).map (·.id) = some id) : (r.call call).Wired := by
  refine ⟨wired.distinct.call call, fun id n live => ?_⟩
  have before : (r.line? n).map (·.id) = some id := by
    rcases wired.distinct.live_call live with live | registered
    · exact wired.own id n live
    · exact fits id n registered
  obtain ⟨line, found, own⟩ := Option.map_eq_some_iff.mp before
  obtain ⟨after, _, left, gains⟩ := wired.gains adds found
  rw [left, ← own, ← gains.id_eq]
  rfl

theorem Wired.modifyLine (wired : r.Wired) (n : Nat) {f : Line → Line} (keeps : ∀ line, (f line).id = line.id) :
    (r.modifyLine n f).Wired := by
  refine ⟨wired.distinct, fun id m live => ?_⟩
  rw [line?_modifyLine, ← wired.own id m live]
  split
  · rw [Option.map_map]
    exact Option.map_congr fun line _ => keeps line
  · rfl

end ConnectionRegistry

end Gateway
