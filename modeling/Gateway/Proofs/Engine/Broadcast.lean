import Gateway.Engine
import Gateway.Proofs.Connection.Lines
import Gateway.Proofs.Metrics

namespace Gateway

open WebSocket (Outbound)

namespace BroadcastStatus

theorem foldl_merge_dropped (deliveries : List SendStatus) : deliveries.foldl merge dropped = dropped := by
  induction deliveries with
  | nil => rfl
  | cons status rest ih => exact ih

theorem foldl_merge_success (deliveries : List SendStatus) :
    deliveries.foldl merge success = if ∀ status ∈ deliveries, status.isDelivered = true then success else dropped := by
  induction deliveries with
  | nil => rfl
  | cons status rest ih =>
    have first : merge success status = if status.isDelivered then success else dropped := rfl
    rw [List.foldl_cons, first]
    cases delivered : status.isDelivered with
    | true => simpa [delivered] using ih
    | false => simpa [delivered] using foldl_merge_dropped rest

theorem ofDeliveries_eq (deliveries : List SendStatus) :
    ofDeliveries deliveries =
      if deliveries = [] then noRecipients
      else if ∀ status ∈ deliveries, status.isDelivered = true then success else dropped := by
  cases deliveries with
  | nil => rfl
  | cons status rest =>
    rw [if_neg (List.cons_ne_nil _ _), ← foldl_merge_success]
    rfl

theorem ofDeliveries_perm {first second : List SendStatus} (perm : first.Perm second) :
    ofDeliveries first = ofDeliveries second := by
  have empty : first = [] ↔ second = [] := by
    rw [← List.length_eq_zero_iff, perm.length_eq, List.length_eq_zero_iff]
  simp only [ofDeliveries_eq, empty, perm.mem_iff]

end BroadcastStatus

namespace Series

theorem total?_perm (series : Series) {log log' : List Measurement} (perm : log.Perm log') :
    series.total? log = series.total? log' := by
  have changes := perm.filterMap series.change?
  have sum := changes.sum_eq
  unfold total?
  cases first : log.filterMap series.change? with
  | nil =>
    rw [first] at changes
    rw [List.nil_perm.mp changes]
  | cons change rest =>
    cases second : log'.filterMap series.change? with
    | nil =>
      rw [first, second] at changes
      cases List.perm_nil.mp changes
    | cons change' rest' =>
      rw [first, second, List.sum_eq_foldl, List.sum_eq_foldl] at sum
      exact congrArg some sum

end Series

theorem Measurement.totals_perm {log log' : List Measurement} (perm : log.Perm log') : totals log = totals log' := by
  unfold totals
  congr 1
  funext series
  rw [series.total?_perm perm]

/-- A send adds to what waits on a line the frame, or the close of a line on which too much waits, or nothing. -/
theorem Line.queued_send (line : Line) (frame : Outbound) (policy : BackpressurePolicy) :
    ∃ frames, (line.send frame policy).2.queued = line.queued ++ frames ∧
      (frames = [] ∨ frames = [frame] ∨ frames = [.close overLimit]) := by
  by_cases accepted : line.receiving = true ∧ line.buffered ≤ policy.maxBackpressure
  · rw [send_accepted accepted.1 accepted.2]
    exact ⟨[frame], rfl, .inr (.inl rfl)⟩
  · rw [send_dropped accepted]
    dsimp only
    split
    · exact ⟨[.close overLimit], rfl, .inr (.inr rfl)⟩
    · exact ⟨[], (List.append_nil _).symm, .inl rfl⟩

namespace ConnectionRegistry

variable {r s t : ConnectionRegistry}

/-- Registries that differ from one in no more than what waits on its lines are equal if their lines are. -/
theorem Rewired.ext (first : r.Rewired s) (second : r.Rewired t) (lines : ∀ n, s.line? n = t.line? n) : s = t := by
  obtain ⟨_, rfl⟩ := first
  obtain ⟨_, rfl⟩ := second
  simp only [mk.injEq, and_true, true_and]
  exact List.ext_getElem? lines

theorem status_sendLine {n : Nat} (line : s.line? n = r.line? n) (frame : Outbound)
    (policy : BackpressurePolicy) : (s.sendLine n frame policy).1 = (r.sendLine n frame policy).1 := by
  unfold sendLine
  rw [line]
  cases r.line? n <;> rfl

theorem statuses_sendLines (frame : Outbound) {ns : List Nat} (once : ns.Nodup) (r : ConnectionRegistry) :
    (sendLines frame ns r).1 = ns.map fun n => (r.sendLine n frame r.policy).1 := by
  induction ns generalizing r with
  | nil => rfl
  | cons n rest ih =>
    obtain ⟨first, later⟩ := List.nodup_cons.mp once
    have others := ih later (r.sendLine n frame r.policy).2
    rw [policy_sendLine] at others
    refine congrArg _ (others.trans (List.map_congr_left fun m within => ?_))
    have other : n ≠ m := fun same => first (same ▸ within)
    exact status_sendLine (by rw [line?_sendLine, if_neg other]) frame r.policy

theorem sendLines_perm (frame : Outbound) {ns ms : List Nat} (once : ns.Nodup) (perm : ms.Perm ns)
    (r : ConnectionRegistry) :
    (sendLines frame ms r).2 = (sendLines frame ns r).2 ∧
      (sendLines frame ms r).1.Perm (sendLines frame ns r).1 := by
  have also : ms.Nodup := perm.nodup_iff.mpr once
  constructor
  · refine (rewired_sendLines frame ms r).ext (rewired_sendLines frame ns r) fun n => ?_
    rw [line?_sendLines frame also, line?_sendLines frame once]
    simp only [perm.mem_iff]
  · rw [statuses_sendLines frame also, statuses_sendLines frame once]
    exact perm.map _

/-- No identifier has two entries, and no two live connections share a line. -/
structure Apart (r : ConnectionRegistry) : Prop where
  distinct : r.Distinct
  lines : (r.live.map (·.2)).Nodup

theorem Wired.apart (wired : r.Wired) : r.Apart := ⟨wired.distinct, wired.nodup_lines⟩

theorem Apart.statuses_broadcast (apart : r.Apart) (frame : Outbound) :
    (r.broadcast frame).1 = r.live.map fun c => (r.send c.1 frame).1 := by
  refine (statuses_sendLines frame apart.lines r).trans ?_
  rw [List.map_map]
  refine List.map_congr_left fun c within => ?_
  have live := (mem_live_iff apart.distinct c.1 c.2).mp within
  simp only [send, live, Function.comp]

theorem Distinct.mem_live_ids (distinct : r.Distinct) (id : ConnectionId) :
    id ∈ r.live.map (·.1) ↔ r.isLive id = true := by
  rw [List.mem_map]
  constructor
  · rintro ⟨c, live, rfl⟩
    exact congrArg Option.isSome ((mem_live_iff distinct c.1 c.2).mp live)
  · intro live
    obtain ⟨n, known⟩ := Option.isSome_iff_exists.mp live
    exact ⟨(id, n), (mem_live_iff distinct id n).mpr known, rfl⟩

theorem Distinct.lines_live (distinct : r.Distinct) :
    (r.live.map (·.1)).filterMap r.liveLine? = r.live.map (·.2) := by
  rw [List.filterMap_map, ← List.filterMap_eq_map]
  refine List.filterMap_congr fun c within => ?_
  exact (mem_live_iff distinct c.1 c.2).mp within

def reordered (r : ConnectionRegistry) (entries : List (ConnectionId × ConnectionEntry)) : ConnectionRegistry :=
  { r with entries }

theorem live_reordered {entries : List (ConnectionId × ConnectionEntry)} (perm : entries.Perm r.entries) :
    (r.reordered entries).live.Perm r.live := perm.filterMap _

theorem Apart.broadcast_reordered (apart : r.Apart) (frame : Outbound)
    {entries : List (ConnectionId × ConnectionEntry)} (perm : entries.Perm r.entries) :
    ((r.reordered entries).broadcast frame).2 = (r.broadcast frame).2.reordered entries ∧
      ((r.reordered entries).broadcast frame).1.Perm (r.broadcast frame).1 := by
  have lines : ((r.reordered entries).live.map (·.2)).Perm (r.live.map (·.2)) := (live_reordered perm).map _
  have also := lines.nodup_iff.mpr apart.lines
  obtain ⟨others, rewired⟩ := rewired_sendLines frame (r.live.map (·.2)) r
  constructor
  · refine (rewired_sendLines frame _ (r.reordered entries)).ext ⟨others, ?_⟩ fun n => ?_
    · rw [broadcast, rewired]
      rfl
    · refine (line?_sendLines frame also _ n).trans (Eq.symm ?_)
      refine (line?_sendLines frame apart.lines r n).trans ?_
      simp only [lines.mem_iff]
      rfl
  · have answers (n : Nat) : ((r.reordered entries).sendLine n frame r.policy).1 = (r.sendLine n frame r.policy).1 :=
      status_sendLine (show (r.reordered entries).line? n = r.line? n from rfl) frame r.policy
    rw [broadcast, broadcast, statuses_sendLines frame also, statuses_sendLines frame apart.lines]
    exact (lines.map _).trans (List.Perm.of_eq (List.map_congr_left fun n _ => answers n))

/-- Sends a frame to each of some connections; gives the answers in order. -/
def sendEach (frame : Outbound) : List ConnectionId → ConnectionRegistry → List SendStatus × ConnectionRegistry
  | [], r => ([], r)
  | id :: rest, r =>
    let (status, r) := r.send id frame
    let (statuses, r) := sendEach frame rest r
    (status :: statuses, r)

theorem sendEach_eq_sendLines (frame : Outbound) {ids : List ConnectionId} (r : ConnectionRegistry)
    (live : ∀ id ∈ ids, r.isLive id = true) :
    sendEach frame ids r = sendLines frame (ids.filterMap r.liveLine?) r := by
  induction ids generalizing r with
  | nil => rfl
  | cons id rest ih =>
    obtain ⟨first, others⟩ := List.forall_mem_cons.mp live
    obtain ⟨n, known⟩ := Option.isSome_iff_exists.mp first
    have sent : r.send id frame = r.sendLine n frame r.policy := by rw [send, known]
    have same : (r.sendLine n frame r.policy).2.liveLine? = r.liveLine? :=
      funext fun other => liveLine?_congr (entries_sendLine r n frame r.policy) other
    have later := ih (r.sendLine n frame r.policy).2 fun other within => by
      rw [isLive, same]
      exact others other within
    rw [same] at later
    rw [List.filterMap_cons_some known, sendEach, sendLines, sent]
    dsimp only
    rw [later]

theorem Apart.sendEach_live (apart : r.Apart) (frame : Outbound) {ids : List ConnectionId}
    (order : ids.Perm (r.live.map (·.1))) :
    (sendEach frame ids r).2 = (r.broadcast frame).2 ∧ (sendEach frame ids r).1.Perm (r.broadcast frame).1 ∧
      (sendEach frame ids r).1 = ids.map fun id => (r.send id frame).1 := by
  have live (id : ConnectionId) (within : id ∈ ids) : r.isLive id = true :=
    (apart.distinct.mem_live_ids id).mp (order.mem_iff.mp within)
  have lines : (ids.filterMap r.liveLine?).Perm (r.live.map (·.2)) :=
    apart.distinct.lines_live ▸ order.filterMap r.liveLine?
  obtain ⟨same, answers⟩ := sendLines_perm frame apart.lines lines r
  rw [sendEach_eq_sendLines frame r live]
  refine ⟨same, answers, ?_⟩
  rw [statuses_sendLines frame (lines.nodup_iff.mpr apart.lines), List.map_filterMap, ← List.filterMap_eq_map]
  refine List.filterMap_congr fun id within => ?_
  obtain ⟨n, known⟩ := Option.isSome_iff_exists.mp (live id within)
  rw [known, Function.comp, send, known]
  rfl

theorem send_ne_notFound {id : ConnectionId} (live : r.isLive id = true) (frame : Outbound) :
    (r.send id frame).1 ≠ .notFound := by
  obtain ⟨n, known⟩ := Option.isSome_iff_exists.mp live
  rw [send, known]
  show (r.sendLine n frame r.policy).1 ≠ _
  unfold sendLine
  cases r.line? n with
  | none => simp
  | some line =>
    by_cases accepted : line.receiving = true ∧ line.buffered ≤ r.policy.maxBackpressure
    · simp only [Line.send_accepted accepted.1 accepted.2]
      split <;> simp
    · simp [Line.send_dropped accepted]

/-- With a broadcast at most one frame comes to wait on a line: the one that is sent, or the close of a connection
    that lets too much wait. -/
theorem Apart.waiting_broadcast (apart : r.Apart) (frame : Outbound) (n : Nat) :
    ∃ frames, (r.broadcast frame).2.waiting n = r.waiting n ++ frames ∧
      (frames = [] ∨ frames = [frame] ∨ frames = [.close Line.overLimit]) := by
  have lines : (r.broadcast frame).2.line? n = _ := line?_sendLines frame apart.lines r n
  cases found : r.line? n with
  | none =>
    have absent : (r.broadcast frame).2.line? n = none := by simpa [found] using lines
    exact ⟨[], by rw [waiting_absent absent, waiting_absent found, List.append_nil], .inl rfl⟩
  | some line =>
    rw [found] at lines
    split at lines
    · obtain ⟨frames, queued, few⟩ := line.queued_send frame r.policy
      exact ⟨frames, by rw [waiting_found lines, waiting_found found, queued], few⟩
    · exact ⟨[], by rw [waiting_found lines, waiting_found found, List.append_nil], .inl rfl⟩

end ConnectionRegistry

namespace Engine

/-- Sends a frame to each of some connections; gives the answers in order. -/
def sendEach (frame : Outbound) : List ConnectionId → Engine → List SendStatus × Engine
  | [], e => ([], e)
  | id :: rest, e =>
    let (status, e) := e.send id frame
    let (statuses, e) := sendEach frame rest e
    (status :: statuses, e)

def afterSending (e : Engine) (sent : List SendStatus × ConnectionRegistry) : Engine :=
  { e with connections := sent.2, log := e.log ++ sent.1.map .messageSent }

variable {e : Engine}

theorem sendEach_eq (frame : Outbound) (ids : List ConnectionId) (e : Engine) :
    sendEach frame ids e = ((ConnectionRegistry.sendEach frame ids e.connections).1,
      e.afterSending (ConnectionRegistry.sendEach frame ids e.connections)) := by
  induction ids generalizing e with
  | nil => simp [sendEach, ConnectionRegistry.sendEach, afterSending]
  | cons id rest ih =>
    simp only [sendEach, ih, ConnectionRegistry.sendEach, send, measure, afterSending, List.map_cons,
      List.append_assoc, List.singleton_append]

theorem broadcast_status (apart : e.connections.Apart) (frame : Outbound) {ids : List ConnectionId}
    (order : ids.Perm (e.connections.live.map (·.1))) :
    (e.broadcast frame).1 = if ids = [] then .noRecipients
      else if ∃ id ∈ ids, (e.send id frame).1 = .dropped then .dropped else .success := by
  obtain ⟨_, answers, alone⟩ := apart.sendEach_live frame order
  have delivered (id : ConnectionId) (within : id ∈ ids) :
      (e.send id frame).1.isDelivered = true ↔ (e.send id frame).1 ≠ .dropped := by
    have found : (e.send id frame).1 ≠ .notFound := by
      refine ConnectionRegistry.send_ne_notFound ?_ frame
      exact (apart.distinct.mem_live_ids id).mp (order.mem_iff.mp within)
    cases answer : (e.send id frame).1 with
    | notFound => exact absurd answer found
    | _ => decide
  have all : (∀ id ∈ ids, (e.connections.send id frame).1.isDelivered = true) ↔
      ¬ ∃ id ∈ ids, (e.send id frame).1 = .dropped := by
    simp only [not_exists, not_and]
    exact forall₂_congr delivered
  show BroadcastStatus.ofDeliveries (e.connections.broadcast frame).1 = _
  rw [BroadcastStatus.ofDeliveries_perm answers.symm, alone, BroadcastStatus.ofDeliveries_eq]
  simp only [List.map_eq_nil_iff, List.forall_mem_map, all, ite_not]

/-- For every engine whose live connections have identifiers and lines of their own, and for every frame:

    * one send to each live connection, in any order, leaves the connections as a broadcast does, and all else but
      the order in which the answers were measured; each is answered as if it were the only one, and the answer to
      the broadcast tells whether there was a live connection and whether one of the sends is told to be dropped;
    * with the entries in another order the broadcast gets the same answer and does the same;
    * no entry changes, and no line that is not that of a live connection;
    * at most one frame comes to wait on a line: the one that is sent, or a close. -/
theorem broadcast_as_sends (e : Engine) (apart : e.connections.Apart) (frame : Outbound) :
    let after := (e.broadcast frame).2
    (∀ ids, ids.Perm (e.connections.live.map (·.1)) →
      let sent := sendEach frame ids e
      sent.2 = { after with log := sent.2.log } ∧
      Measurement.totals sent.2.log = Measurement.totals after.log ∧
      sent.1 = ids.map (fun id => (e.send id frame).1) ∧
      (e.broadcast frame).1 = if e.connections.liveCount = 0 then .noRecipients
        else if .dropped ∈ sent.1 then .dropped else .success) ∧
    (∀ entries, entries.Perm e.connections.entries →
      let other := { e with connections := e.connections.reordered entries }.broadcast frame
      other.1 = (e.broadcast frame).1 ∧
      other.2.connections = after.connections.reordered entries ∧
      Measurement.totals other.2.log = Measurement.totals after.log) ∧
    (after.connections.entries = e.connections.entries ∧
      ∀ n, (∀ id, e.connections.liveLine? id ≠ some n) → after.connections.line? n = e.connections.line? n) ∧
    ∀ n, ∃ frames, after.connections.waiting n = e.connections.waiting n ++ frames ∧
      (frames = [] ∨ frames = [frame] ∨ frames = [.close Line.overLimit]) := by
  intro after
  have measured {answers : List SendStatus} (perm : answers.Perm (e.connections.broadcast frame).1) :
      Measurement.totals (e.log ++ answers.map .messageSent) = Measurement.totals after.log :=
    Measurement.totals_perm ((perm.map _).append_left e.log)
  refine ⟨fun ids order => ?_, fun entries perm => ?_, ⟨e.connections.entries_broadcast frame, fun n other => ?_⟩,
    apart.waiting_broadcast frame⟩
  · obtain ⟨same, answers, alone⟩ := apart.sendEach_live frame order
    have none : e.connections.liveCount = 0 ↔ ids = [] := by
      have lengths := order.length_eq
      rw [List.length_map] at lengths
      rw [ConnectionRegistry.liveCount, ← lengths, List.length_eq_zero_iff]
    rw [sendEach_eq]
    refine ⟨?_, measured answers, alone, ?_⟩
    · rw [afterSending, same]
      rfl
    · rw [broadcast_status apart frame order, alone]
      simp only [none, List.mem_map]
      rfl
  · obtain ⟨same, answers⟩ := apart.broadcast_reordered frame perm
    exact ⟨BroadcastStatus.ofDeliveries_perm answers, same, measured answers⟩
  · refine (ConnectionRegistry.line?_sendLines frame apart.lines e.connections n).trans (if_neg fun listed => ?_)
    obtain ⟨c, live, rfl⟩ := List.mem_map.mp listed
    exact other c.1 ((ConnectionRegistry.mem_live_iff apart.distinct c.1 c.2).mp live)

def mixed : Engine :=
  { start {} with
    connections :=
      { policy := ⟨4, true⟩
        accepting := true
        entries := [(⟨.fresh 0 1⟩, .live 0), (⟨.fresh 0 2⟩, .faded), (⟨.fresh 0 3⟩, .live 2), (⟨.fresh 0 4⟩, .live 3)]
        lines := [.opened ⟨.fresh 0 1⟩, .opened ⟨.fresh 0 2⟩, ⟨⟨.fresh 0 3⟩, [], 9, true, false⟩,
          (Line.opened ⟨.fresh 0 4⟩).hangUp]
        totalRegistered := 4
        totalPurged := 0 } }

/-- Sent one by one, to the last connection first, the frame is dropped twice, and so is the broadcast. -/
theorem broadcast_as_sends_mixed :
    let ids : List ConnectionId := [⟨.fresh 0 4⟩, ⟨.fresh 0 3⟩, ⟨.fresh 0 1⟩]
    (sendEach (.text "hi") ids mixed).1 = [.dropped, .dropped, .success] ∧
    (mixed.broadcast (.text "hi")).1 = .dropped ∧
    Measurement.totals (mixed.broadcast (.text "hi")).2.log =
      [(.messagesSent .success, 1), (.messagesSent .dropped, 2)] ∧
    (mixed.broadcast (.text "hi")).2.connections.line? 1 = some (.opened ⟨.fresh 0 2⟩) ∧
    (mixed.broadcast (.text "hi")).2.connections.waiting 2 = [.close Line.overLimit] := by
  intro ids
  have apart : mixed.connections.Apart := ⟨by unfold ConnectionRegistry.Distinct; decide, by decide⟩
  obtain ⟨sends, _, ⟨_, others⟩, _⟩ := broadcast_as_sends mixed apart (.text "hi")
  obtain ⟨same, totals, alone, answer⟩ := sends ids (by decide)
  have answers : (sendEach (.text "hi") ids mixed).1 = [.dropped, .dropped, .success] := alone.trans (by decide)
  refine ⟨answers, ?_, totals.symm.trans (by decide), ?_, ?_⟩
  · rw [answer, answers]
    decide
  · refine (others 1 fun id live => ?_).trans rfl
    have listed := (ConnectionRegistry.mem_live_iff apart.distinct id 1).mpr live
    simp [mixed, ConnectionRegistry.live, ConnectionEntry.line?] at listed
  · have left : (mixed.broadcast (.text "hi")).2.connections = (sendEach (.text "hi") ids mixed).2.connections :=
      (congrArg Engine.connections same).symm
    rw [left]
    decide

end Engine

end Gateway
