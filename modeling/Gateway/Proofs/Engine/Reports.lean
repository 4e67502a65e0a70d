import Gateway.Proofs.Engine
import Gateway.Proofs.Metrics
import Gateway.Proofs.Service

namespace Gateway

open Http (Headers Method StatusCode Uri)
open WebSocket (Closure Outbound)

open Measurement (Balanced)

namespace Engine

variable {e f g : Engine} {events others : List Envelope} {opened more : Int} {sent also : List SendStatus}

/-- A step tells the host of some events, and its measurements account for them. No event reads as an empty queue,
    so long as payloads are not cut to nothing. -/
structure Reports (e f : Engine) (events : List Envelope) (opened : Int) (sent : List SendStatus) : Prop where
  queue : f.queue = e.queue.extend events
  log : ∃ entries, f.log = e.log ++ entries ∧ Balanced entries events opened sent
  real : 0 < e.queue.maxPayload → ∀ x ∈ events, x.isNothing = false

theorem Reports.of_same (queue : f.queue = e.queue) (log : f.log = e.log) : e.Reports f [] 0 [] where
  queue := queue.trans (EventQueue.extend_nil _).symm
  log := ⟨[], log.trans (List.append_nil _).symm, .nil⟩
  real _ := List.forall_mem_nil _

theorem Reports.refl (e : Engine) : e.Reports e [] 0 [] := .of_same rfl rfl

theorem Reports.trans (first : e.Reports f events opened sent) (second : f.Reports g others more also) :
    e.Reports g (events ++ others) (opened + more) (sent ++ also) := by
  obtain ⟨entries, left, balanced⟩ := first.log
  obtain ⟨entries', right, balanced'⟩ := second.log
  refine ⟨?_, ⟨entries ++ entries', ?_, balanced.append balanced'⟩, fun limit => ?_⟩
  · rw [second.queue, first.queue, EventQueue.extend_extend]
  · rw [right, left, List.append_assoc]
  · have same : 0 < f.queue.maxPayload := by
      rw [first.queue]
      exact limit
    exact List.forall_mem_append.mpr ⟨first.real limit, second.real same⟩

theorem isNothing_cut {kind : EventKind} {payload : Bytes} (some : kind = .error → payload ≠ [])
    (limit : 0 < e.queue.maxPayload) (id : String) : (e.cut kind id payload).isNothing = false := by
  by_cases fault : kind = .error
  · obtain ⟨b, rest, rfl⟩ := List.exists_cons_of_ne_nil (some fault)
    obtain ⟨n, size⟩ := Nat.exists_eq_add_of_lt limit
    simp [cut, Envelope.capped, Envelope.isNothing, size]
  · simp [cut, Envelope.capped, Envelope.isNothing, fault]

theorem reports_emit (e : Engine) {kind : EventKind} (later : kind ≠ .requestStart) (id : String) {payload : Bytes}
    (some : kind = .error → payload ≠ []) :
    e.Reports (e.emit kind id payload) [e.cut kind id payload] 0 [] where
  queue := rfl
  log := ⟨[.eventQueued kind (e.cut kind id payload).truncated], rfl, rfl, by
    simp [cut, Envelope.capped, Measurement.isRequest, later], rfl, rfl⟩
  real limit := List.forall_mem_singleton.mpr (isNothing_cut some limit id)

theorem reports_tell (e : Engine) (kind : EventKind) (plain : kind ≠ .requestStart ∧ kind ≠ .error) (id : String)
    (payload : Bytes) : e.Reports (e.emit kind id payload) [e.cut kind id payload] 0 [] :=
  e.reports_emit plain.1 id fun fault => absurd fault plain.2

theorem reports_measure (e : Engine) {m : Measurement} (quiet : m.queued? = none) (other : m.isRequest = false) :
    e.Reports (e.measure m) [] m.opening m.sent?.toList where
  queue := (EventQueue.extend_nil _).symm
  log := by
    refine ⟨[m], rfl, ?_, ?_, ?_, ?_⟩
    · rw [List.filterMap_cons, quiet]
      rfl
    · rw [List.countP_singleton, other]
      rfl
    · exact Int.add_zero _
    · rw [List.filterMap_cons]
      cases m.sent? <;> rfl
  real _ := List.forall_mem_nil _

theorem reports_openSession (e : Engine) (id : ConnectionId) :
    ∃ events, e.Reports (e.openSession id).2 events (if (e.openSession id).1.isSome then 1 else 0) [] := by
  rw [openSession_eq]
  dsimp only
  have same : e.Reports ((e.openLine id).2.register id (e.openLine id).1).2 [] 0 [] := .of_same rfl rfl
  split
  · exact ⟨_, same.trans ((reports_tell _ .opened (by decide) id.text []).trans (reports_measure _ rfl rfl))⟩
  · exact ⟨[], .of_same rfl rfl⟩

theorem reports_applyStep (e : Engine) (id : ConnectionId) (line : Nat) (step : SessionStep) :
    ∃ events, e.Reports (e.applyStep id line step) events 0 [] := by
  have same : e.Reports (e.modifyLine line (·.flush step.flushed)) [] 0 [] := .of_same rfl rfl
  unfold applyStep
  cases step.message with
  | some data => exact ⟨_, same.trans (reports_tell _ .message (by decide) id.text data)⟩
  | none => exact ⟨[], same⟩

theorem reports_closeSession (e : Engine) (id : ConnectionId) (line : Nat) (session : Session) :
    ∃ events, e.Reports (e.closeSession id line session) events (-1) [] := by
  have closed : e.Reports (e.measure .connectionClosed) [] (-1) [] := reports_measure _ rfl rfl
  have same : (e.measure .connectionClosed).Reports
    (((e.measure .connectionClosed).modifyLine line Line.hangUp).fade id).2 [] 0 [] := .of_same rfl rfl
  unfold closeSession
  dsimp only
  split
  · exact ⟨_, closed.trans (same.trans (reports_tell _ .closed (by decide) id.text session.closePayload))⟩
  · exact ⟨[], closed.trans same⟩

theorem reports_noticed (e : Engine) (line : Nat) (event : SessionEvent) :
    e.Reports (e.noticed line event) [] 0 [] := by
  cases event <;> exact .of_same rfl rfl

theorem ofMethod?_ne_ws (method : Method) : Verb.ofMethod? method ≠ some .ws := by
  intro found
  have known := List.mem_of_find?_eq_some found
  exact absurd known (by decide)

theorem reports_dispatch (e : Engine) (id : RequestId) (method : Method) (uri : Uri) (headers : Headers)
    (route : String) : ∃ events, e.Reports (e.dispatch id method uri headers route).2 events 0 [] := by
  unfold dispatch
  dsimp only
  split
  · refine ⟨[e.cut .requestStart id.text []], rfl, ?_, ?_⟩
    · refine ⟨[.requestTaken (Verb.ofMethod? method), .eventQueued .requestStart (e.cut .requestStart id.text []).truncated],
        List.append_assoc _ _ _, rfl, ?_, rfl, rfl⟩
      have taken : (Measurement.requestTaken (Verb.ofMethod? method)).isRequest = true :=
        bne_iff_ne.mpr (ofMethod?_ne_ws method)
      rw [List.countP_cons_of_pos taken]
      rfl
    · intro limit
      have start : EventKind.requestStart = .error → ([] : Bytes) ≠ [] := nofun
      exact List.forall_mem_singleton.mpr (isNothing_cut start limit id.text)
  · exact ⟨[], .of_same rfl rfl⟩

theorem reports_upgrade (e : Engine) (headers : Headers) : e.Reports (e.upgrade headers).2 [] 0 [] := by
  unfold upgrade
  split
  · exact .refl e
  · split
    · exact .refl e
    · exact reports_measure _ rfl rfl

theorem reports_handleRequest (e : Engine) (id : RequestId) (method : Method) (uri : Uri) (headers : Headers) :
    ∃ events, e.Reports (e.handleRequest id method uri headers).2 events 0 [] := by
  unfold handleRequest
  dsimp only
  split
  · exact ⟨[], .refl e⟩
  · split
    · exact ⟨[], e.reports_upgrade headers⟩
    · exact e.reports_dispatch id method uri headers _

theorem reports_receiveBody (e : Engine) (id : RequestId) (data : Bytes) :
    ∃ events, e.Reports (e.receiveBody id data) events 0 [] := by
  unfold receiveBody
  split
  · exact ⟨_, reports_tell _ .requestData (by decide) id.text data⟩
  · exact ⟨[], .refl e⟩

theorem reports_receiveBodyEnd (e : Engine) (id : RequestId) :
    ∃ events, e.Reports (e.receiveBodyEnd id) events 0 [] := by
  unfold receiveBodyEnd
  split
  · exact ⟨_, reports_tell _ .requestEnd (by decide) id.text []⟩
  · exact ⟨[], .refl e⟩

theorem reports_abandonRequest (e : Engine) (id : RequestId) :
    ∃ events, e.Reports (e.abandonRequest id) events 0 [] := by
  have same : e.Reports { e with requests := (e.requests.abort id).2 } [] 0 [] := .of_same rfl rfl
  unfold abandonRequest
  dsimp only
  split
  · exact ⟨_, same.trans (reports_tell _ .requestAbort (by decide) id.text [])⟩
  · exact ⟨[], same⟩

theorem reports_pollBody (e : Engine) (id : RequestId) (n : Nat) :
    ∃ events, e.Reports (e.pollBody id n).2 events 0 [] := by
  have same : e.Reports { e with requests := (e.requests.pollBody n).2.2 } [] 0 [] := .of_same rfl rfl
  unfold pollBody
  dsimp only
  split
  · exact ⟨_, same.trans (reports_tell _ .writable (by decide) id.text _)⟩
  · exact ⟨[], same⟩

theorem reports_send (e : Engine) (id : ConnectionId) (frame : Outbound) :
    e.Reports (e.send id frame).2 [] 0 [(e.send id frame).1] := by
  have same : e.Reports { e with connections := (e.connections.send id frame).2 } [] 0 [] := .of_same rfl rfl
  exact same.trans (reports_measure _ rfl rfl)

theorem reports_broadcast (e : Engine) (frame : Outbound) :
    e.Reports (e.broadcast frame).2 [] 0 (e.connections.broadcast frame).1 where
  queue := (EventQueue.extend_nil _).symm
  log := ⟨_, rfl, .sent_statuses _⟩
  real _ := List.forall_mem_nil _

theorem reports_closed (payload : Bytes) (ids : List ConnectionId) (e : Engine) :
    ∃ events, e.Reports (ids.foldl (fun e id => e.emit .closed id.text payload) e) events 0 [] := by
  induction ids generalizing e with
  | nil => exact ⟨[], .refl e⟩
  | cons id rest ih =>
    obtain ⟨events, later⟩ := ih (e.emit .closed id.text payload)
    exact ⟨_, (e.reports_tell .closed (by decide) id.text payload).trans later⟩

theorem reports_closeConnections (e : Engine) (closure : Closure) :
    ∃ events, e.Reports (e.closeConnections closure).2 events 0 [] := by
  have same : e.Reports (e.shutDown closure).2 [] 0 [] := .of_same rfl rfl
  obtain ⟨events, closed⟩ := reports_closed closure.payload (e.shutDown closure).1 (e.shutDown closure).2
  exact ⟨_, same.trans closed⟩

end Engine

end Gateway
