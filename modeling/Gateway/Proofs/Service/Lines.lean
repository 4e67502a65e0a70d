import Gateway.Proofs.Engine.Lines
import Gateway.Proofs.Service.Simulation

namespace Gateway

open ConnectionRegistry (line?_modifyLine)
open WebSocket (Closure Outbound)
open WebSocket.Outbound (dataFrames total)

inductive HandleMove where
  | hold
  | release
  | send (frame : Outbound) (policy : BackpressurePolicy)
  | close (closure : Closure)
  deriving DecidableEq, Repr

inductive OpenMove where
  | move (move : Move)
  /-- The registry lets a connection go, and with it the end of its line. -/
  | letGo (id : ConnectionId)
  | handle (line : Nat) (move : HandleMove)
  deriving DecidableEq, Repr

def HandleMove.apply (line : Line) : HandleMove → Line
  | hold => line.hold
  | release => line.release
  | send frame policy => (line.send frame policy).2
  | close closure => (line.close closure).2

def Task.Asks : Task → Prop
  | unused | request _ _ _ => True
  | _ => False

def Service.openStep (v : Service) : OpenMove → Service
  | .move move => v.step move
  | .letGo id => { v with engine := (v.engine.fade id).2 }
  | .handle n move => { v with engine := v.engine.modifyLine n move.apply }

/-! Frames that others add to a line. -/

structure Line.Fed (line : Line) (frames : List Outbound) (after : Line) : Prop where
  id_eq : after.id = line.id
  receiving_eq : after.receiving = line.receiving
  queued : after.queued = line.queued ++ frames
  counted : line.buffered + total (dataFrames frames) ≤ after.buffered

theorem Line.Fed.same (line : Line) : line.Fed [] line := ⟨rfl, rfl, (List.append_nil _).symm, Nat.le_refl _⟩

theorem Line.Gains.fed {policy : BackpressurePolicy} {sent : Option Outbound} {line after : Line}
    {frames : List Outbound} (gains : line.Gains policy sent frames after) : line.Fed frames after := by
  refine ⟨gains.id_eq, gains.receiving_eq, gains.queued, ?_⟩
  cases gains with
  | nothing => exact Nat.le_refl _
  | @frame frame given receiving room =>
    have counts : total (dataFrames [frame]) ≤ frame.size := by
      cases frame with
      | close => exact Nat.zero_le _
      | text | binary => exact Nat.le_refl _
    exact Nat.add_le_add_left counts _
  | close closure receiving => exact Nat.le_refl _

theorem HandleMove.fed (line : Line) (move : HandleMove) : ∃ frames, line.Fed frames (move.apply line) := by
  cases move with
  | hold | release => exact ⟨[], rfl, rfl, (List.append_nil _).symm, Nat.le_refl _⟩
  | send frame policy =>
    obtain ⟨frames, gains⟩ := line.gains_send frame policy
    exact ⟨frames, gains.fed⟩
  | close closure =>
    obtain ⟨frames, gains⟩ := line.gains_close {} none closure
    exact ⟨frames, gains.fed⟩

/-! What a call of the host is to the registry of connections. -/

namespace HostMove

def connectionCall? : HostMove → Option ConnectionCall
  | closeConnections closure => some (.shutDown closure)
  | reopen => some .reopen
  | purge => some .purge
  | send id frame => some (.send id frame)
  | broadcast frame => some (.broadcast frame)
  | disconnect id closure => some (.disconnect id closure)
  | _ => none

theorem connections_apply (e : Engine) (move : HostMove) :
    (move.apply e).connections = (move.connectionCall?.map e.connections.call).getD e.connections := by
  cases move with
  | closeConnections closure => exact e.connections_closeConnections closure
  | _ => rfl

theorem adds_connectionCall? {move : HostMove} {asked : ConnectionCall} (asks : move.connectionCall? = some asked) :
    asked.Adds ∧ ∀ id n, asked ≠ .register id n := by
  cases move <;> cases asks <;> exact ⟨trivial, nofun⟩

end HostMove

/-! The registry after a move. -/

namespace ConnectionRegistry

def Continues (r s : ConnectionRegistry) : Prop :=
  r.Wired → s.Wired ∧ ∀ n id, (r.line? n).map (·.id) = some id → (s.line? n).map (·.id) = some id

theorem Continues.refl (r : ConnectionRegistry) : r.Continues r := fun wired => ⟨wired, fun _ _ own => own⟩

theorem Continues.trans {r s t : ConnectionRegistry} (first : r.Continues s) (second : s.Continues t) :
    r.Continues t := by
  intro wired
  obtain ⟨wired, kept⟩ := first wired
  obtain ⟨wired, again⟩ := second wired
  exact ⟨wired, fun n id own => again n id (kept n id own)⟩

theorem continues_call (r : ConnectionRegistry) {call : ConnectionCall} (adds : call.Adds)
    (registers : ∀ id n, call ≠ .register id n) : r.Continues (r.call call) := by
  refine fun wired => ⟨wired.call adds fun id n same => absurd same (registers id n), fun n id own => ?_⟩
  obtain ⟨line, found, rfl⟩ := Option.map_eq_some_iff.mp own
  obtain ⟨after, _, left, gains⟩ := wired.gains adds found
  rw [left, ← gains.id_eq]
  rfl

theorem continues_fade (r : ConnectionRegistry) (id : ConnectionId) : r.Continues (r.fade id).2 := by
  have fade : (ConnectionCall.fade id).Adds := trivial
  exact r.continues_call fade nofun

theorem continues_modifyLine (r : ConnectionRegistry) (n : Nat) {f : Line → Line} (keeps : ∀ line, (f line).id = line.id) :
    r.Continues (r.modifyLine n f) := by
  refine fun wired => ⟨wired.modifyLine n keeps, fun m id own => ?_⟩
  rw [line?_modifyLine, ← own]
  split
  · rw [Option.map_map]
    exact Option.map_congr fun line _ => keeps line
  · rfl

end ConnectionRegistry

namespace Engine

open ConnectionRegistry (Continues)

theorem continues_openSession (e : Engine) (id : ConnectionId) :
    e.connections.Continues (e.openSession id).2.connections := by
  refine fun wired => ⟨wired_openSession wired id, fun n other own => ?_⟩
  rw [line?_openSession, ← own]
  split
  · rename_i last
    obtain ⟨line, found, _⟩ := Option.map_eq_some_iff.mp own
    exact absurd (List.getElem?_eq_some_iff.mp found).1 (by omega)
  · rfl

theorem openSession_opened {e : Engine} {id : ConnectionId} {n : Nat} (opened : (e.openSession id).1 = some n) :
    (e.openSession id).2.connections.line? n = some (.opened id) := by
  have answer : (e.openSession id).1 = if (e.registered id).1 then some (e.connections.openLine id).1 else none := by
    unfold registered
    cases accepted : ((e.connections.openLine id).2.register id (e.connections.openLine id).1).1 <;>
      simp [openSession_eq, openLine, register, accepted]
  rw [answer] at opened
  split at opened
  · rename_i accepted
    cases opened
    exact (e.line?_openSession id _).trans ((if_pos rfl).trans (congrArg some (if_pos accepted)))
  · cases opened

theorem connections_applyStep (e : Engine) (id : ConnectionId) (n : Nat) (step : SessionStep) :
    (e.applyStep id n step).connections = e.connections.modifyLine n (·.flush step.flushed) := by
  unfold applyStep
  cases step.message <;> rfl

theorem continues_closeSession (e : Engine) (id : ConnectionId) (n : Nat) (session : Session) :
    e.connections.Continues (e.closeSession id n session).connections := by
  have hung := e.connections.continues_modifyLine n (f := Line.hangUp) fun _ => rfl
  rw [connections_closeSession]
  exact hung.trans (ConnectionRegistry.continues_fade _ id)

theorem continues_noticed (e : Engine) (n : Nat) (event : SessionEvent) :
    e.connections.Continues (e.noticed n event).connections := by
  cases event with
  | outbound frame => exact e.connections.continues_modifyLine n fun _ => rfl
  | _ => exact .refl _

end Engine

namespace Service

open ConnectionRegistry (Continues)

theorem continues_complete (v : Service) (id : Uuid) (n : Nat) (step : SessionStep) :
    v.engine.connections.Continues (v.complete id n step).engine.connections := by
  have applied : v.engine.connections.Continues (v.engine.applyStep ⟨id⟩ n step).connections := by
    rw [Engine.connections_applyStep]
    exact v.engine.connections.continues_modifyLine n fun _ => rfl
  unfold complete
  dsimp only
  split
  · exact applied.trans (Engine.continues_closeSession _ _ _ _)
  · exact applied

theorem continues_moveSession (v : Service) (id : Uuid) (move : SessionMove) :
    v.engine.connections.Continues (v.moveSession id move).engine.connections := by
  have moved := v.moved id move
  generalize v.moveSession id move = w, v.sessionTurn? id move = turn? at *
  cases moved with
  | nothing => exact .refl _
  | starts => exact v.engine.continues_openSession ⟨id⟩
  | waits => exact v.engine.continues_noticed _ _
  | completes => exact v.continues_complete _ _ _
  | fails => exact v.engine.connections.continues_modifyLine _ fun _ => rfl

theorem connections_moveRequest (v : Service) (id : Uuid) (move : RequestMove) :
    (v.moveRequest id move).engine.connections = v.engine.connections := by
  have moved := v.requestMoved id move
  generalize v.requestEffect id move = effect, v.moveRequest id move = w at *
  cases moved with
  | nothing | bodyLost | pollHead | hangUp => rfl
  | begins | answered => exact v.engine.connections_handleRequest _ _ _ _
  | bodyPart => exact v.engine.connections_receiveBody _ _
  | bodyEnd => exact v.engine.connections_receiveBodyEnd _
  | drains | pollBody => exact v.engine.connections_pollBody _ _
  | letGo => exact Engine.connections_abandonRequest _ _

theorem continues_openStep (v : Service) (move : OpenMove) :
    v.engine.connections.Continues (v.openStep move).engine.connections := by
  cases move with
  | move move =>
    cases move with
    | session id move => exact v.continues_moveSession id move
    | request id move =>
      rw [openStep, step, connections_moveRequest]
      exact .refl _
    | host move =>
      rw [openStep, step, HostMove.connections_apply]
      cases asks : move.connectionCall? with
      | none => exact .refl _
      | some asked =>
        obtain ⟨adds, registers⟩ := HostMove.adds_connectionCall? asks
        exact v.engine.connections.continues_call adds registers
    | pop | drain => exact .refl _
  | letGo id => exact v.engine.connections.continues_fade id
  | handle n move =>
    refine v.engine.connections.continues_modifyLine n fun line => ?_
    obtain ⟨frames, fed⟩ := move.fed line
    exact fed.id_eq

/-! Tasks. -/

theorem task_moveSession_of_ne (v : Service) {id u : Uuid} (other : u ≠ id) (move : SessionMove) :
    (v.moveSession id move).task u = v.task u := by
  have set (w : Service) (task : Task) : (w.setTask id task).task u = w.task u := Function.update_of_ne other _ _
  have moved := v.moved id move
  generalize v.moveSession id move = w, v.sessionTurn? id move = turn? at *
  cases moved with
  | nothing => rfl
  | starts => exact set _ _
  | waits => exact set _ _
  | completes =>
    unfold complete
    dsimp only
    split <;> exact set _ _
  | fails => exact set _ _

theorem task_moveRequest (v : Service) (id u : Uuid) (move : RequestMove) :
    (v.moveRequest id move).task u = v.task u ∨ (v.task u).Asks ∧ ((v.moveRequest id move).task u).Asks := by
  have set (w : Service) {task : Task} (same : w.task = v.task) (before : (v.task id).Asks) (after : task.Asks) :
      (w.setTask id task).task u = v.task u ∨ (v.task u).Asks ∧ ((w.setTask id task).task u).Asks := by
    by_cases here : u = id
    · subst here
      refine .inr ⟨before, ?_⟩
      rwa [show (w.setTask u task).task u = task from Function.update_self _ _ _]
    · exact .inl ((Function.update_of_ne here _ _).trans (congrFun same u))
  have moved := v.requestMoved id move
  generalize v.requestEffect id move = effect, v.moveRequest id move = w at *
  cases moved with
  | nothing | answered | bodyPart | pollHead | drains | pollBody | hangUp => exact .inl rfl
  | begins unused => exact set _ rfl (by rw [unused]; trivial) trivial
  | bodyEnd asked | bodyLost asked | letGo asked => exact set _ rfl (by rw [asked]; trivial) trivial

theorem task_openStep (v : Service) {u : Uuid} {move : OpenMove} (apart : ∀ own, move ≠ .move (.session u own)) :
    (v.openStep move).task u = v.task u ∨ (v.task u).Asks ∧ ((v.openStep move).task u).Asks := by
  cases move with
  | move move =>
    cases move with
    | session id move => exact .inl (v.task_moveSession_of_ne (fun same => apart move (by rw [same])) move)
    | request id move => exact v.task_moveRequest id u move
    | host move => exact .inl rfl
    | pop | drain => exact .inl rfl
  | letGo | handle => exact .inl rfl

theorem task_kept (v : Service) {u : Uuid} {move : OpenMove} (apart : ∀ own, move ≠ .move (.session u own))
    (settled : ¬(v.task u).Asks) : (v.openStep move).task u = v.task u := by
  rcases v.task_openStep apart with same | ⟨asks, _⟩
  · exact same
  · exact absurd asks settled

/-! The line of a session. -/

def line? (v : Service) (n : Nat) : Option Line := v.engine.connections.line? n

structure Placed (v : Service) : Prop where
  wired : v.engine.connections.Wired
  own : ∀ u n session writing, v.task u = .session n session writing → (v.line? n).map (·.id) = some ⟨u⟩

theorem placed_start (config : ServerConfig) : (start config).Placed :=
  ⟨ConnectionRegistry.wired_empty _, fun _ _ _ _ task => Task.noConfusion task⟩

theorem line?_complete (v : Service) (id : Uuid) (n m : Nat) (step : SessionStep) :
    (v.complete id n step).line? m =
      if n = m then (v.line? m).map fun line =>
        if step.isOver then (line.flush step.flushed).hangUp else line.flush step.flushed
      else v.line? m := by
  have applied : (v.engine.applyStep ⟨id⟩ n step).connections.line? m =
      if n = m then (v.line? m).map (·.flush step.flushed) else v.line? m := by
    rw [Engine.connections_applyStep, line?_modifyLine]
    rfl
  unfold complete line?
  dsimp only
  split
  · refine (Engine.line?_closeSession _ _ _ _ _).trans ?_
    rw [applied]
    split
    · exact Option.map_map ..
    · rfl
  · exact applied

theorem line?_noticed_of_ne (v : Service) {n m : Nat} (other : n ≠ m) (event : SessionEvent) :
    (v.engine.noticed n event).connections.line? m = v.line? m := by
  cases event with
  | outbound frame =>
    refine (line?_modifyLine _ _ _ _).trans ?_
    rw [if_neg other]
    rfl
  | _ => rfl

theorem line?_moveSession_of_ne (v : Service) {id : Uuid} {m : Nat} {line : Line} (found : v.line? m = some line)
    (others : ∀ session writing, v.task id ≠ .session m session writing) (move : SessionMove) :
    (v.moveSession id move).line? m = some line := by
  rw [← found]
  have other {n : Nat} {session : Session} {writing : Option (Nat × SessionEvent)}
      (task : v.task id = .session n session writing) : n ≠ m := by
    rintro rfl
    exact others _ _ task
  have moved := v.moved id move
  generalize v.moveSession id move = w, v.sessionTurn? id move = turn? at *
  cases moved with
  | nothing => rfl
  | starts =>
    refine (v.engine.line?_openSession ⟨id⟩ m).trans (if_neg ?_)
    have inside := (List.getElem?_eq_some_iff.mp found).1
    omega
  | waits task => exact v.line?_noticed_of_ne (other task) _
  | completes task => rw [line?_complete, if_neg (other task)]
  | fails task => exact (line?_modifyLine _ _ _ _).trans (if_neg (other task))

theorem Placed.others {v : Service} (placed : v.Placed) {u id : Uuid} {n : Nat} {session : Session}
    {writing : Option (Nat × SessionEvent)} (task : v.task u = .session n session writing) (other : u ≠ id)
    (s : Session) (w : Option (Nat × SessionEvent)) : v.task id ≠ .session n s w := by
  intro same
  have both := (placed.own u n session writing task).symm.trans (placed.own id n s w same)
  cases both
  exact other rfl

theorem Placed.fed {v : Service} (placed : v.Placed) {u : Uuid} {n : Nat} {session : Session}
    {writing : Option (Nat × SessionEvent)} (task : v.task u = .session n session writing) {line : Line}
    (found : v.line? n = some line) {move : OpenMove} (apart : ∀ own, move ≠ .move (.session u own)) :
    ∃ after frames, (v.openStep move).line? n = some after ∧ line.Fed frames after := by
  have same (unchanged : (v.openStep move).line? n = v.line? n) :
      ∃ after frames, (v.openStep move).line? n = some after ∧ line.Fed frames after :=
    ⟨line, [], unchanged.trans found, .same line⟩
  cases move with
  | move move =>
    cases move with
    | session id move =>
      have other : u ≠ id := fun equal => apart move (equal ▸ rfl)
      exact same ((v.line?_moveSession_of_ne found (placed.others task other) move).trans found.symm)
    | request id move => exact same (congrArg (·.line? n) (v.connections_moveRequest id move))
    | host move =>
      have connections := move.connections_apply v.engine
      cases asks : move.connectionCall? with
      | none =>
        rw [asks] at connections
        exact same (congrArg (·.line? n) connections)
      | some asked =>
        rw [asks] at connections
        obtain ⟨adds, _⟩ := HostMove.adds_connectionCall? asks
        obtain ⟨after, frames, left, gains⟩ := placed.wired.gains adds found
        exact ⟨after, frames, (congrArg (·.line? n) connections).trans left, gains.fed⟩
    | pop | drain => exact same rfl
  | letGo id =>
    obtain ⟨after, frames, left, gains⟩ := placed.wired.gains (show (ConnectionCall.fade id).Adds from trivial) found
    exact ⟨after, frames, left, gains.fed⟩
  | handle m move =>
    have after := line?_modifyLine v.engine.connections m n move.apply
    obtain ⟨frames, fed⟩ := move.fed line
    by_cases here : m = n
    · rw [if_pos here, show v.engine.connections.line? n = some line from found] at after
      exact ⟨_, frames, after, fed⟩
    · rw [if_neg here] at after
      exact same after

end Service

/-! What a session notices. -/

namespace Session

variable {s : Session} {e : Engine} {n : Nat} {move : SessionMove} {now : Nat} {event : SessionEvent}

theorem queued_of_event? {frame : Outbound} (noticed : s.event? e n move = some (now, .outbound frame)) {line : Line}
    (found : e.connections.line? n = some line) : line.queued = frame :: line.advance.queued := by
  obtain ⟨deadline, _, noticed⟩ := Option.bind_eq_some_iff.mp noticed
  cases move with
  | take time =>
    simp only [found, Option.bind_some] at noticed
    split at noticed
    · unfold Line.take? at noticed
      unfold Line.advance
      split at noticed
      · rename_i taken
        split at taken
        · cases taken
        · rename_i queued
          cases taken
          cases noticed
          rw [queued]
          rfl
      · split at noticed <;> cases noticed
    · cases noticed
  | wake time =>
    dsimp only at noticed
    split at noticed <;> cases noticed
  | read | readEnd | start | written | fail => cases noticed

end Session

namespace Service

theorem task_setTask (v : Service) (u : Uuid) (task : Task) : (v.setTask u task).task u = task :=
  Function.update_self _ _ _

theorem task_complete (v : Service) (u : Uuid) (n : Nat) (step : SessionStep) :
    (v.complete u n step).task u = if step.isOver then .ended else .session n step.session none := by
  unfold complete
  dsimp only
  split <;> exact task_setTask _ _ _

theorem task_startSession (v : Service) (u : Uuid) (config : SessionConfig) (now : Nat) :
    (v.startSession u config now).task u =
      match (v.engine.openSession ⟨u⟩).1 with
      | some line => .session line (.start config now) none
      | none => .refused :=
  task_setTask _ _ _

theorem Placed.openStep {v : Service} (placed : v.Placed) (move : OpenMove) : (v.openStep move).Placed := by
  obtain ⟨wired, kept⟩ := v.continues_openStep move placed.wired
  refine ⟨wired, fun u n session writing task => ?_⟩
  by_cases own : ∃ m, move = .move (.session u m)
  · obtain ⟨m, rfl⟩ := own
    have moved := v.moved u m
    change (v.moveSession u m).task u = _ at task
    change ∀ n id, _ → ((v.moveSession u m).line? n).map _ = _ at kept
    change ((v.moveSession u m).line? n).map _ = _
    generalize v.moveSession u m = after, v.sessionTurn? u m = turn? at *
    cases moved with
    | nothing => exact placed.own u n session writing task
    | starts unused config now =>
      rw [task_startSession] at task
      split at task
      · rename_i line opened
        cases task
        exact congrArg (Option.map (·.id)) (Engine.openSession_opened opened)
      · cases task
    | waits before noticed writes =>
      cases (task_setTask _ _ _).symm.trans task
      exact kept n _ (placed.own u n _ _ before)
    | completes before =>
      rw [task_complete] at task
      split at task
      · cases task
      · cases task
        exact kept n _ (placed.own u n _ _ before)
    | fails => cases (task_setTask _ _ _).symm.trans task
  · have apart : ∀ m, move ≠ .move (.session u m) := fun m same => own ⟨m, same⟩
    rcases v.task_openStep apart with same | ⟨_, asks⟩
    · exact kept n _ (placed.own u n session writing (same.symm.trans task))
    · rw [task] at asks
      exact asks.elim

end Service

end Gateway
