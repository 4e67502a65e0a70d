import Gateway.Proofs.Service.Moved
import Gateway.Proofs.Service.Standing

namespace Gateway.Service

theorem standing_startSession (v : Service) (id u : Uuid) (config : SessionConfig) (now : Nat) :
    (v.startSession id config now).standing u = (v.standing u).after u v.limit
      (if id = u then
        match (v.engine.openSession ⟨id⟩).1 with
        | some line => .opened line (.start config now)
        | none => .refused
      else .nothing) := by
  have inFlight (u : Uuid) : (v.startSession id config now).engine.requests.has ⟨u⟩ =
      if u = id then (v.standing id).inFlight else v.engine.requests.has ⟨u⟩ := by
    refine Eq.trans ?_ (ite_self_eq (fun u => v.engine.requests.has ⟨u⟩) id u)
    exact congrArg (·.has ⟨u⟩) (v.engine.requests_openSession ⟨id⟩)
  by_cases taken : v.engine.takes ⟨id⟩
  · obtain ⟨line, answer, queue, found⟩ := v.engine.openSession_taken ⟨id⟩ taken
    rw [answer]
    apply standing_of_local v _ id (.opened line (.start config now))
    · rfl
    · intro u
      simp [startSession, setTask, answer, Effect.task, Function.update_apply]
    · exact queue
    · intro u
      refine (found ⟨u⟩).trans ?_
      simp only [ConnectionId.mk.injEq]
      rfl
    · exact inFlight
  · obtain ⟨answer, queue, entries⟩ := v.engine.openSession_refused ⟨id⟩ taken
    rw [answer]
    apply standing_of_local v _ id .refused
    · rfl
    · intro u
      simp [startSession, setTask, answer, Effect.task, Function.update_apply]
    · exact queue.trans (EventQueue.extend_nil _).symm
    · intro u
      refine (ConnectionRegistry.find?_congr entries ⟨u⟩).trans ?_
      exact ite_self_eq (fun u => v.engine.connections.find? ⟨u⟩) id u
    · exact inFlight

theorem standing_complete (v : Service) (id u : Uuid) (line : Nat) (step : SessionStep) :
    (v.complete id line step).standing u =
      (v.standing u).after u v.limit (if id = u then .stepped line step else .nothing) := by
  have entries := v.engine.entries_applyStep ⟨id⟩ line step
  have requests := v.engine.requests_applyStep ⟨id⟩ line step
  have told := v.engine.queue_applyStep ⟨id⟩ line step
  cases finished : step.isOver with
  | true =>
    have live := (ConnectionRegistry.liveLine?_congr entries ⟨id⟩).symm
    have limit : (v.engine.applyStep ⟨id⟩ line step).queue.maxPayload = v.engine.queue.maxPayload := by
      rw [told, EventQueue.maxPayload_extend]
    have whole : v.complete id line step = Service.setTask { v with
        engine := (v.engine.applyStep ⟨id⟩ line step).closeSession ⟨id⟩ line step.session } id .ended := by
      simp only [complete, finished, if_true]
    rw [whole]
    apply standing_of_local v _ id (.stepped line step)
    · rfl
    · intro u
      simp only [setTask, Function.update_apply, Effect.task, finished, if_true]
    · refine (Engine.queue_closeSession _ _ _ _).trans ?_
      rw [Engine.cut_congr limit, told, EventQueue.extend_extend, Effect.events, finished, if_pos rfl,
        Standing.closing, isLive_standing, live]
      rfl
    · intro u
      refine (congrArg (·.find? ⟨u⟩) (Engine.connections_closeSession _ _ _ _)).trans ?_
      simp only [ConnectionRegistry.find?_fade, ConnectionId.mk.injEq, Effect.entry, finished, if_true]
      rw [ConnectionRegistry.find?_congr (ConnectionRegistry.entries_modifyLine _ _ _),
        ConnectionRegistry.find?_congr (ConnectionRegistry.entries_modifyLine _ _ _),
        ConnectionRegistry.find?_congr entries, ConnectionRegistry.find?_congr entries]
      rfl
    · intro u
      refine (congrArg (·.has ⟨u⟩) ((Engine.requests_closeSession _ _ _ _).trans requests)).trans ?_
      exact ite_self_eq (fun u => v.engine.requests.has ⟨u⟩) id u
  | false =>
    have whole : v.complete id line step = Service.setTask { v with
        engine := v.engine.applyStep ⟨id⟩ line step } id (.session line step.session none) := by
      simp only [complete, finished, Bool.false_eq_true, if_false]
    rw [whole]
    apply standing_of_local v _ id (.stepped line step)
    · rfl
    · intro u
      simp only [setTask, Function.update_apply, Effect.task, finished, Bool.false_eq_true, if_false]
    · rw [Effect.events, finished, if_neg Bool.false_ne_true, List.append_nil]
      exact told
    · intro u
      simp only [Effect.entry, finished, Bool.false_eq_true, if_false]
      refine (ConnectionRegistry.find?_congr entries ⟨u⟩).trans ?_
      exact ite_self_eq (fun u => v.engine.connections.find? ⟨u⟩) id u
    · intro u
      refine (congrArg (·.has ⟨u⟩) requests).trans ?_
      exact ite_self_eq (fun u => v.engine.requests.has ⟨u⟩) id u

theorem standing_noticed (v : Service) (u : Uuid) (line : Nat) (event : SessionEvent) :
    standing { v with engine := v.engine.noticed line event } u = v.standing u ∧
      limit { v with engine := v.engine.noticed line event } = v.limit := by
  cases event <;> exact ⟨rfl, rfl⟩

theorem standing_setTask (v : Service) (id u : Uuid) (line : Nat) (session : Session) (since : Nat)
    (event : SessionEvent) : (v.setTask id (.session line session (some (since, event)))).standing u =
      (v.standing u).after u v.limit (if id = u then .waits line session since event else .nothing) := by
  apply standing_of_local v _ id (.waits line session since event)
  · rfl
  · exact fun u => Function.update_apply _ _ _ _
  · exact (EventQueue.extend_nil _).symm
  · exact ite_self_eq (fun u => v.engine.connections.find? ⟨u⟩) id
  · exact ite_self_eq (fun u => v.engine.requests.has ⟨u⟩) id

theorem standing_notice (v : Service) (id u : Uuid) (line : Nat) (session : Session) (now : Nat)
    (event : SessionEvent) : (v.notice id line session now event).standing u =
      (v.standing u).after u v.limit (if id = u then
        if (session.frameOf now event).isSome then .waits line session now event
        else .stepped line (session.step now event (some now))
      else .nothing) := by
  obtain ⟨same, limit⟩ := v.standing_noticed u line event
  unfold notice
  cases written : session.frameOf now event with
  | some frame => exact (standing_setTask _ _ _ _ _ _ _).trans (by rw [same, limit]; rfl)
  | none => exact (standing_complete _ _ _ _ _).trans (by rw [same, limit]; rfl)

theorem standing_fail (v : Service) (id u : Uuid) (line : Nat) :
    (v.fail id line).standing u =
      (v.standing u).after u v.limit (if id = u then .failed line else .nothing) := by
  apply standing_of_local v _ id (.failed line)
  · rfl
  · exact fun u => Function.update_apply _ _ _ _
  · exact (EventQueue.extend_nil _).symm
  · exact ite_self_eq (fun u => v.engine.connections.find? ⟨u⟩) id
  · exact ite_self_eq (fun u => v.engine.requests.has ⟨u⟩) id

theorem standing_moveSession (v : Service) (id u : Uuid) (move : SessionMove) :
    (v.moveSession id move).standing u =
      (v.standing u).after u v.limit (v.effect u (.session id move)) := by
  simp only [effect]
  cases task : v.task id with
  | unused =>
    cases move with
    | start config now =>
      simp only [moveSession, sessionEffect, task]
      exact v.standing_startSession id u config now
    | _ => simp only [moveSession, sessionEffect, task, ite_self, Standing.after_nothing]
  | session line session writing =>
    cases writing with
    | none =>
      simp only [moveSession, sessionEffect, task]
      cases session.event? v.engine line move with
      | none =>
        cases session.breaksOff move with
        | true => exact v.standing_fail id u line
        | false => simp only [Bool.false_eq_true, if_false, ite_self, Standing.after_nothing]
      | some found => exact v.standing_notice id u line session found.1 found.2
    | some writing =>
      cases move with
      | written time =>
        simp only [moveSession, sessionEffect, task]
        exact v.standing_complete id u line _
      | _ => simp only [moveSession, sessionEffect, task, ite_self, Standing.after_nothing]
  | _ => simp only [moveSession, sessionEffect, task, ite_self, Standing.after_nothing]

theorem keeps_complete (v : Service) (id : Uuid) (line : Nat) (step : SessionStep) :
    v.engine.Keeps (v.complete id line step).engine := by
  unfold complete
  dsimp only
  split
  · exact (v.engine.keeps_applyStep _ _ _).trans (Engine.keeps_closeSession _ _ _ _)
  · exact v.engine.keeps_applyStep _ _ _

theorem keeps_moveSession (v : Service) (id : Uuid) (move : SessionMove) :
    v.engine.Keeps (v.moveSession id move).engine := by
  have moved := v.moved id move
  generalize v.moveSession id move = w, v.sessionTurn? id move = turn? at *
  cases moved with
  | nothing => exact .refl _
  | starts => exact v.engine.keeps_openSession ⟨id⟩
  | @waits _ _ _ _ event =>
    have noticed (n : Nat) : v.engine.Keeps (v.engine.noticed n event) := by cases event <;> exact .of_quiet rfl rfl
    exact noticed _
  | completes => exact v.keeps_complete _ _ _
  | fails => exact .of_quiet rfl rfl

theorem possible_sessionEffect (v : Service) (id : Uuid) (move : SessionMove) :
    (v.sessionEffect id move).Possible (v.standing id) := by
  cases task : v.task id with
  | unused =>
    cases move with
    | start config now =>
      simp only [sessionEffect, task]
      cases opened : (v.engine.openSession ⟨id⟩).1 with
      | none => exact task
      | some line =>
        refine ⟨task, ?_⟩
        by_contra used
        have refused := (v.engine.openSession_refused ⟨id⟩ fun taken => used taken.2).1
        rw [refused] at opened
        cases opened
    | _ => simp only [sessionEffect, task, Effect.Possible]
  | session line session writing =>
    cases writing with
    | none =>
      simp only [sessionEffect, task]
      cases session.event? v.engine line move with
      | none =>
        cases breaks : session.breaksOff move with
        | true => exact ⟨session, task, (breaksOff_iff.mp breaks).2⟩
        | false => trivial
      | some found =>
        dsimp only
        split
        · exact task
        · exact ⟨session, none, task⟩
    | some writing =>
      cases move with
      | written time => exact (by simpa only [sessionEffect, task] using ⟨session, some writing, task⟩)
      | _ => simp only [sessionEffect, task, Effect.Possible]
  | _ => simp only [sessionEffect, task, Effect.Possible]

end Gateway.Service
