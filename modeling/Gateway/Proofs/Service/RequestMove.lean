import Gateway.Proofs.Service.Moved

namespace Gateway.Service

open Http (Headers Method Uri)

theorem standing_receive (v : Service) (id u : Uuid) (engine : Engine) (task : Task) (effect : Effect)
    (tasked : effect.task (v.standing id) = task) (entries : effect.entry (v.standing id) = (v.standing id).entry)
    (queue : engine.queue = v.engine.queue.extend (effect.events (v.standing id) id v.limit))
    (connections : engine.connections = v.engine.connections)
    (inFlight : ∀ u, engine.requests.has ⟨u⟩ =
      if u = id then effect.inFlight (v.standing id) else v.engine.requests.has ⟨u⟩) :
    (setTask { v with engine } id task).standing u =
      (v.standing u).after u v.limit (if id = u then effect else .nothing) := by
  apply standing_of_local v _ id effect
  · rfl
  · rw [tasked]
    exact fun u => Function.update_apply _ _ _ _
  · exact queue
  · intro u
    rw [entries]
    refine (congrArg (·.find? ⟨u⟩) connections).trans ?_
    exact ite_self_eq (fun u => v.engine.connections.find? ⟨u⟩) id u
  · exact inFlight

theorem standing_begins (v : Service) (id u : Uuid) {method : Method} {uri : Uri} {headers : Headers} {n : Nat}
    (taken : (v.engine.handleRequest ⟨id⟩ method uri headers).1 = .dispatched n) :
    (setTask { v with engine := (v.engine.handleRequest ⟨id⟩ method uri headers).2 } id
        (.request n true true)).standing u =
      (v.standing u).after u v.limit (if id = u then .begun n else .nothing) := by
  rcases v.engine.handleRequest_cases ⟨id⟩ method uri headers with ⟨_, _, queue, has⟩ | ⟨other, _⟩
  · apply v.standing_receive id u _ _ (.begun n) rfl rfl queue (v.engine.connections_handleRequest _ _ _ _)
    intro u
    refine (has ⟨u⟩).trans ?_
    by_cases same : u = id
    · subst same
      simp [Effect.inFlight]
    · simp [same, Ne.symm same]
  · exact absurd taken (other n)

theorem standing_letGo (v : Service) (id u : Uuid) {n : Nat} {isReading : Bool}
    (asked : v.task id = .request n isReading true) :
    (setTask { v with engine := (v.engine.dropBody n).abandonRequest ⟨id⟩ } id (.request n isReading false)).standing u =
      (v.standing u).after u v.limit (if id = u then .letGo else .nothing) := by
  have tasked : Effect.letGo.task (v.standing id) = .request n isReading false := congrArg Task.release asked
  apply v.standing_receive id u _ _ .letGo tasked rfl
  · exact (v.engine.dropBody n).queue_abandonRequest ⟨id⟩
  · exact (v.engine.dropBody n).connections_abandonRequest ⟨id⟩
  · intro u
    rw [Engine.requests_abandonRequest, RequestRegistry.has_abort]
    by_cases own : u = id
    · simp [own, Effect.inFlight]
    · have other : ((⟨u⟩ : RequestId) != ⟨id⟩) = true := by simpa using own
      rw [other, Bool.and_true, if_neg own]
      exact RequestRegistry.has_congr (RequestRegistry.records_modifyResponse _ _ _) _

theorem has_pollBody (e : Engine) (id : RequestId) (n : Nat) (other : RequestId) :
    (e.pollBody id n).2.requests.has other = e.requests.has other := by
  have records := congrArg (·.records) (e.requests_pollBody id n)
  exact RequestRegistry.has_congr (records.trans (RequestRegistry.records_pollBody _ _)) other

theorem standing_moveRequest (v : Service) (id u : Uuid) (move : RequestMove) :
    (v.moveRequest id move).standing u =
      (v.standing u).after u v.limit (v.effect u (.request id move)) := by
  have same (u : Uuid) := ite_self_eq (fun u => v.engine.requests.has ⟨u⟩) id u
  have moved := v.requestMoved id move
  simp only [effect]
  generalize v.requestEffect id move = effect, v.moveRequest id move = w at *
  cases moved with
  | nothing => rw [ite_self, Standing.after_nothing]
  | begins _ taken => exact v.standing_begins id u taken
  | @answered method uri headers other =>
    rw [ite_self, Standing.after_nothing]
    rcases v.engine.handleRequest_cases ⟨id⟩ method uri headers with ⟨⟨n, taken⟩, _⟩ | ⟨_, queue, has⟩
    · exact absurd taken (other n)
    · exact v.standing_engine _ queue (congrArg (·.entries) (v.engine.connections_handleRequest _ _ _ _)) has u
  | bodyPart _ data =>
    rw [← setTask_self { v with engine := v.engine.receiveBody ⟨id⟩ data } id]
    apply v.standing_receive id u _ _ (.bodyPart data) rfl rfl
    · exact v.engine.queue_receiveBody ⟨id⟩ data
    · exact v.engine.connections_receiveBody ⟨id⟩ data
    · exact fun u => (congrArg (·.has ⟨u⟩) (v.engine.requests_receiveBody ⟨id⟩ data)).trans (same u)
  | @bodyEnd n isGuarded asked =>
    have stopped : Effect.bodyEnd.task (v.standing id) = .request n false isGuarded := congrArg Task.stopReading asked
    apply v.standing_receive id u _ _ .bodyEnd stopped rfl
    · exact v.engine.queue_receiveBodyEnd ⟨id⟩
    · exact v.engine.connections_receiveBodyEnd ⟨id⟩
    · exact fun u => (congrArg (·.has ⟨u⟩) (v.engine.requests_receiveBodyEnd ⟨id⟩)).trans (same u)
  | @bodyLost n isGuarded asked =>
    have stopped : Effect.bodyLost.task (v.standing id) = .request n false isGuarded := congrArg Task.stopReading asked
    have quiet : v.engine.queue = v.engine.queue.extend [] := (EventQueue.extend_nil _).symm
    exact v.standing_receive id u v.engine _ .bodyLost stopped rfl quiet rfl same
  | pollHead n =>
    rw [ite_self, Standing.after_nothing]
    exact v.standing_engine (v.engine.pollHead n).2 rfl rfl
      (RequestRegistry.has_congr (RequestRegistry.records_pollHead _ _)) u
  | @drains n written _ _ drained =>
    have queue := v.engine.queue_pollBody ⟨id⟩ n
    rw [drained] at queue
    rw [← setTask_self { v with engine := (v.engine.pollBody ⟨id⟩ n).2 } id]
    exact v.standing_receive id u _ _ (.drained written) rfl rfl queue (v.engine.connections_pollBody ⟨id⟩ n)
      fun u => (has_pollBody _ _ _ _).trans (same u)
  | @pollBody n silent =>
    have queue := v.engine.queue_pollBody ⟨id⟩ n
    rw [silent] at queue
    rw [ite_self, Standing.after_nothing]
    exact v.standing_engine _ (queue.trans (EventQueue.extend_nil _))
      (congrArg (·.entries) (v.engine.connections_pollBody ⟨id⟩ n)) (has_pollBody _ _ _) u
  | hangUp n =>
    rw [ite_self, Standing.after_nothing]
    exact v.standing_engine (v.engine.dropBody n) rfl rfl
      (RequestRegistry.has_congr (RequestRegistry.records_modifyResponse _ _ _)) u
  | letGo asked => exact v.standing_letGo id u asked

theorem keeps_moveRequest (v : Service) (id : Uuid) (move : RequestMove) :
    v.engine.Keeps (v.moveRequest id move).engine := by
  have moved := v.requestMoved id move
  generalize v.requestEffect id move = effect, v.moveRequest id move = w at *
  cases moved with
  | nothing | bodyLost => exact .refl _
  | begins | answered => exact v.engine.keeps_handleRequest _ _ _ _
  | bodyPart =>
    exact .of_entries (v.engine.queue_receiveBody _ _) (congrArg (·.entries) (v.engine.connections_receiveBody _ _))
  | bodyEnd =>
    exact .of_entries (v.engine.queue_receiveBodyEnd _) (congrArg (·.entries) (v.engine.connections_receiveBodyEnd _))
  | pollHead | hangUp => exact .of_quiet rfl rfl
  | drains | pollBody =>
    exact .of_entries (v.engine.queue_pollBody _ _) (congrArg (·.entries) (v.engine.connections_pollBody _ _))
  | letGo =>
    exact .of_entries (Engine.queue_abandonRequest _ _) (congrArg (·.entries) (Engine.connections_abandonRequest _ _))

theorem possible_requestEffect (v : Service) (id : Uuid) (move : RequestMove) :
    (v.requestEffect id move).Possible (v.standing id) := by
  have moved := v.requestMoved id move
  generalize v.requestEffect id move = effect, v.moveRequest id move = w at *
  cases moved with
  | nothing | answered | pollHead | pollBody | hangUp => trivial
  | @begins method uri headers n unused taken =>
    rcases v.engine.handleRequest_cases ⟨id⟩ method uri headers with ⟨_, free, _⟩ | ⟨other, _⟩
    · exact ⟨unused, free⟩
    · exact absurd taken (other n)
  | bodyPart asked | bodyEnd asked | bodyLost asked | drains asked | letGo asked => exact ⟨_, _, asked⟩

end Gateway.Service
