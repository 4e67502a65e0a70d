import Gateway.Proofs.Service.HostMove
import Gateway.Proofs.Service.RequestMove
import Gateway.Proofs.Service.SessionMove

namespace Gateway.Service

theorem history_pop (v : Service) : (v.step .pop).history = v.history := by
  simp only [step, history, Engine.withQueue, EventQueue.peek?, EventQueue.pop]
  cases events : v.engine.queue.events <;> simp [events]

theorem history_drain (v : Service) (count : Nat) : (v.step (.drain count)).history = v.history := by
  simp only [step, history, Engine.withQueue, EventQueue.drain, List.append_assoc, List.take_append_drop]

theorem standing_step (v : Service) (u : Uuid) (move : Move) (distinct : v.engine.connections.Distinct) :
    (v.step move).standing u = (v.standing u).after u v.limit (v.effect u move) := by
  cases move with
  | session id move => exact v.standing_moveSession id u move
  | request id move => exact v.standing_moveRequest id u move
  | host move => exact v.standing_host u move distinct
  | pop =>
    simp only [effect, Standing.after_nothing, standing, told, history_pop]
    rfl
  | drain count =>
    simp only [effect, Standing.after_nothing, standing, told, history_drain]
    rfl

theorem task_step (v : Service) (u : Uuid) (move : Move) (distinct : v.engine.connections.Distinct) :
    (v.step move).task u = (v.effect u move).task (v.standing u) :=
  congrArg Standing.task (v.standing_step u move distinct)

theorem keeps_step (v : Service) (move : Move) : v.engine.Keeps (v.step move).engine := by
  cases move with
  | session id move => exact v.keeps_moveSession id move
  | request id move => exact v.keeps_moveRequest id move
  | host move => exact keeps_host v.engine move
  | pop =>
    refine ⟨?_, fun distinct => distinct⟩
    simp only [step, Engine.withQueue, EventQueue.pop]
    split <;> rfl
  | drain count => exact ⟨rfl, fun distinct => distinct⟩

theorem keeps_run (v : Service) (moves : List Move) : v.engine.Keeps (v.run moves).engine := by
  induction moves generalizing v with
  | nil => exact .refl _
  | cons move rest ih => exact (v.keeps_step move).trans (ih _)

theorem distinct_start (config : ServerConfig) : (start config).engine.connections.Distinct := List.nodup_nil

theorem distinct_run (config : ServerConfig) (moves : List Move) :
    ((start config).run moves).engine.connections.Distinct :=
  (keeps_run _ moves).distinct (distinct_start config)

theorem possible_effect (v : Service) (u : Uuid) (move : Move) :
    (v.effect u move).Possible (v.standing u) := by
  cases move with
  | session id move =>
    simp only [effect]
    split
    · rename_i same
      subst same
      exact v.possible_sessionEffect id move
    · trivial
  | request id move =>
    simp only [effect]
    split
    · rename_i same
      subst same
      exact v.possible_requestEffect id move
    · trivial
  | host move =>
    cases move <;> simp only [effect, hostEffect] <;> (try split) <;> trivial
  | pop => trivial
  | drain count => trivial

theorem standing_kept {invariant : Standing → Prop} {v : Service} {u : Uuid}
    (distinct : v.engine.connections.Distinct)
    (kept : ∀ s (effect : Effect), effect.Possible s → invariant s → invariant (s.after u v.limit effect))
    (holds : invariant (v.standing u)) (move : Move) : invariant ((v.step move).standing u) := by
  rw [v.standing_step u move distinct]
  exact kept _ _ (v.possible_effect u move) holds

theorem standing_induction {invariant : Standing → Prop} (config : ServerConfig) (u : Uuid)
    (initial : invariant ⟨.unused, [], none, false⟩)
    (kept : ∀ s (effect : Effect), effect.Possible s → invariant s →
      invariant (s.after u config.maxPayloadSize effect)) (moves : List Move) :
    invariant (((start config).run moves).standing u) := by
  suffices general : ∀ v : Service, v.engine.connections.Distinct → v.limit = config.maxPayloadSize →
      invariant (v.standing u) → invariant ((v.run moves).standing u) from
    general (start config) (distinct_start config) rfl initial
  intro v distinct limit holds
  induction moves generalizing v with
  | nil => exact holds
  | cons move rest ih =>
    have keeps := v.keeps_step move
    have next := standing_kept distinct (by rwa [limit]) holds move
    exact ih (v.step move) (keeps.distinct distinct) (keeps.limit.trans limit) next

end Gateway.Service
