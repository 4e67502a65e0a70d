import Gateway.Proofs.Abi.Events
import Gateway.Proofs.Server.Deployment

namespace Gateway

namespace Service

theorem complete_withPulled (v : Service) (pulled : List Envelope) (id : Uuid) (line : Nat) (step : SessionStep) :
    complete { v with pulled } id line step = { v.complete id line step with pulled } := by
  unfold complete
  dsimp only
  split <;> rfl

theorem notice_withPulled (v : Service) (pulled : List Envelope) (id : Uuid) (line : Nat) (session : Session)
    (now : Nat) (event : SessionEvent) :
    notice { v with pulled } id line session now event = { v.notice id line session now event with pulled } := by
  unfold notice
  cases session.frameOf now event with
  | some frame => rfl
  | none =>
    exact complete_withPulled { v with engine := v.engine.noticed line event } pulled id line
      (session.step now event (some now))

theorem moveSession_withPulled (v : Service) (pulled : List Envelope) (id : Uuid) (move : SessionMove) :
    moveSession { v with pulled } id move = { v.moveSession id move with pulled } := by
  unfold moveSession
  dsimp only
  split
  · rfl
  · exact v.complete_withPulled pulled id _ _
  · split
    · exact v.notice_withPulled pulled id _ _ _ _
    · split <;> rfl
  · rfl

theorem moveRequest_withPulled (v : Service) (pulled : List Envelope) (id : Uuid) (move : RequestMove) :
    moveRequest { v with pulled } id move = { v.moveRequest id move with pulled } := by
  unfold moveRequest
  dsimp only
  split
  · split <;> rfl
  all_goals rfl

end Service

namespace Abi.Embedding

variable {e : Embedding}

def Deployed (e : Embedding) : Prop := ∀ s, e.host.server = some s → ∃ config moves,
  ((Deployment.create config).run moves).server = s ∧ ((Deployment.create config).run moves).task = e.task

theorem deployed_start : start.Deployed := by
  intro s held
  cases held

theorem deployed_new (h : Host) (config : Except Failure ServerConfig) :
    Deployed ⟨(h.hold (config.map .create)).2, fun _ => .unused⟩ := by
  intro s held
  cases config with
  | error failure => cases held
  | ok config =>
    cases held
    exact ⟨config, [], rfl, rfl⟩

/-- The host keeps its server with the tasks beside it, or the two are what a move of a run makes of them. -/
theorem Deployed.kept (deployed : e.Deployed) {next : Embedding}
    (goes : ∀ after, next.host.server = some after → ∃ s, e.host.server = some s ∧ (s = after ∧ e.task = next.task ∨
      ∃ move : DeploymentMove, ∀ d : Deployment, d.server = s → d.task = e.task →
        (d.step move).server = after ∧ (d.step move).task = next.task)) :
    next.Deployed := by
  intro after held
  obtain ⟨s, before, ⟨rfl, same⟩ | ⟨move, moves⟩⟩ := goes after held
  · obtain ⟨config, moves, server, task⟩ := deployed _ before
    exact ⟨config, moves, server, task.trans same⟩
  · obtain ⟨config, earlier, server, task⟩ := deployed s before
    refine ⟨config, earlier ++ [move], ?_⟩
    rw [Deployment.run, List.foldl_append]
    exact moves _ server task

theorem deployed_call (deployed : e.Deployed) (call : HostCall) : (e.step (.call call)).Deployed := by
  have served (takes : call.takesServer = true) : Deployed ⟨(e.host.call call).2, e.task⟩ := by
    refine deployed.kept fun after held => ?_
    rcases e.host.serves_call takes with same | ⟨s, _, before, left, made⟩
    · exact ⟨after, same.symm.trans held, .inl ⟨rfl, rfl⟩⟩
    cases left.symm.trans held
    refine ⟨s, before, .inr ?_⟩
    rcases made with ⟨call, -, rfl⟩ | rfl
    · refine ⟨.call call, ?_⟩
      rintro d rfl task
      exact ⟨rfl, task⟩
    · refine ⟨.pop, ?_⟩
      rintro d rfl task
      exact ⟨rfl, task⟩
  cases call with
  | create settings =>
    cases settings with
    | none => exact deployed_new e.host (.error _)
    | some settings => exact deployed_new e.host (settings.serverConfig.mapError .invalidConfig)
  | createFromFile files env path read => exact deployed_new e.host read
  | initLogging level json =>
    intro s held
    exact deployed s ((e.host.server_initLogging level json).symm.trans held)
  | _ => exact served rfl

/-- A task beside the server moves as in a run, which has the events that the host has taken besides. -/
theorem deployed_serve (deployed : e.Deployed) {move : Service → Service} {next : DeploymentMove}
    (moved : ∀ d : Deployment, d.step next = d.resume (move d.service))
    (same : ∀ v pulled, move { v with pulled } = { move v with pulled }) : (e.serve move).Deployed := by
  unfold serve
  split
  · exact deployed
  · rename_i s held
    refine deployed.kept fun after left => ⟨s, held, .inr ⟨next, fun d server task => ?_⟩⟩
    cases left
    have here : d.service = { (⟨s.engine, e.task, []⟩ : Service) with pulled := d.pulled } := by
      rw [Deployment.service, server, task]
    rw [moved, here, same, Deployment.resume, server]
    exact ⟨rfl, rfl⟩

theorem deployed_step (deployed : e.Deployed) (move : EmbeddingMove) : (e.step move).Deployed := by
  cases move with
  | call call => exact deployed_call deployed call
  | session id move =>
    have moved (d : Deployment) : d.step (.session id move) = d.resume (d.service.moveSession id move) := rfl
    exact deployed_serve deployed moved fun v pulled => v.moveSession_withPulled pulled id move
  | request id move =>
    have moved (d : Deployment) : d.step (.request id move) = d.resume (d.service.moveRequest id move) := rfl
    exact deployed_serve deployed moved fun v pulled => v.moveRequest_withPulled pulled id move

theorem deployed_run (deployed : e.Deployed) (moves : List EmbeddingMove) : (e.run moves).Deployed := by
  induction moves generalizing e with
  | nil => exact deployed
  | cons move rest ih => exact ih (deployed_step deployed move)

end Abi.Embedding

end Gateway
