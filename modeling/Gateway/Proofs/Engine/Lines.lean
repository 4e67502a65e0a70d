import Gateway.Proofs.Connection.Lines
import Gateway.Proofs.Service.Work

namespace Gateway

open ConnectionRegistry (Wired)

namespace Engine

variable {e : Engine}

theorem line?_openSession (e : Engine) (id : ConnectionId) (m : Nat) : (e.openSession id).2.connections.line? m =
    if m = e.connections.lines.length then
      some (if (e.registered id).1 then .opened id else (Line.opened id).hangUp)
    else e.connections.line? m := by
  have opened := e.connections.line?_openLine id m
  have registered : (e.registered id).2.line? m = (e.connections.openLine id).2.line? m := by
    unfold Engine.registered
    rw [ConnectionRegistry.register_eq]
    split <;> rfl
  rw [connections_openSession]
  split
  · rw [registered, opened]
  · rw [ConnectionRegistry.line?_modifyLine, registered, opened]
    show (if e.connections.lines.length = m then _ else _) = _
    by_cases last : m = e.connections.lines.length
    · rw [if_pos last.symm, if_pos last, if_pos last]
      rfl
    · rw [if_neg (Ne.symm last), if_neg last, if_neg last]

theorem wired_openSession (wired : e.connections.Wired) (id : ConnectionId) :
    (e.openSession id).2.connections.Wired := by
  have opens : (ConnectionCall.openLine id).Adds := trivial
  have registers : (ConnectionCall.register id (e.connections.openLine id).1).Adds := trivial
  have lined : (e.connections.openLine id).2.Wired := wired.call opens nofun
  have registered : (e.registered id).2.Wired := by
    refine lined.call registers ?_
    rintro other n same
    cases same
    have opened := e.connections.line?_openLine id e.connections.lines.length
    rw [if_pos rfl] at opened
    exact congrArg (Option.map (·.id)) opened
  rw [connections_openSession]
  split
  · exact registered
  · exact registered.modifyLine _ fun _ => rfl

theorem policy_openSession (e : Engine) (id : ConnectionId) :
    (e.openSession id).2.connections.policy = e.connections.policy := by
  have registered : (e.registered id).2.policy = e.connections.policy :=
    (e.connections.openLine id).2.policy_call (.register id (e.connections.openLine id).1)
  rw [connections_openSession]
  split <;> exact registered

theorem line?_closeSession (e : Engine) (id : ConnectionId) (n : Nat) (session : Session) (m : Nat) :
    (e.closeSession id n session).connections.line? m =
      if n = m then (e.connections.line? m).map Line.hangUp else e.connections.line? m := by
  rw [connections_closeSession, ← ConnectionRegistry.line?_modifyLine]
  unfold ConnectionRegistry.fade
  split <;> rfl

theorem wired_closeSession (wired : e.connections.Wired) (id : ConnectionId) (n : Nat) (session : Session) :
    (e.closeSession id n session).connections.Wired := by
  have hung : (e.connections.modifyLine n Line.hangUp).Wired := wired.modifyLine n fun _ => rfl
  rw [connections_closeSession]
  exact hung.call (show (ConnectionCall.fade id).Adds from trivial) nofun

theorem policy_closeSession (e : Engine) (id : ConnectionId) (n : Nat) (session : Session) :
    (e.closeSession id n session).connections.policy = e.connections.policy := by
  rw [connections_closeSession]
  exact (e.connections.modifyLine n Line.hangUp).policy_call (.fade id)

end Engine

end Gateway
