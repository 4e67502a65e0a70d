import Gateway.Proofs.Connection.Turns
import Gateway.Proofs.Service.Standing

namespace Gateway

open Http (Headers Method Uri)
open WebSocket (Outbound)

namespace Session

variable {s : Session} {e : Engine} {n : Nat} {move : SessionMove} {now : Nat} {event : SessionEvent}

theorem isOpen_of_event? (noticed : s.event? e n move = some (now, event)) (written : Option Nat) :
    SessionTurn.Open ⟨s, now, event, written⟩ := by
  obtain ⟨deadline, _, noticed⟩ := Option.bind_eq_some_iff.mp noticed
  cases move with
  | take time =>
    dsimp only at noticed
    split at noticed
    · rename_i takes
      split at noticed
      · cases noticed
        exact takes
      · split at noticed
        · cases noticed
          exact takes
        · cases noticed
    · cases noticed
  | wake time =>
    dsimp only at noticed
    split at noticed
    · cases noticed
      trivial
    · cases noticed
  | read | readEnd =>
    cases noticed
    trivial
  | start | written | fail => cases noticed

end Session

def inHand (writing : Option (Nat × SessionEvent)) : List Outbound :=
  match writing with
  | some (_, .outbound frame) => [frame]
  | _ => []

namespace Service

/-! The moves of a session. -/

theorem breaksOff_iff {session : Session} {move : SessionMove} :
    session.breaksOff move = true ↔ move = .fail ∧ session.deadline = none := by
  simp [Session.breaksOff]

def sessionTurn? (v : Service) (id : Uuid) (move : SessionMove) : Option SessionTurn :=
  match v.task id, move with
  | .session _ session (some (since, event)), .written time => some ⟨session, since, event, time⟩
  | .session line session none, move =>
    match session.event? v.engine line move with
    | some (now, event) =>
      if (session.frameOf now event).isSome then none else some ⟨session, now, event, some now⟩
    | none => none
  | _, _ => none

inductive Moved (v : Service) (u : Uuid) : Service → Option SessionTurn → Prop where
  | nothing : Moved v u v none
  | starts (unused : v.task u = .unused) (config : SessionConfig) (now : Nat) :
      Moved v u (v.startSession u config now) none
  | waits {n : Nat} {session : Session} {move : SessionMove} {now : Nat} {event : SessionEvent}
      (task : v.task u = .session n session none) (noticed : session.event? v.engine n move = some (now, event))
      (writes : (session.frameOf now event).isSome = true) :
      Moved v u (setTask { v with engine := v.engine.noticed n event } u (.session n session (some (now, event)))) none
  /-- What it wrote has gone out or is lost, or there was nothing to write. -/
  | completes {n : Nat} {t : SessionTurn} {writing : Option (Nat × SessionEvent)}
      (task : v.task u = .session n t.session writing) (hand : t.frame?.toList = inHand writing)
      (going : writing = some (t.now, t.event) ∨ t.Open) : Moved v u (v.complete u n t.step) (some t)
  | fails {n : Nat} {session : Session} (task : v.task u = .session n session none)
      (stuck : session.deadline = none) : Moved v u (v.fail u n) none

theorem moved (v : Service) (u : Uuid) (move : SessionMove) : v.Moved u (v.moveSession u move) (v.sessionTurn? u move) := by
  unfold moveSession sessionTurn?
  cases task : v.task u with
  | unused =>
    cases move with
    | start config now => exact .starts task config now
    | _ => exact .nothing
  | session n session writing =>
    cases writing with
    | some writing =>
      obtain ⟨since, event⟩ := writing
      cases move with
      | written time =>
        refine .completes (t := ⟨session, since, event, time⟩) task ?_ (.inl rfl)
        unfold SessionTurn.frame? inHand
        cases event <;> rfl
      | _ => exact .nothing
    | none =>
      dsimp only
      cases found : session.event? v.engine n move with
      | none =>
        dsimp only
        split
        · exact .fails task (breaksOff_iff.mp ‹_›).2
        · exact .nothing
      | some noticed =>
        obtain ⟨now, event⟩ := noticed
        dsimp only
        unfold notice
        dsimp only
        cases writes : session.frameOf now event with
        | some frame => exact .waits task found (by rw [writes]; rfl)
        | none =>
          let t : SessionTurn := ⟨session, now, event, some now⟩
          have quiet : t.frame? = none := by
            cases took : t.frame? with
            | none => rfl
            | some frame => cases writes.symm.trans (SessionTurn.write_step took)
          have same : v.engine.noticed n event = v.engine := by
            cases event with
            | outbound frame => cases quiet
            | _ => rfl
          rw [same]
          exact .completes (t := t) task (congrArg Option.toList quiet) (.inr (Session.isOpen_of_event? found _))
  | _ => exact .nothing

/-! The moves of the connection of a request. -/

inductive RequestMoved (v : Service) (u : Uuid) : RequestMove → Effect → Service → Prop where
  | nothing {move : RequestMove} : RequestMoved v u move .nothing v
  | begins {method : Method} {uri : Uri} {headers : Headers} {n : Nat} (unused : v.task u = .unused)
      (taken : (v.engine.handleRequest ⟨u⟩ method uri headers).1 = .dispatched n) :
      RequestMoved v u (.arrive method uri headers) (.begun n)
        (setTask { v with engine := (v.engine.handleRequest ⟨u⟩ method uri headers).2 } u (.request n true true))
  | answered {method : Method} {uri : Uri} {headers : Headers}
      (other : ∀ n, (v.engine.handleRequest ⟨u⟩ method uri headers).1 ≠ .dispatched n) :
      RequestMoved v u (.arrive method uri headers) .nothing
        { v with engine := (v.engine.handleRequest ⟨u⟩ method uri headers).2 }
  | bodyPart {n : Nat} {isGuarded : Bool} (asked : v.task u = .request n true isGuarded) (data : Bytes) :
      RequestMoved v u (.bodyPart data) (.bodyPart data) { v with engine := v.engine.receiveBody ⟨u⟩ data }
  | bodyEnd {n : Nat} {isGuarded : Bool} (asked : v.task u = .request n true isGuarded) :
      RequestMoved v u .bodyEnd .bodyEnd
        (setTask { v with engine := v.engine.receiveBodyEnd ⟨u⟩ } u (.request n false isGuarded))
  | bodyLost {n : Nat} {isGuarded : Bool} (asked : v.task u = .request n true isGuarded) :
      RequestMoved v u .bodyLost .bodyLost (v.setTask u (.request n false isGuarded))
  | pollHead (n : Nat) : RequestMoved v u .pollHead .nothing { v with engine := (v.engine.pollHead n).2 }
  /-- The poll makes the room that the host waits for. -/
  | drains {n written : Nat} {isReading : Bool} (asked : v.task u = .request n isReading true)
      (drained : (v.engine.requests.pollBody n).2.1 = some written) :
      RequestMoved v u .pollBody (.drained written) { v with engine := (v.engine.pollBody ⟨u⟩ n).2 }
  | pollBody {n : Nat} (silent : (v.engine.requests.pollBody n).2.1 = none) :
      RequestMoved v u .pollBody .nothing { v with engine := (v.engine.pollBody ⟨u⟩ n).2 }
  | hangUp (n : Nat) : RequestMoved v u .hangUp .nothing { v with engine := v.engine.dropBody n }
  | letGo {n : Nat} {isReading : Bool} (asked : v.task u = .request n isReading true) :
      RequestMoved v u .letGo .letGo
        (setTask { v with engine := (v.engine.dropBody n).abandonRequest ⟨u⟩ } u (.request n isReading false))

theorem requestMoved_arrive {v : Service} {u : Uuid} (unused : v.task u = .unused) (method : Method) (uri : Uri)
    (headers : Headers) : v.RequestMoved u (.arrive method uri headers)
      (v.requestEffect u (.arrive method uri headers)) (v.moveRequest u (.arrive method uri headers)) := by
  simp only [requestEffect, moveRequest, unused]
  rcases handled : v.engine.handleRequest ⟨u⟩ method uri headers with ⟨answer, engine⟩
  cases answer with
  | dispatched n =>
    have begins := RequestMoved.begins unused (congrArg Prod.fst handled)
    rwa [handled] at begins
  | _ =>
    have answered : v.RequestMoved u (.arrive method uri headers) .nothing _ := .answered fun n same => by
      cases (congrArg Prod.fst handled).symm.trans same
    rwa [handled] at answered

theorem requestMoved (v : Service) (u : Uuid) (move : RequestMove) :
    v.RequestMoved u move (v.requestEffect u move) (v.moveRequest u move) := by
  cases task : v.task u with
  | unused =>
    cases move with
    | arrive method uri headers => exact requestMoved_arrive task method uri headers
    | _ => simpa only [requestEffect, moveRequest, task] using .nothing
  | request n isReading isGuarded =>
    cases move with
    | arrive => simpa only [requestEffect, moveRequest, task] using .nothing
    | bodyPart | bodyEnd | bodyLost =>
      cases isReading <;> simp only [requestEffect, moveRequest, task] <;> constructor <;> assumption
    | pollBody =>
      cases isGuarded <;> simp only [requestEffect, moveRequest, task]
      · exact .nothing
      · cases drained : (v.engine.requests.pollBody n).2.1 with
        | some written => exact .drains task drained
        | none => exact .pollBody drained
    | pollHead | hangUp | letGo =>
      cases isGuarded <;> simp only [requestEffect, moveRequest, task] <;> constructor <;> assumption
  | _ => simpa only [requestEffect, moveRequest, task] using .nothing

end Service

end Gateway
