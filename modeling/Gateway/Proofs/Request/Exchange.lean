import Gateway.Proofs.Service
import Gateway.Request.Exchange

namespace Gateway

namespace Service

theorem moveRequest_held {v : Service} {u : Uuid} {n : Nat} {isReading : Bool}
    (task : v.task u = .request n isReading true) :
    v.moveRequest u .pollHead = { v with engine := (v.engine.pollHead n).2 } ∧
    v.moveRequest u .pollBody = { v with engine := (v.engine.pollBody ⟨u⟩ n).2 } ∧
    v.moveRequest u .hangUp = { v with engine := v.engine.dropBody n } ∧
    v.moveRequest u .letGo =
      { v with engine := (v.engine.dropBody n).abandonRequest ⟨u⟩ }.setTask u (.request n isReading false) := by
  unfold moveRequest
  rw [task]
  cases isReading <;> exact ⟨rfl, rfl, rfl, rfl⟩

end Service

inductive ExchangeMove where
  | pollHead
  | openBody
  | pollBody
  | dropHead
  | dropBody
  deriving DecidableEq

namespace Exchange

def step : Exchange × Engine → ExchangeMove → Exchange × Engine
  | (x, e), .pollHead => (x, (x.pollHead e).2)
  | (x, e), .openBody => (x.openBody.2, e)
  | (x, e), .pollBody => (x, (x.pollBody e).2)
  | (x, e), .dropHead => (x.dropHead.2, e)
  | (x, e), .dropBody => (x.dropBody e).2

def run (x : Exchange) (e : Engine) (moves : List ExchangeMove) : Exchange × Engine := moves.foldl step (x, e)

/-- An exchange is that of a request of the service, which has its engine. The request is in flight for as long as the
    body is held. -/
structure Shows (x : Exchange × Engine) (v : Service) (u : Uuid) : Prop where
  id : x.1.id.uuid = u
  engine : v.engine = x.2
  held : x.1.body ≠ .released → ∃ isReading, v.task u = .request x.1.response isReading true

variable {x : Exchange × Engine} {v : Service} {u : Uuid}

theorem Shows.of_same (shown : Shows x v u) {next : Exchange} (id : next.id = x.1.id)
    (response : next.response = x.1.response) (holds : next.body ≠ .released → x.1.body ≠ .released) :
    Shows (next, x.2) v u := by
  refine ⟨(congrArg RequestId.uuid id).trans shown.id, shown.engine, fun held => ?_⟩
  rw [response]
  exact shown.held (holds held)

/-- Whatever is done with an exchange, the connection of its request makes some moves. Once it has let go of the body
    it asks no more for the head. -/
theorem Shows.step (shown : Shows x v u) (move : ExchangeMove) (early : move = .pollHead → x.1.body ≠ .released) :
    ∃ moves : List RequestMove, Shows (Exchange.step x move) (v.run (moves.map (.request u))) u := by
  obtain ⟨x, e⟩ := x
  obtain ⟨rfl, rfl, held⟩ := shown
  have same : Shows (x, v.engine) v x.id.uuid := ⟨rfl, rfl, held⟩
  cases move with
  | openBody =>
    refine ⟨[], same.of_same ?_ ?_ ?_⟩ <;> cases body : x.body <;> simp [openBody, body]
  | dropHead => exact ⟨[], same.of_same rfl rfl fun holds => holds⟩
  | pollHead =>
    obtain ⟨isReading, task⟩ := held (early rfl)
    obtain ⟨moved, _⟩ := Service.moveRequest_held task
    cases holds : x.holdsHead with
    | true =>
      refine ⟨[.pollHead], ?_⟩
      show Shows _ (v.moveRequest x.id.uuid .pollHead) _
      rw [moved]
      exact ⟨rfl, by simp [Exchange.step, pollHead, holds], fun _ => ⟨isReading, task⟩⟩
    | false =>
      refine ⟨[], rfl, by simp [Exchange.step, pollHead, holds], held⟩
  | pollBody =>
    cases body : x.body with
    | streaming =>
      obtain ⟨isReading, task⟩ := held (by simp [body])
      obtain ⟨_, moved, _⟩ := Service.moveRequest_held task
      refine ⟨[.pollBody], ?_⟩
      show Shows _ (v.moveRequest x.id.uuid .pollBody) _
      rw [moved]
      exact ⟨rfl, by simp [Exchange.step, pollBody, body], fun _ => ⟨isReading, task⟩⟩
    | waiting | released =>
      exact ⟨[], rfl, by simp [Exchange.step, pollBody, body], held⟩
  | dropBody =>
    cases body : x.body with
    | waiting =>
      obtain ⟨isReading, task⟩ := held (by simp [body])
      obtain ⟨_, _, moved, _⟩ := Service.moveRequest_held task
      refine ⟨[.hangUp], ?_⟩
      show Shows _ (v.moveRequest x.id.uuid .hangUp) _
      rw [moved]
      simp only [Exchange.step, dropBody, body]
      exact ⟨rfl, rfl, fun released => absurd rfl released⟩
    | streaming =>
      obtain ⟨isReading, task⟩ := held (by simp [body])
      obtain ⟨_, _, _, moved⟩ := Service.moveRequest_held task
      refine ⟨[.letGo], ?_⟩
      show Shows _ (v.moveRequest x.id.uuid .letGo) _
      rw [moved]
      simp only [Exchange.step, dropBody, body]
      exact ⟨rfl, rfl, fun released => absurd rfl released⟩
    | released =>
      refine ⟨[], ?_⟩
      simp only [Exchange.step, dropBody, body]
      exact same

theorem body_step (x : Exchange × Engine) {move : ExchangeMove} (released : x.1.body ≠ .released)
    (others : move ≠ .dropBody) : (Exchange.step x move).1.body ≠ .released := by
  cases move with
  | openBody => cases body : x.1.body <;> simp_all [Exchange.step, openBody]
  | dropBody => exact absurd rfl others
  | pollHead | pollBody | dropHead => exact released

theorem run_shows (shown : Shows x v u) {moves : List ExchangeMove}
    (early : ¬ [.dropBody, .pollHead].Sublist moves) (first : .pollHead ∈ moves → x.1.body ≠ .released) :
    ∃ served : List RequestMove, Shows (run x.1 x.2 moves) (v.run (served.map (.request u))) u := by
  induction moves generalizing x v with
  | nil => exact ⟨[], shown⟩
  | cons move moves ih =>
    obtain ⟨before, moved⟩ := shown.step move fun asks => first (by simp [asks])
    have next : .pollHead ∈ moves → (Exchange.step x move).1.body ≠ .released := by
      intro asks
      refine body_step x (first (List.mem_cons_of_mem _ asks)) fun drops => early ?_
      rw [drops]
      exact (List.singleton_sublist.mpr asks).cons_cons _
    obtain ⟨after, shows⟩ := ih moved (fun later => early (later.cons _)) next
    refine ⟨before ++ after, ?_⟩
    rw [List.map_append, Service.run, List.foldl_append]
    exact shows

theorem shows_arrive {method : Http.Method} {uri : Http.Uri} {headers : Http.Headers} {n : Nat} {e : Engine}
    (unused : v.task u = .unused) (taken : v.engine.handleRequest ⟨u⟩ method uri headers = (.dispatched n, e)) :
    Shows (⟨⟨u⟩, n, true, .waiting⟩, e) (v.moveRequest u (.arrive method uri headers)) u := by
  have moved : v.moveRequest u (.arrive method uri headers) = { v with engine := e }.setTask u (.request n true true) := by
    unfold Service.moveRequest
    rw [unused]
    dsimp only
    rw [taken]
  rw [moved]
  exact ⟨rfl, rfl, fun _ => ⟨true, Function.update_self u _ v.task⟩⟩

/-- The connection of a request that a service takes in does by its exchange nothing but what it does in a run of the
    service. -/
theorem run_arrived {method : Http.Method} {uri : Http.Uri} {headers : Http.Headers} {n : Nat} {e : Engine}
    (unused : v.task u = .unused) (taken : v.engine.handleRequest ⟨u⟩ method uri headers = (.dispatched n, e))
    {moves : List ExchangeMove} (early : ¬ [.dropBody, .pollHead].Sublist moves) :
    ∃ served : List RequestMove, Shows (run ⟨⟨u⟩, n, true, .waiting⟩ e moves)
      (v.run ((.arrive method uri headers :: served).map (.request u))) u := by
  obtain ⟨served, shown⟩ := run_shows (shows_arrive unused taken) early fun _ => nofun
  exact ⟨served, shown⟩

end Exchange

end Gateway
