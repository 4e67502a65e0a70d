import Gateway.Proofs.Service.Lines
import Gateway.Proofs.Service.Work
import Gateway.Switchboard

namespace Gateway

open WebSocket (Outbound)

namespace Engine

structure Calls (e f : Engine) : Prop where
  connections : ∃ calls, f.connections = e.connections.run calls
  requests : ∃ calls, f.requests = e.requests.run calls

variable {e f g : Engine} {events : List Envelope}

theorem Works.calls (works : e.Works f events) : e.Calls f where
  connections := by
    obtain ⟨calls, _, same⟩ := works.connections
    exact ⟨calls, same⟩
  requests := works.requests

theorem Calls.refl (e : Engine) : e.Calls e := ⟨⟨[], rfl⟩, ⟨[], rfl⟩⟩

theorem Calls.of_connections (calls : List ConnectionCall) (connections : f.connections = e.connections.run calls)
    (requests : f.requests = e.requests) : e.Calls f := ⟨⟨calls, connections⟩, ⟨[], requests⟩⟩

theorem Calls.of_requests (calls : List RequestCall) (requests : f.requests = e.requests.run calls)
    (connections : f.connections = e.connections) : e.Calls f := ⟨⟨[], connections⟩, ⟨calls, requests⟩⟩

theorem Calls.trans (first : e.Calls f) (second : f.Calls g) : e.Calls g := by
  obtain ⟨⟨calls, connections⟩, ⟨asked, requests⟩⟩ := first
  obtain ⟨⟨calls', connections'⟩, ⟨asked', requests'⟩⟩ := second
  refine ⟨⟨calls ++ calls', ?_⟩, ⟨asked ++ asked', ?_⟩⟩
  · rw [connections', connections]
    exact List.foldl_append.symm
  · rw [requests', requests]
    exact (e.requests.run_append asked asked').symm

theorem calls_modifyLine (e : Engine) (n : Nat) (f : Line → Line) : e.Calls (e.modifyLine n f) :=
  .of_connections [.modifyLine n f] rfl rfl

theorem calls_dropBody (e : Engine) (n : Nat) : e.Calls (e.dropBody n) :=
  .of_requests [.hangUp n] rfl rfl

end Engine

namespace HostMove

def requestCall? : HostMove → Option RequestCall
  | setStatus id line => some (.setStatus id line)
  | setHeader id name value => some (.setHeader id name value)
  | write id data => some (.write id data)
  | tryEnd id data totalSize => some (.tryEnd id data totalSize)
  | finish id data => some (.finish id data)
  | abortAll status => some (.abortAll status)
  | _ => none

theorem requests_apply (e : Engine) (move : HostMove) :
    (move.apply e).requests = e.requests.run move.requestCall?.toList := by
  cases move with
  | closeConnections closure => exact e.requests_closeConnections closure
  | _ => rfl

theorem calls_apply (e : Engine) (move : HostMove) : e.Calls (move.apply e) where
  connections := by
    refine ⟨move.connectionCall?.toList, (connections_apply e move).trans ?_⟩
    cases move.connectionCall? <;> rfl
  requests := ⟨_, requests_apply e move⟩

end HostMove

namespace Exchange

theorem calls_begin (e : Engine) (id : RequestId) (method : Http.Method) (uri : Http.Uri) (headers : Http.Headers)
    (route : String) : e.Calls (begin e id method uri headers route).2 := by
  have taken : e.Calls (e.beginRequest id method uri headers route).2.2 :=
    .of_requests [.takeIn (.ofHead id method uri headers route e.requests.openResponse.1)] rfl rfl
  unfold begin
  dsimp only
  split
  · exact taken
  · exact taken.trans (Engine.calls_dropBody _ _)

theorem calls_dropBody (x : Exchange) (e : Engine) : e.Calls (x.dropBody e).2.2 := by
  unfold dropBody
  split
  · exact e.calls_dropBody x.response
  · obtain ⟨_, abandoned⟩ := (e.dropBody x.response).yields_abandonRequest x.id
    exact (e.calls_dropBody x.response).trans abandoned.calls
  · exact .refl e

theorem calls_pollHead (x : Exchange) (e : Engine) : e.Calls (x.pollHead e).2 := by
  unfold pollHead
  split
  · exact .of_requests [.pollHead x.response] rfl rfl
  · exact .refl e

theorem calls_pollBody (x : Exchange) (e : Engine) : e.Calls (x.pollBody e).2 := by
  unfold pollBody
  split
  · obtain ⟨_, polled⟩ := e.yields_pollBody x.id x.response
    exact polled.calls
  all_goals exact .refl e

end Exchange

inductive SwitchboardMove where
  | host (move : HostMove)
  | request (call : RequestCall)
  | register (id : ConnectionId) (keepHandle : Bool)
  | dropReceiver (id : ConnectionId)
  | dropHandle (id : ConnectionId)
  | sendOnHandle (id : ConnectionId) (frame : Outbound) (policy : BackpressurePolicy)
  | receive (id : ConnectionId)
  | flush (id : ConnectionId) (size : Nat)
  | begin (id : RequestId) (head : Http.RequestHead) (route : String)
  | pollHead (id : RequestId)
  | openBody (id : RequestId)
  | pollBody (id : RequestId)
  | dropHead (id : RequestId)
  | dropBody (id : RequestId)
  | dropBodies

namespace Switchboard

def step (b : Switchboard) : SwitchboardMove → Switchboard
  | .host move => { b with engine := move.apply b.engine }
  | .request call => { b with engine := { b.engine with requests := b.engine.requests.call call } }
  | .register id keepHandle => (b.register id keepHandle).2
  | .dropReceiver id => (b.dropReceiver id).2
  | .dropHandle id => (b.dropHandle id).2
  | .sendOnHandle id frame policy => (b.sendOnHandle id frame policy).2
  | .receive id => (b.receive id).2
  | .flush id size => b.flush id size
  | .begin id head route => (b.begin id head route).2
  | .pollHead id => (b.pollHead id).2
  | .openBody id => (b.openBody id).2
  | .pollBody id => (b.pollBody id).2
  | .dropHead id => (b.dropHead id).2
  | .dropBody id => (b.dropBody id).2
  | .dropBodies => b.dropBodies

def run (b : Switchboard) (moves : List SwitchboardMove) : Switchboard := moves.foldl step b

variable (b : Switchboard)

theorem calls_dropReceiver (id : ConnectionId) : b.engine.Calls (b.dropReceiver id).2.engine := by
  unfold dropReceiver
  split
  · exact b.engine.calls_modifyLine _ _
  · exact .refl b.engine

theorem calls_dropHandle (id : ConnectionId) : b.engine.Calls (b.dropHandle id).2.engine := by
  unfold dropHandle
  split
  · exact b.engine.calls_modifyLine _ _
  · exact .refl b.engine

theorem calls_register (id : ConnectionId) (keepHandle : Bool) :
    b.engine.Calls (b.register id keepHandle).2.engine := by
  let n := (b.engine.openLine id).1
  have asked : b.engine.Calls ((b.engine.openLine id).2.register id n).2 :=
    .of_connections [.openLine id, .register id n] rfl rfl
  unfold register
  dsimp only
  split
  · let taken : Switchboard := { b with engine := ((b.engine.openLine id).2.register id n).2 }
    let received : Switchboard := { (taken.dropReceiver id).2 with
      receivers := keep (taken.dropReceiver id).2.receivers id n }
    have kept : b.engine.Calls received.engine := asked.trans (taken.calls_dropReceiver id)
    split
    · exact (kept.trans (received.calls_dropHandle id)).trans (Engine.calls_modifyLine _ _ _)
    · exact kept
  · exact asked.trans (Engine.calls_modifyLine _ _ _)

theorem calls_sendOnHandle (id : ConnectionId) (frame : Outbound) (policy : BackpressurePolicy) :
    b.engine.Calls (b.sendOnHandle id frame policy).2.engine := by
  have sent (n : Nat) : ∃ calls,
      (b.engine.connections.sendLine n frame policy).2 = b.engine.connections.run calls := by
    unfold ConnectionRegistry.sendLine
    split
    · exact ⟨[.modifyLine n fun _ => _], rfl⟩
    · exact ⟨[], rfl⟩
  unfold sendOnHandle
  split
  · exact .refl b.engine
  · obtain ⟨calls, connections⟩ := sent _
    exact .of_connections calls connections rfl

theorem calls_receive (id : ConnectionId) : b.engine.Calls (b.receive id).2.engine := by
  unfold receive
  split
  · exact .refl b.engine
  · split
    · exact b.engine.calls_modifyLine _ _
    · exact .refl b.engine

theorem calls_flush (id : ConnectionId) (size : Nat) : b.engine.Calls (b.flush id size).engine := by
  unfold flush
  split
  · exact b.engine.calls_modifyLine _ _
  · exact .refl b.engine

theorem calls_begin (id : RequestId) (head : Http.RequestHead) (route : String) :
    b.engine.Calls (b.begin id head route).2.engine := by
  have begun := Exchange.calls_begin b.engine id head.method head.uri head.headers route
  unfold begin
  generalize Exchange.begin b.engine id head.method head.uri head.headers route = result at begun ⊢
  obtain ⟨_ | x, engine⟩ := result
  · exact begun
  · dsimp only
    split
    · exact begun.trans (Exchange.calls_dropBody _ engine)
    · exact begun

theorem calls_withExchange {α : Type} (id : RequestId) (unknown : α) {f : Exchange → Engine → α × Exchange × Engine}
    (calls : ∀ x, b.engine.Calls (f x b.engine).2.2) : b.engine.Calls (b.withExchange id unknown f).2.engine := by
  unfold withExchange
  split
  · exact .refl b.engine
  · exact calls _

theorem calls_dropBodies : b.engine.Calls b.dropBodies.engine := by
  show b.engine.Calls (b.exchanges.foldl (fun e kept => (kept.2.dropBody e).2.2) b.engine)
  generalize b.engine = e
  induction b.exchanges generalizing e with
  | nil => exact .refl e
  | cons kept rest ih => exact (kept.2.calls_dropBody e).trans (ih _)

/-- Whatever is done with the ends that are kept, the registries of the engine see calls of their own. -/
theorem calls_step (move : SwitchboardMove) : b.engine.Calls (b.step move).engine := by
  cases move with
  | host move => exact HostMove.calls_apply b.engine move
  | request call => exact (b.engine.yields_requests call).calls
  | register id keepHandle => exact b.calls_register id keepHandle
  | dropReceiver id => exact b.calls_dropReceiver id
  | dropHandle id => exact b.calls_dropHandle id
  | sendOnHandle id frame policy => exact b.calls_sendOnHandle id frame policy
  | receive id => exact b.calls_receive id
  | flush id size => exact b.calls_flush id size
  | begin id head route => exact b.calls_begin id head route
  | pollHead id => exact b.calls_withExchange id none fun x => x.calls_pollHead b.engine
  | openBody id => exact b.calls_withExchange id false fun _ => .refl b.engine
  | pollBody id => exact b.calls_withExchange id none fun x => x.calls_pollBody b.engine
  | dropHead id => exact b.calls_withExchange id false fun _ => .refl b.engine
  | dropBody id => exact b.calls_withExchange id false fun x => x.calls_dropBody b.engine
  | dropBodies => exact b.calls_dropBodies

/-- What holds of each of the two registries after any calls holds in any run with the ends that are kept. -/
theorem run_calls (config : ServerConfig) (moves : List SwitchboardMove) :
    (∃ calls, ((start config).run moves).engine.connections = (ConnectionRegistry.empty config.backpressure).run calls) ∧
    ∃ calls, ((start config).run moves).engine.requests = (RequestRegistry.empty config.maxBackpressure).run calls := by
  have calls (b : Switchboard) : b.engine.Calls (b.run moves).engine := by
    induction moves generalizing b with
    | nil => exact .refl b.engine
    | cons move moves ih => exact (b.calls_step move).trans (ih _)
  obtain ⟨connections, requests⟩ := calls (start config)
  exact ⟨connections, requests⟩

end Switchboard

end Gateway
