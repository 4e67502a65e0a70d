import Gateway.Proofs.Service.Standing
import Mathlib.Data.List.Nodup

namespace Gateway.Service

open WebSocket (Closure)

theorem filter_shutDown (v : Service) (u : Uuid) (closure : Closure) (distinct : v.engine.connections.Distinct) :
    ((v.engine.connections.shutDown closure).1.map fun id => v.engine.cut .closed id.text closure.payload).filter
        (·.id == u.text) = (v.standing u).closing u v.limit closure.payload := by
  have once := distinct.nodup_shutDown closure
  have listed := ConnectionRegistry.mem_shutDown distinct closure ⟨u⟩
  rw [← isLive_standing] at listed
  generalize (v.engine.connections.shutDown closure).1 = ids at once listed
  have own : (ids.map fun id => v.engine.cut .closed id.text closure.payload).filter (·.id == u.text) =
      (ids.filter (· == ⟨u⟩)).map fun id => v.engine.cut .closed id.text closure.payload := by
    rw [List.filter_map]
    congr 1
    apply List.filter_congr
    intro id _
    rw [Bool.eq_iff_iff, Function.comp_apply, beq_iff_eq, beq_iff_eq]
    exact Uuid.text_inj.trans ⟨congrArg ConnectionId.mk, congrArg ConnectionId.uuid⟩
  rw [own, List.filter_beq, Standing.closing]
  by_cases live : (v.standing u).isLive = true
  · rw [List.count_eq_one_of_mem once (listed.mpr live), if_pos live]
    rfl
  · rw [List.count_eq_zero.mpr fun member => live (listed.mp member), if_neg live]
    rfl

theorem standing_closeConnections (v : Service) (u : Uuid) (closure : Closure)
    (distinct : v.engine.connections.Distinct) :
    standing { v with engine := (v.engine.closeConnections closure).2 } u =
      (v.standing u).after u v.limit (.stopped closure.payload) := by
  have told := told_extend (v := v) (w := { v with engine := (v.engine.closeConnections closure).2 }) rfl
    (v.engine.queue_closeConnections closure) u
  rw [filter_shutDown v u closure distinct] at told
  simp only [standing, Standing.after, told, Engine.connections_closeConnections,
    Engine.requests_closeConnections, ConnectionRegistry.find?_shutDown]
  rfl

theorem standing_purge (v : Service) (u : Uuid) (distinct : v.engine.connections.Distinct) :
    standing { v with engine := v.engine.purge.2 } u = (v.standing u).after u v.limit .purged := by
  have found : v.engine.purge.2.connections.find? ⟨u⟩ = (v.engine.connections.find? ⟨u⟩).filter (!·.isFaded) :=
    ConnectionRegistry.find?_purge distinct ⟨u⟩
  simp only [standing, Standing.after, found, Effect.events, List.append_nil]
  rfl

theorem standing_call (v : Service) (u : Uuid) (engine : Engine)
    (told : told { v with engine } u = v.told u)
    (entries : engine.connections.entries = v.engine.connections.entries)
    (left : engine.requests.has ⟨u⟩ = true → v.engine.requests.has ⟨u⟩ = true) :
    standing { v with engine } u = (v.standing u).after u v.limit
      (if v.engine.requests.has ⟨u⟩ = true ∧ engine.requests.has ⟨u⟩ = false then .answered else .nothing) := by
  have found := ConnectionRegistry.find?_congr entries ⟨u⟩
  split
  · rename_i answered
    simp only [standing, Standing.after, told, found, answered.2, Effect.events, List.append_nil]
    rfl
  · rename_i kept
    have same : engine.requests.has ⟨u⟩ = v.engine.requests.has ⟨u⟩ := by
      cases before : v.engine.requests.has ⟨u⟩ <;> cases after : engine.requests.has ⟨u⟩ <;> simp_all
    rw [Standing.after_nothing]
    simp only [standing, told, found, same]

theorem told_emitServer (v : Service) (u : Uuid) (kind : EventKind) (payload : Bytes) :
    told { v with engine := v.engine.emitServer kind payload } u = v.told u := by
  have queue : (v.engine.emitServer kind payload).queue =
      v.engine.queue.extend [v.engine.cut kind serverId payload] := rfl
  rw [told_extend (v := v) (w := { v with engine := v.engine.emitServer kind payload }) rfl queue]
  simp [Engine.cut, Envelope.capped]

theorem standing_host (v : Service) (u : Uuid) (move : HostMove) (distinct : v.engine.connections.Distinct) :
    (v.step (.host move)).standing u = (v.standing u).after u v.limit (v.effect u (.host move)) := by
  -- most calls change either the routes, or lines and responses behind the same entries and records
  have kept {r : RequestRegistry} (records : r.records = v.engine.requests.records) :
      r.has ⟨u⟩ = true → v.engine.requests.has ⟨u⟩ = true := by
    rw [RequestRegistry.has_congr records]
    exact fun has => has
  cases move with
  | closeConnections closure => exact v.standing_closeConnections u closure distinct
  | purge => exact v.standing_purge u distinct
  | addRoute verb pattern => exact v.standing_call u (v.engine.addRoute verb pattern) rfl rfl (kept rfl)
  | reopen => exact v.standing_call u v.engine.reopen rfl rfl (kept rfl)
  | send id frame =>
    exact v.standing_call u (v.engine.send id frame).2 rfl (ConnectionRegistry.entries_send _ _ _) (kept rfl)
  | broadcast frame =>
    exact v.standing_call u (v.engine.broadcast frame).2 rfl (ConnectionRegistry.entries_broadcast _ _) (kept rfl)
  | disconnect id closure =>
    exact v.standing_call u (v.engine.disconnect id closure).2 rfl (ConnectionRegistry.entries_disconnect _ _ _)
      (kept rfl)
  | setStatus id line =>
    exact v.standing_call u (v.engine.withRequests (·.setStatus id line)).2 rfl rfl
      (kept (RequestRegistry.records_setStatus _ _ _))
  | setHeader id name value =>
    exact v.standing_call u (v.engine.withRequests (·.setHeader id name value)).2 rfl rfl
      (kept (RequestRegistry.records_setHeader _ _ _ _))
  | write id data =>
    exact v.standing_call u (v.engine.withRequests (·.write id data)).2 rfl rfl
      (kept (RequestRegistry.records_write _ _ _))
  | tryEnd id data totalSize =>
    exact v.standing_call u (v.engine.withRequests (·.tryEnd id data totalSize)).2 rfl rfl
      RequestRegistry.has_of_has_tryEnd
  | finish id data =>
    exact v.standing_call u (v.engine.withRequests (·.finish id data)).2 rfl rfl
      RequestRegistry.has_of_has_finish
  | abortAll status =>
    refine v.standing_call u (v.engine.withRequests (·.abortAll status)).2 rfl rfl fun has => ?_
    exact absurd has (by simp [Engine.withRequests, RequestRegistry.has_abortAll])
  | tell kind payload =>
    exact v.standing_call u (v.engine.emitServer kind payload) (v.told_emitServer u kind payload) rfl (kept rfl)

theorem keeps_host (e : Engine) (move : HostMove) : e.Keeps (move.apply e) := by
  cases move with
  | closeConnections closure => exact e.keeps_closeConnections closure
  | purge => exact ⟨rfl, ConnectionRegistry.Distinct.purge⟩
  | send id frame => exact .of_quiet rfl (ConnectionRegistry.entries_send _ _ _)
  | broadcast frame => exact .of_quiet rfl (ConnectionRegistry.entries_broadcast _ _)
  | disconnect id closure => exact .of_quiet rfl (ConnectionRegistry.entries_disconnect _ _ _)
  | tell kind payload => exact .of_entries (Engine.queue_emit _ _ _ _) rfl
  | _ => exact .of_quiet rfl rfl

end Gateway.Service
