import Gateway.Proofs.Engine
import Gateway.Proofs.Identifier
import Gateway.Proofs.Service

namespace Gateway

structure Standing where
  task : Task
  told : List Envelope
  entry : Option ConnectionEntry
  inFlight : Bool

inductive Effect where
  | nothing
  | refused
  | opened (line : Nat) (session : Session)
  | waits (line : Nat) (session : Session) (since : Nat) (event : SessionEvent)
  | stepped (line : Nat) (step : SessionStep)
  | failed (line : Nat)
  | stopped (payload : Bytes)
  | purged
  | begun (response : Nat)
  | bodyPart (data : Bytes)
  | bodyEnd
  | bodyLost
  | drained (written : Nat)
  | letGo
  | answered

def Task.stopReading : Task → Task
  | request n _ isGuarded => request n false isGuarded
  | task => task

def Task.release : Task → Task
  | request n isReading _ => request n isReading false
  | task => task

namespace Standing

def isLive (s : Standing) : Bool := s.entry.any (!·.isFaded)

def closing (s : Standing) (id : Uuid) (limit : Nat) (payload : Bytes) : List Envelope :=
  if s.isLive then [.capped .closed id.text payload limit] else []

end Standing

namespace Effect

def Possible (s : Standing) : Effect → Prop
  | nothing | stopped _ | purged | answered => True
  | refused => s.task = .unused
  | opened _ _ => s.task = .unused ∧ s.entry = none
  | waits line session _ _ => s.task = .session line session none
  | stepped line _ => ∃ session writing, s.task = .session line session writing
  | failed line => ∃ session, s.task = .session line session none ∧ session.deadline = none
  | begun _ => s.task = .unused ∧ s.inFlight = false
  | bodyPart _ | bodyEnd | bodyLost => ∃ n isGuarded, s.task = .request n true isGuarded
  | drained _ | letGo => ∃ n isReading, s.task = .request n isReading true

def task (s : Standing) : Effect → Task
  | nothing | stopped _ | purged | bodyPart _ | drained _ | answered => s.task
  | refused => .refused
  | opened line session => .session line session none
  | waits line session since event => .session line session (some (since, event))
  | stepped line step => if step.isOver then .ended else .session line step.session none
  | failed _ => .failed
  | begun n => .request n true true
  | bodyEnd | bodyLost => s.task.stopReading
  | letGo => s.task.release

def events (s : Standing) (id : Uuid) (limit : Nat) : Effect → List Envelope
  | nothing | refused | waits _ _ _ _ | failed _ | purged | bodyLost | answered => []
  | opened _ _ => [.capped .opened id.text [] limit]
  | stepped _ step =>
    step.message.toList.map (Envelope.capped .message id.text · limit) ++
      if step.isOver then s.closing id limit step.session.closePayload else []
  | stopped payload => s.closing id limit payload
  | begun _ => [.capped .requestStart id.text [] limit]
  | bodyPart data => if data ≠ [] ∧ s.inFlight = true then [.capped .requestData id.text data limit] else []
  | bodyEnd => if s.inFlight = true then [.capped .requestEnd id.text [] limit] else []
  | drained written => [.capped .writable id.text (Text.bytes (Text.Decimal.text written)) limit]
  | letGo => if s.inFlight = true then [.capped .requestAbort id.text [] limit] else []

def entry (s : Standing) : Effect → Option ConnectionEntry
  | opened line _ => some (.live line)
  | stepped _ step => if step.isOver then s.entry.map fun _ => .faded else s.entry
  | stopped _ => s.entry.map fun _ => .faded
  | purged => s.entry.filter (!·.isFaded)
  | _ => s.entry

def inFlight (s : Standing) : Effect → Bool
  | begun _ => true
  | letGo | answered => false
  | _ => s.inFlight

end Effect

def Standing.after (s : Standing) (id : Uuid) (limit : Nat) (effect : Effect) : Standing where
  task := effect.task s
  told := s.told ++ effect.events s id limit
  entry := effect.entry s
  inFlight := effect.inFlight s

@[simp] theorem Standing.after_nothing (s : Standing) (id : Uuid) (limit : Nat) :
    s.after id limit .nothing = s := by
  simp [after, Effect.task, Effect.events, Effect.entry, Effect.inFlight]

theorem Effect.id_of_mem {effect : Effect} {s : Standing} {id : Uuid} {limit : Nat} {e : Envelope}
    (member : e ∈ effect.events s id limit) : e.id = id.text := by
  cases effect <;>
    simp only [events, Standing.closing, List.mem_append, List.mem_map, List.mem_ite_nil_right,
      List.mem_singleton, List.not_mem_nil] at member
  case stepped line step =>
    rcases member with ⟨data, _, rfl⟩ | ⟨_, _, rfl⟩ <;> rfl
  case opened | begun | drained => rw [member]; rfl
  case stopped | bodyPart | bodyEnd | letGo => rw [member.2]; rfl

namespace Service

def standing (v : Service) (id : Uuid) : Standing :=
  ⟨v.task id, v.told id, v.engine.connections.find? ⟨id⟩, v.engine.requests.has ⟨id⟩⟩

def sessionEffect (v : Service) (id : Uuid) (move : SessionMove) : Effect :=
  match v.task id, move with
  | .unused, .start config now =>
    match (v.engine.openSession ⟨id⟩).1 with
    | some line => .opened line (.start config now)
    | none => .refused
  | .session line session (some (since, event)), .written time =>
    .stepped line (session.step since event time)
  | .session line session none, move =>
    match session.event? v.engine line move with
    | some (now, event) =>
      if (session.frameOf now event).isSome then .waits line session now event
      else .stepped line (session.step now event (some now))
    | none => if session.breaksOff move then .failed line else .nothing
  | _, _ => .nothing

def requestEffect (v : Service) (id : Uuid) (move : RequestMove) : Effect :=
  match v.task id, move with
  | .unused, .arrive method uri headers =>
    match (v.engine.handleRequest ⟨id⟩ method uri headers).1 with
    | .dispatched n => .begun n
    | _ => .nothing
  | .request _ true _, .bodyPart data => .bodyPart data
  | .request _ true _, .bodyEnd => .bodyEnd
  | .request _ true _, .bodyLost => .bodyLost
  | .request n _ true, .pollBody =>
    match (v.engine.requests.pollBody n).2.1 with
    | some written => .drained written
    | none => .nothing
  | .request _ _ true, .letGo => .letGo
  | _, _ => .nothing

def hostEffect (v : Service) (id : Uuid) : HostMove → Effect
  | .closeConnections closure => .stopped closure.payload
  | .purge => .purged
  | move =>
    if v.engine.requests.has ⟨id⟩ = true ∧ (move.apply v.engine).requests.has ⟨id⟩ = false then .answered
    else .nothing

def effect (v : Service) (id : Uuid) : Move → Effect
  | .session other move => if other = id then v.sessionEffect other move else .nothing
  | .request other move => if other = id then v.requestEffect other move else .nothing
  | .host move => v.hostEffect id move
  | .pop | .drain _ => .nothing

theorem told_extend {v w : Service} {events : List Envelope} (pulled : w.pulled = v.pulled)
    (queue : w.engine.queue = v.engine.queue.extend events) (u : Uuid) :
    w.told u = v.told u ++ events.filter (·.id == u.text) := by
  simp only [told, history, pulled, queue, EventQueue.events_extend, List.filter_append, List.append_assoc]

theorem standing_of_local (v w : Service) (id : Uuid) (effect : Effect) (pulled : w.pulled = v.pulled)
    (task : ∀ u, w.task u = if u = id then effect.task (v.standing id) else v.task u)
    (queue : w.engine.queue = v.engine.queue.extend (effect.events (v.standing id) id v.limit))
    (entry : ∀ u, w.engine.connections.find? ⟨u⟩ =
      if u = id then effect.entry (v.standing id) else v.engine.connections.find? ⟨u⟩)
    (inFlight : ∀ u, w.engine.requests.has ⟨u⟩ =
      if u = id then effect.inFlight (v.standing id) else v.engine.requests.has ⟨u⟩) (u : Uuid) :
    w.standing u = (v.standing u).after u v.limit (if id = u then effect else .nothing) := by
  have told := told_extend pulled queue u
  by_cases same : id = u
  · subst same
    have own : (effect.events (v.standing id) id v.limit).filter (·.id == id.text) =
        effect.events (v.standing id) id v.limit := by
      rw [List.filter_eq_self]
      intro e member
      exact beq_iff_eq.mpr (Effect.id_of_mem member)
    rw [own] at told
    simp only [standing, Standing.after] at *
    simp only [task, told, entry, inFlight, if_true]
  · have silent : (effect.events (v.standing id) id v.limit).filter (·.id == u.text) = [] := by
      rw [List.filter_eq_nil_iff]
      intro e member
      rw [Effect.id_of_mem member, beq_iff_eq, Uuid.text_inj]
      exact same
    rw [silent, List.append_nil] at told
    rw [if_neg same, Standing.after_nothing]
    simp only [standing, task, told, entry, inFlight, Ne.symm same, if_false]

theorem isLive_standing (v : Service) (u : Uuid) :
    (v.standing u).isLive = (v.engine.connections.liveLine? ⟨u⟩).isSome := by
  rw [ConnectionRegistry.liveLine?_eq]
  simp only [Standing.isLive, standing]
  cases v.engine.connections.find? ⟨u⟩ with
  | none => rfl
  | some entry => cases entry <;> rfl

theorem ite_self_eq {α : Type} (f : Uuid → α) (id u : Uuid) : f u = if u = id then f id else f u := by
  split
  · rename_i same
    rw [same]
  · rfl

theorem standing_engine (v : Service) (engine : Engine) (queue : engine.queue = v.engine.queue)
    (entries : engine.connections.entries = v.engine.connections.entries)
    (has : ∀ id, engine.requests.has id = v.engine.requests.has id) (u : Uuid) :
    standing { v with engine } u = v.standing u := by
  simp only [standing, told, history, queue, ConnectionRegistry.find?_congr entries, has]

theorem setTask_self (v : Service) (id : Uuid) : v.setTask id (v.task id) = v := by
  simp only [setTask, Function.update_eq_self]

end Service

end Gateway
