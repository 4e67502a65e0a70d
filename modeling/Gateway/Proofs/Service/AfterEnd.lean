import Gateway.Proofs.Service.ConnectionEvents

namespace Gateway

def WebSocket.Message.data? : WebSocket.Message → Option Bytes
  | text s => some (Text.bytes s)
  | binary data => some data
  | ping _ | pong _ | close _ => none

/-- A step of a session reports the data of the frame that it read, unless the frame was to be echoed and
    the echo is lost. -/
theorem Session.message_step (session : Session) (now : Nat) (event : SessionEvent) (written : Option Nat) :
    (session.step now event written).message =
      match event with
      | .frame message => if session.config.echo = true ∧ written = none then none else message.data?
      | .readEnd | .outbound _ | .abandoned | .timer => none := by
  cases event with
  | frame message =>
    cases message <;> cases echo : session.config.echo <;> cases written <;>
      simp [step, receive, echo, WebSocket.Message.data?, WebSocket.Message.payload, continues]
  | readEnd => rfl
  | outbound frame => cases frame <;> rfl
  | abandoned => rfl
  | timer =>
    simp only [step, wake]
    split_ifs <;> rfl

theorem Session.frameOf_frame (session : Session) (now : Nat) (message : WebSocket.Message) :
    session.frameOf now (.frame message) =
      if session.config.echo = true ∧ message.data?.isSome then some message else none := by
  cases message <;> cases echo : session.config.echo <;>
    simp [frameOf, step, receive, echo, WebSocket.Message.data?, continues]

def Effect.message? : Effect → Option Bytes
  | stepped _ step => step.message
  | _ => none

theorem Effect.events_of_dead {s : Standing} {effect : Effect} (possible : effect.Possible s)
    (registers : s.task = .ended ∨ s.task = .failed ∨ ∃ line session writing, s.task = .session line session writing)
    (dead : s.isLive = false) (id : Uuid) (limit : Nat) :
    effect.events s id limit = effect.message?.toList.map (Envelope.capped .message id.text · limit) := by
  have closing (payload : Bytes) : s.closing id limit payload = [] := by
    rw [Standing.closing, dead, if_neg Bool.false_ne_true]
  have other : s.task ≠ .unused ∧ ∀ n isReading isGuarded, s.task ≠ .request n isReading isGuarded := by
    rcases registers with task | task | ⟨_, _, _, task⟩ <;> simp [task]
  cases effect with
  | stepped line step => simp only [events, closing, ite_self, List.append_nil, message?]
  | stopped payload => exact closing payload
  | opened line session => exact absurd possible.1 other.1
  | begun n => exact absurd possible.1 other.1
  | bodyPart data | bodyEnd | drained written | letGo =>
    obtain ⟨_, _, task⟩ := possible
    exact absurd task (other.2 _ _ _)
  | _ => rfl

theorem Effect.of_ended {s : Standing} {effect : Effect} (possible : effect.Possible s)
    (ended : s.task = .ended) : effect.task s = .ended ∧ effect.message? = none := by
  cases effect <;> simp only [Possible, ended, reduceCtorEq, false_and, exists_false] at possible
  case nothing | stopped | purged | answered => exact ⟨ended, rfl⟩

namespace Service

/-- The message that a move of a session reports: one that it reads, or, if it sends messages back, one
    whose echo has gone out. -/
def reported (v : Service) (id : Uuid) (move : SessionMove) : Option Bytes :=
  match v.task id, move with
  | .session _ session none, .read _ message =>
    if session.config.echo = true ∨ session.deadline = none then none else message.data?
  | .session _ session (some (_, .frame message)), .written time =>
    if session.config.echo = true ∧ time = none then none else message.data?
  | _, _ => none

def heard (v : Service) (u : Uuid) : Move → Option Bytes
  | .session id move => if id = u then v.reported id move else none
  | .request _ _ | .host _ | .pop | .drain _ => none

/-- The messages that a run reports from the session of an identifier, in order. -/
def heardAlong (v : Service) (u : Uuid) : List Move → List Bytes
  | [] => []
  | move :: rest => (v.heard u move).toList ++ (v.step move).heardAlong u rest

theorem message?_noticed (line : Nat) (session : Session) (now : Nat) (event : SessionEvent) :
    (if (session.frameOf now event).isSome then Effect.waits line session now event
      else .stepped line (session.step now event (some now))).message? =
      match event with
      | .frame message => if session.config.echo = true then none else message.data?
      | _ => none := by
  have reports := session.message_step now event (some now)
  by_cases writes : (session.frameOf now event).isSome = true
  · rw [if_pos writes]
    cases event with
    | frame message =>
      rw [session.frameOf_frame] at writes
      by_cases echo : session.config.echo = true
      · simp only [echo, if_true, Effect.message?]
      · simp [echo] at writes
    | _ => rfl
  · rw [if_neg writes, Effect.message?, reports]
    cases event with
    | frame message =>
      rw [session.frameOf_frame] at writes
      by_cases echo : session.config.echo = true
      · cases carried : message.data? <;> simp [echo, carried] at writes ⊢
      · simp [echo]
    | _ => rfl

theorem message?_event (session : Session) (e : Engine) (line : Nat) (move : SessionMove) :
    (match session.event? e line move with
      | some (now, event) =>
        if (session.frameOf now event).isSome then Effect.waits line session now event
        else .stepped line (session.step now event (some now))
      | none => if session.breaksOff move then .failed line else .nothing).message? =
      match move with
      | .read _ message => if session.config.echo = true ∨ session.deadline = none then none else message.data?
      | _ => none := by
  have quiet : (if session.breaksOff move then Effect.failed line else .nothing).message? = none := by
    split <;> rfl
  cases deadline : session.deadline with
  | none =>
    have closed : session.event? e line move = none := by simp [Session.event?, deadline]
    rw [closed]
    refine quiet.trans ?_
    cases move <;> simp
  | some next =>
    cases move with
    | read now message =>
      simp only [Session.event?, deadline, Option.bind_eq_bind, Option.bind_some, reduceCtorEq, or_false]
      exact message?_noticed line session now (.frame message)
    | readEnd now =>
      simp only [Session.event?, deadline, Option.bind_eq_bind, Option.bind_some]
      exact message?_noticed line session now .readEnd
    | start | written | fail =>
      simp only [Session.event?, deadline, Option.bind_eq_bind, Option.bind_some]
      exact quiet
    | wake now =>
      simp only [Session.event?, deadline, Option.bind_eq_bind, Option.bind_some]
      by_cases due : next.any (· ≤ now) = true
      · rw [if_pos due]
        exact message?_noticed line session now .timer
      · rw [if_neg due]
        exact quiet
    | take now =>
      simp only [Session.event?, deadline, Option.bind_eq_bind, Option.bind_some]
      by_cases takes : session.takesOutbound = true
      · rw [if_pos takes]
        cases (e.connections.line? line).bind Line.take? with
        | some found => exact message?_noticed line session now (.outbound found.1)
        | none =>
          by_cases abandoned : e.connections.isAbandoned line = true
          · rw [if_pos abandoned]
            exact message?_noticed line session now .abandoned
          · rw [if_neg abandoned]
            exact quiet
      · rw [if_neg takes]
        exact quiet

theorem message?_sessionEffect (v : Service) (id : Uuid) (move : SessionMove) :
    (v.sessionEffect id move).message? = v.reported id move := by
  cases task : v.task id with
  | session line session writing =>
    cases writing with
    | none =>
      simp only [sessionEffect, reported, task]
      refine (message?_event session v.engine line move).trans ?_
      cases move <;> rfl
    | some writing =>
      obtain ⟨since, event⟩ := writing
      cases move with
      | written time =>
        simp only [sessionEffect, reported, task, Effect.message?, session.message_step]
        cases event <;> rfl
      | _ => simp only [sessionEffect, reported, task]; rfl
  | unused =>
    cases move with
    | start config now =>
      simp only [sessionEffect, reported, task]
      cases (v.engine.openSession ⟨id⟩).1 <;> rfl
    | _ => simp only [sessionEffect, reported, task]; rfl
  | _ => simp only [sessionEffect, reported, task]; rfl

theorem message?_effect (v : Service) (u : Uuid) (move : Move) :
    (v.effect u move).message? = v.heard u move := by
  cases move with
  | session id move =>
    simp only [effect, heard]
    split_ifs
    · exact v.message?_sessionEffect id move
    · rfl
  | request id move =>
    simp only [effect, heard]
    split_ifs
    · have moved := v.requestMoved id move
      generalize v.requestEffect id move = effect, v.moveRequest id move = w at *
      cases moved <;> rfl
    · rfl
  | host move => cases move <;> simp only [effect, hostEffect, heard] <;> (try split) <;> rfl
  | pop => rfl
  | drain count => rfl

theorem dead_of_closed {v : Service} {u : Uuid} (law : (v.standing u).ConnectionLaw)
    (closed : .closed ∈ v.kinds u) : v.Registers u ∧ (v.standing u).isLive = false := by
  have told : .closed ∈ (v.standing u).kinds := closed
  have registers : v.Registers u := by
    unfold Standing.ConnectionLaw at law
    cases task : v.task u <;> simp only [show (v.standing u).task = _ from task] at law
    case session line session writing => exact .inr (.inr ⟨line, session, writing, task⟩)
    case ended => exact .inl task
    case failed => exact .inr (.inl task)
    case unused | refused => simp [Standing.kinds, law.1] at told
    case request => exact absurd rfl (law.2 _ told).2
  refine ⟨registers, ?_⟩
  obtain ⟨⟨rest, kinds, _, count⟩, _⟩ := registered_of_registers law registers
  rw [kinds] at told
  rcases List.mem_cons.mp told with same | member
  · cases same
  · by_contra live
    rw [if_pos (Bool.not_eq_false _ ▸ live)] at count
    exact List.count_eq_zero.mp count member

theorem told_step_of_closed {v : Service} {u : Uuid} (distinct : v.engine.connections.Distinct)
    (law : (v.standing u).ConnectionLaw) (closed : .closed ∈ v.kinds u) (move : Move) :
    (v.step move).told u = v.told u ++ (v.heard u move).toList.map (v.envelope u .message) := by
  obtain ⟨registers, dead⟩ := dead_of_closed law closed
  have after := congrArg Standing.told (v.standing_step u move distinct)
  have events := Effect.events_of_dead (v.possible_effect u move) registers dead u v.limit
  rw [v.message?_effect u move] at events
  exact after.trans (congrArg (v.told u ++ ·) events)

theorem ended_step {v : Service} {u : Uuid} (distinct : v.engine.connections.Distinct)
    (ended : v.task u = .ended) (move : Move) : (v.step move).task u = .ended ∧ v.heard u move = none := by
  rw [v.task_step u move distinct, ← v.message?_effect u move]
  exact Effect.of_ended (v.possible_effect u move) ended

/-- After the end of a connection was told, a run adds the messages that its session still reports, and
    nothing else. -/
theorem told_run_of_closed {v : Service} {u : Uuid} (distinct : v.engine.connections.Distinct)
    (law : (v.standing u).ConnectionLaw) (closed : .closed ∈ v.kinds u) (moves : List Move) :
    (v.run moves).told u = v.told u ++ (v.heardAlong u moves).map (v.envelope u .message) := by
  induction moves generalizing v with
  | nil => exact (List.append_nil _).symm
  | cons move rest ih =>
    have step := told_step_of_closed distinct law closed move
    have keeps := v.keeps_step move
    have next := connectionLaw_step distinct law move
    have still : .closed ∈ (v.step move).kinds u := by
      rw [kinds, step, List.map_append]
      exact List.mem_append_left _ closed
    rw [run_cons, ih (keeps.distinct distinct) next still, step, heardAlong, List.map_append, List.append_assoc]
    have same : (v.step move).envelope u .message = v.envelope u .message := by
      funext payload
      exact congrArg (Envelope.capped .message u.text payload) keeps.limit
    rw [same]

theorem heardAlong_of_ended {v : Service} {u : Uuid} (distinct : v.engine.connections.Distinct)
    (ended : v.task u = .ended) (moves : List Move) : v.heardAlong u moves = [] := by
  induction moves generalizing v with
  | nil => rfl
  | cons move rest ih =>
    obtain ⟨next, quiet⟩ := ended_step distinct ended move
    rw [heardAlong, quiet, ih ((v.keeps_step move).distinct distinct) next]
    rfl

/-- After the end of a connection was told, exactly the messages follow that its session still reports. So
    nothing follows just if there is none, and none follows a session that has ended. -/
theorem told_after_end (config : ServerConfig) (before after : List Move) (u : Uuid)
    (closed : .closed ∈ ((start config).run before).kinds u) :
    let v := (start config).run before
    (v.run after).told u = v.told u ++ (v.heardAlong u after).map (v.envelope u .message) ∧
    ((v.run after).told u = v.told u ↔ v.heardAlong u after = []) ∧
    (v.task u = .ended → v.heardAlong u after = []) := by
  intro v
  have law : (v.standing u).ConnectionLaw := connectionLaw_run config before u
  have distinct : v.engine.connections.Distinct := distinct_run config before
  have told : (v.run after).told u = v.told u ++ (v.heardAlong u after).map (v.envelope u .message) :=
    told_run_of_closed distinct law closed after
  refine ⟨told, ?_, fun ended => heardAlong_of_ended distinct ended after⟩
  rw [told, List.append_right_eq_self, List.map_eq_nil_iff]

def client : Uuid := .fresh 0 1

def stopped : List Move :=
  [.session client (.start {} 0), .host (.closeConnections ⟨1001, "server shutting down"⟩),
    .host (.abortAll .serviceUnavailable), .host (.tell .shutDown [])]

def late : Move := .session client (.read 0 (.text "late"))

theorem told_after_stop : .closed ∈ ((start {}).run stopped).kinds client ∧
    ((start {}).run stopped).heardAlong client [late] = [Text.bytes "late"] ∧
    (((start {}).run stopped).run [late]).told client = ((start {}).run stopped).told client ++
      [.whole .message client.text (Text.bytes "late")] := by
  have closed : .closed ∈ ((start {}).run stopped).kinds client := by decide
  have heard : ((start {}).run stopped).heardAlong client [late] = [Text.bytes "late"] := by decide
  refine ⟨closed, heard, (told_after_end {} stopped [late] client closed).1.trans ?_⟩
  rw [heard]
  decide

/-- So it is not true that nothing is queued about a connection after its end: the late message comes after
    the end, and after the server has told that it is stopped. -/
theorem message_after_end :
    ((start {}).run (stopped ++ [late])).history.map (fun e => (e.kind, e.id)) =
      [(.opened, client.text), (.closed, client.text), (.shutDown, serverId), (.message, client.text)] ∧
    ¬ ∀ (config : ServerConfig) (before after : List Move) (u : Uuid),
      .closed ∈ ((start config).run before).kinds u →
        ((start config).run (before ++ after)).told u = ((start config).run before).told u := by
  refine ⟨by decide, fun silent => ?_⟩
  have kinds := congrArg (List.map Envelope.kind) (silent {} stopped [late] client (by decide))
  exact absurd kinds (by decide)

end Service

end Gateway
