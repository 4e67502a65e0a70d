import Gateway.Proofs.Service.AfterEnd
import Gateway.Proofs.Service.Course

namespace Gateway

open WebSocket (Message Outbound)

def SessionMove.read? : SessionMove → Option Message
  | read _ message => some message
  | _ => none

def SessionEvent.read? : SessionEvent → Option Message
  | frame message => some message
  | readEnd | outbound _ | abandoned | timer => none

theorem WebSocket.Message.data?_eq (m : Message) : m.data? = if m.isControl then none else some m.payload := by
  cases m <;> rfl

theorem Session.read?_of_event? {s : Session} {e : Engine} {n : Nat} {move : SessionMove} {now : Nat}
    {event : SessionEvent} (noticed : s.event? e n move = some (now, event)) : event.read? = move.read? := by
  obtain ⟨deadline, _, noticed⟩ := Option.bind_eq_some_iff.mp noticed
  cases move with
  | read | readEnd =>
    cases noticed
    rfl
  | take | wake =>
    dsimp only at noticed
    split at noticed
    all_goals try split at noticed
    all_goals try split at noticed
    all_goals cases noticed
    all_goals rfl
  | start | written | fail => cases noticed

theorem Session.read?_of_unnoticed {s : Session} {e : Engine} {n : Nat} {move : SessionMove}
    (unnoticed : s.event? e n move = none) (free : s.deadline ≠ none) : move.read? = none := by
  obtain ⟨deadline, found⟩ := Option.ne_none_iff_exists'.mp free
  cases move with
  | read now message =>
    rw [event?, found] at unnoticed
    cases unnoticed
  | _ => rfl

/-! One turn. -/

namespace SessionTurn

/-- The message that the host is told of: data of the client, unless it is to be sent back and is lost on the way. -/
def heard? (t : SessionTurn) : Option Message :=
  t.event.read?.filter fun message => !message.isControl && !(t.session.config.echo && t.written.isNone)

def echoed? (t : SessionTurn) : Option Message :=
  if t.event.read?.isSome && t.written.isSome then t.step.write else none

variable {t : SessionTurn}

theorem heard_frame {message : Message} (event : t.event = .frame message) : t.heard? =
    if !message.isControl && !(t.session.config.echo && t.written.isNone) then some message else none := by
  rw [heard?, event]
  exact Option.filter_some ..

theorem message_step (t : SessionTurn) : t.step.message = t.heard?.map (·.payload) := by
  have told : t.step.message = _ := t.session.message_step t.now t.event t.written
  cases event : t.event with
  | frame message =>
    rw [told, event, heard_frame event]
    dsimp only
    rw [message.data?_eq]
    cases message.isControl <;> cases t.session.config.echo <;> cases t.written <;> rfl
  | _ =>
    rw [told, heard?, event]
    rfl

theorem write_frame {message : Message} (event : t.event = .frame message) :
    t.step.write = if !message.isControl && t.session.config.echo then some message else none := by
  have received : t.step = t.session.receive t.now message t.written := by
    unfold step
    rw [event]
    rfl
  rw [received]
  cases message <;> cases echo : t.session.config.echo <;>
    simp [Session.receive, echo, Session.continues, Message.isControl]

theorem echoed_eq_heard (echo : t.session.config.echo = true) : t.echoed? = t.heard? := by
  cases event : t.event with
  | frame message =>
    rw [echoed?, heard_frame event, write_frame event, event, echo]
    cases message.isControl <;> cases t.written <;> rfl
  | _ =>
    rw [echoed?, heard?, event]
    rfl

theorem heard_or_lost (t : SessionTurn) : t.heard? = t.event.read?.filter (!·.isControl) ∨
    ∃ message, t.event = .frame message ∧ message.isControl = false ∧ t.session.config.echo = true ∧
      t.written = none ∧ t.step.isOver = true ∧ t.heard? = none := by
  by_cases lost : t.session.config.echo = true ∧ t.written = none
  · obtain ⟨echo, written⟩ := lost
    cases event : t.event with
    | frame message =>
      have heard := heard_frame event
      rw [echo, written, Bool.and_comm] at heard
      cases control : message.isControl with
      | true =>
        rw [heard, SessionEvent.read?, Option.filter_some, control]
        exact .inl rfl
      | false =>
        have writes : t.step.write ≠ none := by
          rw [write_frame event, control, echo]
          exact Option.some_ne_none _
        exact .inr ⟨message, rfl, control, echo, written, isOver_of_lost writes written, heard⟩
    | _ =>
      rw [heard?, event]
      exact .inl rfl
  · have kept : (t.session.config.echo && t.written.isNone) = false := by
      rw [Bool.eq_false_iff, ne_eq, Bool.and_eq_true, Option.isNone_iff_eq_none]
      exact lost
    rw [heard?, kept]
    simp

theorem heard_of_going (going : t.step.isOver = false) : t.heard? = t.event.read?.filter (!·.isControl) := by
  rcases t.heard_or_lost with all | ⟨_, _, _, _, _, finished, _⟩
  · exact all
  · cases going.symm.trans finished

theorem heard_all {turns : List SessionTurn}
    (all : ∀ t ∈ turns, t.heard? = t.event.read?.filter (!·.isControl)) :
    turns.filterMap (·.heard?) = (turns.filterMap (·.event.read?)).filter (!·.isControl) := by
  rw [List.filter_filterMap]
  exact List.filterMap_congr all

theorem source_of_write {message : Message} (write : t.step.write = some message) (data : message.isControl = false) :
    (∃ frame, t.event = .outbound frame ∧ frame.message = message) ∨
      t.session.config.echo = true ∧ t.event = .frame message := by
  cases event : t.event with
  | frame read =>
    rw [write_frame event] at write
    split at write
    · rename_i answers
      cases write
      rw [Bool.and_eq_true] at answers
      exact .inr ⟨answers.2, rfl⟩
    · cases write
  | outbound frame =>
    have written := write_step (t := t) (by rw [frame?, event])
    exact .inl ⟨frame, rfl, Option.some.inj (written.symm.trans write)⟩
  | readEnd | abandoned | timer =>
    have out := t.outcome
    generalize t.step = step at *
    cases out with
    | closes | pings =>
      cases write
      cases data
    | transmits _ noticed | echoes _ noticed => cases event.symm.trans noticed
    | hears | rests | ends => cases write

end SessionTurn

namespace Task

def Listens : Task → Prop
  | session _ s none => s.deadline ≠ none
  | _ => False

def answering? : Task → Option Message
  | session _ _ (some (_, event)) => event.read?
  | _ => none

theorem answering_of_asks {task : Task} (asks : task.Asks) : task.answering? = none := by
  cases task with
  | session => exact asks.elim
  | _ => rfl

end Task

instance (task : Task) : Decidable task.Listens := by
  unfold Task.Listens
  split <;> infer_instance

/-! What the host is told. -/

theorem Effect.messages_events (effect : Effect) (s : Standing) (id : Uuid) (limit : Nat) :
    (effect.events s id limit).filter (·.kind == .message) =
      effect.message?.toList.map (Envelope.capped .message id.text · limit) := by
  have closing (payload : Bytes) : (s.closing id limit payload).filter (·.kind == .message) = [] := by
    unfold Standing.closing
    split <;> rfl
  cases effect with
  | stepped line step =>
    have ends : (if step.isOver then s.closing id limit step.session.closePayload else []).filter
        (·.kind == .message) = [] := by
      split
      · exact closing _
      · rfl
    rw [events, List.filter_append, ends, List.append_nil, message?]
    cases step.message <;> rfl
  | stopped payload => exact closing payload
  | bodyPart | bodyEnd | letGo =>
    rw [events]
    split <;> rfl
  | _ => rfl

namespace Service

def messages (v : Service) (u : Uuid) : List Envelope := (v.told u).filter (·.kind == .message)

theorem message?_turn (v : Service) (u : Uuid) (move : SessionMove) :
    (v.sessionEffect u move).message? = (v.sessionTurn? u move).bind (·.step.message) := by
  unfold sessionEffect sessionTurn?
  cases task : v.task u with
  | unused =>
    cases move with
    | start config now =>
      dsimp only
      split <;> rfl
    | _ => rfl
  | session n s writing =>
    cases writing with
    | some writing => cases move <;> rfl
    | none =>
      dsimp only
      cases s.event? v.engine n move with
      | none =>
        dsimp only
        split <;> rfl
      | some noticed =>
        dsimp only
        split <;> rfl
  | _ => rfl

theorem heard_eq (v : Service) (u : Uuid) (move : Move) :
    v.heard u move = (v.turn? u (.move move)).bind (·.step.message) := by
  cases move with
  | session id own =>
    by_cases same : id = u
    · subst same
      rw [heard, if_pos rfl, turn?, if_pos rfl, ← v.message?_sessionEffect, v.message?_turn]
    · rw [heard, if_neg same, turn?, if_neg same]
      rfl
  | _ => rfl

theorem limit_openStep (v : Service) (move : OpenMove) : (v.openStep move).limit = v.limit := by
  cases move with
  | move move => exact (v.keeps_step move).limit
  | letGo | handle => rfl

theorem messages_openStep {v : Service} (distinct : v.engine.connections.Distinct) (u : Uuid) (move : OpenMove) :
    (v.openStep move).messages u =
      v.messages u ++ ((v.turn? u move).bind (·.step.message)).toList.map (v.envelope u .message) := by
  cases move with
  | move move =>
    have told := congrArg Standing.told (v.standing_step u move distinct)
    have heard := v.message?_effect u move
    rw [v.heard_eq u move] at heard
    unfold messages
    rw [show (v.openStep (.move move)).told u = _ from told, Standing.after, List.filter_append,
      Effect.messages_events, heard]
    rfl
  | letGo | handle => exact (List.append_nil _).symm

/-- The frame that a session reads with a move, if it is not busy. -/
def read? (v : Service) (u : Uuid) : OpenMove → Option Message
  | .move (.session id move) => if id = u ∧ (v.task u).Listens then move.read? else none
  | _ => none

def readAlong (v : Service) (u : Uuid) : List OpenMove → List Message
  | [] => []
  | move :: rest => (v.read? u move).toList ++ (v.openStep move).readAlong u rest

theorem read_others (v : Service) {u : Uuid} {move : OpenMove} (apart : ∀ own, move ≠ .move (.session u own)) :
    v.turn? u move = none ∧ v.read? u move = none ∧
      ((v.openStep move).task u).answering? = (v.task u).answering? := by
  refine ⟨Watch.turn?_of_apart apart, ?_, ?_⟩
  · unfold read?
    split
    · rename_i id own
      have other : id ≠ u := fun same => apart own (by rw [same])
      exact if_neg fun both => other both.1
    · rfl
  · rcases v.task_openStep apart with same | ⟨before, after⟩
    · rw [same]
    · rw [Task.answering_of_asks before, Task.answering_of_asks after]

theorem answering_complete (v : Service) (u : Uuid) (n : Nat) (step : SessionStep) :
    ((v.complete u n step).task u).answering? = none := by
  rw [task_complete]
  split <;> rfl

theorem read_notice (v : Service) (u : Uuid) (n : Nat) (s : Session) (now : Nat) (event : SessionEvent) :
    (if (s.frameOf now event).isSome then none
      else some (⟨s, now, event, some now⟩ : SessionTurn)).toList.filterMap (·.event.read?) ++
        ((v.notice u n s now event).task u).answering?.toList = event.read?.toList := by
  unfold notice
  cases s.frameOf now event with
  | some frame =>
    dsimp only
    rw [task_setTask]
    rfl
  | none =>
    dsimp only
    rw [answering_complete]
    cases event <;> rfl

theorem read_own (v : Service) (u : Uuid) (move : SessionMove) :
    (v.sessionTurn? u move).toList.filterMap (·.event.read?) ++ ((v.moveSession u move).task u).answering?.toList =
      (v.task u).answering?.toList ++ (v.read? u (.move (.session u move))).toList := by
  cases task : v.task u with
  | session n s writing =>
    cases writing with
    | some writing =>
      obtain ⟨since, event⟩ := writing
      have busy : v.read? u (.move (.session u move)) = none := if_neg (by simp [task, Task.Listens])
      rw [busy]
      unfold sessionTurn? moveSession
      rw [task]
      cases move with
      | written time =>
        dsimp only
        rw [answering_complete]
        cases event <;> rfl
      | _ =>
        dsimp only
        rw [task]
        cases event <;> rfl
    | none =>
      have reads : v.read? u (.move (.session u move)) = if s.deadline ≠ none then move.read? else none := by
        simp only [read?, task, Task.Listens, true_and]
      rw [reads]
      unfold sessionTurn? moveSession
      rw [task]
      dsimp only
      cases noticed : s.event? v.engine n move with
      | none =>
        have nothing : (if s.deadline ≠ none then move.read? else none) = none := by
          split
          · exact Session.read?_of_unnoticed noticed ‹_›
          · rfl
        rw [nothing]
        dsimp only
        split
        · rw [fail, task_setTask]
          rfl
        · rw [task]
          rfl
      | some found =>
        have free : s.deadline ≠ none := by
          obtain ⟨deadline, some, _⟩ := Option.bind_eq_some_iff.mp noticed
          exact some ▸ Option.some_ne_none deadline
        rw [if_pos free, ← Session.read?_of_event? noticed]
        exact v.read_notice u n s found.1 found.2
  | unused =>
    have busy : v.read? u (.move (.session u move)) = none := if_neg (by simp [task, Task.Listens])
    rw [busy]
    unfold sessionTurn? moveSession
    rw [task]
    cases move with
    | start config now =>
      dsimp only
      rw [task_startSession]
      split <;> rfl
    | _ =>
      dsimp only
      rw [task]
      rfl
  | _ =>
    have busy : v.read? u (.move (.session u move)) = none := if_neg (by simp [task, Task.Listens])
    rw [busy]
    unfold sessionTurn? moveSession
    rw [task]
    dsimp only
    rw [task]
    rfl

theorem read_openStep (v : Service) (u : Uuid) (move : OpenMove) :
    (v.turn? u move).toList.filterMap (·.event.read?) ++ ((v.openStep move).task u).answering?.toList =
      (v.task u).answering?.toList ++ (v.read? u move).toList := by
  by_cases own : ∃ m, move = .move (.session u m)
  · obtain ⟨m, rfl⟩ := own
    have turn : v.turn? u (.move (.session u m)) = v.sessionTurn? u m := if_pos rfl
    rw [turn]
    exact v.read_own u m
  · obtain ⟨turn, read, same⟩ := v.read_others fun m same => own ⟨m, same⟩
    rw [turn, read, same]
    exact (List.append_nil _).symm

theorem heard_of_echo {v : Service} {u : Uuid} {move : Move} {data : Bytes}
    (echo : ∀ n s writing, v.task u = .session n s writing → s.config.echo = true) (heard : v.heard u move = some data) :
    ∃ n s since message time, v.task u = .session n s (some (since, .frame message)) ∧
      move = .session u (.written (some time)) ∧ message.isControl = false ∧ data = message.payload := by
  unfold Service.heard at heard
  split at heard
  · rename_i id own
    split at heard
    · rename_i same
      subst same
      unfold reported at heard
      split at heard
      · rename_i n s _ message task
        rw [if_pos (.inl (echo _ _ _ task))] at heard
        cases heard
      · rename_i n s since message time task
        rw [message.data?_eq] at heard
        cases time with
        | none => simp [echo _ _ _ task] at heard
        | some time =>
          have sent : ¬(s.config.echo = true ∧ some time = none) := fun lost => nomatch lost.2
          rw [if_neg sent] at heard
          split at heard
          · cases heard
          · rename_i data
            cases heard
            exact ⟨n, s, since, message, time, task, rfl, eq_false_of_ne_true data, rfl⟩
      · cases heard
    · cases heard
  all_goals cases heard

theorem messages_of_echo {v : Service} {u : Uuid} (distinct : v.engine.connections.Distinct)
    (echo : ∀ n s writing, v.task u = .session n s writing → s.config.echo = true) (move : OpenMove) :
    (v.openStep move).messages u = v.messages u ∨
      ∃ n s since message time, v.task u = .session n s (some (since, .frame message)) ∧
        move = .move (.session u (.written (some time))) ∧
        (v.openStep move).messages u = v.messages u ++ [v.envelope u .message message.payload] := by
  rw [messages_openStep distinct u move]
  cases move with
  | letGo | handle => exact .inl (List.append_nil _)
  | move move =>
    rw [← v.heard_eq u move]
    cases heard : v.heard u move with
    | none => exact .inl (List.append_nil _)
    | some data =>
      obtain ⟨n, s, since, message, time, task, rfl, _, rfl⟩ := heard_of_echo echo heard
      exact .inr ⟨n, s, since, message, time, task, rfl, rfl⟩

end Service

namespace Watch

variable {u : Uuid} {w : Watch}

theorem read_run (w : Watch) (u : Uuid) (moves : List OpenMove) :
    (w.run u moves).turns.filterMap (·.event.read?) ++ ((w.run u moves).service.task u).answering?.toList =
      w.turns.filterMap (·.event.read?) ++ (w.service.task u).answering?.toList ++ w.service.readAlong u moves := by
  induction moves generalizing w with
  | nil => exact (List.append_nil _).symm
  | cons move rest ih =>
    have step := w.service.read_openStep u move
    refine (ih (w.step u move)).trans ?_
    rw [turns_step, service_step, Service.readAlong, List.filterMap_append]
    simp only [List.append_assoc] at step ⊢
    rw [← List.append_assoc _ _ (Service.readAlong _ u rest), step, List.append_assoc]

structure Tells (w : Watch) (u : Uuid) (limit : Nat) : Prop where
  limited : w.service.limit = limit
  messages : w.service.messages u = (w.turns.filterMap (·.step.message)).map (Envelope.capped .message u.text · limit)

theorem Tells.step {limit : Nat} (tells : w.Tells u limit) (placed : w.service.Placed) (move : OpenMove) :
    (w.step u move).Tells u limit := by
  have added := Service.messages_openStep placed.wired.distinct u move
  refine ⟨?_, ?_⟩
  · rw [service_step, Service.limit_openStep, tells.limited]
  · rw [service_step, turns_step, added, tells.messages, List.filterMap_append, List.map_append]
    unfold Service.envelope
    rw [tells.limited]
    cases w.service.turn? u move with
    | none => rfl
    | some t => cases told : t.step.message <;> simp [told]

theorem tells_run (config : ServerConfig) (moves : List OpenMove) (u : Uuid) :
    ((start config).run u moves).Tells u config.maxPayloadSize := by
  induction moves using List.reverseRecOn with
  | nil => exact ⟨rfl, rfl⟩
  | append_singleton moves move ih =>
    have placed := (law_run (law_start config u) (Service.placed_start config) moves).2
    rw [run_concat]
    exact ih.step placed move

/-- Of the messages that a session has read it has heard all, or all but the last: that one is to be sent back, and is
    on its way or lost. -/
theorem heard_run {config : ServerConfig} {moves : List OpenMove} (ran : w = (start config).run u moves)
    (traced : w.Traced u moves) : ((Service.start config).readAlong u moves).filter (!·.isControl) =
      w.turns.filterMap (·.heard?) ∨
    ∃ message, ((Service.start config).readAlong u moves).filter (!·.isControl) =
        w.turns.filterMap (·.heard?) ++ [message] ∧
      ((∃ n s now, w.service.task u = .session n s (some (now, .frame message)) ∧ s.config.echo = true) ∨
        w.service.task u = .ended ∧ ∃ before t, w.turns = before ++ [t] ∧ t.event = .frame message ∧
          t.written = none ∧ t.session.config.echo = true) := by
  have read : w.turns.filterMap (·.event.read?) ++ (w.service.task u).answering?.toList =
      (Service.start config).readAlong u moves := by
    rw [ran]
    exact (start config).read_run u moves
  have law : w.Law u := by
    rw [ran]
    exact (law_run (law_start config u) (Service.placed_start config) moves).1
  rw [← read, List.filter_append]
  unfold Law at law
  cases task : w.service.task u with
  | session n s writing =>
    rw [task] at law
    have all := SessionTurn.heard_all fun t within => SessionTurn.heard_of_going (law.lasts t within)
    rw [← all]
    cases traced with
    | idle _ idle => exact absurd task (idle n s writing)
    | served _ _ running =>
      obtain ⟨_, _, writes⟩ := running n s writing task
      match writing with
      | none => exact .inl (List.append_nil _)
      | some (now, event) =>
        have out := writes now event rfl
        cases event with
        | frame message =>
          rw [s.frameOf_frame, message.data?_eq] at out
          cases control : message.isControl with
          | true => simp [control] at out
          | false =>
            have echo : s.config.echo = true := by
              by_contra silent
              simp [silent] at out
            refine .inr ⟨message, ?_, .inl ⟨n, s, now, rfl, echo⟩⟩
            simp [Task.answering?, SessionEvent.read?, control]
        | _ => exact .inl (List.append_nil _)
  | ended =>
    rw [task] at law
    obtain ⟨before, t, turns, going⟩ := law.lasts
    have all := SessionTurn.heard_all fun t within => SessionTurn.heard_of_going (going t within)
    rw [turns, List.filterMap_append, List.filterMap_append, List.filter_append, ← all]
    rcases t.heard_or_lost with whole | ⟨message, event, data, echo, written, _, unheard⟩
    · refine .inl ?_
      have last := SessionTurn.heard_all (List.forall_mem_singleton.mpr whole)
      rw [last]
      exact List.append_nil _
    · refine .inr ⟨message, ?_, .inr ⟨rfl, before, t, rfl, event, written, echo⟩⟩
      simp [event, unheard, SessionEvent.read?, data, Task.answering?]
  | failed =>
    rw [task] at law
    have all := SessionTurn.heard_all fun t within => SessionTurn.heard_of_going (law.lasts t within)
    rw [← all]
    exact .inl (List.append_nil _)
  | unused | refused | request =>
    rw [task] at law
    rw [law.turns]
    exact .inl rfl

theorem Traced.configured {moves : List OpenMove} (traced : w.Traced u moves) : ∃ own : SessionConfig,
    (∀ t ∈ w.turns, t.session.config = own) ∧ (∀ n s writing, w.service.task u = .session n s writing → s.config = own) ∧
      (w.turns = [] ∧ (∀ n s writing, w.service.task u ≠ .session n s writing) ∨
        ∃ since, starting u own since ∈ moves) := by
  cases traced with
  | idle none idle =>
    refine ⟨{}, ?_, fun n s writing task => absurd task (idle n s writing), .inl ⟨none, idle⟩⟩
    rw [none]
    exact List.forall_mem_nil _
  | @served own since last course _ running =>
    refine ⟨own, fun t within => ?_, fun n s writing task => ?_, .inr ⟨since, course.started⟩⟩
    · obtain ⟨before, after, split⟩ := List.append_of_mem within
      exact (split ▸ course.takes).split.clocks.1
    · obtain ⟨rfl, _⟩ := running n s writing task
      exact course.takes.clocks.1

/-- The messages of a session in any run, whatever the client, the host and the session's timer do meanwhile. The
    events that bring a message are, in order and one each, those for the data that the session read, cut to the limit
    of the queue and marked if that cut them. A session that does not echo tells of all the data that it read, and all
    data that it writes is data of the host. One that echoes sends the same messages back in the same order, whole,
    and the host is told of each with the move by which it has gone out; of what was read it can miss one message,
    which is on its way out, or was lost when the session ended. -/
theorem messages_run (config : ServerConfig) (moves : List OpenMove) (u : Uuid) :
    let w := (start config).run u moves
    let data := ((Service.start config).readAlong u moves).filter (!·.isControl)
    let heard := w.turns.filterMap (·.heard?)
    let told := fun message : Message => (⟨.message, u.text, message.payload.take config.maxPayloadSize,
      config.maxPayloadSize < message.payload.length⟩ : Envelope)
    w.service.messages u = heard.map told ∧
    ∃ own : SessionConfig, (data ≠ [] → ∃ since, starting u own since ∈ moves) ∧
      (∀ t ∈ w.turns, t.session.config = own) ∧
      (own.echo = false → heard = data ∧ ∀ t ∈ w.turns, ∀ message, t.step.write = some message →
        message.isControl = false → ∃ frame, t.event = .outbound frame ∧ frame.message = message) ∧
      (own.echo = true → w.turns.filterMap (·.echoed?) = heard ∧
        (data = heard ∨ ∃ message, data = heard ++ [message] ∧
          ((∃ n s now, w.service.task u = .session n s (some (now, .frame message))) ∨
            w.service.task u = .ended ∧ ∃ before t, w.turns = before ++ [t] ∧ t.event = .frame message ∧
              t.written = none)) ∧
        ∀ move, (w.step u move).service.messages u = w.service.messages u ∨
          ∃ n s now message time, w.service.task u = .session n s (some (now, .frame message)) ∧
            move = .move (.session u (.written (some time))) ∧
            (w.step u move).service.messages u = w.service.messages u ++ [told message]) := by
  intro w data heard told
  have traced : w.Traced u moves := traced_run config moves u
  have tells : w.Tells u config.maxPayloadSize := tells_run config moves u
  have messages : w.service.messages u = heard.map told := by
    have same : w.turns.filterMap (·.step.message) = heard.map (·.payload) := by
      rw [List.map_filterMap]
      exact List.filterMap_congr fun t _ => t.message_step
    rw [tells.messages, same, List.map_map]
    rfl
  obtain ⟨own, configured, running, began⟩ := traced.configured
  have heardOrLost := heard_run (w := w) rfl traced
  refine ⟨messages, own, fun reads => ?_, configured, fun silent => ⟨?_, fun t within message write plain => ?_⟩,
    fun echo => ⟨?_, ?_, fun move => ?_⟩⟩
  · rcases began with ⟨none, idle⟩ | since
    · exfalso
      rcases heardOrLost with all | ⟨_, _, ⟨n, s, now, task, _⟩ | ⟨_, before, t, turns, _⟩⟩
      · rw [none] at all
        exact reads all
      · exact idle n s _ task
      · simp [none] at turns
    · exact since
  · rcases heardOrLost with all | ⟨_, _, ⟨n, s, now, task, echo⟩ | ⟨_, before, t, turns, _, _, echo⟩⟩
    · exact all.symm
    · rw [running n s _ task, silent] at echo
      cases echo
    · rw [configured t (by simp [turns]), silent] at echo
      cases echo
  · rcases SessionTurn.source_of_write write plain with host | ⟨echo, _⟩
    · exact host
    · rw [configured t within, silent] at echo
      cases echo
  · refine List.filterMap_congr fun t within => SessionTurn.echoed_eq_heard ?_
    rw [configured t within, echo]
  · rcases heardOrLost with all | ⟨message, all, ⟨n, s, now, task, _⟩ | ⟨ended, before, t, turns, event, lost, _⟩⟩
    · exact .inl all
    · exact .inr ⟨message, all, .inl ⟨n, s, now, task⟩⟩
    · exact .inr ⟨message, all, .inr ⟨ended, before, t, turns, event, lost⟩⟩
  · have placed : w.service.Placed := (law_run (law_start config u) (Service.placed_start config) moves).2
    have echoes : ∀ n s writing, w.service.task u = .session n s writing → s.config.echo = true := by
      intro n s writing task
      rw [running n s writing task, echo]
    rw [service_step]
    rcases Service.messages_of_echo placed.wired.distinct echoes move with same | ⟨n, s, now, message, time, task, own, more⟩
    · exact .inl same
    · refine .inr ⟨n, s, now, message, time, task, own, ?_⟩
      rw [more, Service.envelope, tells.limited]
      rfl

/-- A client whose session sends back what it is sent, while the host may be told of two bytes of it. It is pinged on
    the way, and the last message cannot be sent back any more. -/
def echoing : List OpenMove :=
  [.move (.session caller (.start { echo := true } 0)), .move (.session caller (.read 1 (.text "abc"))),
    .move (.session caller (.written (some 1))), .move (.session caller (.read 2 (.ping [7]))),
    .move (.host (.send ⟨caller⟩ (.text "news"))), .move (.session caller (.take 3)),
    .move (.session caller (.written (some 3))), .move (.session caller (.read 4 (.binary [1, 2]))),
    .move (.session caller (.written (some 4))), .move (.session caller (.read 5 (.text "late")))]

theorem messages_run_echoing :
    let w := (start { maxPayloadSize := 2 }).run caller echoing
    let read := (Service.start { maxPayloadSize := 2 }).readAlong caller echoing
    read.filter (!·.isControl) = [.text "abc", .binary [1, 2], .text "late"] ∧
    w.service.messages caller =
      [⟨.message, caller.text, Text.bytes "ab", true⟩, ⟨.message, caller.text, [1, 2], false⟩] ∧
    w.turns.filterMap (·.echoed?) = [.text "abc", .binary [1, 2]] ∧
    ∃ n s now, w.service.task caller = .session n s (some (now, .frame (.text "late"))) := by
  intro w read
  have data : read.filter (!·.isControl) = [.text "abc", .binary [1, 2], .text "late"] := by decide
  have heard : w.turns.filterMap (·.heard?) = [.text "abc", .binary [1, 2]] := by decide
  obtain ⟨told, own, begun, _, _, echoes⟩ := messages_run { maxPayloadSize := 2 } echoing caller
  have started : ∃ since, starting caller own since ∈ echoing := begun (by decide)
  have echo : own.echo = true := by
    obtain ⟨since, member⟩ := started
    have same : own = { echo := true } ∧ since = 0 := by simpa [starting, echoing] using member
    rw [same.1]
  obtain ⟨echoed, last, _⟩ := echoes echo
  refine ⟨data, ?_, echoed.trans heard, ?_⟩
  · rw [show w.service.messages caller = _ from told, show ((start _).run caller echoing).turns.filterMap _ = _ from heard]
    decide
  · rcases last with all | ⟨message, all, writing | ⟨ended, _⟩⟩
    · exact absurd (data.symm.trans (all.trans heard)) (by decide)
    · have late : message = .text "late" := by
        have split : [.text "abc", .binary [1, 2], .text "late"] = [.text "abc", .binary [1, 2]] ++ [message] :=
          data.symm.trans (all.trans (congrArg (· ++ [message]) heard))
        simpa [eq_comm] using split
      rw [← late]
      exact writing
    · exact absurd ended (by decide)

end Watch

end Gateway
