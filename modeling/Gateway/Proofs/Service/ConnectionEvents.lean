import Gateway.Proofs.Service.Simulation

namespace Gateway

namespace Standing

variable {s t : Standing}

def kinds (s : Standing) : List EventKind := s.told.map (·.kind)

def Registered (s : Standing) : Prop :=
  ∃ rest, s.kinds = .opened :: rest ∧ (∀ kind ∈ rest, kind = .message ∨ kind = .closed) ∧
    rest.count .closed = if s.isLive = true then 0 else 1

def ConnectionLaw (s : Standing) : Prop :=
  match s.task with
  | .unused | .refused => s.told = [] ∧ s.entry = none
  | .session _ _ _ | .failed => s.Registered
  | .ended => s.Registered ∧ s.isLive = false
  | .request _ _ _ => s.entry = none ∧ ∀ kind ∈ s.kinds, kind ≠ .opened ∧ kind ≠ .closed

theorem Registered.extend (law : s.Registered) (events : List Envelope) (told : t.told = s.told ++ events)
    (known : ∀ e ∈ events, e.kind = .message ∨ e.kind = .closed)
    (closes : (if s.isLive = true then 0 else 1) + (events.map (·.kind)).count .closed =
      if t.isLive = true then 0 else 1) : t.Registered := by
  obtain ⟨rest, kinds, only, count⟩ := law
  refine ⟨rest ++ events.map (·.kind), ?_, ?_, ?_⟩
  · simp only [Standing.kinds] at kinds
    rw [Standing.kinds, told, List.map_append, kinds, List.cons_append]
  · intro kind member
    rcases List.mem_append.mp member with member | member
    · exact only kind member
    · obtain ⟨e, listed, rfl⟩ := List.mem_map.mp member
      exact known e listed
  · rw [List.count_append, count, closes]

theorem Registered.same (law : s.Registered) (told : t.told = s.told) (live : t.isLive = s.isLive) :
    t.Registered := by
  refine law.extend [] (told.trans (List.append_nil _).symm) (by simp) ?_
  rw [live]
  rfl

theorem count_closing (s : Standing) (id : Uuid) (limit : Nat) (payload : Bytes) :
    (if s.isLive = true then 0 else 1) + ((s.closing id limit payload).map (·.kind)).count .closed = 1 := by
  unfold closing
  split <;> rfl

theorem kind_closing {id : Uuid} {limit : Nat} {payload : Bytes} {e : Envelope}
    (member : e ∈ s.closing id limit payload) : e.kind = .closed := by
  unfold closing at member
  split at member
  · rw [List.mem_singleton.mp member]
    rfl
  · cases member

theorem closing_of_absent (absent : s.entry = none) (id : Uuid) (limit : Nat) (payload : Bytes) :
    s.closing id limit payload = [] := by
  simp [closing, isLive, absent]

theorem isLive_fade (faded : t.entry = s.entry.map fun _ => .faded) : t.isLive = false := by
  rw [isLive, faded]
  cases s.entry <;> rfl

theorem isLive_purge (purged : t.entry = s.entry.filter (!·.isFaded)) : t.isLive = s.isLive := by
  rw [isLive, isLive, purged]
  cases s.entry with
  | none => rfl
  | some entry => cases entry <;> rfl

theorem count_messages (messages : List Bytes) (id : Uuid) (limit : Nat) :
    ((messages.map (Envelope.capped .message id.text · limit)).map (·.kind)).count .closed = 0 := by
  rw [List.count_eq_zero, List.map_map]
  intro member
  obtain ⟨_, _, same⟩ := List.mem_map.mp member
  cases same

theorem Registered.stepped (law : s.Registered) (id : Uuid) (limit line : Nat) (step : SessionStep) :
    (s.after id limit (.stepped line step)).Registered ∧
      (step.isOver = true → (s.after id limit (.stepped line step)).isLive = false) := by
  have messages := count_messages step.message.toList id limit
  cases finished : step.isOver with
  | true =>
    have faded : (s.after id limit (.stepped line step)).isLive = false :=
      isLive_fade (s := s) (by simp only [after, Effect.entry, finished, if_true])
    refine ⟨law.extend ((Effect.stepped line step).events s id limit) rfl ?_ ?_, fun _ => faded⟩
    · intro e member
      simp only [Effect.events, finished, if_true, List.mem_append, List.mem_map] at member
      rcases member with ⟨_, _, rfl⟩ | member
      · exact .inl rfl
      · exact .inr (kind_closing member)
    · rw [faded, Effect.events, finished, if_pos rfl, List.map_append, List.count_append, messages, Nat.zero_add]
      exact s.count_closing id limit _
  | false =>
    have same : (s.after id limit (.stepped line step)).isLive = s.isLive := by
      simp only [isLive, after, Effect.entry, finished, Bool.false_eq_true, if_false]
    refine ⟨law.extend ((Effect.stepped line step).events s id limit) rfl ?_ ?_, (absurd · Bool.false_ne_true)⟩
    · intro e member
      simp only [Effect.events, finished, Bool.false_eq_true, if_false, List.append_nil, List.mem_map] at member
      obtain ⟨_, _, rfl⟩ := member
      exact .inl rfl
    · rw [same, Effect.events, finished, if_neg Bool.false_ne_true, List.append_nil, messages, Nat.add_zero]

theorem ConnectionLaw.stopped (law : s.ConnectionLaw) (id : Uuid) (limit : Nat) (payload : Bytes) :
    (s.after id limit (.stopped payload)).ConnectionLaw := by
  have faded : (s.after id limit (.stopped payload)).isLive = false := isLive_fade rfl
  have registered (law : s.Registered) : (s.after id limit (.stopped payload)).Registered := by
    refine law.extend (s.closing id limit payload) rfl (fun e member => .inr (kind_closing member)) ?_
    rw [faded]
    exact s.count_closing id limit payload
  have task : (s.after id limit (.stopped payload)).task = s.task := rfl
  unfold ConnectionLaw at law ⊢
  rw [task]
  cases running : s.task <;> simp only [running] at law ⊢
  case session | failed => exact registered law
  case ended => exact ⟨registered law.1, faded⟩
  case unused | refused =>
    simp only [after, Effect.events, Effect.entry, law.1, law.2, closing_of_absent law.2]
    exact ⟨rfl, rfl⟩
  case request =>
    simp only [kinds, after, Effect.events, Effect.entry, closing_of_absent law.1, List.append_nil, law.1]
    exact ⟨rfl, law.2⟩

theorem ConnectionLaw.congr (law : s.ConnectionLaw) (task : t.task = s.task) (told : t.told = s.told)
    (entry : t.entry = s.entry) : t.ConnectionLaw := by
  obtain ⟨_, _, _, _⟩ := s
  obtain ⟨_, _, _, _⟩ := t
  subst task told entry
  exact law

theorem ConnectionLaw.asked {n m : Nat} {isReading isGuarded reads guards : Bool} {events : List Envelope}
    (law : s.ConnectionLaw) (before : s.task = .request n isReading isGuarded)
    (after : t.task = .request m reads guards) (entry : t.entry = s.entry) (told : t.told = s.told ++ events)
    (asks : ∀ e ∈ events, e.kind ∈ [.requestData, .requestEnd, .requestAbort, .writable]) : t.ConnectionLaw := by
  simp only [ConnectionLaw, before] at law
  simp only [ConnectionLaw, after]
  refine ⟨entry.trans law.1, fun kind member => ?_⟩
  rw [kinds, told, List.map_append] at member
  rcases List.mem_append.mp member with member | member
  · exact law.2 kind member
  · obtain ⟨e, listed, rfl⟩ := List.mem_map.mp member
    have other : ∀ kind ∈ [EventKind.requestData, .requestEnd, .requestAbort, .writable],
        kind ≠ .opened ∧ kind ≠ .closed := by decide
    exact other _ (asks e listed)

theorem ConnectionLaw.after {effect : Effect} (law : s.ConnectionLaw) (possible : effect.Possible s) (id : Uuid)
    (limit : Nat) : (s.after id limit effect).ConnectionLaw := by
  have told : effect.events s id limit = [] → (s.after id limit effect).told = s.told := by
    intro quiet
    rw [Standing.after, quiet, List.append_nil]
  cases effect with
  | nothing => rwa [after_nothing]
  | refused =>
    simp only [ConnectionLaw, show s.task = .unused from possible] at law
    exact ⟨(told rfl).trans law.1, law.2⟩
  | opened line session =>
    simp only [ConnectionLaw, possible.1] at law
    refine ⟨[], ?_, List.forall_mem_nil _, rfl⟩
    simp [kinds, Standing.after, law.1, Effect.events, Envelope.capped]
  | waits line session since event =>
    simp only [ConnectionLaw, show s.task = _ from possible] at law
    exact law.same (told rfl) rfl
  | stepped line step =>
    obtain ⟨session, writing, running⟩ := possible
    simp only [ConnectionLaw, running] at law
    obtain ⟨registered, ended⟩ := law.stepped id limit line step
    have task : (s.after id limit (.stepped line step)).task =
      if step.isOver = true then .ended else .session line step.session none := rfl
    rw [ConnectionLaw, task]
    split_ifs with finished
    · exact ⟨registered, ended finished⟩
    · exact registered
  | failed line =>
    obtain ⟨session, running, _⟩ := possible
    simp only [ConnectionLaw, running] at law
    exact law.same (told rfl) rfl
  | stopped payload => exact law.stopped id limit payload
  | purged =>
    have live : (s.after id limit .purged).isLive = s.isLive := isLive_purge rfl
    unfold ConnectionLaw at law ⊢
    rw [show (s.after id limit .purged).task = s.task from rfl]
    cases running : s.task <;> simp only [running] at law ⊢
    case session | failed => exact law.same (told rfl) live
    case ended => exact ⟨law.1.same (told rfl) live, live.trans law.2⟩
    case unused | refused =>
      refine ⟨(told rfl).trans law.1, ?_⟩
      simp only [Standing.after, Effect.entry, law.2, Option.filter_none]
    case request =>
      refine ⟨?_, ?_⟩
      · simp only [Standing.after, Effect.entry, law.1, Option.filter_none]
      · rw [kinds, told rfl]
        exact law.2
  | begun n =>
    simp only [ConnectionLaw, possible.1] at law
    refine ⟨law.2, ?_⟩
    simp [kinds, Standing.after, law.1, Effect.events, Envelope.capped]
  | answered => exact law.congr rfl (told rfl) rfl
  | bodyPart data =>
    obtain ⟨n, isGuarded, asked⟩ := possible
    refine law.asked asked asked rfl rfl fun e member => ?_
    simp only [Effect.events, List.mem_ite_nil_right, List.mem_singleton] at member
    simp [member.2, Envelope.capped]
  | bodyEnd =>
    obtain ⟨n, isGuarded, asked⟩ := possible
    refine law.asked asked (congrArg Task.stopReading asked) rfl rfl fun e member => ?_
    simp only [Effect.events, List.mem_ite_nil_right, List.mem_singleton] at member
    simp [member.2, Envelope.capped]
  | bodyLost =>
    obtain ⟨n, isGuarded, asked⟩ := possible
    exact law.asked asked (congrArg Task.stopReading asked) rfl rfl (List.forall_mem_nil _)
  | drained written =>
    obtain ⟨n, isReading, asked⟩ := possible
    refine law.asked asked asked rfl rfl fun e member => ?_
    simp [List.mem_singleton.mp member, Envelope.capped]
  | letGo =>
    obtain ⟨n, isReading, asked⟩ := possible
    refine law.asked asked (congrArg Task.release asked) rfl rfl fun e member => ?_
    simp only [Effect.events, List.mem_ite_nil_right, List.mem_singleton] at member
    simp [member.2, Envelope.capped]

theorem Registered.closes (law : s.Registered) :
    s.kinds.count .closed ≤ 1 ∧ (.closed ∈ s.kinds → ∃ rest, s.kinds = .opened :: rest ∧ .closed ∈ rest) := by
  obtain ⟨rest, kinds, _, count⟩ := law
  rw [kinds, List.count_cons_of_ne (by decide), count]
  refine ⟨by split <;> omega, fun member => ⟨rest, rfl, ?_⟩⟩
  rcases List.mem_cons.mp member with same | member
  · cases same
  · exact member

theorem ConnectionLaw.closes (law : s.ConnectionLaw) :
    s.kinds.count .closed ≤ 1 ∧ (.closed ∈ s.kinds → ∃ rest, s.kinds = .opened :: rest ∧ .closed ∈ rest) := by
  unfold ConnectionLaw at law
  cases task : s.task <;> simp only [task] at law
  case session | failed => exact law.closes
  case ended => exact law.1.closes
  case unused | refused => simp [kinds, law.1]
  case request =>
    have absent : .closed ∉ s.kinds := fun member => (law.2 _ member).2 rfl
    exact ⟨by rw [List.count_eq_zero.mpr absent]; omega, fun member => absurd member absent⟩

end Standing

namespace Service

def kinds (v : Service) (u : Uuid) : List EventKind := (v.told u).map (·.kind)

def Registers (v : Service) (u : Uuid) : Prop :=
  v.task u = .ended ∨ v.task u = .failed ∨ ∃ line session writing, v.task u = .session line session writing

/-- Whether the registry holds a live connection under an identifier. -/
def HasLive (v : Service) (u : Uuid) : Prop := (v.engine.connections.liveLine? ⟨u⟩).isSome = true

theorem connectionLaw_step {v : Service} {u : Uuid} (distinct : v.engine.connections.Distinct)
    (law : (v.standing u).ConnectionLaw) (move : Move) : ((v.step move).standing u).ConnectionLaw :=
  standing_kept distinct (fun _ _ possible law => law.after possible u v.limit) law move

theorem connectionLaw_run (config : ServerConfig) (moves : List Move) (u : Uuid) :
    (((start config).run moves).standing u).ConnectionLaw :=
  standing_induction config u ⟨rfl, rfl⟩ (fun _ _ possible law => law.after possible u _) moves

theorem registered_of_registers {v : Service} {u : Uuid} (law : (v.standing u).ConnectionLaw)
    (registers : v.Registers u) :
    (v.standing u).Registered ∧ (v.task u = .ended → (v.standing u).isLive = false) := by
  unfold Standing.ConnectionLaw at law
  rcases registers with ended | failed | ⟨line, session, writing, running⟩
  · simp only [show (v.standing u).task = .ended from ended] at law
    exact ⟨law.1, fun _ => law.2⟩
  · simp only [show (v.standing u).task = .failed from failed] at law
    refine ⟨law, fun ended => ?_⟩
    cases failed.symm.trans ended
  · simp only [show (v.standing u).task = .session line session writing from running] at law
    refine ⟨law, fun ended => ?_⟩
    cases running.symm.trans ended

theorem hasLive_iff (v : Service) (u : Uuid) : v.HasLive u ↔ (v.standing u).isLive = true := by
  rw [isLive_standing, HasLive]

theorem effect_fail {v : Service} {u : Uuid} {line : Nat} {session : Session}
    (task : v.task u = .session line session none) (stuck : session.deadline = none) :
    v.effect u (.session u .fail) = .failed line := by
  simp [effect, sessionEffect, task, Session.event?, Session.breaksOff, stuck]

theorem task_effect_ne_failed {s : Standing} {effect : Effect} (runs : s.task ≠ .failed)
    (other : ∀ line, effect ≠ .failed line) : effect.task s ≠ .failed := by
  cases effect with
  | failed line => exact absurd rfl (other line)
  | stepped line step =>
    intro failed
    rw [Effect.task] at failed
    split at failed <;> cases failed
  | bodyEnd | bodyLost | letGo =>
    intro failed
    simp only [Effect.task] at failed
    cases task : s.task <;> rw [task] at failed runs <;> first | exact runs rfl | cases failed
  | nothing | stopped | purged | bodyPart | drained | answered => exact runs
  | refused | opened | waits | begun =>
    intro failed
    cases failed

theorem move_of_failed {v : Service} {u : Uuid} {move : Move} {line : Nat} (failed : v.effect u move = .failed line) :
    move = .session u .fail := by
  cases move with
  | session id move =>
    simp only [effect] at failed
    split at failed
    · rename_i same
      subst same
      unfold sessionEffect at failed
      repeat' split at failed
      all_goals cases failed
      exact congrArg (Move.session id) (breaksOff_iff.mp ‹_›).1
    · cases failed
  | request id move =>
    simp only [effect] at failed
    split at failed
    · have moved := v.requestMoved id move
      rw [failed] at moved
      cases moved
    · cases failed
  | host move =>
    cases move <;> simp only [effect, hostEffect] at failed <;> (try split at failed) <;> cases failed
  | pop | drain => cases failed

/-- A session breaks off by a move of its own, which is open to it if it cannot tell when it acts next. -/
theorem fails_iff {v : Service} {u : Uuid} (distinct : v.engine.connections.Distinct) (runs : v.task u ≠ .failed)
    (move : Move) : (v.step move).task u = .failed ↔
      move = .session u .fail ∧ ∃ line session, v.task u = .session line session none ∧ session.deadline = none := by
  rw [v.task_step u move distinct]
  constructor
  · intro failed
    by_contra other
    refine task_effect_ne_failed (s := v.standing u) runs (fun line effect => other ?_) failed
    have possible := v.possible_effect u move
    rw [effect] at possible
    obtain ⟨session, task, stuck⟩ := possible
    exact ⟨move_of_failed effect, line, session, task, stuck⟩
  · rintro ⟨rfl, line, session, task, stuck⟩
    rw [effect_fail task stuck]
    rfl

/-- In every run, and for every identifier: a session that was not taken queues nothing; one that was taken
    has one beginning, first of all; there is at most one end, after the beginning; and there is one just if
    the connection is not live any more, as it is when the session has ended. A session that breaks off tells
    nothing, so that its connection has no end as long as nobody else makes it fade; and it can break off
    whenever it cannot tell when it acts next. -/
theorem connection_events (config : ServerConfig) (moves : List Move) (u : Uuid) :
    let v := (start config).run moves
    (v.task u = .refused → v.told u = []) ∧
    (v.Registers u → ∃ rest, v.kinds u = .opened :: rest ∧ .opened ∉ rest) ∧
    ((v.kinds u).count .closed ≤ 1 ∧
      (.closed ∈ v.kinds u → ∃ rest, v.kinds u = .opened :: rest ∧ .closed ∈ rest)) ∧
    (v.Registers u → ((v.kinds u).count .closed = 1 ↔ ¬ v.HasLive u) ∧ (v.task u = .ended → ¬ v.HasLive u)) ∧
    (v.task u ≠ .failed → ∀ move, (v.step move).task u = .failed ↔ move = .session u .fail ∧
      ∃ line session, v.task u = .session line session none ∧ session.deadline = none) ∧
    ∀ line session, v.task u = .session line session none → session.deadline = none → v.HasLive u →
      let w := v.step (.session u .fail)
      w.task u = .failed ∧ w.HasLive u ∧ w.told u = v.told u ∧ (w.kinds u).count .closed = 0 := by
  intro v
  have law : (v.standing u).ConnectionLaw := connectionLaw_run config moves u
  have distinct := distinct_run config moves
  have closes (registers : v.Registers u) : (v.kinds u).count .closed = 1 ↔ ¬ v.HasLive u := by
    obtain ⟨⟨rest, kinds, only, count⟩, _⟩ := registered_of_registers law registers
    rw [show v.kinds u = .opened :: rest from kinds, List.count_cons_of_ne (by decide), count, hasLive_iff]
    split <;> simp_all
  refine ⟨fun refused => ?_, fun registers => ?_, law.closes, fun registers => ⟨closes registers, fun ended => ?_⟩,
    fun runs move => fails_iff distinct runs move, fun line session task stuck live => ?_⟩
  · simp only [Standing.ConnectionLaw, show (v.standing u).task = .refused from refused] at law
    exact law.1
  · obtain ⟨⟨rest, kinds, only, _⟩, _⟩ := registered_of_registers law registers
    refine ⟨rest, kinds, fun member => ?_⟩
    rcases only _ member with same | same <;> cases same
  · rw [hasLive_iff, (registered_of_registers law registers).2 ended]
    exact Bool.false_ne_true
  · intro w
    have standing : w.standing u = (v.standing u).after u v.limit (.failed line) := by
      rw [← effect_fail task stuck]
      exact v.standing_step u _ distinct
    have told : w.told u = v.told u := (congrArg Standing.told standing).trans (List.append_nil _)
    have stays : w.HasLive u := by
      rw [hasLive_iff, standing]
      exact (v.hasLive_iff u).mp live
    have counted := (connectionLaw_step distinct law (.session u .fail)).closes.1
    refine ⟨congrArg Standing.task standing, stays, told, ?_⟩
    have one : (v.kinds u).count .closed ≠ 1 :=
      fun one => (closes (.inr (.inr ⟨line, session, none, task⟩))).mp one live
    have atMost : (v.kinds u).count .closed ≤ 1 := law.closes.1
    rw [kinds, told]
    exact Nat.lt_one_iff.mp (Nat.lt_of_le_of_ne atMost one)

/-- A session under the settings of a server that breaks off as soon as it has begun. It is over, and the host is never
    told. -/
theorem end_untold :
    let u : Uuid := .fresh 0 1
    let config : ServerConfig := { idleTimeoutSecs := 1 <<< 63 }
    let own : SessionConfig := { idleTimeout := some ((1 <<< 63) * 1000) }
    let moves : List Move := [.session u (.start own 0), .session u .fail]
    let v := (start config).run moves
    config.session? true = some own ∧
    v.task u = .failed ∧ v.kinds u = [.opened] ∧ v.HasLive u ∧
    ¬∀ (config : ServerConfig) (moves : List Move) (u : Uuid), let v := (start config).run moves
      v.task u = .ended ∨ v.task u = .failed ∨ v.Registers u ∧ ¬v.HasLive u → (v.kinds u).count .closed = 1 := by
  intro u config own moves v
  have broken : v.task u = .failed := by decide
  have kinds : v.kinds u = [.opened] := by decide
  have live : v.HasLive u := by
    unfold HasLive
    decide
  refine ⟨by decide, broken, kinds, live, fun all => ?_⟩
  have claimed := all config moves u
  rw [show (start config).run moves = v from rfl] at claimed
  have told := claimed (.inr (.inl broken))
  rw [kinds] at told
  cases told

end Service

end Gateway
