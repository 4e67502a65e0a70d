import Gateway.Proofs.Service.Simulation

namespace Gateway

namespace Standing

variable {s t : Standing}

/-- The events about a request but for the notes that its body has drained. -/
def asked (s : Standing) : List Envelope := s.told.filter (·.kind != .writable)

def word (parts : Nat) (isEnded isAborted : Bool) : List EventKind :=
  .requestStart :: List.replicate parts .requestData ++ (if isEnded then [.requestEnd] else []) ++
    if isAborted then [.requestAbort] else []

def RequestLaw (s : Standing) : Prop :=
  match s.task with
  | .unused => s.told = [] ∧ s.entry = none ∧ s.inFlight = false
  | .refused | .session _ _ _ | .ended | .failed => s.inFlight = false
  | .request _ isReading _ => s.entry = none ∧ ∃ parts isEnded isAborted,
    s.asked.map (·.kind) = word parts isEnded isAborted ∧ (isReading = true → isEnded = false) ∧
      (s.inFlight = true → isAborted = false)

theorem RequestLaw.closing (law : s.RequestLaw)
    (asked : ∃ n isReading isGuarded, s.task = .request n isReading isGuarded) (id : Uuid) (limit : Nat) (payload : Bytes) :
    s.closing id limit payload = [] := by
  obtain ⟨n, isReading, isGuarded, task⟩ := asked
  simp only [RequestLaw, task] at law
  simp [Standing.closing, isLive, law.1]

end Standing

namespace Effect

/-- The events about a request that an effect queues, but for its beginning and the notes that its body
    has drained. -/
def asked (s : Standing) (id : Uuid) (limit : Nat) : Effect → List Envelope
  | bodyPart data => if data ≠ [] ∧ s.inFlight = true then [.capped .requestData id.text data limit] else []
  | bodyEnd => if s.inFlight = true then [.capped .requestEnd id.text [] limit] else []
  | letGo => if s.inFlight = true then [.capped .requestAbort id.text [] limit] else []
  | _ => []

variable {s : Standing} {effect : Effect}

theorem asked_of_left (left : s.inFlight = false) (id : Uuid) (limit : Nat) : effect.asked s id limit = [] := by
  cases effect <;> simp only [asked, left, Bool.false_eq_true, and_false, if_false]

theorem asked_of_other (possible : effect.Possible s)
    (other : ∀ n isReading isGuarded, s.task ≠ .request n isReading isGuarded) (id : Uuid) (limit : Nat) :
    effect.asked s id limit = [] := by
  cases effect with
  | bodyPart data | bodyEnd | letGo =>
    obtain ⟨_, _, running⟩ := possible
    exact absurd running (other _ _ _)
  | _ => rfl

end Effect

namespace Standing

variable {s : Standing} {effect : Effect} {n : Nat} {isReading isGuarded : Bool}

theorem asked_after (law : s.RequestLaw) (possible : effect.Possible s)
    (task : s.task = .request n isReading isGuarded) (id : Uuid) (limit : Nat) :
    (s.after id limit effect).asked = s.asked ++ effect.asked s id limit := by
  have closing := law.closing ⟨n, isReading, isGuarded, task⟩ id limit
  have events : (effect.events s id limit).filter (·.kind != .writable) = effect.asked s id limit := by
    cases effect <;> simp only [Effect.Possible, task, reduceCtorEq, false_and, exists_false] at possible
    case stopped payload =>
      rw [Effect.events, closing]
      rfl
    case bodyPart | bodyEnd | letGo =>
      simp only [Effect.events, Effect.asked]
      split <;> rfl
    case nothing | purged | bodyLost | drained | answered => rfl
  rw [asked, after, List.filter_append, events]
  rfl

theorem word_data (parts : Nat) :
    word parts false false ++ [.requestData] = word (parts + 1) false false := by
  simp [word, List.replicate_succ']

theorem word_end (parts : Nat) : word parts false false ++ [.requestEnd] = word parts true false := by
  simp [word]

theorem word_abort (parts : Nat) (isEnded : Bool) :
    word parts isEnded false ++ [.requestAbort] = word parts isEnded true := by
  simp [word]

theorem RequestLaw.of_word {parts : Nat} {isEnded isAborted : Bool}
    (task : s.task = .request n isReading isGuarded) (absent : s.entry = none)
    (kinds : s.asked.map (·.kind) = word parts isEnded isAborted)
    (reads : isReading = true → isEnded = false) (flies : s.inFlight = true → isAborted = false) :
    s.RequestLaw := by
  simp only [RequestLaw, task]
  exact ⟨absent, parts, isEnded, isAborted, kinds, reads, flies⟩

theorem RequestLaw.after_request (law : s.RequestLaw) (possible : effect.Possible s)
    (task : s.task = .request n isReading isGuarded) (id : Uuid) (limit : Nat) :
    (s.after id limit effect).RequestLaw := by
  have added := congrArg (List.map (·.kind)) (asked_after law possible task id limit)
  rw [List.map_append] at added
  have begun := law
  simp only [RequestLaw, task] at begun
  obtain ⟨absent, parts, isEnded, isAborted, kinds, reads, flies⟩ := begun
  rw [kinds] at added
  -- no effect on a session is possible
  cases effect <;> simp only [Effect.Possible, task, reduceCtorEq, false_and, exists_false] at possible
  case nothing => rwa [after_nothing]
  case stopped payload =>
    have gone : (s.after id limit (.stopped payload)).entry = none := congrArg (Option.map _) absent
    exact .of_word task gone (added.trans (List.append_nil _)) reads flies
  case purged =>
    have gone : (s.after id limit .purged).entry = none := congrArg (Option.filter _) absent
    exact .of_word task gone (added.trans (List.append_nil _)) reads flies
  case drained written => exact .of_word task absent (added.trans (List.append_nil _)) reads flies
  case answered => exact .of_word task absent (added.trans (List.append_nil _)) reads (absurd · Bool.false_ne_true)
  case bodyLost =>
    have stops : (s.after id limit .bodyLost).task = .request n false isGuarded := congrArg Task.stopReading task
    exact .of_word stops absent (added.trans (List.append_nil _)) (absurd · Bool.false_ne_true) flies
  case bodyPart data =>
    obtain ⟨_, _, reading⟩ := possible
    cases reading
    cases reads rfl
    by_cases arrives : data ≠ [] ∧ s.inFlight = true
    · cases flies arrives.2
      rw [Effect.asked, if_pos arrives] at added
      exact .of_word task absent (added.trans (word_data parts)) (fun _ => rfl) fun _ => rfl
    · rw [Effect.asked, if_neg arrives] at added
      exact .of_word task absent (added.trans (List.append_nil _)) (fun _ => rfl) flies
  case bodyEnd =>
    obtain ⟨_, _, reading⟩ := possible
    cases reading
    cases reads rfl
    have stops : (s.after id limit .bodyEnd).task = .request n false isGuarded := congrArg Task.stopReading task
    by_cases arrives : s.inFlight = true
    · cases flies arrives
      rw [Effect.asked, if_pos arrives] at added
      exact .of_word stops absent (added.trans (word_end parts)) (absurd · Bool.false_ne_true) fun _ => rfl
    · rw [Effect.asked, if_neg arrives] at added
      exact .of_word stops absent (added.trans (List.append_nil _)) (absurd · Bool.false_ne_true) flies
  case letGo =>
    have lets : (s.after id limit .letGo).task = .request n isReading false := congrArg Task.release task
    by_cases flying : s.inFlight = true
    · cases flies flying
      rw [Effect.asked, if_pos flying] at added
      exact .of_word lets absent (added.trans (word_abort parts isEnded)) reads (absurd · Bool.false_ne_true)
    · rw [Effect.asked, if_neg flying] at added
      exact .of_word lets absent (added.trans (List.append_nil _)) reads (absurd · Bool.false_ne_true)

theorem RequestLaw.of_unused (task : s.task = .unused) (told : s.told = []) (absent : s.entry = none)
    (grounded : s.inFlight = false) : s.RequestLaw := by
  simp only [RequestLaw, task]
  exact ⟨told, absent, grounded⟩

theorem RequestLaw.after_unused (law : s.RequestLaw) (possible : effect.Possible s) (task : s.task = .unused)
    (id : Uuid) (limit : Nat) : (s.after id limit effect).RequestLaw := by
  have unused := law
  simp only [RequestLaw, task] at unused
  obtain ⟨told, absent, grounded⟩ := unused
  cases effect <;> simp only [Effect.Possible, task, reduceCtorEq, false_and, exists_false] at possible
  case nothing => rwa [after_nothing]
  case refused | opened => exact grounded
  case begun n =>
    have kinds : (s.after id limit (.begun n)).asked.map (·.kind) = word 0 false false := by
      simp [asked, Standing.after, told, Effect.events, Envelope.capped, word]
    have begins : (s.after id limit (.begun n)).task = .request n true true := rfl
    exact .of_word begins absent kinds (fun _ => rfl) fun _ => rfl
  case stopped payload =>
    have silent : s.closing id limit payload = [] := by simp [Standing.closing, isLive, absent]
    exact .of_unused task (congrArg₂ (· ++ ·) told silent) (congrArg (Option.map _) absent) grounded
  case purged => exact .of_unused task (congrArg (· ++ []) told) (congrArg (Option.filter _) absent) grounded
  case answered => exact .of_unused task (congrArg (· ++ []) told) absent rfl

theorem RequestLaw.after_session (law : s.RequestLaw) (possible : effect.Possible s) (used : s.task ≠ .unused)
    (never : ∀ n isReading isGuarded, s.task ≠ .request n isReading isGuarded) (id : Uuid) (limit : Nat) :
    (s.after id limit effect).RequestLaw := by
  have grounded : s.inFlight = false := by
    cases task : s.task with
    | unused => exact absurd task used
    | request n isReading isGuarded => exact absurd task (never n isReading isGuarded)
    | refused | session | ended | failed => simpa only [RequestLaw, task] using law
  have same : (s.after id limit effect).task = effect.task s := rfl
  have flight : (s.after id limit effect).inFlight = effect.inFlight s := rfl
  have remains (kept : (s.after id limit effect).task = s.task)
      (flight : (s.after id limit effect).inFlight = false) : (s.after id limit effect).RequestLaw := by
    cases task : s.task with
    | unused => exact absurd task used
    | request n isReading isGuarded => exact absurd task (never n isReading isGuarded)
    | refused | session | ended | failed => simpa only [RequestLaw, kept, task] using flight
  cases effect with
  | nothing | stopped payload | purged => exact remains rfl grounded
  | answered => exact remains rfl rfl
  | waits line session since event => exact grounded
  | failed line => exact grounded
  | stepped line step =>
    cases finished : step.isOver <;>
      simp only [RequestLaw, same, flight, Effect.task, Effect.inFlight, finished] <;> exact grounded
  | refused => exact absurd possible used
  | opened line session | begun n => exact absurd possible.1 used
  | bodyPart data | bodyEnd | bodyLost | drained written | letGo =>
    obtain ⟨_, _, running⟩ := possible
    exact absurd running (never _ _ _)

theorem RequestLaw.after (law : s.RequestLaw) (possible : effect.Possible s) (id : Uuid) (limit : Nat) :
    (s.after id limit effect).RequestLaw := by
  cases task : s.task with
  | request n isReading isGuarded => exact law.after_request possible task id limit
  | unused => exact law.after_unused possible task id limit
  | refused | ended | failed | session => exact law.after_session possible (by simp [task]) (by simp [task]) id limit

end Standing

theorem Effect.of_request {s : Standing} {effect : Effect} {n : Nat} {isReading isGuarded : Bool}
    (possible : effect.Possible s) (task : s.task = .request n isReading isGuarded) :
    (∃ reads guards, effect.task s = .request n reads guards) ∧ (effect.inFlight s = true → s.inFlight = true) := by
  cases effect <;> simp only [Possible, task, reduceCtorEq, false_and, exists_false] at possible
  case bodyEnd | bodyLost | letGo =>
    simp [Effect.task, Effect.inFlight, task, Task.stopReading, Task.release]
  case nothing | stopped | purged | bodyPart | drained | answered =>
    simp [Effect.task, Effect.inFlight, task]

theorem Effect.begins {s : Standing} {effect : Effect} {n : Nat} {isReading isGuarded : Bool}
    (possible : effect.Possible s) (other : ∀ n isReading isGuarded, s.task ≠ .request n isReading isGuarded)
    (task : effect.task s = .request n isReading isGuarded) : effect = .begun n := by
  cases effect with
  | begun m =>
    cases task
    rfl
  | refused | opened line session | waits line session since event | failed line => cases task
  | stepped line step =>
    simp only [Effect.task] at task
    split at task <;> cases task
  | bodyPart data | bodyEnd | bodyLost | drained written | letGo =>
    obtain ⟨_, _, running⟩ := possible
    exact absurd running (other _ _ _)
  | _ => exact absurd task (other _ _ _)

namespace Service

theorem requestLaw_step {v : Service} {u : Uuid} (distinct : v.engine.connections.Distinct)
    (law : (v.standing u).RequestLaw) (move : Move) : ((v.step move).standing u).RequestLaw :=
  standing_kept distinct (fun _ _ possible law => law.after possible u v.limit) law move

theorem requestLaw_run (config : ServerConfig) (moves : List Move) (u : Uuid) :
    (((start config).run moves).standing u).RequestLaw :=
  standing_induction config u ⟨rfl, rfl, rfl⟩ (fun _ _ possible law => law.after possible u _) moves

def InFlight (v : Service) (u : Uuid) : Prop := v.engine.requests.has ⟨u⟩ = true

instance (v : Service) (u : Uuid) : Decidable (v.InFlight u) := inferInstanceAs (Decidable (_ = true))

/-- The events about a request but for the notes that its body has drained. -/
def asked (v : Service) (u : Uuid) : List Envelope := (v.told u).filter (·.kind != .writable)

def arrived (v : Service) (u : Uuid) : Move → Option Bytes
  | .request id (.bodyPart data) =>
    match v.task id with
    | .request _ true _ => if id = u ∧ data ≠ [] ∧ v.InFlight u then some data else none
    | _ => none
  | _ => none

/-- What a move queues about a request that has begun: a part of its body that is not empty, the end of its
    body, or that it was given up, and each only if the request is in flight. -/
def requestEvents (v : Service) (u : Uuid) (move : Move) : List Envelope :=
  match move with
  | .request _ (.bodyPart _) => (v.arrived u move).toList.map (v.envelope u .requestData)
  | .request id .bodyEnd =>
    match v.task id with
    | .request _ true _ => if id = u ∧ v.InFlight u then [v.envelope u .requestEnd []] else []
    | _ => []
  | .request id .letGo =>
    match v.task id with
    | .request _ _ true => if id = u ∧ v.InFlight u then [v.envelope u .requestAbort []] else []
    | _ => []
  | _ => []

def arrivedAlong (v : Service) (u : Uuid) : List Move → List Bytes
  | [] => []
  | move :: rest => (v.arrived u move).toList ++ (v.step move).arrivedAlong u rest

def requestEventsAlong (v : Service) (u : Uuid) : List Move → List Envelope
  | [] => []
  | move :: rest => v.requestEvents u move ++ (v.step move).requestEventsAlong u rest

/-- The calls of the host after which a request is answered or given up with all others. -/
def Ends (v : Service) (u : Uuid) : Move → Prop
  | .host (.finish id data) => id = ⟨u⟩ ∧ (v.engine.requests.finish id data).1 = .sentAndEnded
  | .host (.tryEnd id data totalSize) =>
    id = ⟨u⟩ ∧ (v.engine.requests.tryEnd id data totalSize).1 = .sentAndEnded
  | .host (.abortAll _) => True
  | _ => False

theorem not_inFlight_of_ends {v : Service} {u : Uuid} {move : Move} (ends : v.Ends u move) :
    ¬ (v.step move).InFlight u := by
  unfold Ends at ends
  split at ends
  · obtain ⟨rfl, ended⟩ := ends
    exact Bool.eq_false_iff.mp (RequestRegistry.not_has_of_finish ended)
  · obtain ⟨rfl, ended⟩ := ends
    exact Bool.eq_false_iff.mp (RequestRegistry.not_has_of_tryEnd ended)
  · exact Bool.eq_false_iff.mp (RequestRegistry.has_abortAll _ _ _)
  · exact ends.elim

theorem asked_requestEffect (v : Service) (u : Uuid) (move : RequestMove) :
    (v.requestEffect u move).asked (v.standing u) u v.limit = v.requestEvents u (.request u move) := by
  cases task : v.task u with
  | unused =>
    cases move with
    | arrive method uri headers =>
      simp only [requestEffect, requestEvents, task]
      cases (v.engine.handleRequest ⟨u⟩ method uri headers).1 <;> rfl
    | _ => simp [requestEffect, requestEvents, arrived, task, Effect.asked]
  | request n isReading isGuarded =>
    cases move with
    | bodyPart data =>
      cases isReading with
      | false => simp [requestEffect, requestEvents, arrived, task, Effect.asked]
      | true =>
        by_cases arrives : data ≠ [] ∧ v.InFlight u
        · simp only [requestEffect, requestEvents, arrived, task, true_and, if_pos arrives]
          exact if_pos arrives
        · simp only [requestEffect, requestEvents, arrived, task, true_and, if_neg arrives]
          exact if_neg arrives
    | bodyEnd =>
      cases isReading <;> simp only [requestEffect, requestEvents, task, true_and] <;> rfl
    | letGo =>
      cases isGuarded <;> simp only [requestEffect, requestEvents, task, true_and] <;> rfl
    | bodyLost => cases isReading <;> simp only [requestEffect, requestEvents, task] <;> rfl
    | pollBody =>
      cases isGuarded with
      | false => simp only [requestEffect, requestEvents, task]; rfl
      | true =>
        simp only [requestEffect, requestEvents, task]
        cases (v.engine.requests.pollBody n).2.1 <;> rfl
    | _ => simp only [requestEffect, requestEvents, task]; rfl
  | _ => cases move <;> simp [requestEffect, requestEvents, arrived, task, Effect.asked]

theorem asked_effect (v : Service) (u : Uuid) (move : Move) :
    (v.effect u move).asked (v.standing u) u v.limit = v.requestEvents u move := by
  cases move with
  | request id move =>
    by_cases same : id = u
    · subst same
      simp only [effect, if_true]
      exact v.asked_requestEffect id move
    · simp only [effect, if_neg same]
      cases move with
      | bodyPart data | bodyEnd | letGo =>
        simp only [requestEvents, arrived, same, false_and, if_false]
        split <;> rfl
      | _ => rfl
  | session id move =>
    simp only [effect, requestEvents]
    split
    · unfold sessionEffect
      split
      · split <;> rfl
      · rfl
      · split <;> split <;> rfl
      · rfl
    · rfl
  | host move => cases move <;> simp only [effect, hostEffect, requestEvents] <;> (try split) <;> rfl
  | pop => rfl
  | drain count => rfl

theorem requestEvents_of_left {v : Service} {u : Uuid} (left : ¬ v.InFlight u) (move : Move) :
    v.requestEvents u move = [] := by
  have grounded : (v.standing u).inFlight = false := Bool.eq_false_iff.mpr left
  rw [← v.asked_effect u move]
  exact Effect.asked_of_left grounded u v.limit

theorem requestEvents_of_other {v : Service} {u : Uuid}
    (other : ∀ n isReading isGuarded, v.task u ≠ .request n isReading isGuarded) (move : Move) :
    v.requestEvents u move = [] := by
  rw [← v.asked_effect u move]
  exact Effect.asked_of_other (v.possible_effect u move) other u v.limit

/-- A request that has begun stays one, and a move adds to its events what `requestEvents` tells. -/
theorem asked_step {v : Service} {u : Uuid} {n : Nat} {isReading isGuarded : Bool}
    (distinct : v.engine.connections.Distinct) (law : (v.standing u).RequestLaw)
    (task : v.task u = .request n isReading isGuarded) (move : Move) :
    (v.step move).asked u = v.asked u ++ v.requestEvents u move := by
  have after := congrArg Standing.asked (v.standing_step u move distinct)
  rw [Standing.asked_after law (v.possible_effect u move) task, v.asked_effect u move] at after
  exact after

theorem request_step {v : Service} {u : Uuid} {n : Nat} {isReading isGuarded : Bool}
    (distinct : v.engine.connections.Distinct) (task : v.task u = .request n isReading isGuarded) (move : Move) :
    (∃ reads guards, (v.step move).task u = .request n reads guards) ∧
      ((v.step move).InFlight u → v.InFlight u) := by
  have flight : (v.step move).engine.requests.has ⟨u⟩ = (v.effect u move).inFlight (v.standing u) :=
    congrArg Standing.inFlight (v.standing_step u move distinct)
  rw [v.task_step u move distinct, InFlight, flight]
  exact Effect.of_request (v.possible_effect u move) task

theorem asked_run_of_left {v : Service} {u : Uuid} {n : Nat} {isReading isGuarded : Bool}
    (distinct : v.engine.connections.Distinct) (law : (v.standing u).RequestLaw)
    (task : v.task u = .request n isReading isGuarded) (left : ¬ v.InFlight u) (moves : List Move) :
    (v.run moves).asked u = v.asked u := by
  induction moves generalizing v isReading isGuarded with
  | nil => rfl
  | cons move rest ih =>
    obtain ⟨⟨_, _, next⟩, flight⟩ := request_step distinct task move
    have lawful := requestLaw_step distinct law move
    have silent : v.requestEvents u move = [] := requestEvents_of_left left move
    have still : ¬ (v.step move).InFlight u := fun flies => left (flight flies)
    rw [run_cons, ih ((v.keeps_step move).distinct distinct) lawful next still, asked_step distinct law task,
      silent, List.append_nil]

def opening (v : Service) (u : Uuid) : List Envelope :=
  match v.task u with
  | .request _ _ _ => v.asked u
  | _ => [v.envelope u .requestStart []]

theorem opening_of_other {v : Service} {u : Uuid}
    (other : ∀ n isReading isGuarded, v.task u ≠ .request n isReading isGuarded) :
    v.opening u = [v.envelope u .requestStart []] := by
  unfold opening
  split
  · rename_i task
    exact absurd task (other _ _ _)
  · rfl

theorem asked_of_begun {v : Service} {u : Uuid} {move : Move} {n : Nat} (distinct : v.engine.connections.Distinct)
    (law : (v.standing u).RequestLaw) (begins : v.effect u move = .begun n) :
    (v.step move).asked u = [v.envelope u .requestStart []] := by
  have after := congrArg Standing.asked (v.standing_step u move distinct)
  have possible := v.possible_effect u move
  rw [begins] at after possible
  simp only [Standing.RequestLaw, possible.1] at law
  refine after.trans ?_
  simp only [Standing.asked, Standing.after, law.1, Effect.events]
  rfl

theorem opening_step {v : Service} {u : Uuid} (distinct : v.engine.connections.Distinct)
    (law : (v.standing u).RequestLaw) (move : Move) :
    (v.step move).opening u = v.opening u ++ v.requestEvents u move := by
  have limit : (v.step move).envelope u .requestStart [] = v.envelope u .requestStart [] :=
    congrArg (Envelope.capped .requestStart u.text []) (v.keeps_step move).limit
  by_cases before : ∃ n isReading isGuarded, v.task u = .request n isReading isGuarded
  · obtain ⟨n, isReading, isGuarded, task⟩ := before
    obtain ⟨⟨reads, guards, next⟩, _⟩ := request_step distinct task move
    rw [opening, next, opening, task]
    exact asked_step distinct law task move
  · have other (n : Nat) (isReading isGuarded : Bool) : v.task u ≠ .request n isReading isGuarded :=
      fun task => before ⟨n, isReading, isGuarded, task⟩
    rw [opening_of_other other, requestEvents_of_other other, List.append_nil]
    by_cases after : ∃ n isReading isGuarded, (v.step move).task u = .request n isReading isGuarded
    · obtain ⟨n, isReading, isGuarded, task⟩ := after
      have tasked := (v.task_step u move distinct).symm.trans task
      have begins := Effect.begins (v.possible_effect u move) other tasked
      rw [opening, task]
      exact asked_of_begun distinct law begins
    · rw [opening_of_other fun n isReading isGuarded task => after ⟨n, isReading, isGuarded, task⟩, limit]

theorem opening_run {v : Service} {u : Uuid} (distinct : v.engine.connections.Distinct)
    (law : (v.standing u).RequestLaw) (moves : List Move) :
    (v.run moves).opening u = v.opening u ++ v.requestEventsAlong u moves := by
  induction moves generalizing v with
  | nil => exact (List.append_nil _).symm
  | cons move rest ih =>
    have lawful := requestLaw_step distinct law move
    rw [run_cons, ih ((v.keeps_step move).distinct distinct) lawful, opening_step distinct law,
      requestEventsAlong, List.append_assoc]

theorem filter_requestEvents (v : Service) (u : Uuid) (move : Move) :
    (v.requestEvents u move).filter (·.kind == .requestData) =
      (v.arrived u move).toList.map (v.envelope u .requestData) := by
  cases move with
  | request id move =>
    cases move with
    | bodyPart data =>
      simp only [requestEvents]
      cases v.arrived u (.request id (.bodyPart data)) <;> rfl
    | bodyEnd | letGo =>
      simp only [requestEvents]
      split
      · split <;> rfl
      · rfl
    | _ => rfl
  | _ => rfl

theorem filter_requestEventsAlong (v : Service) (u : Uuid) (moves : List Move) :
    (v.requestEventsAlong u moves).filter (·.kind == .requestData) =
      (v.arrivedAlong u moves).map (v.envelope u .requestData) := by
  induction moves generalizing v with
  | nil => rfl
  | cons move rest ih =>
    have same : (v.step move).envelope u .requestData = v.envelope u .requestData := by
      funext payload
      exact congrArg (Envelope.capped .requestData u.text payload) (v.keeps_step move).limit
    rw [requestEventsAlong, List.filter_append, filter_requestEvents, ih, same, arrivedAlong, List.map_append]

/-- Of a request the host is told, in this order, that it began, the parts of its body, at most one end of the
    body, and at most one end of its connection. Each move adds what `requestEvents` tells, so nothing is
    added when the request has left; it leaves when the host completes its response or gives up all
    requests. The parts of the body that are told are those that arrived before, cut to the limit. -/
theorem request_events (config : ServerConfig) (moves : List Move) (u : Uuid) (n : Nat)
    (isReading isGuarded : Bool) (task : ((start config).run moves).task u = .request n isReading isGuarded) :
    let v := (start config).run moves
    v.asked u = (start config).envelope u .requestStart [] :: (start config).requestEventsAlong u moves ∧
    (∃ parts isEnded isAborted, (v.asked u).map (·.kind) = Standing.word parts isEnded isAborted) ∧
    (v.asked u).filter (·.kind == .requestData) =
      ((start config).arrivedAlong u moves).map (Envelope.capped .requestData u.text · config.maxPayloadSize) ∧
    (∀ move, (v.step move).asked u = v.asked u ++ v.requestEvents u move) ∧
    (∀ move, v.Ends u move → ¬ (v.step move).InFlight u) ∧
    (¬ v.InFlight u → ∀ rest, (v.run rest).asked u = v.asked u) := by
  intro v
  have distinct : v.engine.connections.Distinct := distinct_run config moves
  have law : (v.standing u).RequestLaw := requestLaw_run config moves u
  have along : v.asked u =
      (start config).envelope u .requestStart [] :: (start config).requestEventsAlong u moves := by
    have opened := opening_run (u := u) (distinct_start config) (requestLaw_run config [] u) moves
    rw [opening, task] at opened
    exact opened
  refine ⟨along, ?_, ?_, asked_step distinct law task, fun move => not_inFlight_of_ends,
    asked_run_of_left distinct law task⟩
  · simp only [Standing.RequestLaw, show (v.standing u).task = _ from task] at law
    obtain ⟨_, parts, isEnded, isAborted, kinds, _⟩ := law
    exact ⟨parts, isEnded, isAborted, kinds⟩
  · have silent : ((start config).envelope u .requestStart []).kind ≠ .requestData := nofun
    rw [along, List.filter_cons_of_neg (by simpa using silent), filter_requestEventsAlong]
    rfl

def caller : Uuid := .fresh 0 2

def upload : List Move :=
  [.host (.addRoute .post "/up"), .request caller (.arrive ⟨"POST", by decide⟩ ⟨"/up", none⟩ []),
    .request caller (.bodyPart [1, 2, 3]), .request caller (.bodyPart []), .host (.write ⟨caller⟩ [7]),
    .request caller (.bodyPart [4, 5]), .request caller .letGo, .request caller (.bodyPart [8]),
    .request caller .bodyEnd]

theorem request_events_upload :
    ((start { maxPayloadSize := 2 }).run upload).task caller = .request 0 false false ∧
    (((start { maxPayloadSize := 2 }).run upload).asked caller).filter (·.kind == .requestData) =
      [⟨.requestData, caller.text, [1, 2], true⟩, ⟨.requestData, caller.text, [4, 5], false⟩] := by
  have task : ((start { maxPayloadSize := 2 }).run upload).task caller = .request 0 false false := by decide
  obtain ⟨_, _, parts, _⟩ := request_events { maxPayloadSize := 2 } upload caller 0 false false task
  have arrived : (start { maxPayloadSize := 2 }).arrivedAlong caller upload = [[1, 2, 3], [4, 5]] := by decide
  rw [arrived] at parts
  exact ⟨task, parts⟩

end Service

end Gateway
