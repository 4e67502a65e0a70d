import Gateway.Proofs.Service.Lines

namespace Gateway

open WebSocket (Closure Outbound)
open WebSocket.Outbound (dataFrames total dataFrames_append total_append)
open SessionTurn (taken delivered taken_append taken_single Apart)

/-- A run of the service, with what is seen of the session of one identifier: the frames that came to wait on its
    line, the number of bytes by which the count of that line went down, and the turns of the session. -/
structure Watch where
  service : Service
  posted : List Outbound
  released : Nat
  turns : List SessionTurn

namespace Service

def sessionLine? (v : Service) (u : Uuid) : Option Nat :=
  match v.task u with
  | .session n _ _ => some n
  | _ => none

theorem sessionLine?_of_idle {v : Service} {u : Uuid} (idle : ∀ n s writing, v.task u ≠ .session n s writing) :
    v.sessionLine? u = none := by
  unfold sessionLine?
  split
  · exact absurd ‹_› (idle _ _ _)
  · rfl

def turn? (v : Service) (u : Uuid) : OpenMove → Option SessionTurn
  | .move (.session id move) => if id = u then v.sessionTurn? u move else none
  | _ => none

def buffered (v : Service) (n : Nat) : Nat := ((v.line? n).map (·.buffered)).getD 0

def posted (v w : Service) (n : Nat) : List Outbound := v.engine.connections.posted w.engine.connections n

end Service

namespace Watch

def start (config : ServerConfig) : Watch := ⟨.start config, [], 0, []⟩

def step (u : Uuid) (w : Watch) (move : OpenMove) : Watch :=
  let after := w.service.openStep move
  match w.service.sessionLine? u with
  | some n => ⟨after, w.posted ++ w.service.posted after n,
      w.released + (w.service.buffered n - after.buffered n), w.turns ++ (w.service.turn? u move).toList⟩
  | none => { w with service := after }

def run (u : Uuid) (w : Watch) (moves : List OpenMove) : Watch := moves.foldl (step u) w

end Watch

/-! The account of a session. -/

namespace Watch

structure Serves (w : Watch) (n : Nat) (s : Session) (writing : Option (Nat × SessionEvent)) : Prop where
  line : ∃ line, w.service.line? n = some line ∧ w.posted = taken w.turns ++ (inHand writing ++ line.queued) ∧
    total (dataFrames (inHand writing ++ line.queued)) ≤ line.buffered
  takes : ∃ config since, (Session.start config since).Takes w.turns s
  pending : ∀ now event, writing = some (now, event) → ∀ written, SessionTurn.Open ⟨s, now, event, written⟩
  lasts : ∀ t ∈ w.turns, t.step.isOver = false
  released : w.released = total (dataFrames (taken w.turns))

structure Served (w : Watch) : Prop where
  posted : taken w.turns <+: w.posted
  takes : ∃ config since last, (Session.start config since).Takes w.turns last
  lasts : ∃ before last, w.turns = before ++ [last] ∧ ∀ t ∈ before, t.step.isOver = false
  released : w.released = total (dataFrames (taken w.turns))

structure Broken (w : Watch) : Prop where
  posted : taken w.turns <+: w.posted
  takes : ∃ config since last, (Session.start config since).Takes w.turns last ∧ last.deadline = none
  lasts : ∀ t ∈ w.turns, t.step.isOver = false
  released : w.released = total (dataFrames (taken w.turns))

structure Unserved (w : Watch) : Prop where
  posted : w.posted = []
  released : w.released = 0
  turns : w.turns = []

def Law (w : Watch) (u : Uuid) : Prop :=
  match w.service.task u with
  | .session n s writing => w.Serves n s writing
  | .ended => w.Served
  | .failed => w.Broken
  | .unused | .refused | .request _ _ _ => w.Unserved

variable {u : Uuid} {w : Watch}

theorem posted_lines {v after : Service} {n : Nat} {before line : Line} (found : v.line? n = some before)
    (left : after.line? n = some line) : v.posted after n = line.queued.drop before.queued.length := by
  unfold Service.posted ConnectionRegistry.posted
  rw [ConnectionRegistry.waiting_found found, ConnectionRegistry.waiting_found left]

theorem buffered_line {v : Service} {n : Nat} {line : Line} (found : v.line? n = some line) :
    v.buffered n = line.buffered := by
  rw [Service.buffered, found]
  rfl

theorem step_session {n : Nat} {s : Session} {writing : Option (Nat × SessionEvent)}
    (task : w.service.task u = .session n s writing) (move : OpenMove) {before line : Line}
    (found : w.service.line? n = some before) (left : (w.service.openStep move).line? n = some line) :
    w.step u move = ⟨w.service.openStep move, w.posted ++ line.queued.drop before.queued.length,
      w.released + (before.buffered - line.buffered), w.turns ++ (w.service.turn? u move).toList⟩ := by
  unfold step Service.sessionLine?
  rw [task]
  dsimp only
  rw [posted_lines found left, buffered_line found, buffered_line left]

theorem step_other (idle : ∀ n s writing, w.service.task u ≠ .session n s writing) (move : OpenMove) :
    w.step u move = { w with service := w.service.openStep move } := by
  unfold step
  rw [Service.sessionLine?_of_idle idle]

theorem service_step (w : Watch) (u : Uuid) (move : OpenMove) :
    (w.step u move).service = w.service.openStep move := by
  unfold step
  dsimp only
  split <;> rfl

theorem Serves.others {n : Nat} {s : Session} {writing : Option (Nat × SessionEvent)} (serves : w.Serves n s writing)
    (placed : w.service.Placed) (task : w.service.task u = .session n s writing) {move : OpenMove}
    (apart : ∀ own, move ≠ .move (.session u own)) : (w.step u move).Serves n s writing := by
  obtain ⟨line, found, posted, counted⟩ := serves.line
  obtain ⟨after, frames, left, fed⟩ := placed.fed task found apart
  have silent : w.service.turn? u move = none := by
    unfold Service.turn?
    split
    · split
      · rename_i own same
        exact absurd (by rw [same]) (apart own)
      · rfl
    · rfl
  have count := fed.counted
  rw [step_session task move found left, silent, fed.queued, List.drop_left]
  refine ⟨⟨after, left, ?_, ?_⟩, ?_, serves.pending, ?_, ?_⟩
  · show w.posted ++ frames = taken (w.turns ++ []) ++ (inHand writing ++ after.queued)
    rw [posted, fed.queued, List.append_nil]
    simp only [List.append_assoc]
  · rw [fed.queued, ← List.append_assoc, dataFrames_append, total_append]
    omega
  · show ∃ config since, (Session.start config since).Takes (w.turns ++ []) s
    rw [List.append_nil]
    exact serves.takes
  · show ∀ t ∈ w.turns ++ [], _
    rw [List.append_nil]
    exact serves.lasts
  · show w.released + (line.buffered - after.buffered) = total (dataFrames (taken (w.turns ++ [])))
    rw [List.append_nil, serves.released]
    omega

theorem Serves.isOpen {n : Nat} {writing : Option (Nat × SessionEvent)} {t : SessionTurn}
    (serves : w.Serves n t.session writing) (going : writing = some (t.now, t.event) ∨ t.Open) : t.Open := by
  rcases going with pending | isOpen
  · exact serves.pending _ _ pending t.written
  · exact isOpen

theorem Serves.step_completes {n : Nat} {writing : Option (Nat × SessionEvent)} {t : SessionTurn}
    (serves : w.Serves n t.session writing) (task : w.service.task u = .session n t.session writing)
    {move : OpenMove} (completed : w.service.openStep move = w.service.complete u n t.step)
    (turn : w.service.turn? u move = some t) (hand : t.frame?.toList = inHand writing) :
    w.step u move = ⟨w.service.complete u n t.step, w.posted, w.released + total (dataFrames (inHand writing)),
      w.turns ++ [t]⟩ := by
  obtain ⟨line, found, posted, counted⟩ := serves.line
  let after := if t.step.isOver then (line.flush t.step.flushed).hangUp else line.flush t.step.flushed
  have left : (w.service.openStep move).line? n = some after := by
    rw [completed, Service.line?_complete, if_pos rfl, found]
    rfl
  have nothing : after.queued.drop line.queued.length = [] := by
    show (if t.step.isOver then _ else _ : Line).queued.drop _ = []
    split
    · exact List.drop_nil
    · exact List.drop_length
  have lowered : line.buffered - after.buffered = total (dataFrames (inHand writing)) := by
    have same : after.buffered = line.buffered - t.step.flushed := by
      show (if t.step.isOver then _ else _ : Line).buffered = _
      split <;> rfl
    have flushed := hand ▸ t.flushed_step
    rw [dataFrames_append, total_append] at counted
    omega
  rw [step_session task move found left, nothing, lowered, turn, List.append_nil, completed]
  rfl

theorem Serves.completes {n : Nat} {writing : Option (Nat × SessionEvent)} {t : SessionTurn}
    (serves : w.Serves n t.session writing) (task : w.service.task u = .session n t.session writing)
    {move : OpenMove} (completed : w.service.openStep move = w.service.complete u n t.step)
    (turn : w.service.turn? u move = some t) (hand : t.frame?.toList = inHand writing) (isOpen : t.Open) :
    (w.step u move).Law u := by
  obtain ⟨line, found, posted, counted⟩ := serves.line
  obtain ⟨config, since, before⟩ := serves.takes
  have takenNow : taken (w.turns ++ [t]) = taken w.turns ++ inHand writing := by
    rw [taken_append, taken_single, hand]
  have takes : (Session.start config since).Takes (w.turns ++ [t]) t.step.session := .snoc before isOpen
  have released : w.released + total (dataFrames (inHand writing)) = total (dataFrames (taken (w.turns ++ [t]))) := by
    rw [takenNow, dataFrames_append, total_append, serves.released]
  have tasked := w.service.task_complete u n t.step
  have left : (w.service.complete u n t.step).line? n = _ := w.service.line?_complete u n n t.step
  rw [serves.step_completes task completed turn hand]
  unfold Law
  dsimp only
  rw [tasked]
  cases last : t.step.isOver with
  | true =>
    refine ⟨?_, ⟨config, since, _, takes⟩, ⟨w.turns, t, rfl, serves.lasts⟩, released⟩
    show taken (w.turns ++ [t]) <+: w.posted
    rw [takenNow, posted, ← List.append_assoc]
    exact List.prefix_append _ _
  | false =>
    rw [if_pos rfl, found, last] at left
    refine ⟨⟨line.flush t.step.flushed, left, ?_, ?_⟩, ⟨config, since, takes⟩, nofun, ?_, released⟩
    · show w.posted = taken (w.turns ++ [t]) ++ ([] ++ line.queued)
      rw [takenNow, posted, List.append_assoc]
      rfl
    · show total (dataFrames line.queued) ≤ line.buffered - t.step.flushed
      have flushed := hand ▸ t.flushed_step
      rw [dataFrames_append, total_append] at counted
      omega
    · exact List.forall_mem_append.mpr ⟨serves.lasts, List.forall_mem_singleton.mpr last⟩

theorem line?_noticed {v : Service} {n : Nat} {s : Session} {move : SessionMove} {now : Nat} {event : SessionEvent}
    (noticed : s.event? v.engine n move = some (now, event)) {line : Line} (found : v.line? n = some line) :
    ∃ after, (v.engine.noticed n event).connections.line? n = some after ∧ after.buffered = line.buffered ∧
      inHand (some (now, event)) ++ after.queued = line.queued := by
  cases event with
  | outbound frame =>
    refine ⟨line.advance, ?_, rfl, (Session.queued_of_event? noticed found).symm⟩
    refine (ConnectionRegistry.line?_modifyLine _ _ _ _).trans ?_
    rw [if_pos rfl, show v.engine.connections.line? n = some line from found]
    rfl
  | _ => exact ⟨line, found, rfl, rfl⟩

theorem Serves.waits {n : Nat} {s : Session} (serves : w.Serves n s none)
    (task : w.service.task u = .session n s none) {move : OpenMove} {own : SessionMove} {now : Nat}
    {event : SessionEvent} (noticed : s.event? w.service.engine n own = some (now, event))
    (stepped : w.service.openStep move = Service.setTask
      { w.service with engine := w.service.engine.noticed n event } u (.session n s (some (now, event))))
    (silent : w.service.turn? u move = none) : (w.step u move).Law u := by
  obtain ⟨line, found, posted, counted⟩ := serves.line
  obtain ⟨after, there, count, moved⟩ := line?_noticed noticed found
  have left : (w.service.openStep move).line? n = some after := by
    rw [stepped]
    exact there
  have nothing : after.queued.drop line.queued.length = [] := by
    rw [← moved, List.length_append]
    exact List.drop_eq_nil_of_le (Nat.le_add_left _ _)
  have still : w.step u move = ⟨w.service.openStep move, w.posted, w.released, w.turns⟩ := by
    rw [step_session task move found left, nothing, count, silent, Nat.sub_self, List.append_nil]
    exact congrArg (Watch.mk _ _ _) (List.append_nil _)
  have tasked : (w.service.openStep move).task u = .session n s (some (now, event)) := by
    rw [stepped, Service.task_setTask]
  rw [still]
  unfold Law
  dsimp only
  rw [tasked]
  refine ⟨⟨after, left, ?_, ?_⟩, serves.takes, ?_, serves.lasts, serves.released⟩
  · show w.posted = taken w.turns ++ (inHand (some (now, event)) ++ after.queued)
    rw [posted, moved]
    rfl
  · rw [moved, count]
    exact counted
  · rintro _ _ ⟨⟩ written
    exact Session.isOpen_of_event? noticed written

theorem Serves.fails {n : Nat} {s : Session} (serves : w.Serves n s none)
    (task : w.service.task u = .session n s none) (stuck : s.deadline = none) {move : OpenMove}
    (stepped : w.service.openStep move = w.service.fail u n) (silent : w.service.turn? u move = none) :
    (w.step u move).Law u := by
  obtain ⟨line, found, posted, _⟩ := serves.line
  obtain ⟨config, since, takes⟩ := serves.takes
  have left : (w.service.openStep move).line? n = some line.hangUp := by
    rw [stepped]
    refine (ConnectionRegistry.line?_modifyLine _ _ _ _).trans ?_
    rw [if_pos rfl, show w.service.engine.connections.line? n = some line from found]
    rfl
  have still : w.step u move = ⟨w.service.openStep move, w.posted, w.released, w.turns⟩ := by
    rw [step_session task move found left, silent, show line.hangUp.queued = [] from rfl,
      show line.hangUp.buffered = line.buffered from rfl, Nat.sub_self, List.drop_nil, List.append_nil]
    exact congrArg (Watch.mk _ _ _) (List.append_nil _)
  rw [still]
  unfold Law
  dsimp only
  rw [stepped, Service.fail, Service.task_setTask]
  refine ⟨?_, ⟨config, since, s, takes, stuck⟩, serves.lasts, serves.released⟩
  exact posted ▸ List.prefix_append _ _

theorem serves_start {n : Nat} {config : SessionConfig} {since : Nat} (unserved : w.Unserved) {line : Line}
    (found : w.service.line? n = some line) (empty : line.queued = []) :
    w.Serves n (.start config since) none := by
  refine ⟨⟨line, found, ?_, ?_⟩, ⟨config, since, ?_⟩, nofun, ?_, ?_⟩
  · rw [unserved.posted, unserved.turns, empty]
    rfl
  · rw [empty]
    exact Nat.zero_le _
  · rw [unserved.turns]
    exact .nil
  · rw [unserved.turns]
    exact List.forall_mem_nil _
  · rw [unserved.released, unserved.turns]
    rfl

theorem step_nothing {move : OpenMove} (stepped : w.service.openStep move = w.service)
    (silent : w.service.turn? u move = none) : w.step u move = w := by
  unfold step
  rw [stepped, silent]
  split
  · rename_i n _
    have posted : w.service.posted w.service n = [] := List.drop_length
    dsimp only
    rw [posted, Nat.sub_self, List.append_nil]
    exact congrArg (Watch.mk _ _ _) (List.append_nil _)
  · rfl

theorem Unserved.law (unserved : w.Unserved) (asks : (w.service.task u).Asks ∨ w.service.task u = .refused) :
    w.Law u := by
  unfold Law
  rcases asks with asks | refused
  · cases task : w.service.task u with
    | unused | request => exact unserved
    | _ =>
      rw [task] at asks
      exact asks.elim
  · rw [refused]
    exact unserved

theorem Law.others (law : w.Law u) (placed : w.service.Placed) {move : OpenMove}
    (apart : ∀ own, move ≠ .move (.session u own)) : (w.step u move).Law u := by
  unfold Law at law
  cases task : w.service.task u with
  | session n s writing =>
    rw [task] at law
    have same := w.service.task_kept apart (by rw [task]; exact id)
    unfold Law
    rw [service_step, same, task]
    exact law.others placed task apart
  | ended =>
    rw [task] at law
    have same := w.service.task_kept apart (by rw [task]; exact id)
    rw [step_other fun _ _ _ same => nomatch task.symm.trans same]
    unfold Law
    dsimp only
    rw [same, task]
    exact ⟨law.posted, law.takes, law.lasts, law.released⟩
  | failed =>
    rw [task] at law
    have same := w.service.task_kept apart (by rw [task]; exact id)
    rw [step_other fun _ _ _ same => nomatch task.symm.trans same]
    unfold Law
    dsimp only
    rw [same, task]
    exact ⟨law.posted, law.takes, law.lasts, law.released⟩
  | refused =>
    rw [task] at law
    have same := w.service.task_kept apart (by rw [task]; exact id)
    rw [step_other fun _ _ _ same => nomatch task.symm.trans same]
    exact Unserved.law ⟨law.posted, law.released, law.turns⟩ (.inr (same.trans task))
  | unused | request =>
    rw [task] at law
    rw [step_other fun _ _ _ same => nomatch task.symm.trans same]
    refine Unserved.law ⟨law.posted, law.released, law.turns⟩ (.inl ?_)
    rcases w.service.task_openStep apart with same | ⟨_, asks⟩
    · dsimp only
      rw [same, task]
      trivial
    · exact asks

theorem Law.step (law : w.Law u) (placed : w.service.Placed) (move : OpenMove) : (w.step u move).Law u := by
  by_cases own : ∃ m, move = .move (.session u m)
  · obtain ⟨m, rfl⟩ := own
    have moved := w.service.moved u m
    have turn : w.service.turn? u (.move (.session u m)) = w.service.sessionTurn? u m := if_pos rfl
    have stepped : w.service.openStep (.move (.session u m)) = w.service.moveSession u m := rfl
    generalize w.service.moveSession u m = after, w.service.sessionTurn? u m = turn? at *
    cases moved with
    | nothing =>
      rw [step_nothing stepped turn]
      exact law
    | starts unused config now =>
      unfold Law at law
      rw [unused] at law
      rw [step_other (fun _ _ _ same => nomatch unused.symm.trans same), stepped]
      have tasked := w.service.task_startSession u config now
      have unserved : Unserved { w with service := w.service.startSession u config now } :=
        ⟨law.posted, law.released, law.turns⟩
      split at tasked
      · rename_i n opened
        unfold Law
        dsimp only
        rw [tasked]
        exact serves_start unserved (Engine.openSession_opened opened) rfl
      · exact unserved.law (.inr tasked)
    | waits task noticed writes =>
      unfold Law at law
      rw [task] at law
      exact law.waits task noticed stepped turn
    | completes task hand going =>
      unfold Law at law
      rw [task] at law
      exact law.completes task stepped turn hand (law.isOpen going)
    | fails task stuck =>
      unfold Law at law
      rw [task] at law
      exact law.fails task stuck stepped turn
  · exact law.others placed fun m same => own ⟨m, same⟩

theorem law_run {w : Watch} (law : w.Law u) (placed : w.service.Placed) (moves : List OpenMove) :
    (w.run u moves).Law u ∧ (w.run u moves).service.Placed := by
  induction moves generalizing w with
  | nil => exact ⟨law, placed⟩
  | cons move rest ih =>
    refine ih (law.step placed move) ?_
    rw [service_step]
    exact placed.openStep move

theorem law_start (config : ServerConfig) (u : Uuid) : (start config).Law u := ⟨rfl, rfl, rfl⟩

/-! What follows from the law. -/

structure Seen (w : Watch) : Prop where
  apart : w.turns.Pairwise Apart
  posted : taken w.turns <+: w.posted
  delivered : delivered w.turns <+: taken w.turns
  released : w.released = total (dataFrames (taken w.turns))

theorem Law.seen (law : w.Law u) : w.Seen := by
  unfold Law at law
  have unserved (unserved : w.Unserved) : w.Seen := by
    refine ⟨?_, ?_, ?_, ?_⟩
    · rw [unserved.turns]
      exact .nil
    · rw [unserved.turns]
      exact List.nil_prefix
    · rw [unserved.turns]
      exact List.nil_prefix
    · rw [unserved.turns, unserved.released]
      rfl
  split at law
  · obtain ⟨config, since, takes⟩ := law.takes
    obtain ⟨line, _, posted, _⟩ := law.line
    refine ⟨takes.apart, ?_, ?_, law.released⟩
    · rw [posted]
      exact List.prefix_append _ _
    · exact SessionTurn.delivered_eq_taken law.lasts ▸ List.prefix_rfl
  · obtain ⟨config, since, last, takes⟩ := law.takes
    obtain ⟨before, last, turns, lasts⟩ := law.lasts
    refine ⟨takes.apart, law.posted, ?_, law.released⟩
    rw [turns]
    exact SessionTurn.delivered_prefix before last lasts
  · obtain ⟨config, since, last, takes, _⟩ := law.takes
    exact ⟨takes.apart, law.posted, SessionTurn.delivered_eq_taken law.lasts ▸ List.prefix_rfl, law.released⟩
  · exact unserved law
  · exact unserved law
  · exact unserved law

/-- A session that ends tells of that, if its connection is live, with the first cause that it had. -/
theorem Law.reported (law : w.Law u) {n : Nat} {s : Session}
    {writing : Option (Nat × SessionEvent)} (task : w.service.task u = .session n s writing) {move : OpenMove}
    (ended : (w.step u move).service.task u = .ended) :
    ∃ payload, (w.step u move).service.told u = w.service.told u ++
        (if w.service.engine.connections.isLive ⟨u⟩ then [w.service.envelope u .closed payload] else []) ∧
      Closure.decode? payload = some (((w.step u move).turns.findSome? (·.cause?)).getD (some ⟨1006, ""⟩)) := by
  unfold Law at law
  rw [task] at law
  rw [service_step] at ended
  by_cases own : ∃ m, move = .move (.session u m)
  · obtain ⟨m, rfl⟩ := own
    have moved := w.service.moved u m
    have turn : w.service.turn? u (.move (.session u m)) = w.service.sessionTurn? u m := if_pos rfl
    have stepped : w.service.openStep (.move (.session u m)) = w.service.moveSession u m := rfl
    rw [stepped] at ended
    generalize w.service.moveSession u m = after, w.service.sessionTurn? u m = turn? at *
    cases moved with
    | nothing => cases task.symm.trans ended
    | starts unused => cases task.symm.trans unused
    | waits | fails => cases (Service.task_setTask _ _ _).symm.trans ended
    | @completes n t writing here hand going =>
      cases here.symm.trans task
      obtain ⟨config, since, before⟩ := law.takes
      have takes : (Session.start config since).Takes (w.turns ++ [t]) t.step.session :=
        .snoc before (law.isOpen going)
      have last : t.step.isOver = true := by
        rw [Service.task_complete] at ended
        split at ended
        · assumption
        · cases ended
      have told := congrArg Standing.told (w.service.standing_complete u u n t.step)
      rw [if_pos rfl] at told
      rw [law.step_completes here stepped turn hand]
      refine ⟨t.step.session.closePayload, ?_, takes.reported⟩
      refine told.trans (congrArg (w.service.told u ++ ·) ?_)
      simp only [Effect.events, SessionTurn.message_of_isOver last, last, Standing.closing, Service.isLive_standing]
      rfl
  · have same := w.service.task_kept (fun m same => own ⟨m, same⟩) (by rw [task]; exact id)
    cases task.symm.trans (same.symm.trans ended)

/-- Every run of a session, whatever the client, the host, its clock and the loss of its frames do to it. It
    starts to close its connection at most once, and takes no frame of the host and sends no ping after that. The
    frames that it takes are those that were posted on its line, in their order, the data frames up to the first
    close at most; each is written as it is, and all have gone out but perhaps the last; while it runs none is
    lost. What the line counts goes down by the size of each data frame that it took, once, whatever became of
    the frame. When it ends, and its connection is live, it tells so with a payload that reads back as the first
    cause of its end: what the client closed with or what the session itself did, and a broken connection if
    there was no such cause. -/
theorem session_runs (config : ServerConfig) (moves : List OpenMove) (u : Uuid) :
    let w := (start config).run u moves
    (w.turns.countP (·.closes) ≤ 1 ∧ w.turns.Pairwise Apart) ∧
    (taken w.turns <+: w.posted ∧ dataFrames (taken w.turns) <+: w.posted.takeWhile (!·.isClose) ∧
      delivered w.turns <+: taken w.turns ∧
      (∀ t ∈ w.turns, ∀ frame, t.frame? = some frame → t.step.write = some frame.message) ∧
      ∀ n s writing line, w.service.task u = .session n s writing → w.service.line? n = some line →
        w.posted = taken w.turns ++ (inHand writing ++ line.queued)) ∧
    (w.released = total (dataFrames (taken w.turns)) ∧
      ∀ t ∈ w.turns, t.step.flushed = total (dataFrames t.frame?.toList)) ∧
    (∀ closure?, Closure.decode? (WebSocket.closePayload closure?) = some closure?) ∧
    ∀ move n s writing, w.service.task u = .session n s writing → (w.step u move).service.task u = .ended →
      ∃ payload, (w.step u move).service.told u = w.service.told u ++
          (if w.service.engine.connections.isLive ⟨u⟩ then [w.service.envelope u .closed payload] else []) ∧
        (payload.length ≤ w.service.limit → (w.service.envelope u .closed payload).payload = payload) ∧
        Closure.decode? payload = some (((w.step u move).turns.findSome? (·.cause?)).getD (some ⟨1006, ""⟩)) := by
  intro w
  obtain ⟨law, placed⟩ : w.Law u ∧ w.service.Placed :=
    law_run (law_start config u) (Service.placed_start config) moves
  have seen := law.seen
  refine ⟨⟨SessionTurn.countP_closes_le seen.apart, seen.apart⟩, ⟨seen.posted, ?_, seen.delivered,
    fun t _ frame => SessionTurn.write_step, fun n s writing line task found => ?_⟩,
    ⟨seen.released, fun t _ => t.flushed_step⟩, Closure.decode?_closePayload, fun move n s writing task ended => ?_⟩
  · exact SessionTurn.dataFrames_taken seen.apart seen.posted
  · unfold Law at law
    rw [task] at law
    obtain ⟨other, there, posted, _⟩ := law.line
    cases found.symm.trans there
    exact posted
  · obtain ⟨payload, told, decoded⟩ := law.reported task ended
    exact ⟨payload, told, List.take_of_length_le, decoded⟩

def caller : Uuid := .fresh 0 1

/-- A connection that the host closes after a message, while a third frame is posted behind the close. The client
    closes with a code of its own, too late to count. -/
def closed : List OpenMove :=
  [.move (.session caller (.start {} 0)), .move (.host (.send ⟨caller⟩ (.text "a"))),
    .move (.host (.disconnect ⟨caller⟩ ⟨1000, "bye"⟩)), .handle 0 (.send (.binary [1, 2]) {}),
    .move (.session caller (.take 1)), .move (.session caller (.written (some 2))),
    .move (.session caller (.take 3)), .move (.session caller (.written (some 4))),
    .move (.session caller (.read 5 (.close (some ⟨4000, "later"⟩))))]

theorem session_runs_closed :
    let w := (start {}).run caller closed
    let last : OpenMove := .move (.session caller (.readEnd 6))
    w.posted = [.text "a", .close ⟨1000, "bye"⟩, .binary [1, 2]] ∧ taken w.turns = [.text "a", .close ⟨1000, "bye"⟩] ∧
    w.released = 1 ∧
    ∃ payload, (w.step caller last).service.told caller =
        w.service.told caller ++ [w.service.envelope caller .closed payload] ∧
      Closure.decode? payload = some (some ⟨1000, "bye"⟩) := by
  intro w last
  have posted : w.posted = [.text "a", .close ⟨1000, "bye"⟩, .binary [1, 2]] := by decide
  have turns : taken w.turns = [.text "a", .close ⟨1000, "bye"⟩] := by decide
  obtain ⟨_, _, ⟨released, _⟩, _, reported⟩ := session_runs {} closed caller
  have running : ∃ s, w.service.task caller = .session 0 s none := ⟨_, by rfl⟩
  obtain ⟨s, task⟩ := running
  obtain ⟨payload, told, _, decoded⟩ := reported last 0 s none task (by decide)
  have live : w.service.engine.connections.isLive ⟨caller⟩ = true := by decide
  have cause : (w.step caller last).turns.findSome? (·.cause?) = some (some ⟨1000, "bye"⟩) := by decide
  refine ⟨posted, turns, ?_, payload, ?_, ?_⟩
  · rw [show w.released = _ from released, show taken ((start {}).run caller closed).turns = _ from turns]
    decide
  · rw [told, if_pos live]
  · exact decoded.trans (by rw [show (step caller _ last).turns.findSome? _ = _ from cause]; rfl)

end Watch

end Gateway
