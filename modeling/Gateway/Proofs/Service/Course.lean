import Gateway.Proofs.Connection.Timer
import Gateway.Proofs.Service.Turns
import Mathlib.Data.List.Induction

namespace Gateway

theorem Session.due_of_event? {s : Session} {e : Engine} {n : Nat} {move : SessionMove} {now : Nat}
    {event : SessionEvent} (noticed : s.event? e n move = some (now, event)) (written : Option Nat) :
    SessionTurn.Due ⟨s, now, event, written⟩ := by
  rintro rfl
  obtain ⟨deadline, found, noticed⟩ := Option.bind_eq_some_iff.mp noticed
  cases move with
  | wake time =>
    dsimp only at noticed
    split at noticed
    · rename_i due
      cases noticed
      rw [Option.any_eq_true] at due
      obtain ⟨time, rfl, reached⟩ := due
      exact ⟨time, found, of_decide_eq_true reached⟩
    · cases noticed
  | take time =>
    dsimp only at noticed
    split at noticed
    · split at noticed
      · cases noticed
      · split at noticed <;> cases noticed
    · cases noticed
  | read | readEnd | start | written | fail => cases noticed

theorem Session.wakes_iff (s : Session) (e : Engine) (n now : Nat) :
    s.event? e n (.wake now) = some (now, .timer) ↔ s.Due now := by
  unfold event? Due
  cases s.deadline with
  | none => simp
  | some time? => cases time? <;> simp

theorem Service.noticed_of_turn {v : Service} {u : Uuid} {move : SessionMove} {t : SessionTurn}
    (turn : v.sessionTurn? u move = some t) : ∃ n writing, v.task u = .session n t.session writing ∧
      (writing = some (t.now, t.event) ∨ t.Due) := by
  unfold sessionTurn? at turn
  split at turn
  · rename_i n session since event time task
    cases turn
    exact ⟨n, _, task, .inl rfl⟩
  · rename_i n session task
    split at turn
    · rename_i now event noticed
      split at turn
      · cases turn
      · cases turn
        exact ⟨n, none, task, .inr (Session.due_of_event? noticed _)⟩
    · cases turn
  · cases turn

namespace Watch

def starting (u : Uuid) (own : SessionConfig) (since : Nat) : OpenMove := .move (.session u (.start own since))

structure Course (w : Watch) (u : Uuid) (moves : List OpenMove) (own : SessionConfig) (since : Nat) (last : Session) :
    Prop where
  started : starting u own since ∈ moves
  takes : (Session.start own since).Takes w.turns last
  due : ∀ t ∈ w.turns, t.Due

def Follows (w : Watch) (u : Uuid) (moves : List OpenMove) : Prop :=
  match w.service.task u with
  | .session _ s writing => ∃ own since, w.Course u moves own since s ∧
      ∀ now event, writing = some (now, event) →
        (s.frameOf now event).isSome = true ∧ ∀ written, SessionTurn.Due ⟨s, now, event, written⟩
  | .ended => ∃ own since last, w.Course u moves own since last
  | .failed => ∃ own since last, w.Course u moves own since last ∧ last.Stuck
  | .unused | .refused | .request _ _ _ => w.turns = []

variable {u : Uuid} {w : Watch} {moves : List OpenMove}

theorem run_concat (w : Watch) (u : Uuid) (moves : List OpenMove) (move : OpenMove) :
    w.run u (moves ++ [move]) = (w.run u moves).step u move := List.foldl_concat ..

theorem turn?_of_apart {v : Service} {move : OpenMove} (apart : ∀ own, move ≠ .move (.session u own)) :
    v.turn? u move = none := by
  unfold Service.turn?
  split
  · split
    · rename_i own same
      exact absurd (by rw [same]) (apart own)
    · rfl
  · rfl

theorem turns_step (w : Watch) (u : Uuid) (move : OpenMove) :
    (w.step u move).turns = w.turns ++ (w.service.turn? u move).toList := by
  unfold step
  cases line : w.service.sessionLine? u with
  | some n => rfl
  | none =>
    have silent : w.service.turn? u move = none := by
      cases turn : w.service.turn? u move with
      | none => rfl
      | some t =>
        have own : ∃ m, move = .move (.session u m) := by
          by_contra apart
          cases (turn?_of_apart fun m same => apart ⟨m, same⟩).symm.trans turn
        obtain ⟨m, rfl⟩ := own
        obtain ⟨n, writing, task, _⟩ := Service.noticed_of_turn ((if_pos rfl).symm.trans turn)
        rw [Service.sessionLine?, task] at line
        cases line
    rw [silent]
    exact (List.append_nil _).symm

theorem Course.extend {own : SessionConfig} {since : Nat} {last : Session} (course : w.Course u moves own since last)
    (move : OpenMove) {after : Watch} (turns : after.turns = w.turns) :
    after.Course u (moves ++ [move]) own since last := by
  refine ⟨List.mem_append_left _ course.started, ?_, ?_⟩
  · rw [turns]
    exact course.takes
  · rw [turns]
    exact course.due

theorem Follows.same (follows : w.Follows u moves) (move : OpenMove) {after : Watch} (turns : after.turns = w.turns)
    (task : after.service.task u = w.service.task u) : after.Follows u (moves ++ [move]) := by
  unfold Follows at *
  rw [task]
  split at follows
  · obtain ⟨own, since, course, pending⟩ := follows
    exact ⟨own, since, course.extend move turns, pending⟩
  · obtain ⟨own, since, last, course⟩ := follows
    exact ⟨own, since, last, course.extend move turns⟩
  · obtain ⟨own, since, last, course, stuck⟩ := follows
    exact ⟨own, since, last, course.extend move turns, stuck⟩
  all_goals exact turns.trans follows

theorem Follows.others (follows : w.Follows u moves) {move : OpenMove}
    (apart : ∀ own, move ≠ .move (.session u own)) : (w.step u move).Follows u (moves ++ [move]) := by
  have turns : (w.step u move).turns = w.turns := by
    rw [turns_step, turn?_of_apart apart]
    exact List.append_nil _
  have after := w.service_step u move
  rcases w.service.task_openStep apart with same | ⟨asked, asks⟩
  · exact follows.same move turns (by rw [after, same])
  · -- a request, or what may become one, has had no turns
    have none : w.turns = [] := by
      unfold Follows at follows
      split at follows <;> simp_all [Task.Asks]
    unfold Follows
    rw [after]
    split <;> simp_all [Task.Asks]

theorem Follows.session (follows : w.Follows u moves) (law : w.Law u) {n : Nat} {s : Session}
    {writing : Option (Nat × SessionEvent)} (task : w.service.task u = .session n s writing) (m : SessionMove) :
    (w.step u (.move (.session u m))).Follows u (moves ++ [.move (.session u m)]) := by
  unfold Follows at follows
  unfold Law at law
  rw [task] at follows law
  obtain ⟨own, since, course, pending⟩ := follows
  have moved := w.service.moved u m
  have turns := w.turns_step u (.move (.session u m))
  have turn : w.service.turn? u (.move (.session u m)) = w.service.sessionTurn? u m := if_pos rfl
  have stepped : (w.step u (.move (.session u m))).service = w.service.moveSession u m := w.service_step u _
  have noticedThen := @Service.noticed_of_turn w.service u m
  unfold Follows
  rw [stepped]
  rw [turn] at turns
  clear stepped turn
  generalize w.service.moveSession u m = after, w.service.sessionTurn? u m = turn? at *
  cases moved with
  | nothing =>
    have same := turns.trans (List.append_nil _)
    rw [task]
    exact ⟨own, since, course.extend _ same, pending⟩
  | starts unused => cases task.symm.trans unused
  | waits here noticed writes =>
    cases here.symm.trans task
    have same := turns.trans (List.append_nil _)
    rw [Service.task_setTask]
    refine ⟨own, since, course.extend _ same, ?_⟩
    rintro _ _ ⟨⟩
    exact ⟨writes, Session.due_of_event? noticed⟩
  | @completes _ t _ here hand going =>
    cases here.symm.trans task
    have isDue : t.Due := by
      obtain ⟨_, _, there, noticed⟩ := noticedThen rfl
      cases there.symm.trans task
      rcases noticed with began | due
      · exact (pending _ _ began).2 t.written
      · exact due
    have longer : ∀ last, (Session.start own since).Takes (w.turns ++ [t]) last →
        (w.step u (.move (.session u m))).Course u (moves ++ [.move (.session u m)]) own since last := by
      intro last takes
      refine ⟨List.mem_append_left _ course.started, ?_, ?_⟩
      · rw [turns]
        exact takes
      · rw [turns]
        exact List.forall_mem_append.mpr ⟨course.due, List.forall_mem_singleton.mpr isDue⟩
    have takes := longer _ (.snoc course.takes (law.isOpen going))
    rw [Service.task_complete]
    cases t.step.isOver with
    | true => exact ⟨own, since, _, takes⟩
    | false => exact ⟨own, since, takes, nofun⟩
  | fails here stuck =>
    cases here.symm.trans task
    have same := turns.trans (List.append_nil _)
    rw [Service.fail, Service.task_setTask]
    exact ⟨own, since, s, course.extend _ same, (s.deadline_eq_none_iff).mp stuck⟩

theorem Follows.own (follows : w.Follows u moves) (law : w.Law u) (m : SessionMove) :
    (w.step u (.move (.session u m))).Follows u (moves ++ [.move (.session u m)]) := by
  have after := w.service_step u (.move (.session u m))
  have turns := w.turns_step u (.move (.session u m))
  have turn : w.service.turn? u (.move (.session u m)) = w.service.sessionTurn? u m := if_pos rfl
  have still (moved : w.service.moveSession u m = w.service) (silent : w.service.sessionTurn? u m = none) :
      (w.step u (.move (.session u m))).Follows u (moves ++ [.move (.session u m)]) := by
    refine follows.same _ ?_ ?_
    · rw [turns, turn, silent]
      exact List.append_nil _
    · rw [after]
      exact congrArg (·.task u) moved
  cases task : w.service.task u with
  | session n s writing => exact follows.session law task m
  | unused =>
    cases m with
    | start config now =>
      unfold Follows at follows
      rw [task] at follows
      have quiet : (w.step u (starting u config now)).turns = [] := by
        rw [starting, turns, turn, follows]
        simp [Service.sessionTurn?, task]
      have started : (w.step u (starting u config now)).service = w.service.startSession u config now := by
        rw [starting, after]
        simp only [Service.openStep, Service.step, Service.moveSession, task]
      have tasked := w.service.task_startSession u config now
      unfold Follows
      rw [← starting, started]
      cases opened : (w.service.engine.openSession ⟨u⟩).1 with
      | some line =>
        rw [opened] at tasked
        rw [tasked]
        refine ⟨config, now, ⟨by simp, ?_, ?_⟩, ?_⟩
        · rw [quiet]
          exact .nil
        · rw [quiet]
          exact List.forall_mem_nil _
        · rintro _ _ ⟨⟩
      | none =>
        rw [opened] at tasked
        rw [tasked]
        exact quiet
    | _ => exact still (by simp only [Service.moveSession, task]) (by simp only [Service.sessionTurn?, task])
  | _ => exact still (by simp only [Service.moveSession, task]) (by simp only [Service.sessionTurn?, task])

theorem Follows.step (follows : w.Follows u moves) (law : w.Law u) (move : OpenMove) :
    (w.step u move).Follows u (moves ++ [move]) := by
  by_cases own : ∃ m, move = .move (.session u m)
  · obtain ⟨m, rfl⟩ := own
    exact follows.own law m
  · exact follows.others fun m same => own ⟨m, same⟩

theorem follows_run (config : ServerConfig) (moves : List OpenMove) (u : Uuid) :
    ((start config).run u moves).Follows u moves := by
  induction moves using List.reverseRecOn with
  | nil => exact rfl
  | append_singleton moves move ih =>
    have law := (law_run (law_start config u) (Service.placed_start config) moves).1
    rw [run_concat]
    exact ih.step law move

/-- What is seen of an identifier in a run: no turn, or those of one session, which is over after the last of them at
    most. -/
inductive Traced (w : Watch) (u : Uuid) (moves : List OpenMove) : Prop where
  | idle (none : w.turns = []) (idle : ∀ n s writing, w.service.task u ≠ .session n s writing)
      (whole : w.service.task u ≠ .failed)
  | served {own : SessionConfig} {since : Nat} {last : Session} (course : w.Course u moves own since last)
      (ends : w.turns.countP (·.step.isOver) ≤ 1)
      (running : ∀ n s writing, w.service.task u = .session n s writing →
        s = last ∧ (∀ t ∈ w.turns, t.step.isOver = false) ∧
          ∀ now event, writing = some (now, event) → (s.frameOf now event).isSome = true)
      (broken : w.service.task u = .failed → last.Stuck)

theorem Follows.traced (follows : w.Follows u moves) (law : w.Law u) : w.Traced u moves := by
  have still {turns : List SessionTurn} (going : ∀ t ∈ turns, t.step.isOver = false) :
      turns.countP (·.step.isOver) = 0 :=
    List.countP_eq_zero.mpr fun t within => by simp [going t within]
  unfold Follows at follows
  unfold Law at law
  cases task : w.service.task u with
  | session n s writing =>
    rw [task] at follows law
    obtain ⟨own, since, course, pending⟩ := follows
    refine .served course ?_ (fun _ _ _ running => ?_) fun failed => by cases task.symm.trans failed
    · rw [still law.lasts]
      exact Nat.zero_le 1
    · cases task.symm.trans running
      exact ⟨rfl, law.lasts, fun now event begun => (pending now event begun).1⟩
  | ended =>
    rw [task] at follows law
    obtain ⟨own, since, last, course⟩ := follows
    obtain ⟨before, t, turns, going⟩ := law.lasts
    refine .served course ?_ (fun _ _ _ running => by cases task.symm.trans running) fun failed => by
      cases task.symm.trans failed
    rw [turns, List.countP_append, still going, Nat.zero_add]
    exact List.countP_le_length
  | failed =>
    rw [task] at follows law
    obtain ⟨own, since, last, course, stuck⟩ := follows
    refine .served course ?_ (fun _ _ _ running => by cases task.symm.trans running) fun _ => stuck
    rw [still law.lasts]
    exact Nat.zero_le 1
  | unused | refused | request =>
    rw [task] at follows
    refine .idle follows (fun _ _ _ running => ?_) fun failed => ?_
    · cases task.symm.trans running
    · cases task.symm.trans failed

theorem traced_run (config : ServerConfig) (moves : List OpenMove) (u : Uuid) :
    ((start config).run u moves).Traced u moves :=
  (follows_run config moves u).traced (law_run (law_start config u) (Service.placed_start config) moves).1

end Watch

end Gateway
