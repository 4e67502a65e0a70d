import Gateway.Loopback
import Gateway.Proofs.Service.Lines
import Mathlib.Data.List.Induction
import Mathlib.Data.Option.Basic

namespace Gateway

open WebSocket (Message)

namespace Service

variable {v : Service} {u : Uuid} {line : Nat} {session : Session}

theorem moveSession_written {since : Nat} {event : SessionEvent}
    (task : v.task u = .session line session (some (since, event))) (time : Option Nat) :
    v.moveSession u (.written time) = v.complete u line (session.step since event time) := by
  unfold moveSession
  rw [task]

theorem moveSession_noticed {move : SessionMove} {now : Nat} {event : SessionEvent}
    (task : v.task u = .session line session none)
    (noticed : session.event? v.engine line move = some (now, event)) :
    v.moveSession u move = v.notice u line session now event := by
  unfold moveSession
  rw [task]
  simp only [noticed]

theorem moveSession_fail (task : v.task u = .session line session none) (stuck : session.deadline = none) :
    v.moveSession u .fail = v.fail u line := by
  unfold moveSession
  rw [task]
  simp [Session.event?, Session.breaksOff, stuck]

def runSession (v : Service) (u : Uuid) (moves : List SessionMove) : Service := v.run (moves.map (.session u))

theorem task_runSession_of_ne (v : Service) {other : Uuid} (apart : other ≠ u) (moves : List SessionMove) :
    (v.runSession u moves).task other = v.task other := by
  induction moves generalizing v with
  | nil => rfl
  | cons move moves ih => exact (ih _).trans (v.task_moveSession_of_ne apart move)

end Service

namespace LoopbackLink

def Shows (l : LoopbackLink) (v : Service) : Prop :=
  ∀ session, l.session = some session → v.task l.id.uuid = .session l.line session l.stalled

def Follows (l : LoopbackLink) (v : Service) (next : LoopbackLink × Engine) : Prop :=
  next.1.id = l.id ∧ ∃ moves : List SessionMove,
    (v.runSession l.id.uuid moves).engine = next.2 ∧ next.1.Shows (v.runSession l.id.uuid moves)

variable {l : LoopbackLink} {v : Service} {session : Session} {now : Nat}

theorem shows_complete (l : LoopbackLink) (v : Service) (step : SessionStep) :
    (l.apply v.engine step).1.id = l.id ∧
    (v.complete l.id.uuid l.line step).engine = (l.apply v.engine step).2 ∧
    (l.apply v.engine step).1.Shows (v.complete l.id.uuid l.line step) := by
  have task := v.task_complete l.id.uuid l.line step
  unfold apply Service.complete
  unfold Service.complete at task
  dsimp only at task ⊢
  split
  · exact ⟨rfl, rfl, fun _ gone => by cases gone⟩
  · rename_i goes
    rw [if_neg goes, if_neg goes] at task
    refine ⟨rfl, rfl, fun next same => ?_⟩
    cases same
    exact task

theorem follows_written {since : Nat} {event : SessionEvent}
    (task : v.task l.id.uuid = .session l.line session (some (since, event))) (time : Option Nat) :
    l.Follows v (l.apply v.engine (session.step since event time)) := by
  obtain ⟨id, engine, shown⟩ := l.shows_complete v (session.step since event time)
  rw [← Service.moveSession_written task time] at engine shown
  exact ⟨id, [.written time], engine, shown⟩

theorem follows_handle {move : SessionMove} {event : SessionEvent} (running : l.session = some session)
    (task : v.task l.id.uuid = .session l.line session none)
    (noticed : session.event? v.engine l.line move = some (now, event)) :
    l.Follows v (l.handle (v.engine.noticed l.line event) session now event) := by
  have moved := Service.moveSession_noticed task noticed
  unfold Service.notice at moved
  unfold handle
  cases writes : session.frameOf now event with
  | none =>
    rw [writes] at moved
    dsimp only at moved
    obtain ⟨id, engine, shown⟩ :=
      l.shows_complete { v with engine := v.engine.noticed l.line event } (session.step now event (some now))
    rw [← moved] at engine shown
    exact ⟨id, [move], engine, shown⟩
  | some message =>
    rw [writes] at moved
    have waits : (v.moveSession l.id.uuid move).task l.id.uuid = .session l.line session (some (now, event)) := by
      rw [moved]
      exact Service.task_setTask _ _ _
    have engine : (v.moveSession l.id.uuid move).engine = v.engine.noticed l.line event := congrArg Service.engine moved
    -- what is written and what becomes of it is told by the move after this one
    have written (sent : LoopbackLink) (same : sent.id = l.id ∧ sent.line = l.line) (time : Option Nat) :
        l.Follows v (sent.apply (v.engine.noticed l.line event) (session.step now event time)) := by
      obtain ⟨sameId, sameLine⟩ := same
      have task : (v.moveSession l.id.uuid move).task sent.id.uuid =
          .session sent.line session (some (now, event)) := by rw [sameId, sameLine, waits]
      obtain ⟨id, moves, goes, shown⟩ := follows_written task time
      rw [engine, sameId] at *
      exact ⟨id, move :: moves, goes, shown⟩
    dsimp only
    split
    · exact written l ⟨rfl, rfl⟩ none
    · split
      · refine written _ ?_ (some now)
        exact ⟨rfl, rfl⟩
      · refine ⟨rfl, [move], engine, fun other same => ?_⟩
        cases running.symm.trans same
        exact waits

theorem follows_same {next : LoopbackLink} (shown : l.Shows v)
    (same : next.id = l.id ∧ next.line = l.line ∧ next.session = l.session ∧ next.stalled = l.stalled) :
    l.Follows v (next, v.engine) := by
  obtain ⟨id, line, session, stalled⟩ := same
  refine ⟨id, [], rfl, fun s running => ?_⟩
  rw [id, line, stalled]
  exact shown s (session.symm.trans running)

theorem follows_idleStep {next : LoopbackLink × Engine} (running : l.session = some session)
    (task : v.task l.id.uuid = .session l.line session none) (goes : l.idleStep v.engine session now = some next) :
    l.Follows v next := by
  obtain ⟨⟨time, event⟩, noticed, rfl⟩ := Option.map_eq_some_iff.mp goes
  rcases (Option.orElse_eq_some _ _ _).mp noticed with takes | ⟨_, wakes⟩
  · exact follows_handle running task takes
  · exact follows_handle running task wakes

theorem follows_freeStep {next : LoopbackLink × Engine} (running : l.session = some session)
    (task : v.task l.id.uuid = .session l.line session none) (free : session.deadline ≠ none)
    (unstalled : l.stalled = none) (goes : l.freeStep v.engine session now = some next) : l.Follows v next := by
  obtain ⟨deadline, waits⟩ := Option.ne_none_iff_exists'.mp free
  unfold freeStep at goes
  dsimp only at goes
  generalize l.server.read l.toServer l.client.isSome = step at goes
  let read := { l with server := step.endpoint, toServer := step.rest, toClient := l.toClient ++ step.sent }
  have handled (move : SessionMove) {event : SessionEvent}
      (noticed : session.event? v.engine l.line move = some (now, event))
      (same : v.engine.noticed l.line event = v.engine) :
      l.Follows v (read.handle v.engine session now event) := by
    have follows : read.Follows v (read.handle (v.engine.noticed read.line event) session now event) :=
      follows_handle running task noticed
    rwa [show v.engine.noticed read.line event = v.engine from same] at follows
  split at goes
  · rename_i message _
    cases goes
    exact handled (.read now message) (by simp [Session.event?, waits]) rfl
  · cases goes
    exact handled (.readEnd now) (by simp [Session.event?, waits]) rfl
  · split at goes
    · exact follows_idleStep running task goes
    · cases goes
      refine follows_same (fun s same => ?_) ⟨rfl, rfl, rfl, rfl⟩
      cases running.symm.trans same
      rw [task, unstalled]

theorem follows_serverStep {next : LoopbackLink × Engine} (shown : l.Shows v)
    (goes : l.serverStep v.engine now = some next) : l.Follows v next := by
  unfold serverStep at goes
  split at goes
  · cases goes
  · rename_i session running unstalled
    have task := shown session running
    rw [unstalled] at task
    split at goes
    · rename_i stuck
      cases goes
      have fails := Service.moveSession_fail task (Option.isNone_iff_eq_none.mp stuck)
      exact ⟨rfl, [.fail], congrArg Service.engine fails, fun _ gone => by cases gone⟩
    · rename_i free
      exact follows_freeStep running task (mt Option.isNone_iff_eq_none.mpr free) unstalled goes
  · rename_i session since event running stalled
    have task := shown session running
    rw [stalled] at task
    split at goes
    · cases goes
      exact follows_written task none
    · split at goes
      · cases goes
        exact follows_written task (some now)
      · cases goes

theorem clientStep_same {next : LoopbackLink} {arrival : Option LoopbackArrival}
    (goes : l.clientStep = some (next, arrival)) :
    next.id = l.id ∧ next.line = l.line ∧ next.session = l.session ∧ next.stalled = l.stalled := by
  unfold clientStep at goes
  split at goes
  · cases goes
  · split at goes
    · cases goes
    · dsimp only at goes
      split at goes
      · cases goes
        exact ⟨rfl, rfl, rfl, rfl⟩
      · split at goes
        · cases goes
        · cases goes
          exact ⟨rfl, rfl, rfl, rfl⟩
      · cases goes
        exact ⟨rfl, rfl, rfl, rfl⟩

end LoopbackLink

inductive LoopbackMove where
  | settle
  | advance (milliseconds : Nat)
  | connect (id : ConnectionId) (isPaused : Bool)
  | drop (id : ConnectionId)
  | setPaused (id : ConnectionId) (isPaused : Bool)
  | clientSend (id : ConnectionId) (message : Message)
  | host (move : HostMove)
  | drain (count : Nat)

def LoopbackMove.connects? : LoopbackMove → Option ConnectionId
  | connect id _ => some id
  | _ => none

namespace Loopback

def step (w : Loopback) : LoopbackMove → Loopback
  | .settle => w.settle
  | .advance milliseconds => w.advance milliseconds
  | .connect id isPaused => w.connect id isPaused
  | .drop id => w.drop id
  | .setPaused id isPaused => w.setPaused id isPaused
  | .clientSend id message => (w.clientSend id message).2
  | .host move => { w with engine := move.apply w.engine }
  | .drain count => (w.withEngine (·.withQueue (·.drain count))).2

def run (w : Loopback) (moves : List LoopbackMove) : Loopback := moves.foldl step w

variable {w : Loopback} {v : Service}

/-- A service with the same engine, in which the sessions of the links are those of their identifiers and no other
    identifier is in use. -/
structure Mirrors (w : Loopback) (v : Service) : Prop where
  engine : v.engine = w.engine
  shows : ∀ l ∈ w.links, l.Shows v
  apart : (w.links.map (·.id)).Nodup
  fresh : ∀ u, (⟨u⟩ : ConnectionId) ∉ w.links.map (·.id) → v.task u = .unused

/-- The links keep their identifiers, and a service that mirrors the one mirrors the other after some moves. -/
def Follows (w next : Loopback) : Prop :=
  ∀ v, w.Mirrors v → next.links.map (·.id) = w.links.map (·.id) ∧ ∃ moves : List Move, next.Mirrors (v.run moves)

theorem Follows.refl (w : Loopback) : w.Follows w := fun _ mirrors => ⟨rfl, [], mirrors⟩

theorem Follows.trans {middle next : Loopback} (first : w.Follows middle) (second : middle.Follows next) :
    w.Follows next := by
  intro v mirrors
  obtain ⟨same, moves, halfway⟩ := first v mirrors
  obtain ⟨equal, later, mirrored⟩ := second _ halfway
  refine ⟨equal.trans same, moves ++ later, ?_⟩
  rw [Service.run, List.foldl_append]
  exact mirrored

theorem Follows.of_same {next : Loopback} (engine : next.engine = w.engine)
    (links : ∀ v, (∀ l ∈ w.links, l.Shows v) → ∀ l ∈ next.links, l.Shows v)
    (ids : next.links.map (·.id) = w.links.map (·.id)) : w.Follows next :=
  fun v mirrors => ⟨ids, [], mirrors.engine.trans engine.symm, links v mirrors.shows, ids ▸ mirrors.apart,
    ids ▸ mirrors.fresh⟩

theorem follows_link {before after : List LoopbackLink} {l next : LoopbackLink} {engine : Engine}
    (links : w.links = before ++ l :: after)
    (follows : ∀ v, v.engine = w.engine → l.Shows v → l.Follows v (next, engine)) (notes : List LoopbackNote) :
    w.Follows { w with links := before ++ next :: after, engine, notes } := by
  intro v mirrors
  obtain ⟨id, moves, goes, shown⟩ := follows v mirrors.engine (mirrors.shows l (by simp [links]))
  have ids : (before ++ next :: after).map (·.id) = w.links.map (·.id) := by
    rw [links, List.map_append, List.map_append, List.map_cons, List.map_cons, id]
  have alone : l.id ∉ (before ++ after).map (·.id) := by
    have apart := mirrors.apart
    rw [links, List.map_append, List.map_cons, List.nodup_middle, List.nodup_cons, ← List.map_append] at apart
    exact apart.1
  have others : ∀ other ∈ before ++ after, other.Shows (v.runSession l.id.uuid moves) := by
    intro other within session running
    have distinct : other.id.uuid ≠ l.id.uuid := fun same =>
      alone (List.mem_map.mpr ⟨other, within, congrArg ConnectionId.mk same⟩)
    rw [Service.task_runSession_of_ne v distinct]
    refine mirrors.shows other ?_ session running
    rw [links]
    exact List.mem_append.mpr ((List.mem_append.mp within).imp_right (List.mem_cons_of_mem l))
  refine ⟨ids, moves.map (.session l.id.uuid), goes, fun other within => ?_, ids ▸ mirrors.apart, fun u unknown => ?_⟩
  · rcases List.mem_append.mp within with early | late
    · exact others other (List.mem_append_left _ early)
    · rcases List.mem_cons.mp late with rfl | late
      · exact shown
      · exact others other (List.mem_append_right _ late)
  · have unknown : (⟨u⟩ : ConnectionId) ∉ w.links.map (·.id) := ids ▸ unknown
    have distinct : u ≠ l.id.uuid := by
      rintro rfl
      exact unknown (List.mem_map.mpr ⟨l, by simp [links], rfl⟩)
    exact (Service.task_runSession_of_ne v distinct moves).trans (mirrors.fresh u unknown)

theorem stepLinks_eq_some {now : Nat} {engine engine' : Engine} {before rest links : List LoopbackLink}
    {note : Option LoopbackNote} (goes : stepLinks now engine before rest = some (links, engine', note)) :
    ∃ front l back next, rest = front ++ l :: back ∧ links = before ++ front ++ next :: back ∧
      ((∃ arrival, l.clientStep = some (next, arrival)) ∧ engine' = engine ∨
        l.serverStep engine now = some (next, engine')) := by
  induction rest generalizing before with
  | nil => cases goes
  | cons l rest ih =>
    unfold stepLinks at goes
    split at goes
    · rename_i next arrival client
      cases goes
      exact ⟨[], l, rest, next, rfl, by simp, .inl ⟨⟨arrival, client⟩, rfl⟩⟩
    · split at goes
      · rename_i next engine'' server
        cases goes
        exact ⟨[], l, rest, next, rfl, by simp, .inr server⟩
      · obtain ⟨front, moved, back, next, rfl, rfl, step⟩ := ih goes
        exact ⟨l :: front, moved, back, next, rfl, by simp, step⟩

theorem follows_settleWithin (now steps : Nat) (w : Loopback) : w.Follows (w.settleWithin now steps) := by
  induction steps generalizing w with
  | zero => exact .refl w
  | succ steps ih =>
    unfold settleWithin
    split
    · rename_i links engine note goes
      refine Follows.trans ?_ (ih _)
      obtain ⟨front, l, back, next, split, rfl, step⟩ := stepLinks_eq_some goes
      refine follows_link split (fun v same shown => ?_) _
      rcases step with ⟨⟨arrival, client⟩, rfl⟩ | server
      · exact same ▸ LoopbackLink.follows_same shown (LoopbackLink.clientStep_same client)
      · exact LoopbackLink.follows_serverStep shown (same ▸ server)
    · exact .refl w

theorem follows_settleAt (now : Nat) (w : Loopback) : w.Follows (w.settleAt now) := follows_settleWithin now _ w

theorem follows_at (now : Nat) (w : Loopback) : w.Follows { w with now } := .of_same rfl (fun _ shows => shows) rfl

theorem follows_passTime (target now : Nat) (w : Loopback) : w.Follows (w.passTime target now) := by
  fun_induction passTime target now w with
  | case1 now w deadline next within ih => exact (w.follows_settleAt deadline).trans ih
  | case2 now w deadline next beyond => exact (w.follows_at _).trans (follows_settleAt _ _)
  | case3 now w none => exact (w.follows_at _).trans (follows_settleAt _ _)

theorem follows_modifyClient (w : Loopback) (id : ConnectionId) {f : LoopbackLink → LoopbackLink}
    (same : ∀ l, (f l).id = l.id ∧ (f l).line = l.line ∧ (f l).session = l.session ∧ (f l).stalled = l.stalled) :
    w.Follows (w.modifyClient id f) := by
  have changed (l : LoopbackLink) : (if l.id = id && l.client.isSome then f l else l).id = l.id ∧
      ∀ v, l.Shows v → (if l.id = id && l.client.isSome then f l else l).Shows v := by
    split
    · obtain ⟨sameId, line, session, stalled⟩ := same l
      refine ⟨sameId, fun v shown s running => ?_⟩
      rw [sameId, line, stalled]
      exact shown s (session.symm.trans running)
    · exact ⟨rfl, fun _ shown => shown⟩
  refine .of_same rfl (fun v shows l within => ?_) ?_
  · obtain ⟨before, listed, rfl⟩ := List.mem_map.mp within
    exact (changed before).2 v (shows before listed)
  · rw [modifyClient, List.map_map]
    exact List.map_congr_left fun l _ => (changed l).1

theorem follows_clientSend (w : Loopback) (id : ConnectionId) (message : Message) :
    w.Follows (w.clientSend id message).2 := by
  unfold clientSend
  split
  · exact .refl w
  · split
    · exact .refl w
    · exact w.follows_modifyClient id fun _ => ⟨rfl, rfl, rfl, rfl⟩

theorem Mirrors.connect {id : ConnectionId} (mirrors : w.Mirrors v) (new : id ∉ w.links.map (·.id)) (isPaused : Bool) :
    (w.connect id isPaused).links.map (·.id) = w.links.map (·.id) ++ [id] ∧
      ∃ moves : List Move, (w.connect id isPaused).Mirrors (v.run moves) := by
  have dropped : w.Follows (w.drop id) := w.follows_modifyClient id fun _ => ⟨rfl, rfl, rfl, rfl⟩
  obtain ⟨ids, moves, left⟩ := dropped v mirrors
  let x := v.run moves
  have unused : x.task id.uuid = .unused := left.fresh id.uuid (ids ▸ new)
  have engine : x.engine = w.engine := left.engine
  have started : x.moveSession id.uuid (.start w.sessions w.now) = x.startSession id.uuid w.sessions w.now := by
    unfold Service.moveSession
    rw [unused]
  have others (u : Uuid) (apart : u ≠ id.uuid) : (x.startSession id.uuid w.sessions w.now).task u = x.task u := by
    rw [← started]
    exact x.task_moveSession_of_ne apart _
  have links : (w.connect id isPaused).links = (w.drop id).links ++
      [.connected id ((w.engine.openSession id).1.getD 0) w.maxMessage
        ((w.engine.openSession id).1.map fun _ => Session.start w.sessions w.now) isPaused] := rfl
  have added : (w.connect id isPaused).links.map (·.id) = w.links.map (·.id) ++ [id] := by
    rw [links, List.map_append, ids]
    rfl
  refine ⟨added, moves ++ [.session id.uuid (.start w.sessions w.now)], ?_⟩
  rw [Service.run, List.foldl_append]
  show (w.connect id isPaused).Mirrors (x.moveSession id.uuid (.start w.sessions w.now))
  rw [started]
  refine ⟨congrArg (fun e => (Engine.openSession e id).2) engine, fun l within session running => ?_, ?_,
    fun u unknown => ?_⟩
  · rw [links, List.mem_append, List.mem_singleton] at within
    rcases within with old | rfl
    · have apart : l.id.uuid ≠ id.uuid := by
        intro same
        have listed : l.id ∈ (w.drop id).links.map (·.id) := List.mem_map_of_mem old
        rw [ids, show l.id = id from congrArg ConnectionId.mk same] at listed
        exact new listed
      rw [others _ apart]
      exact left.shows l old session running
    · obtain ⟨line, opened, rfl⟩ := Option.map_eq_some_iff.mp running
      have own := x.task_startSession id.uuid w.sessions w.now
      rw [engine, show w.engine.openSession ⟨id.uuid⟩ = w.engine.openSession id from rfl, opened] at own
      rw [opened]
      exact own
  · rw [added]
    refine List.nodup_append.mpr ⟨mirrors.apart, List.nodup_singleton id, fun other listed one same equal => ?_⟩
    rw [equal, List.mem_singleton.mp same] at listed
    exact new listed
  · rw [added, List.mem_append, List.mem_singleton, not_or] at unknown
    have apart : u ≠ id.uuid := fun same => unknown.2 (congrArg ConnectionId.mk same)
    exact (others u apart).trans (left.fresh u (ids ▸ unknown.1))

theorem Mirrors.step (mirrors : w.Mirrors v) (move : LoopbackMove)
    (new : ∀ id, move.connects? = some id → id ∉ w.links.map (·.id)) :
    (w.step move).links.map (·.id) = w.links.map (·.id) ++ move.connects?.toList ∧
      ∃ moves : List Move, (w.step move).Mirrors (v.run moves) := by
  have follows {next : Loopback} (goes : w.Follows next) :
      next.links.map (·.id) = w.links.map (·.id) ++ [] ∧ ∃ moves : List Move, next.Mirrors (v.run moves) := by
    rw [List.append_nil]
    exact goes v mirrors
  cases move with
  | settle => exact follows (w.follows_settleAt w.now)
  | advance milliseconds => exact follows (follows_passTime _ _ w)
  | connect id isPaused => exact mirrors.connect (new id rfl) isPaused
  | drop id => exact follows (w.follows_modifyClient id fun _ => ⟨rfl, rfl, rfl, rfl⟩)
  | setPaused id isPaused => exact follows (w.follows_modifyClient id fun _ => ⟨rfl, rfl, rfl, rfl⟩)
  | clientSend id message => exact follows (w.follows_clientSend id message)
  | host move =>
    exact ⟨(List.append_nil _).symm, [.host move], congrArg move.apply mirrors.engine, mirrors.shows, mirrors.apart,
      mirrors.fresh⟩
  | drain count =>
    have engine : (v.engine.withQueue (·.drain count)).2 = (w.engine.withQueue (·.drain count)).2 := by
      rw [mirrors.engine]
    exact ⟨(List.append_nil _).symm, [.drain count], engine, mirrors.shows, mirrors.apart, mirrors.fresh⟩

theorem mirrors_start (config : ServerConfig) (sessions : SessionConfig) (maxMessage : Nat) :
    (start config sessions maxMessage).Mirrors (.start config) where
  engine := rfl
  shows := List.forall_mem_nil _
  apart := List.nodup_nil
  fresh _ _ := rfl

/-- Whatever is done with connections of which both ends are in one process, so long as no identifier is given out
    twice: it is a run of a service. The service has the same engine at the end, and the same sessions. -/
theorem run_mirrors (config : ServerConfig) (sessions : SessionConfig) (maxMessage : Nat) (moves : List LoopbackMove)
    (once : (moves.filterMap LoopbackMove.connects?).Nodup) :
    ∃ served : List Move, ((start config sessions maxMessage).run moves).Mirrors ((Service.start config).run served) := by
  suffices both : ((start config sessions maxMessage).run moves).links.map (·.id) =
      moves.filterMap LoopbackMove.connects? ∧ ∃ served : List Move,
        ((start config sessions maxMessage).run moves).Mirrors ((Service.start config).run served) from both.2
  induction moves using List.reverseRecOn with
  | nil => exact ⟨rfl, [], mirrors_start config sessions maxMessage⟩
  | append_singleton moves move ih =>
    rw [List.filterMap_append] at once
    obtain ⟨before, _, apart⟩ := List.nodup_append.mp once
    obtain ⟨ids, served, mirrors⟩ := ih before
    have new (id : ConnectionId) (connects : move.connects? = some id) :
        id ∉ ((start config sessions maxMessage).run moves).links.map (·.id) := by
      rw [ids]
      exact fun listed => apart id listed id (by simp [connects]) rfl
    obtain ⟨added, later, mirrored⟩ := mirrors.step move new
    rw [run, List.foldl_append]
    refine ⟨?_, served ++ later, ?_⟩
    · show ((run _ moves).step move).links.map (·.id) = _
      rw [added, ids, List.filterMap_append]
      cases connects : move.connects? <;> simp [connects]
    · rw [Service.run, List.foldl_append]
      exact mirrored

end Loopback

end Gateway
