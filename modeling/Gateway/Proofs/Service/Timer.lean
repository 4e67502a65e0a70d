import Gateway.Config.Section
import Gateway.Proofs.Service.Course

namespace Gateway

open WebSocket (Closure)

namespace ServerConfig

theorem product?_eq (isChecked : Bool) (a b : Nat) :
    product? isChecked a b = if isChecked && 2 ^ 64 ≤ a * b then none else some (a * b % 2 ^ 64) := by
  rw [product?, show 1 <<< 64 = 2 ^ 64 by decide]

theorem session?_eq_none_iff (c : ServerConfig) (isChecked : Bool) :
    c.session? isChecked = none ↔ isChecked = true ∧ 2 ^ 64 ≤ c.maxLifetimeMinutes * 60 := by
  unfold session?
  rw [product?_eq]
  by_cases limited : 0 < c.maxLifetimeMinutes
  · by_cases lost : (isChecked && decide (2 ^ 64 ≤ c.maxLifetimeMinutes * 60)) = true
    · simp_all
    · simp_all
  · have none : c.maxLifetimeMinutes = 0 := by omega
    simp [none]

theorem limits_of_session? {c : ServerConfig} {isChecked : Bool} {own : SessionConfig}
    (made : c.session? isChecked = some own) :
    own.idleTimeout = (if 0 < c.idleTimeoutSecs then some (c.idleTimeoutSecs * 1000) else none) ∧
    own.maxLifetime =
      if 0 < c.maxLifetimeMinutes then some (c.maxLifetimeMinutes * 60 % 2 ^ 64 * 1000) else none := by
  unfold session? at made
  rw [product?_eq] at made
  by_cases limited : 0 < c.maxLifetimeMinutes
  · by_cases lost : (isChecked && decide (2 ^ 64 ≤ c.maxLifetimeMinutes * 60)) = true
    · rw [if_pos limited, if_pos lost] at made
      cases made
    · rw [if_pos limited, if_neg lost] at made
      cases made
      exact ⟨rfl, (if_pos limited).symm⟩
  · rw [if_neg limited] at made
    cases made
    exact ⟨rfl, (if_neg limited).symm⟩

theorem deadline_of_session? {c : ServerConfig} {isChecked : Bool} {s : Session}
    (made : c.session? isChecked = some s.config) (running : s.closing = none) :
    (s.deadline = some none ↔ c.idleTimeoutSecs = 0 ∧ c.maxLifetimeMinutes = 0) ∧
    (s.deadline = none ↔
      0 < c.idleTimeoutSecs ∧ Session.lastInstant < s.lastActivity + c.idleTimeoutSecs * 1000 ∨
      0 < c.maxLifetimeMinutes ∧
        Session.lastInstant < s.openedAt + c.maxLifetimeMinutes * 60 % 2 ^ 64 * 1000) := by
  obtain ⟨idle, lifetime⟩ := limits_of_session? made
  have overruns (since unit : Nat) (setting : Nat) :
      Session.Overruns since (if 0 < setting then some unit else none) ↔
        0 < setting ∧ Session.lastInstant < since + unit := by
    unfold Session.Overruns
    split <;> simp_all
  rw [s.deadline_eq_some_none_iff, s.deadline_eq_none_iff, Session.Stuck, running, idle, lifetime]
  dsimp only
  rw [overruns, overruns, or_comm]
  refine ⟨?_, Iff.rfl⟩
  simp only [true_and, ite_eq_right_iff, reduceCtorEq, imp_false, Nat.not_lt, Nat.le_zero]
  exact and_comm

end ServerConfig

namespace SessionTurn

/-- What a turn has to do with the clocks of a session that was opened at `since`, after the turns `before`. -/
structure Timed (own : SessionConfig) (since : Nat) (before : List SessionTurn) (t : SessionTurn) : Prop where
  clocks : t.session.config = own ∧ t.session.openedAt = since ∧ t.session.lastActivity = lastActivity since before
  fires : t.event = .timer → t.session.Due t.now ∧ t.session.Fired t.now t.written t.step
  /-- A ping needs half of the time for silence, and that the client was heard since the last one. -/
  pings : t.pings = true → t.event = .timer ∧ own.sendPings = true ∧
    (∃ limit, own.idleTimeout = some limit ∧ 2 * lastActivity since before + limit ≤ 2 * t.now) ∧
    ∀ earlier ping rest, before = earlier ++ ping :: rest → ping.pings = true → ∃ x ∈ rest, x.hears = true
  /-- A close is asked for by the host, or comes of a limit that has passed. -/
  closes : ∀ closure?, t.step.write = some (.close closure?) →
    (∃ closure, t.event = .outbound (.close closure)) ∨ t.event = .abandoned ∨
    t.event = .timer ∧
      (closure? = some ⟨1001, "max lifetime reached"⟩ ∧ Session.Passed own.maxLifetime since t.now ∨
        closure? = some ⟨1001, "idle timeout"⟩ ∧ Session.Passed own.idleTimeout (lastActivity since before) t.now)
  /-- Data of the host that has gone out puts the idle close off if that is wanted, and only then. -/
  sends : ∀ frame time, t.event = .outbound frame → frame.isClose = false → t.written = some time → ∀ now,
    Session.Passed own.idleTimeout t.step.session.lastActivity now ↔
      Session.Passed own.idleTimeout (if own.resetIdleOnSend then time else t.session.lastActivity) now

variable {own : SessionConfig} {since : Nat} {before after : List SessionTurn} {t : SessionTurn} {last : Session}

theorem silent_of_pings (due : t.Due) (pings : t.pings = true) : t.session.pingSent = false ∧
    t.session.config.sendPings = true ∧ ∃ limit, t.session.config.idleTimeout = some limit ∧
      2 * t.session.lastActivity + limit ≤ 2 * t.now := by
  have fired := fired due (fires_of_pings pings)
  unfold SessionTurn.pings at pings
  generalize t.step = step at *
  cases fired with
  | pings _ _ _ enabled first half => exact ⟨first, enabled, half⟩
  | unanswered | outlived | silent => cases pings

theorem closes_of_write (due : t.Due) {closure? : Option Closure} (write : t.step.write = some (.close closure?)) :
    (∃ closure, t.event = .outbound (.close closure)) ∨ t.event = .abandoned ∨
    t.event = .timer ∧
      (closure? = some ⟨1001, "max lifetime reached"⟩ ∧
          Session.Passed t.session.config.maxLifetime t.session.openedAt t.now ∨
        closure? = some ⟨1001, "idle timeout"⟩ ∧
          Session.Passed t.session.config.idleTimeout t.session.lastActivity t.now) := by
  by_cases timer : t.event = .timer
  · exact .inr (.inr ⟨timer, (fired due timer).closes write⟩)
  have out := t.outcome
  generalize t.step = step at *
  cases out with
  | closes closure noticed =>
    rcases noticed with host | abandoned | ⟨fires, _⟩
    · exact .inl ⟨closure, host⟩
    · exact .inr (.inl abandoned)
    · exact absurd fires timer
  | transmits frame noticed data =>
    cases frame with
    | close => cases data
    | text | binary => cases write
  | echoes message noticed data =>
    cases message with
    | text | binary => cases write
    | _ => cases data
  | pings | hears | rests | ends => cases write

theorem lastActivity_sent {frame : WebSocket.Outbound} {time : Nat} (event : t.event = .outbound frame)
    (data : frame.isClose = false) (written : t.written = some time) : t.step.session.lastActivity =
      if t.session.config.resetIdleOnSend then time else t.session.lastActivity := by
  have used := t.clocks_step.2.2.1
  rw [used, activity?, event, written]
  cases frame with
  | close => cases data
  | text | binary => cases t.session.config.resetIdleOnSend <;> rfl

theorem timed (takes : (Session.start own since).Takes before t.session) (due : t.Due) :
    t.Timed own since before := by
  obtain ⟨config, openedAt, used⟩ := takes.clocks
  refine ⟨⟨config, openedAt, used⟩, fun event => ⟨due event, fired due event⟩, fun pings => ?_,
    fun closure? write => ?_, fun frame time event data written now => ?_⟩
  · obtain ⟨silent, enabled, half⟩ := silent_of_pings due pings
    rw [config] at enabled
    rw [config, used] at half
    exact ⟨fires_of_pings pings, enabled, half, fun _ _ _ split pinged => takes.heard_since silent split pinged⟩
  · have cause := closes_of_write due write
    rwa [config, openedAt, used] at cause
  · rw [lastActivity_sent event data written, config]

end SessionTurn

namespace Watch

open SessionTurn (lastActivity)

/-- A session waits for the earliest of its limits. It waits for nothing just if the connection is not being closed
    and has no limits; and it cannot tell what it waits for just if one of the times that it has to compare does not
    exist. Among the settings of a server that accounts for the two limits, each with its seconds in 64 bits.

    The timer fires just if its time has come. When it does, whatever the state of the session is, the session is
    over, or starts a close, or sends the first ping since the client was heard, and its timer is due later, if the
    time to answer the close ends at all.

    In every run the session of an identifier keeps the configuration that it was started with. Each of its turns is
    `Timed`; in any row of them the timer fires at most three times more often than the client is heard; and it breaks
    off only if it cannot tell what it waits for. -/
theorem timer_runs (config : ServerConfig) (moves : List OpenMove) (u : Uuid) :
    (∀ (s : Session) (e : Engine) (n now : Nat) (written : Option Nat),
      (s.deadline = some none ↔ s.closing = none ∧ s.config.maxLifetime = none ∧ s.config.idleTimeout = none) ∧
      (s.deadline = none ↔ s.Stuck) ∧
      (s.event? e n (.wake now) = some (now, .timer) ↔ s.Due now) ∧
      (s.Due now →
        s.Fired now written (s.step now .timer written) ∧
        ((s.step now .timer written).isOver = true ∨
          s.closing = none ∧ (s.step now .timer written).session.closing = some now ∨
          s.pingSent = false ∧ (s.step now .timer written).session.pingSent = true) ∧
        ((s.step now .timer written).isOver = true ∨
          (∃ time, (s.step now .timer written).session.deadline = some (some time) ∧ now < time) ∨
          (s.step now .timer written).session.deadline = none ∧
            Session.lastInstant < now + Session.closeGrace))) ∧
    (∀ isChecked,
      (config.session? isChecked = none ↔ isChecked = true ∧ 2 ^ 64 ≤ config.maxLifetimeMinutes * 60) ∧
      ∀ s : Session, config.session? isChecked = some s.config → s.closing = none →
        (s.deadline = some none ↔ config.idleTimeoutSecs = 0 ∧ config.maxLifetimeMinutes = 0) ∧
        (s.deadline = none ↔
          0 < config.idleTimeoutSecs ∧ Session.lastInstant < s.lastActivity + config.idleTimeoutSecs * 1000 ∨
          0 < config.maxLifetimeMinutes ∧
            Session.lastInstant < s.openedAt + config.maxLifetimeMinutes * 60 % 2 ^ 64 * 1000)) ∧
    let w := (start config).run u moves
    (w.turns = [] ∧ (∀ n s writing, w.service.task u ≠ .session n s writing) ∧ w.service.task u ≠ .failed ∨
      ∃ own since, starting u own since ∈ moves ∧
        (∀ before t after, w.turns = before ++ t :: after → t.Timed own since before) ∧
        (∀ n s writing, w.service.task u = .session n s writing →
          s.config = own ∧ s.openedAt = since ∧ s.lastActivity = lastActivity since w.turns) ∧
        (w.service.task u = .failed → ∃ s : Session,
          s.config = own ∧ s.openedAt = since ∧ s.lastActivity = lastActivity since w.turns ∧ s.deadline = none)) ∧
    ∀ before window after, w.turns = before ++ (window ++ after) →
      window.countP (·.fires) ≤ window.countP (·.hears) + 3 := by
  refine ⟨fun s e n now written => ⟨s.deadline_eq_some_none_iff, s.deadline_eq_none_iff, s.wakes_iff e n now,
    fun due => ?_⟩, fun isChecked => ⟨config.session?_eq_none_iff isChecked, fun s made running =>
      ServerConfig.deadline_of_session? made running⟩, ?_⟩
  · have fired := Session.fired due written
    exact ⟨fired, fired.progress, fired.later due.free⟩
  intro w
  have traced : w.Traced u moves := traced_run config moves u
  cases traced with
  | idle none idle whole =>
    refine ⟨.inl ⟨none, idle, whole⟩, fun before window after split => ?_⟩
    rw [none, eq_comm, List.append_eq_nil_iff, List.append_eq_nil_iff] at split
    rw [split.2.1]
    exact Nat.zero_le _
  | @served own since last course ends running broken =>
    refine ⟨.inr ⟨own, since, course.started, fun before t after split => ?_, fun n s writing task => ?_,
      fun failed => ?_⟩, fun before window after split => ?_⟩
    · have takes := split ▸ course.takes
      have due := course.due t (by simp [split])
      exact SessionTurn.timed takes.split due
    · obtain ⟨rfl, _⟩ := running n s writing task
      exact course.takes.clocks
    · obtain ⟨config, openedAt, used⟩ := course.takes.clocks
      exact ⟨last, config, openedAt, used, last.deadline_eq_none_iff.mpr (broken failed)⟩
    · have takes := split ▸ course.takes
      exact takes.never_spins (split ▸ course.due) (split ▸ ends)

/-- Settings that pass their check, and a session under them that waits for no time although its connection may not
    be silent for ever. -/
theorem no_deadline_with_limit :
    let settings : Config := { server := { idleTimeoutSecs := 2 ^ 63 } }
    let own : SessionConfig := { idleTimeout := some (2 ^ 63 * 1000) }
    settings.validate = .ok () ∧
    (settings.serverConfig.map (·.session? true)).toOption = some (some own) ∧
    (Session.start own 0).deadline = none ∧
    ¬∀ s : Session, s.deadline.join = none ↔
      s.closing = none ∧ s.config.maxLifetime = none ∧ s.config.idleTimeout = none := by
  intro settings own
  have lost : (Session.start own 0).deadline = none := by decide
  refine ⟨by decide, by decide, lost, fun all => ?_⟩
  have unlimited := ((all (.start own 0)).mp (by rw [lost]; rfl)).2.2
  cases unlimited

def silence : List OpenMove :=
  [.move (.session caller (.start { idleTimeout := some 10 } 0)),
    .move (.session caller (.wake 5)), .move (.session caller (.written (some 5))),
    .move (.session caller (.read 6 (.pong []))),
    .move (.session caller (.wake 11)), .move (.session caller (.written (some 11))),
    .move (.session caller (.wake 16)), .move (.session caller (.written (some 16)))]

theorem timer_runs_silence :
    let s : Session := .start { idleTimeout := some 10 } 0
    let answered : Session := { s with lastActivity := 6 }
    let w := (start {}).run caller silence
    let first : SessionTurn := ⟨s, 5, .timer, some 5⟩
    let answer : SessionTurn := ⟨{ s with pingSent := true }, 6, .frame (.pong []), some 6⟩
    let second : SessionTurn := ⟨answered, 11, .timer, some 11⟩
    let last : SessionTurn := ⟨{ answered with pingSent := true }, 16, .timer, some 16⟩
    w.turns = [first, answer, second, last] ∧ s.Fired 5 (some 5) first.step ∧
    (second.pings = true ∧ ∃ x ∈ [answer], x.hears = true) ∧
    (last.closes = true ∧ Session.Passed (some 10) 6 last.now) ∧
    w.turns.countP (·.fires) ≤ w.turns.countP (·.hears) + 3 := by
  intro s answered w first answer second last
  have turns : w.turns = [first, answer, second, last] := by decide
  obtain ⟨fires, _, runs, spins⟩ := timer_runs {} silence caller
  have due : s.Due 5 := ⟨5, by decide, by decide⟩
  have fired := ((fires s (.start {}) 0 5 (some 5)).2.2.2 due).1
  rcases runs with ⟨none, _⟩ | ⟨own, since, started, timed, _⟩
  · cases turns.symm.trans none
  have begun : own = { idleTimeout := some 10 } ∧ since = 0 := by
    simpa [starting, silence] using started
  obtain ⟨rfl, rfl⟩ := begun
  have pinged := (timed [first, answer] second [last] turns).pings rfl
  have heard := pinged.2.2.2 [] first [answer] rfl rfl
  have closed := (timed [first, answer, second] last [] turns).closes (some ⟨1001, "idle timeout"⟩) rfl
  have passed : Session.Passed (some 10) 6 last.now := by
    rcases closed with ⟨_, host⟩ | abandoned | ⟨_, ⟨other, _⟩ | ⟨_, passed⟩⟩
    · cases host
    · cases abandoned
    · exact absurd other (by decide)
    · exact passed
  exact ⟨turns, fired, ⟨rfl, heard⟩, ⟨rfl, passed⟩, spins [] w.turns [] (List.append_nil _).symm⟩

end Watch

end Gateway
