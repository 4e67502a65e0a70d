import Gateway.Proofs.Connection.Turns

namespace Gateway

open WebSocket (Closure Message Outbound)

namespace Session

theorem foldl_min_le_iff (times : List Nat) (first now : Nat) :
    times.foldl min first ≤ now ↔ first ≤ now ∨ ∃ time ∈ times, time ≤ now := by
  induction times generalizing first with
  | nil => simp
  | cons time rest ih =>
    have least : min first time ≤ now ↔ first ≤ now ∨ time ≤ now := by omega
    rw [List.foldl_cons, ih, least]
    simp [or_assoc]

theorem earliest_eq_none_iff (times : List (Option Nat)) : earliest times = none ↔ ∀ time ∈ times, time = none := by
  have empty : earliest times = none ↔ times.filterMap id = [] := by
    unfold earliest
    cases times.filterMap id <;> simp
  rw [empty, List.filterMap_eq_nil_iff]
  rfl

theorem earliest_le_iff (times : List (Option Nat)) (now : Nat) :
    (∃ time, earliest times = some time ∧ time ≤ now) ↔ ∃ time, some time ∈ times ∧ time ≤ now := by
  have listed (time : Nat) : some time ∈ times ↔ time ∈ times.filterMap id := by simp
  simp only [listed]
  unfold earliest
  cases times.filterMap id with
  | nil => simp
  | cons first rest =>
    have earliest := foldl_min_le_iff rest first now
    simpa using earliest

def Overruns (since : Nat) (limit : Option Nat) : Prop := ∃ length, limit = some length ∧ lastInstant < since + length

theorem reached?_eq_some {since : Nat} {limit : Option Nat} (within : ¬Overruns since limit) :
    reached? since limit = some (limit.map (since + ·)) := by
  cases limit with
  | none => rfl
  | some length => exact if_pos (Nat.le_of_not_lt fun beyond => within ⟨length, rfl, beyond⟩)

theorem reached?_eq_none_iff (since : Nat) (limit : Option Nat) : reached? since limit = none ↔ Overruns since limit := by
  refine ⟨fun failed => ?_, ?_⟩
  · by_contra within
    cases failed.symm.trans (reached?_eq_some within)
  · rintro ⟨length, rfl, beyond⟩
    exact if_neg (Nat.not_le_of_lt beyond)

/-- A session that cannot tell when it acts next: a time that it has to compare does not exist. -/
def Stuck (s : Session) : Prop :=
  match s.closing with
  | some since => lastInstant < since + closeGrace
  | none => Overruns s.openedAt s.config.maxLifetime ∨ Overruns s.lastActivity s.config.idleTimeout

theorem not_overruns_pingLimit {s : Session} (within : ¬Overruns s.lastActivity s.config.idleTimeout) :
    ¬Overruns s.lastActivity s.pingLimit := by
  rintro ⟨half, set, beyond⟩
  unfold pingLimit at set
  split at set
  · obtain ⟨limit, idle, rfl⟩ := Option.map_eq_some_iff.mp set
    exact within ⟨limit, idle, by omega⟩
  · cases set

/-- While the connection is not being closed, the deadline is the earliest of up to three times. -/
theorem deadline_running {s : Session} (running : s.closing = none) (free : ¬s.Stuck) :
    s.deadline = some (earliest [s.config.maxLifetime.map (s.openedAt + ·), s.config.idleTimeout.map (s.lastActivity + ·),
      s.pingLimit.map (s.lastActivity + ·)]) := by
  unfold Stuck at free
  rw [running, not_or] at free
  obtain ⟨lifetime, idle⟩ := free
  simp only [deadline, running, reached?_eq_some lifetime, reached?_eq_some idle,
    reached?_eq_some (not_overruns_pingLimit idle), Option.bind_eq_bind, Option.bind_some, Option.pure_def]

theorem deadline_closing {s : Session} {since : Nat} (closing : s.closing = some since) :
    s.deadline = reached? since (some closeGrace) := by
  rw [deadline, closing]

theorem deadline_eq_none_iff (s : Session) : s.deadline = none ↔ s.Stuck := by
  cases closing : s.closing with
  | some since =>
    rw [deadline_closing closing, reached?_eq_none_iff, Stuck, closing]
    exact ⟨fun ⟨_, same, beyond⟩ => Option.some.inj same ▸ beyond, fun beyond => ⟨_, rfl, beyond⟩⟩
  | none =>
    refine ⟨fun failed => ?_, fun stuck => ?_⟩
    · by_contra free
      cases failed.symm.trans (deadline_running closing free)
    · unfold Stuck at stuck
      rw [closing] at stuck
      simp only [deadline, closing, Option.bind_eq_bind]
      rcases stuck with lifetime | idle
      · rw [(reached?_eq_none_iff _ _).mpr lifetime]
        rfl
      · rw [(reached?_eq_none_iff _ _).mpr idle]
        exact Option.bind_fun_none _

/-- There is nothing to wait for just if the connection is not being closed and has no limit. -/
theorem deadline_eq_some_none_iff (s : Session) :
    s.deadline = some none ↔ s.closing = none ∧ s.config.maxLifetime = none ∧ s.config.idleTimeout = none := by
  cases closing : s.closing with
  | some since =>
    rw [deadline_closing closing, reached?]
    split <;> simp
  | none =>
    have noPing : s.config.idleTimeout = none → s.pingLimit = none := by
      intro unlimited
      simp [pingLimit, unlimited]
    by_cases stuck : s.Stuck
    · rw [(deadline_eq_none_iff s).mpr stuck]
      unfold Stuck at stuck
      rw [closing] at stuck
      rcases stuck with ⟨length, set, _⟩ | ⟨length, set, _⟩ <;> simp [set]
    · rw [deadline_running closing stuck, Option.some_inj, earliest_eq_none_iff]
      simp only [List.forall_mem_cons, List.not_mem_nil, Option.map_eq_none_iff, false_imp_iff, implies_true, true_and,
        and_true]
      exact ⟨fun ⟨lifetime, idle, _⟩ => ⟨lifetime, idle⟩, fun ⟨lifetime, idle⟩ => ⟨lifetime, idle, noPing idle⟩⟩

def Due (s : Session) (now : Nat) : Prop := ∃ time, s.deadline = some (some time) ∧ time ≤ now

theorem Due.free {s : Session} {now : Nat} (due : s.Due now) : ¬s.Stuck := by
  obtain ⟨time, deadline, _⟩ := due
  rw [← deadline_eq_none_iff, deadline]
  exact Option.some_ne_none _

def Passed (limit : Option Nat) (since now : Nat) : Prop := ∃ length, limit = some length ∧ since + length ≤ now

theorem expired_iff (limit : Option Nat) (since now : Nat) : expired limit since now = true ↔ Passed limit since now := by
  cases limit <;> simp [expired, Passed]

/-- While the connection is not being closed, the timer is due when a limit has passed or a ping is due. -/
theorem due_running {s : Session} (running : s.closing = none) (now : Nat) :
    s.Due now ↔ ¬s.Stuck ∧ (Passed s.config.maxLifetime s.openedAt now ∨ Passed s.config.idleTimeout s.lastActivity now ∨
      Passed s.pingLimit s.lastActivity now) := by
  by_cases stuck : s.Stuck
  · exact ⟨fun due => absurd stuck due.free, fun ⟨free, _⟩ => absurd stuck free⟩
  have passed (limit : Option Nat) (since : Nat) :
      Passed limit since now ↔ ∃ time, some time = limit.map (since + ·) ∧ time ≤ now := by
    cases limit <;> simp [Passed]
  rw [Due, deadline_running running stuck]
  simp only [Option.some_inj]
  rw [earliest_le_iff, passed, passed, passed]
  simp only [List.mem_cons, List.not_mem_nil, or_false, or_and_right, exists_or, stuck, not_false_iff, true_and]

theorem ping_due {s : Session} {now : Nat} (passed : Passed s.pingLimit s.lastActivity now) :
    s.config.sendPings = true ∧ s.pingSent = false ∧
      ∃ limit, s.config.idleTimeout = some limit ∧ 2 * s.lastActivity + limit ≤ 2 * now := by
  obtain ⟨half, due, reached⟩ := passed
  unfold pingLimit at due
  split at due
  · rename_i allowed
    obtain ⟨enabled, first⟩ : s.config.sendPings = true ∧ s.pingSent = false := by simpa using allowed
    obtain ⟨limit, set, rfl⟩ := Option.map_eq_some_iff.mp due
    exact ⟨enabled, first, limit, set, by omega⟩
  · cases due

/-- What a session does when its timer fires. -/
inductive Fired (s : Session) (now : Nat) (written : Option Nat) : SessionStep → Prop where
  | unanswered (closing : s.closing.isSome = true) : Fired s now written ⟨s, true, none, none, 0⟩
  | outlived (running : s.closing = none) (passed : Passed s.config.maxLifetime s.openedAt now) :
      Fired s now written ⟨{ s with closing := some now }.settle (some ⟨1001, "max lifetime reached"⟩), written.isNone,
        some (.close (some ⟨1001, "max lifetime reached"⟩)), none, 0⟩
  | silent (running : s.closing = none) (lives : ¬Passed s.config.maxLifetime s.openedAt now)
      (passed : Passed s.config.idleTimeout s.lastActivity now) :
      Fired s now written ⟨{ s with closing := some now }.settle (some ⟨1001, "idle timeout"⟩), written.isNone,
        some (.close (some ⟨1001, "idle timeout"⟩)), none, 0⟩
  /-- Nothing has passed yet, so it is half of the time for silence that is over. -/
  | pings (running : s.closing = none) (lives : ¬Passed s.config.maxLifetime s.openedAt now)
      (heard : ¬Passed s.config.idleTimeout s.lastActivity now) (enabled : s.config.sendPings = true)
      (first : s.pingSent = false)
      (half : ∃ limit, s.config.idleTimeout = some limit ∧ 2 * s.lastActivity + limit ≤ 2 * now) :
      Fired s now written ⟨{ s with pingSent := true }, written.isNone, some (.ping []), none, 0⟩

theorem fired {s : Session} {now : Nat} (due : s.Due now) (written : Option Nat) :
    s.Fired now written (s.step now .timer written) := by
  show s.Fired now written (s.wake now written)
  unfold wake
  by_cases closing : s.closing.isSome = true
  · rw [if_pos closing]
    exact .unanswered closing
  have running : s.closing = none := Option.not_isSome_iff_eq_none.mp closing
  rw [if_neg closing]
  by_cases outlived : Passed s.config.maxLifetime s.openedAt now
  · rw [if_pos ((expired_iff _ _ _).mpr outlived)]
    exact .outlived running outlived
  rw [if_neg (mt (expired_iff _ _ _).mp outlived)]
  by_cases silent : Passed s.config.idleTimeout s.lastActivity now
  · rw [if_pos ((expired_iff _ _ _).mpr silent)]
    exact .silent running outlived silent
  rw [if_neg (mt (expired_iff _ _ _).mp silent)]
  -- none of the limits has passed, so the time that has come is that of the ping
  obtain ⟨enabled, first, half⟩ := ping_due ((((due_running running now).mp due).2.resolve_left outlived).resolve_left silent)
  rw [if_neg (by simp [first])]
  exact .pings running outlived silent enabled first half

namespace Fired

variable {s : Session} {now : Nat} {written : Option Nat} {step : SessionStep}

theorem progress (fired : s.Fired now written step) : step.isOver = true ∨
    s.closing = none ∧ step.session.closing = some now ∨ s.pingSent = false ∧ step.session.pingSent = true := by
  cases fired with
  | unanswered => exact .inl rfl
  | outlived running => exact .inr (.inl ⟨running, s.startClose_closing now _ written⟩)
  | silent running => exact .inr (.inl ⟨running, s.startClose_closing now _ written⟩)
  | pings running lives heard enabled first => exact .inr (.inr ⟨first, rfl⟩)

theorem deadline_startClose (closure : Closure) :
    (∃ time, (s.startClose now closure written).session.deadline = some (some time) ∧ now < time) ∨
      (s.startClose now closure written).session.deadline = none ∧ lastInstant < now + closeGrace := by
  rw [deadline_closing (s.startClose_closing now closure written), reached?]
  split
  · exact .inl ⟨_, rfl, by unfold closeGrace; omega⟩
  · exact .inr ⟨rfl, by omega⟩

theorem later (fired : s.Fired now written step) (free : ¬s.Stuck) : step.isOver = true ∨
    (∃ time, step.session.deadline = some (some time) ∧ now < time) ∨
    step.session.deadline = none ∧ lastInstant < now + closeGrace := by
  cases fired with
  | unanswered => exact .inl rfl
  | outlived => exact .inr (deadline_startClose _)
  | silent => exact .inr (deadline_startClose _)
  | pings running lives heard enabled first half =>
    refine .inr (.inl ?_)
    let pinged : Session := { s with pingSent := true }
    have next : ¬pinged.Due now := by
      rw [due_running (s := pinged) running]
      rintro ⟨_, outlived | silent | ping⟩
      · exact lives outlived
      · exact heard silent
      · cases (ping_due ping).2.1
    obtain ⟨limit, set, _⟩ := half
    have same : ¬pinged.Stuck := free
    cases deadline : pinged.deadline with
    | none => exact absurd ((deadline_eq_none_iff pinged).mp deadline) same
    | some time? =>
      cases time? with
      | none =>
        have unlimited := ((deadline_eq_some_none_iff pinged).mp deadline).2.2
        cases set.symm.trans unlimited
      | some time => exact ⟨time, rfl, Nat.lt_of_not_le fun reached => next ⟨time, deadline, reached⟩⟩

theorem closes (fired : s.Fired now written step) {closure? : Option Closure} (write : step.write = some (.close closure?)) :
    closure? = some ⟨1001, "max lifetime reached"⟩ ∧ Passed s.config.maxLifetime s.openedAt now ∨
    closure? = some ⟨1001, "idle timeout"⟩ ∧ Passed s.config.idleTimeout s.lastActivity now := by
  cases fired with
  | unanswered | pings => cases write
  | outlived _ passed =>
    cases write
    exact .inl ⟨rfl, passed⟩
  | silent _ _ passed =>
    cases write
    exact .inr ⟨rfl, passed⟩

end Fired

end Session

/-! The clocks of a session along its turns. -/

namespace SessionTurn

def Due (t : SessionTurn) : Prop := t.event = .timer → t.session.Due t.now

def hears (t : SessionTurn) : Bool :=
  match t.event with
  | .frame _ => true
  | .readEnd | .outbound _ | .abandoned | .timer => false

def fires (t : SessionTurn) : Bool := t.event == .timer

/-- When the connection was used, as far as the turn tells: data of the host counts when it has gone out, and only
    if that is wanted. -/
def activity? (t : SessionTurn) : Option Nat :=
  match t.event with
  | .frame _ => some t.now
  | .outbound (.text _) | .outbound (.binary _) => if t.session.config.resetIdleOnSend then t.written else none
  | .outbound (.close _) | .readEnd | .abandoned | .timer => none

def lastActivity (since : Nat) (turns : List SessionTurn) : Nat := ((turns.filterMap activity?).getLast?).getD since

theorem lastActivity_concat (since : Nat) (turns : List SessionTurn) (t : SessionTurn) :
    lastActivity since (turns ++ [t]) = t.activity?.getD (lastActivity since turns) := by
  unfold lastActivity
  cases used : t.activity? <;> simp [used]

theorem settle_clocks (s : Session) (cause : Option Closure) : (s.settle cause).config = s.config ∧
    (s.settle cause).openedAt = s.openedAt ∧ (s.settle cause).lastActivity = s.lastActivity ∧
    (s.settle cause).pingSent = s.pingSent := by
  unfold Session.settle
  split <;> exact ⟨rfl, rfl, rfl, rfl⟩

theorem clocks_step (t : SessionTurn) : t.step.session.config = t.session.config ∧
    t.step.session.openedAt = t.session.openedAt ∧
    t.step.session.lastActivity = t.activity?.getD t.session.lastActivity ∧
    t.step.session.pingSent = if t.hears then false else t.session.pingSent || t.pings := by
  obtain ⟨session, now, event, written⟩ := t
  have closes (closure : Closure) :
      (session.startClose now closure written).session.config = session.config ∧
      (session.startClose now closure written).session.openedAt = session.openedAt ∧
      (session.startClose now closure written).session.lastActivity = session.lastActivity ∧
      (session.startClose now closure written).session.pingSent = (session.pingSent || false) := by
    rw [Bool.or_false]
    exact settle_clocks { session with closing := some now } (some closure)
  cases event with
  | frame message =>
    cases message with
    | text data | binary data =>
      simp only [step, Session.step, Session.receive, activity?, hears, Option.getD_some, if_true]
      split <;> exact ⟨rfl, rfl, rfl, rfl⟩
    | close closure? => exact settle_clocks { session with lastActivity := now, pingSent := false } closure?
    | ping | pong => exact ⟨rfl, rfl, rfl, rfl⟩
  | readEnd => exact ⟨rfl, rfl, rfl, (Bool.or_false _).symm⟩
  | outbound frame =>
    cases frame with
    | close closure => exact closes closure
    | text data | binary data =>
      refine ⟨rfl, rfl, ?_, (Bool.or_false _).symm⟩
      show (if session.config.resetIdleOnSend then written.getD session.lastActivity else session.lastActivity) =
        (if session.config.resetIdleOnSend then written else none).getD session.lastActivity
      split <;> rfl
  | abandoned => exact closes _
  | timer =>
    simp only [step, Session.step, Session.wake, activity?, hears, pings, Option.getD_none, Bool.false_eq_true,
      if_false]
    split_ifs with _ _ _ sent
    · exact ⟨rfl, rfl, rfl, (Bool.or_false _).symm⟩
    · exact closes _
    · exact closes _
    · exact ⟨rfl, rfl, rfl, (Bool.or_false _).symm⟩
    · exact ⟨rfl, rfl, rfl, (Bool.or_true _).symm⟩

theorem fires_of_pings {t : SessionTurn} (pings : t.pings = true) : t.event = .timer := by
  have out := t.outcome
  unfold SessionTurn.pings at pings
  generalize t.step = step at *
  cases out with
  | pings noticed => exact noticed
  | echoes message noticed data =>
    cases message with
    | text | binary => cases pings
    | _ => cases data
  | transmits frame => cases frame <;> cases pings
  | closes | hears | rests | ends => cases pings

theorem not_pings_of_hears {t : SessionTurn} (hears : t.hears = true) : t.pings = false := by
  rw [← Bool.not_eq_true]
  intro pings
  rw [SessionTurn.hears, fires_of_pings pings] at hears
  cases hears

theorem fired {t : SessionTurn} (due : t.Due) (event : t.event = .timer) :
    t.session.Fired t.now t.written t.step := by
  have fired := Session.fired (due event) t.written
  rw [← event] at fired
  exact fired

/-- A firing uses up one of three things: a ping that was not sent, a close that was not started, the session. -/
theorem firing_step {t : SessionTurn} (due : t.Due) :
    t.fires.toNat + t.session.pingSent.toNat + t.session.closing.isSome.toNat ≤
      t.hears.toNat + t.step.session.pingSent.toNat + t.step.session.closing.isSome.toNat + t.step.isOver.toNat := by
  have stays (a b : Bool) : a.toNat ≤ (a || b).toNat := by cases a <;> cases b <;> decide
  have pinged : t.session.pingSent.toNat ≤ t.hears.toNat + t.step.session.pingSent.toNat := by
    rw [t.clocks_step.2.2.2]
    cases t.hears with
    | false => simpa using stays t.session.pingSent t.pings
    | true => exact Nat.le_add_right_of_le (Bool.toNat_le _)
  have closing : t.session.closing.isSome.toNat ≤ t.step.session.closing.isSome.toNat := by
    rw [t.closing_step]
    exact stays _ _
  cases fires : t.fires with
  | false =>
    rw [Bool.toNat_false]
    omega
  | true =>
    have event : t.event = .timer := beq_iff_eq.mp fires
    have deaf : t.hears = false := by rw [hears, event]
    rw [deaf, Bool.toNat_false] at pinged ⊢
    rw [Bool.toNat_true]
    rcases (fired due event).progress with finished | ⟨running, closes⟩ | ⟨silent, pings⟩
    · rw [finished, Bool.toNat_true]
      omega
    · rw [running, closes, Option.isSome_none, Option.isSome_some, Bool.toNat_false, Bool.toNat_true]
      omega
    · rw [silent, pings, Bool.toNat_false, Bool.toNat_true]
      omega

end SessionTurn

namespace Session

variable {first s : Session} {own : SessionConfig} {since : Nat} {turns before after : List SessionTurn}
  {t : SessionTurn}

theorem Takes.halves (takes : first.Takes (before ++ after) s) :
    ∃ middle, first.Takes before middle ∧ middle.Takes after s := by
  generalize all : before ++ after = turns at takes
  induction takes generalizing after with
  | nil =>
    obtain ⟨rfl, rfl⟩ := List.append_eq_nil_iff.mp all
    exact ⟨first, .nil, .nil⟩
  | @snoc turns last prior isOpen ih =>
    rcases List.eq_nil_or_concat after with rfl | ⟨rest, x, rfl⟩
    · rw [List.append_nil] at all
      rw [all]
      exact ⟨_, .snoc prior isOpen, .nil⟩
    · rw [List.concat_eq_append, ← List.append_assoc] at all
      obtain ⟨same, equal⟩ := List.append_inj' all rfl
      cases equal
      obtain ⟨middle, left, right⟩ := ih same
      rw [List.concat_eq_append]
      exact ⟨middle, left, .snoc right isOpen⟩

theorem Takes.prior (takes : first.Takes (before ++ [t]) s) : first.Takes before t.session := by
  generalize all : before ++ [t] = turns at takes
  cases takes with
  | nil => simp at all
  | snoc prior =>
    obtain ⟨rfl, same⟩ := List.append_inj' all rfl
    cases same
    exact prior

theorem Takes.split (takes : first.Takes (before ++ t :: after) s) : first.Takes before t.session := by
  rw [List.append_cons] at takes
  obtain ⟨_, here, _⟩ := takes.halves
  exact here.prior

theorem Takes.clocks (takes : (start own since).Takes turns s) :
    s.config = own ∧ s.openedAt = since ∧ s.lastActivity = SessionTurn.lastActivity since turns := by
  induction takes with
  | nil => exact ⟨rfl, rfl, rfl⟩
  | @snoc turns t _ _ ih =>
    obtain ⟨config, openedAt, used⟩ := ih
    obtain ⟨sameConfig, sameOpenedAt, usedThen, _⟩ := t.clocks_step
    rw [SessionTurn.lastActivity_concat, ← used]
    exact ⟨sameConfig.trans config, sameOpenedAt.trans openedAt, usedThen⟩

theorem Takes.heard_since (takes : (start own since).Takes turns s) (silent : s.pingSent = false)
    (split : turns = before ++ t :: after) (pinged : t.pings = true) : ∃ x ∈ after, x.hears = true := by
  induction takes generalizing after with
  | nil => simp at split
  | @snoc turns last _ _ ih =>
    have sent := last.clocks_step.2.2.2
    rw [silent] at sent
    rcases List.eq_nil_or_concat after with rfl | ⟨rest, x, rfl⟩
    · obtain ⟨_, same⟩ := List.append_inj' split rfl
      cases same
      have deaf : t.hears = false := by
        cases hears : t.hears with
        | false => rfl
        | true => cases pinged.symm.trans (SessionTurn.not_pings_of_hears hears)
      simp [deaf, pinged] at sent
    · have same : turns ++ [last] = before ++ t :: rest ++ [x] := by simpa using split
      obtain ⟨rfl, equal⟩ := List.append_inj' same rfl
      cases equal
      cases hears : last.hears with
      | true => exact ⟨last, by simp, hears⟩
      | false =>
        have silentThen : last.session.pingSent = false := by
          rw [hears, if_neg Bool.false_ne_true, eq_comm, Bool.or_eq_false_iff] at sent
          exact sent.1
        obtain ⟨x, within, heard⟩ := ih silentThen rfl
        exact ⟨x, by simp [within], heard⟩

/-- How often the timer fires: each time the client is pinged anew, a close is started or the session ends. -/
theorem Takes.firings (takes : first.Takes turns s) (due : ∀ t ∈ turns, t.Due) :
    turns.countP (·.fires) + first.pingSent.toNat + first.closing.isSome.toNat ≤
      turns.countP (·.hears) + s.pingSent.toNat + s.closing.isSome.toNat + turns.countP (·.step.isOver) := by
  induction takes with
  | nil => simp
  | @snoc turns t prior _ ih =>
    obtain ⟨earlier, last⟩ := List.forall_mem_append.mp due
    have before := ih earlier
    have step := SessionTurn.firing_step (last t List.mem_cons_self)
    have one (p : SessionTurn → Bool) : [t].countP p = (p t).toNat := by
      cases holds : p t <;> simp [holds]
    simp only [List.countP_append, one]
    omega

/-- So in any row of turns it fires at most three times more often than the client is heard in them. -/
theorem Takes.never_spins {window : List SessionTurn} (takes : first.Takes (before ++ (window ++ after)) s)
    (due : ∀ t ∈ before ++ (window ++ after), t.Due)
    (ends : (before ++ (window ++ after)).countP (·.step.isOver) ≤ 1) :
    window.countP (·.fires) ≤ window.countP (·.hears) + 3 := by
  obtain ⟨opened, _, later⟩ := takes.halves
  obtain ⟨middle, here, _⟩ := later.halves
  have firings := here.firings fun t within => due t (by simp [within])
  have pinged := Bool.toNat_le middle.pingSent
  have closing := Bool.toNat_le middle.closing.isSome
  simp only [List.countP_append] at ends
  omega

end Session

end Gateway
