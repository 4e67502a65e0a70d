import Gateway.Proofs.Server.Waiting
import Mathlib.Logic.Function.Iterate

namespace Gateway

namespace ShutdownSignal

def mark (s : ShutdownSignal) : ShutdownSignal := { s with isGiven := true }

/-- The second step of the trigger that set the flag: all waiters are called. -/
def callAll (s : ShutdownSignal) : ShutdownSignal := { s with calls := s.calls + 1 }

theorem trigger_eq (s : ShutdownSignal) : s.trigger = if s.isGiven then s else s.mark.callAll := rfl

inductive Change where
  | trigger
  | clone
  deriving DecidableEq

def change (s : ShutdownSignal) : Change → ShutdownSignal
  | .trigger => s.trigger
  | .clone => s

def awaited : Awaited ShutdownSignal Change where
  start := .start
  step := change
  calls := calls
  isThere := isGiven
  calls_step s m := by
    cases m with
    | trigger =>
      rw [change, trigger_eq]
      cases s.isGiven
      · exact Nat.le_succ _
      · exact Nat.le_refl _
    | clone => exact Nat.le_refl _
  called s m absent there := by
    cases m with
    | trigger =>
      rw [change, trigger_eq, absent]
      exact Nat.lt_succ_self _
    | clone => exact absurd (absent.symm.trans there) (by decide)

theorem foldl_change (changes : List Change) :
    changes.foldl change start = if .trigger ∈ changes then start.mark.callAll else start := by
  induction changes using List.reverseRecOn with
  | nil => rfl
  | append_singleton changes c ih =>
    rw [List.foldl_append, ih]
    cases c with
    | trigger =>
      rw [if_pos (List.mem_append_right _ (List.mem_singleton_self _))]
      split <;> rfl
    | clone => simp [change]

theorem source_run (moves : List (WaitMove Change)) : (awaited.run moves).source =
    if .change .trigger ∈ moves then start.mark.callAll else start := by
  have triggered : Change.trigger ∈ moves.filterMap WaitMove.change? ↔ .change .trigger ∈ moves := by
    rw [List.mem_filterMap]
    constructor
    · rintro ⟨m, within, named⟩
      cases m <;> cases named
      exact within
    · exact fun within => ⟨_, within, rfl⟩
  rw [Awaited.source_run, ← if_congr triggered rfl rfl]
  exact foldl_change _

/-- Every wait for the signal is over at its first poll after a trigger, and at none before. One that is pending at
    the first trigger is woken by it. -/
theorem waits_run {moves : List (WaitMove Change)} {key : Nat} {w : Wait}
    (kept : (awaited.run moves).waits key = some w) :
    (w.isOver = false → ((awaited.run moves).source.poll w).1 =
      if .change .trigger ∈ moves then .ready else .pending) ∧
    (w.IsPending → .change .trigger ∉ moves → w.isWoken (awaited.run moves).source.calls = false ∧
      w.isWoken (awaited.run moves).source.trigger.calls = true) := by
  have sound : w.Sound _ _ := Awaited.sound_run moves key w kept
  constructor
  · intro waiting
    refine (sound.poll_eq waiting).trans ?_
    rw [source_run]
    by_cases given : .change .trigger ∈ moves
    · rw [if_pos given, if_pos given]
      rfl
    · rw [if_neg given, if_neg given]
      rfl
  · intro pending before
    -- the wait stays as it is while the trigger is made, so it is sound after it too
    have after : w.Sound _ _ := Awaited.sound_run (moves ++ [.change .trigger]) key w (by
      rw [Awaited.run_concat]
      exact kept)
    rw [source_run, if_neg before]
    refine ⟨Wait.isWoken_zero, ?_⟩
    rw [source_run, if_pos (by simp)] at after
    exact after.isWoken pending

end ShutdownSignal

namespace ConnectionTracker

structure Held where
  tracker : ConnectionTracker
  given : Nat
  tokens : List Nat

inductive Change where
  | acquire
  | letGo (token : Nat)
  deriving DecidableEq

def Held.start : Held := ⟨.start, 0, []⟩

/-- Every token is another one, and only one that is held can be let go of. -/
def Held.change (h : Held) : Change → Held
  | .acquire => ⟨h.tracker.acquire, h.given + 1, h.given :: h.tokens⟩
  | .letGo token =>
    if token ∈ h.tokens then { h with tracker := h.tracker.release, tokens := h.tokens.erase token } else h

def awaited : Awaited Held Change where
  start := .start
  step := Held.change
  calls h := h.tracker.calls
  isThere h := h.tracker.active = 0
  calls_step h m := by
    cases m with
    | acquire => exact Nat.le_refl _
    | letGo token =>
      rw [Held.change]
      split
      · simp only [release]
        split
        · exact Nat.le_succ _
        · exact Nat.le_refl _
      · exact Nat.le_refl _
  called h m absent there := by
    simp only [decide_eq_false_iff_not, decide_eq_true_eq] at absent there
    cases m with
    | acquire => exact absurd there (Nat.succ_ne_zero _)
    | letGo token =>
      rw [Held.change] at there ⊢
      split at there
      · rename_i held
        simp only [release] at there
        rw [if_pos held]
        simp only [release, if_pos (show h.tracker.active = 1 by omega)]
        exact Nat.lt_succ_self _
      · exact absurd there absent

theorem active_run (moves : List (WaitMove Change)) :
    (awaited.run moves).source.tracker.active = (awaited.run moves).source.tokens.length := by
  rw [Awaited.source_run]
  generalize moves.filterMap WaitMove.change? = changes
  induction changes using List.reverseRecOn with
  | nil => rfl
  | append_singleton changes m ih =>
    rw [List.foldl_append]
    generalize List.foldl awaited.step awaited.start changes = h at ih
    change (h.change m).tracker.active = (h.change m).tokens.length
    cases m with
    | acquire => exact congrArg (· + 1) ih
    | letGo token =>
      rw [Held.change]
      split
      · rename_i held
        simp only [release, List.length_erase_of_mem held, ih]
      · exact ih

theorem active_letGo {moves : List (WaitMove Change)} {token : Nat}
    (held : token ∈ (awaited.run moves).source.tokens) :
    ((awaited.run moves).source.change (.letGo token)).tracker.active + 1 =
      (awaited.run moves).source.tracker.active := by
  have some := List.length_pos_of_mem held
  rw [← active_run moves] at some
  rw [Held.change, if_pos held]
  exact Nat.sub_add_cancel some

/-- Every wait for the last connection to end is over at a poll exactly if no token is held then. One that is
    pending when the last token is let go of has been called since its last poll. -/
theorem waits_run {moves : List (WaitMove Change)} {key : Nat} {w : Wait}
    (kept : (awaited.run moves).waits key = some w) :
    (w.isOver = false → ((awaited.run moves).source.tracker.poll w).1 =
      if (awaited.run moves).source.tokens = [] then .ready else .pending) ∧
    ∀ token, w.IsPending → (awaited.run moves).source.tokens = [token] →
      w.isCalled ((awaited.run moves).source.change (.letGo token)).tracker.calls = true ∧
      w.isWoken ((awaited.run moves).source.change (.letGo token)).tracker.calls = true := by
  have sound : w.Sound _ _ := Awaited.sound_run moves key w kept
  constructor
  · intro waiting
    refine (sound.poll_eq waiting).trans (if_congr ?_ rfl rfl)
    rw [← List.length_eq_zero_iff, ← active_run]
    exact decide_eq_true_iff
  · intro token pending last
    have after : w.Sound _ _ := Awaited.sound_run (moves ++ [.change (.letGo token)]) key w (by
      rw [Awaited.run_concat]
      exact kept)
    have none : awaited.isThere (awaited.run (moves ++ [.change (.letGo token)])).source = true := by
      have held := active_letGo (last ▸ List.mem_singleton_self token)
      rw [active_run, last] at held
      rw [Awaited.run_concat]
      exact decide_eq_true (Nat.succ.inj held)
    rw [none, Awaited.run_concat] at after
    exact ⟨after.isCalled, after.isWoken pending⟩

end ConnectionTracker

namespace ShutdownSignal

/-- How far a wait for the signal has come. -/
inductive Stage where
  | begin
  /-- It waits for the call after so many, and has yet to look at the flag. -/
  | registered (since : Nat)
  /-- It has looked in vain, and has yet to see whether it was called meanwhile. -/
  | looked (since : Nat)
  /-- It has found neither, and its poll is answered with waiting. -/
  | parked (since : Nat)
  | finished
  deriving DecidableEq

namespace Stage

/-- The next step of a poll; for a wait that is parked, the first one of its next poll. -/
def advance (s : ShutdownSignal) : Stage → Stage
  | begin => registered s.calls
  | registered since => if s.isGiven then finished else looked since
  | looked since | parked since => if since < s.calls then begin else parked since
  | finished => finished

def ofWait (w : Wait) : Stage :=
  if w.isOver then finished
  else
    match w.since with
    | none => begin
    | some since => parked since

theorem ofWait_poll (s : ShutdownSignal) (w : Wait) : ofWait (s.poll w).2 = (advance s)^[4] (ofWait w) := by
  obtain ⟨given, calls⟩ := s
  obtain ⟨began, since, isOver⟩ := w
  cases isOver with
  | true => rfl
  | false =>
    cases since with
    | none => cases given <;> simp [poll, Wait.poll, Wait.isCalled, ofWait, advance]
    | some since =>
      by_cases called : since < calls <;> cases given <;>
        simp [poll, Wait.poll, Wait.isCalled, ofWait, advance, called]

/-- A wait that looked did so before the signal was given, and so before the only call. -/
def Sound (s : ShutdownSignal) : Stage → Prop
  | begin => True
  | registered since => since ≤ s.calls
  | looked since | parked since => since = 0
  | finished => s.isGiven = true

end Stage

/-- Waits for a signal that stand at their stages, and how many triggers have set the flag and not called yet. -/
structure Midway where
  signal : ShutdownSignal
  owing : Nat
  waits : Nat → Option Stage

inductive MidwayMove where
  | mark
  | callAll
  | clone
  | create (key : Nat)
  | advance (key : Nat)
  | drop (key : Nat)
  deriving DecidableEq

namespace Midway

def start : Midway := ⟨.start, 0, fun _ => none⟩

def put (r : Midway) (key : Nat) (stage : Option Stage) : Midway :=
  { r with waits := Function.update r.waits key stage }

def move (r : Midway) : MidwayMove → Midway
  | .mark => if r.signal.isGiven then r else { r with signal := r.signal.mark, owing := r.owing + 1 }
  | .callAll => if r.owing = 0 then r else { r with signal := r.signal.callAll, owing := r.owing - 1 }
  | .clone => r
  | .create key => r.put key (some .begin)
  | .advance key => r.put key ((r.waits key).map (Stage.advance r.signal))
  | .drop key => r.put key none

def run (moves : List MidwayMove) : Midway := moves.foldl move start

theorem run_concat (moves : List MidwayMove) (m : MidwayMove) : run (moves ++ [m]) = (run moves).move m :=
  List.foldl_append

structure Sound (r : Midway) : Prop where
  once : r.signal.calls + r.owing = if r.signal.isGiven then 1 else 0
  stages : ∀ key stage, r.waits key = some stage → stage.Sound r.signal

theorem Sound.put {r : Midway} (sound : r.Sound) {key : Nat} {kept : Option Stage}
    (one : ∀ stage, kept = some stage → stage.Sound r.signal) : (r.put key kept).Sound where
  once := sound.once
  stages other stage found := by
    simp only [Midway.put, Function.update_apply] at found
    split at found
    · exact one stage found
    · exact sound.stages other stage found

theorem Sound.advance {r : Midway} (sound : r.Sound) {stage : Stage} (one : stage.Sound r.signal) :
    (stage.advance r.signal).Sound r.signal := by
  cases stage with
  | begin => exact Nat.le_refl _
  | registered since =>
    rw [Stage.advance]
    split
    · rename_i given
      exact given
    · rename_i absent
      -- before the flag is set there is no call
      have once := sound.once
      rw [if_neg absent] at once
      have early : since ≤ r.signal.calls := one
      exact (by omega : since = 0)
  | looked since | parked since =>
    rw [Stage.advance]
    split
    · trivial
    · exact one
  | finished => exact one

theorem Sound.move {r : Midway} (sound : r.Sound) (m : MidwayMove) : (r.move m).Sound := by
  cases m with
  | mark =>
    rw [Midway.move]
    split
    · exact sound
    · rename_i absent
      have once := sound.once
      rw [if_neg absent] at once
      refine ⟨?_, fun key stage found => ?_⟩
      · exact congrArg (· + 1) once
      · have one := sound.stages key stage found
        cases stage with
        | finished => rfl
        | _ => exact one
  | callAll =>
    rw [Midway.move]
    split
    · exact sound
    · rename_i some
      refine ⟨Eq.trans ?_ sound.once, fun key stage found => ?_⟩
      · simp only [ShutdownSignal.callAll]
        omega
      · have one := sound.stages key stage found
        cases stage with
        | registered since => exact Nat.le_succ_of_le one
        | _ => exact one
  | clone => exact sound
  | create key =>
    refine sound.put fun stage made => ?_
    cases made
    trivial
  | advance key =>
    refine sound.put fun stage advanced => ?_
    obtain ⟨stage, found, rfl⟩ := Option.map_eq_some_iff.mp advanced
    exact sound.advance (sound.stages key stage found)
  | drop key => exact sound.put nofun

theorem sound_run (moves : List MidwayMove) : (run moves).Sound := by
  induction moves using List.reverseRecOn with
  | nil => exact ⟨rfl, nofun⟩
  | append_singleton moves m ih =>
    rw [run_concat]
    exact ih.move m

theorem isGiven_run (moves : List MidwayMove) : (run moves).signal.isGiven = true ↔ .mark ∈ moves := by
  induction moves using List.reverseRecOn with
  | nil => exact ⟨nofun, nofun⟩
  | append_singleton moves m ih =>
    rw [run_concat, List.mem_append, List.mem_singleton, ← ih]
    cases m with
    | mark =>
      rw [Midway.move]
      split
      · simp [*]
      · simp [mark]
    | callAll =>
      rw [Midway.move]
      split <;> simp [ShutdownSignal.callAll]
    | _ => simp [Midway.move, Midway.put]

/-- No wait is over before the signal is given. As soon as it is given, a wait that is pending has been called since
    it registered, unless the trigger is at work that will call it. After that call, a poll ends every wait. -/
theorem stages_run {moves : List MidwayMove} {key : Nat} {stage : Stage} (found : (run moves).waits key = some stage) :
    (stage = .finished → .mark ∈ moves) ∧
    (∀ since, stage = .parked since → .mark ∈ moves → since < (run moves).signal.calls ∨
      0 < (run moves).owing ∧ since < ((run moves).move .callAll).signal.calls) ∧
    (.mark ∈ moves → (run moves).owing = 0 → (Stage.advance (run moves).signal)^[3] stage = .finished) := by
  have sound := sound_run moves
  have one := sound.stages key stage found
  have once := sound.once
  refine ⟨?_, ?_, ?_⟩
  · rintro rfl
    exact (isGiven_run moves).mp one
  · rintro since rfl given
    have first : since = 0 := one
    rw [if_pos ((isGiven_run moves).mpr given)] at once
    by_cases called : since < (run moves).signal.calls
    · exact .inl called
    · have owing : 0 < (run moves).owing := by omega
      refine .inr ⟨owing, ?_⟩
      rw [Midway.move, if_neg (Nat.ne_of_gt owing)]
      exact first ▸ Nat.succ_pos _
  · intro given done
    have given := (isGiven_run moves).mpr given
    rw [if_pos given, done, Nat.add_zero] at once
    cases stage with
    | begin => simp [Stage.advance, given]
    | registered since => simp [Stage.advance, given]
    | looked since | parked since =>
      obtain rfl : since = 0 := one
      simp [Stage.advance, given, once]
    | finished => rfl

end Midway

end ShutdownSignal

open ShutdownSignal in
/-- For all moves with a signal, with any number of waits: none is over before the first trigger, this one wakes all
    that are pending, and from then on every wait is over when it is polled. Where polls and triggers are taken apart
    into their steps, a wait that is parked once the signal is given has been called, or will be by the trigger that
    is at work. For all moves with a tracker: it counts the tokens that are held, a wait is over when it is polled
    exactly if none is held, and the end of the last one wakes those that are pending. -/
theorem no_wait_forgotten :
    (∀ (moves : List (WaitMove Change)) (key : Nat) (w : Wait), (awaited.run moves).waits key = some w →
      (w.isOver = false → ((awaited.run moves).source.poll w).1 =
        if .change .trigger ∈ moves then .ready else .pending) ∧
      (w.IsPending → .change .trigger ∉ moves → w.isWoken (awaited.run moves).source.calls = false ∧
        w.isWoken (awaited.run moves).source.trigger.calls = true)) ∧
    (∀ (moves : List MidwayMove) (key : Nat) (stage : Stage), (Midway.run moves).waits key = some stage →
      (stage = .finished → .mark ∈ moves) ∧
      (∀ since, stage = .parked since → .mark ∈ moves → since < (Midway.run moves).signal.calls ∨
        0 < (Midway.run moves).owing ∧ since < ((Midway.run moves).move .callAll).signal.calls) ∧
      (.mark ∈ moves → (Midway.run moves).owing = 0 →
        (Stage.advance (Midway.run moves).signal)^[3] stage = .finished)) ∧
    (∀ (s : ShutdownSignal) (w : Wait), s.trigger = (if s.isGiven then s else s.mark.callAll) ∧
      Stage.ofWait (s.poll w).2 = (Stage.advance s)^[4] (Stage.ofWait w)) ∧
    ∀ moves : List (WaitMove ConnectionTracker.Change),
      let held := (ConnectionTracker.awaited.run moves).source
      held.tracker.active = held.tokens.length ∧
      (∀ token ∈ held.tokens, (held.change (.letGo token)).tracker.active + 1 = held.tracker.active) ∧
      ∀ (key : Nat) (w : Wait), (ConnectionTracker.awaited.run moves).waits key = some w →
        (w.isOver = false → (held.tracker.poll w).1 = if held.tokens = [] then .ready else .pending) ∧
        ∀ token, w.IsPending → held.tokens = [token] →
          w.isCalled (held.change (.letGo token)).tracker.calls = true ∧
          w.isWoken (held.change (.letGo token)).tracker.calls = true :=
  ⟨fun _ _ _ => waits_run, fun _ _ _ => Midway.stages_run, fun s w => ⟨s.trigger_eq, Stage.ofWait_poll s w⟩,
    fun moves => ⟨ConnectionTracker.active_run moves, fun _ => ConnectionTracker.active_letGo,
      fun _ _ => ConnectionTracker.waits_run⟩⟩

open ShutdownSignal in
/-- A wait that looked before the flag was set, and is called before it parks; and a wait for two tokens, of which
    one is let go of and another one taken meanwhile. -/
theorem no_wait_forgotten_called :
    let steps : List MidwayMove := [.create 0, .advance 0, .advance 0, .mark, .callAll]
    let moves : List (WaitMove ConnectionTracker.Change) :=
      [.change .acquire, .create 0, .poll 0, .change (.letGo 0), .change .acquire, .poll 0]
    (Midway.run steps).waits 0 = some (.looked 0) ∧
      (Stage.advance (Midway.run steps).signal)^[3] (.looked 0) = .finished ∧
      (ConnectionTracker.awaited.run moves).waits 0 = some ⟨some 0, some 1, false⟩ ∧
      Wait.isCalled ⟨some 0, some 1, false⟩
        ((ConnectionTracker.awaited.run moves).source.change (.letGo 1)).tracker.calls = true := by
  intro steps moves
  have looked : (Midway.run steps).waits 0 = some (.looked 0) := rfl
  have pending : (ConnectionTracker.awaited.run moves).waits 0 = some ⟨some 0, some 1, false⟩ := rfl
  obtain ⟨_, stepwise, _, tracked⟩ := no_wait_forgotten
  exact ⟨looked, (stepwise steps 0 _ looked).2.2 (by decide) rfl, pending,
    (((tracked moves).2.2 0 _ pending).2 1 ⟨by decide, rfl⟩ rfl).1⟩

end Gateway
