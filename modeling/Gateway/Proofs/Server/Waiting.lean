import Gateway.Server.Shutdown
import Mathlib.Data.List.Induction
import Mathlib.Logic.Function.Basic

namespace Gateway

namespace Wait

def IsPending (w : Wait) : Prop := w.since ≠ none ∧ w.isOver = false

/-- A wait that was not called since it last looked has nothing to find. -/
structure Sound (w : Wait) (calls : Nat) (isThere : Bool) : Prop where
  since_le : ∀ since, w.since = some since → since ≤ calls
  absent : w.since = some calls → isThere = false
  began : w.began = none ∧ w.since = none ∨
    ∃ began since, w.began = some began ∧ w.since = some since ∧ began ≤ since

variable {w : Wait} {calls calls' : Nat} {isThere isThere' : Bool}

theorem sound_start : start.Sound calls isThere where
  since_le := nofun
  absent := nofun
  began := .inl ⟨rfl, rfl⟩

theorem Sound.change (sound : w.Sound calls isThere) (more : calls ≤ calls')
    (called : isThere = false → isThere' = true → calls < calls') : w.Sound calls' isThere' where
  since_le since began := Nat.le_trans (sound.since_le since began) more
  absent began := by
    -- a wait that looked after the last call looked before this change, which then made no call
    obtain rfl : calls = calls' := Nat.le_antisymm more (sound.since_le _ began)
    exact Bool.eq_false_iff.mpr fun there => Nat.lt_irrefl _ (called (sound.absent began) there)
  began := sound.began

theorem Sound.isCalled (sound : w.Sound calls true) : w.isCalled calls = true := by
  unfold Wait.isCalled
  split
  · rename_i since began
    have earlier : since ≠ calls := by
      rintro rfl
      exact absurd (sound.absent began) (by decide)
    exact decide_eq_true (Nat.lt_of_le_of_ne (sound.since_le since began) earlier)
  · rfl

theorem Sound.poll_eq (sound : w.Sound calls isThere) (waiting : w.isOver = false) :
    (w.poll calls isThere).1 = if isThere then .ready else .pending := by
  unfold poll
  rw [waiting]
  cases isThere with
  | true => simp [sound.isCalled]
  | false => cases w.isCalled calls <;> rfl

theorem Sound.poll (sound : w.Sound calls isThere) : (w.poll calls isThere).2.Sound calls isThere := by
  unfold Wait.poll
  split
  · exact sound
  · split
    · exact sound
    · split
      · exact ⟨sound.since_le, sound.absent, sound.began⟩
      · rename_i absent
        refine ⟨fun since began => ?_, fun _ => Bool.eq_false_iff.mpr absent, .inr ⟨_, calls, rfl, rfl, ?_⟩⟩
        · cases began
          exact Nat.le_refl _
        · rcases sound.began with ⟨none, _⟩ | ⟨began, since, first, last, early⟩
          · rw [none]
            exact Nat.le_refl _
          · rw [first, Option.getD_some]
            exact Nat.le_trans early (sound.since_le since last)

theorem Sound.isWoken (sound : w.Sound calls true) (pending : w.IsPending) : w.isWoken calls = true := by
  rcases sound.began with ⟨_, none⟩ | ⟨began, since, first, last, early⟩
  · exact absurd none pending.1
  · have called := sound.isCalled
    simp only [Wait.isCalled, last, decide_eq_true_eq] at called
    simp only [Wait.isWoken, first, decide_eq_true_eq]
    exact Nat.lt_of_le_of_lt early called

theorem isWoken_zero : w.isWoken 0 = false := by
  unfold Wait.isWoken
  split <;> rfl

end Wait

/-- Something to wait for, and what may happen to it. Those who wait are called at least when it comes to be there. -/
structure Awaited (σ μ : Type) where
  start : σ
  step : σ → μ → σ
  calls : σ → Nat
  isThere : σ → Bool
  calls_step : ∀ s m, calls s ≤ calls (step s m)
  called : ∀ s m, isThere s = false → isThere (step s m) = true → calls s < calls (step s m)

/-- What is done with waits, or with what they are for. -/
inductive WaitMove (μ : Type) where
  | change (m : μ)
  | create (key : Nat)
  | poll (key : Nat)
  | drop (key : Nat)
  deriving DecidableEq

def WaitMove.change? {μ : Type} : WaitMove μ → Option μ
  | .change m => some m
  | _ => none

structure WaitRoom (σ : Type) where
  source : σ
  waits : Nat → Option Wait

def WaitRoom.put {σ : Type} (r : WaitRoom σ) (key : Nat) (w : Option Wait) : WaitRoom σ :=
  { r with waits := Function.update r.waits key w }

namespace Awaited

variable {σ μ : Type} (a : Awaited σ μ)

def poll (s : σ) (w : Wait) : WaitPoll × Wait := w.poll (a.calls s) (a.isThere s)

def move (r : WaitRoom σ) : WaitMove μ → WaitRoom σ
  | .change m => { r with source := a.step r.source m }
  | .create key => r.put key (some .start)
  | .poll key => r.put key ((r.waits key).map fun w => (a.poll r.source w).2)
  | .drop key => r.put key none

/-- What comes of moves, taken in turn, where nobody waits at first. -/
def run (moves : List (WaitMove μ)) : WaitRoom σ := moves.foldl a.move ⟨a.start, fun _ => none⟩

theorem run_concat (moves : List (WaitMove μ)) (m : WaitMove μ) : a.run (moves ++ [m]) = a.move (a.run moves) m :=
  List.foldl_append

theorem source_run (moves : List (WaitMove μ)) :
    (a.run moves).source = (moves.filterMap WaitMove.change?).foldl a.step a.start := by
  induction moves using List.reverseRecOn with
  | nil => rfl
  | append_singleton moves m ih =>
    rw [run_concat, List.filterMap_append, List.foldl_append, ← ih]
    cases m <;> rfl

def Sound (r : WaitRoom σ) : Prop :=
  ∀ key w, r.waits key = some w → w.Sound (a.calls r.source) (a.isThere r.source)

variable {a}

theorem Sound.put {r : WaitRoom σ} (sound : a.Sound r) {key : Nat} {kept : Option Wait}
    (one : ∀ w, kept = some w → w.Sound (a.calls r.source) (a.isThere r.source)) : a.Sound (r.put key kept) := by
  intro other w found
  simp only [WaitRoom.put, Function.update_apply] at found
  split at found
  · exact one w found
  · exact sound other w found

theorem Sound.move {r : WaitRoom σ} (sound : a.Sound r) (m : WaitMove μ) : a.Sound (a.move r m) := by
  cases m with
  | change m => exact fun key w kept => (sound key w kept).change (a.calls_step _ m) (a.called _ m)
  | create key =>
    refine sound.put fun w made => ?_
    cases made
    exact Wait.sound_start
  | poll key =>
    refine sound.put fun w polled => ?_
    obtain ⟨w, kept, rfl⟩ := Option.map_eq_some_iff.mp polled
    exact (sound key w kept).poll
  | drop key => exact sound.put nofun

theorem sound_run (moves : List (WaitMove μ)) : a.Sound (a.run moves) := by
  induction moves using List.reverseRecOn with
  | nil => exact nofun
  | append_singleton moves m ih =>
    rw [run_concat]
    exact ih.move m

end Awaited

end Gateway
