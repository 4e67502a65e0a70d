import Gateway.Proofs.Server.Shutdown
import Gateway.Server.Drain
import Mathlib.Logic.Equiv.List

namespace Gateway

namespace Awaited

variable {σ μ : Type} (a : Awaited σ μ) {r : WaitRoom σ} {key : Nat}

theorem foldl_create_poll : [.create key, .poll key].foldl a.move r = r.put key (some (a.poll r.source .start).2) := by
  simp [move, WaitRoom.put]

theorem move_poll {w : Wait} (kept : r.waits key = some w) :
    a.move r (.poll key) = r.put key (some (a.poll r.source w).2) := by
  rw [move, kept]
  rfl

end Awaited

inductive DrainMove where
  | trigger
  | await (key : String) (target : WaitTarget)
  | poll (key : String)
  | acquire (key : String)
  | release (key : String)
  deriving DecidableEq

namespace Drain

open ConnectionTracker (Held)

def step (d : Drain) : DrainMove → Drain
  | .trigger => d.trigger.2
  | .await key target => (d.await key target).2
  | .poll key => (d.poll key).2
  | .acquire key => (d.acquire key).2
  | .release key => (d.release key).2

def run (moves : List DrainMove) : Drain := moves.foldl step start

def wait? (d : Drain) (target : WaitTarget) (key : String) : Option Wait :=
  (d.waits.lookup key).bind fun (kept, w) => if kept = target then some w else none

def polled (d : Drain) (w : Wait) : WaitTarget → WaitPoll × Wait
  | .signal => d.signal.poll w
  | .idle => d.tracker.poll w

theorem lookup_forget {α : Type} (kept : List (String × α)) {key other : String} (apart : other ≠ key) :
    (kept.filter (·.1 != key)).lookup other = kept.lookup other := by
  induction kept with
  | nil => rfl
  | cons entry rest ih =>
    obtain ⟨name, value⟩ := entry
    rw [List.filter_cons]
    by_cases same : name = key
    · subst same
      simp [ih, List.lookup_cons, beq_false_of_ne apart]
    · rw [if_pos (by simp [same]), List.lookup_cons, List.lookup_cons, ih]

theorem wait?_pollWait (d : Drain) (key : String) (target : WaitTarget) (w : Wait) (sought : WaitTarget)
    (other : String) : (d.pollWait key target w).2.wait? sought other =
      if other = key then if target = sought then some (d.polled w target).2 else none else d.wait? sought other := by
  unfold pollWait wait?
  by_cases same : other = key
  · subst same
    cases target <;> simp [polled]
  · simp [List.lookup_cons, beq_false_of_ne same, lookup_forget d.waits same, same]

structure Tracks (tracker : ConnectionTracker) (keys : List String) (h : Held) : Prop where
  tracker : h.tracker = tracker
  active : h.tracker.active = h.tokens.length
  given : ∀ token ∈ h.tokens, token < h.given
  named : ∃ name : Nat → String, (h.tokens.map name).Perm keys

variable {tracker : ConnectionTracker} {keys : List String} {h : Held}

theorem Tracks.acquire (tracks : Tracks tracker keys h) (key : String) :
    Tracks tracker.acquire (key :: keys) (h.change .acquire) := by
  obtain ⟨rfl, active, given, name, named⟩ := tracks
  refine ⟨rfl, congrArg (· + 1) active, ?_, Function.update name h.given key, ?_⟩
  · refine List.forall_mem_cons.mpr ⟨Nat.lt_succ_self _, fun token held => ?_⟩
    exact Nat.lt_succ_of_lt (given token held)
  · have others : h.tokens.map (Function.update name h.given key) = h.tokens.map name :=
      List.map_congr_left fun token held => Function.update_of_ne (Nat.ne_of_lt (given token held)) _ _
    show (Function.update name h.given key h.given :: h.tokens.map (Function.update name h.given key)).Perm _
    rw [Function.update_self, others]
    exact named.cons key

theorem Tracks.release (tracks : Tracks tracker keys h) {key : String} (held : key ∈ keys) :
    ∃ token, Tracks tracker.release (keys.erase key) (h.change (.letGo token)) := by
  obtain ⟨rfl, active, given, name, named⟩ := tracks
  obtain ⟨token, within, rfl⟩ := List.mem_map.mp (named.mem_iff.mpr held)
  have change : h.change (.letGo token) = ⟨h.tracker.release, h.given, h.tokens.erase token⟩ := if_pos within
  refine ⟨token, ?_⟩
  rw [change]
  refine ⟨rfl, ?_, fun other left => given other (List.mem_of_mem_erase left), name, ?_⟩
  · show h.tracker.active - 1 = (h.tokens.erase token).length
    rw [List.length_erase_of_mem within, active]
  · have parts : (name token :: (h.tokens.erase token).map name).Perm (h.tokens.map name) :=
      (List.perm_cons_erase within).symm.map name
    exact (parts.trans (named.trans (List.perm_cons_erase held))).cons_inv

/-- Those who wait for the signal, and those who wait for the end of the last connection, in rooms of their own. The
    keys are numbered. -/
structure Shows (number : String → Nat) (d : Drain) (asked : WaitRoom ShutdownSignal) (served : WaitRoom Held) :
    Prop where
  signal : asked.source = d.signal
  tracks : Tracks d.tracker d.tokens served.source
  signalled : ∀ key, asked.waits (number key) = d.wait? .signal key
  ended : ∀ key, served.waits (number key) = d.wait? .idle key

variable {number : String → Nat} {d : Drain} {asked : WaitRoom ShutdownSignal} {served : WaitRoom Held}

theorem Shows.polled_signal (shown : d.Shows number asked served) (w : Wait) :
    ShutdownSignal.awaited.poll asked.source w = d.polled w .signal := by
  rw [shown.signal]
  rfl

theorem Shows.polled_idle (shown : d.Shows number asked served) (w : Wait) :
    ConnectionTracker.awaited.poll served.source w = d.polled w .idle := by
  rw [polled, ← shown.tracks.tracker]
  rfl

theorem Shows.pollWait (numbered : Function.Injective number) (shown : d.Shows number asked served) (key : String)
    (target : WaitTarget) (w : Wait) :
    (d.pollWait key target w).2.Shows number
      (asked.put (number key) (if target = .signal then some (d.polled w .signal).2 else none))
      (served.put (number key) (if target = .idle then some (d.polled w .idle).2 else none)) := by
  have kept {σ : Type} {r : WaitRoom σ} {sought : WaitTarget} (same : ∀ key, r.waits (number key) = d.wait? sought key)
      (other : String) :
      (r.put (number key) (if target = sought then some (d.polled w sought).2 else none)).waits (number other) =
        (d.pollWait key target w).2.wait? sought other := by
    dsimp only [WaitRoom.put]
    rw [wait?_pollWait, Function.update_apply, same]
    refine if_congr numbered.eq_iff ?_ rfl
    split
    · rename_i equal
      rw [equal]
    · rfl
  exact ⟨shown.signal, shown.tracks, kept shown.signalled, kept shown.ended⟩

theorem Shows.step (numbered : Function.Injective number) (shown : d.Shows number asked served) (move : DrainMove) :
    ∃ (first : List (WaitMove ShutdownSignal.Change)) (second : List (WaitMove ConnectionTracker.Change)),
      (d.step move).Shows number (first.foldl ShutdownSignal.awaited.move asked)
        (second.foldl ConnectionTracker.awaited.move served) := by
  obtain ⟨signal, tracks, signalled, ended⟩ := id shown
  cases move with
  | trigger =>
    exact ⟨[.change .trigger], [], congrArg ShutdownSignal.trigger signal, tracks, signalled, ended⟩
  | acquire key =>
    have taken := tracks.acquire key
    by_cases held : key ∈ d.tokens
    · obtain ⟨token, left⟩ := taken.release List.mem_cons_self
      rw [List.erase_cons_head] at left
      have acquired : d.step (.acquire key) = { d with tracker := d.tracker.acquire.release } := by
        simp [Drain.step, Drain.acquire, held]
      rw [acquired]
      exact ⟨[], [.change .acquire, .change (.letGo token)], signal, left, signalled, ended⟩
    · have acquired : d.step (.acquire key) =
          { d with tracker := d.tracker.acquire, tokens := key :: d.tokens } := by
        simp [Drain.step, Drain.acquire, held]
      rw [acquired]
      exact ⟨[], [.change .acquire], signal, taken, signalled, ended⟩
  | release key =>
    by_cases held : key ∈ d.tokens
    · obtain ⟨token, left⟩ := tracks.release held
      have released : d.step (.release key) =
          { d with tracker := d.tracker.release, tokens := d.tokens.erase key } := by
        simp [Drain.step, Drain.release, held]
      rw [released]
      exact ⟨[], [.change (.letGo token)], signal, left, signalled, ended⟩
    · have released : d.step (.release key) = d := by
        simp [Drain.step, Drain.release, held]
      rw [released]
      exact ⟨[], [], signal, tracks, signalled, ended⟩
  | await key target =>
    have kept := shown.pollWait numbered key target .start
    cases target with
    | signal =>
      refine ⟨[.create (number key), .poll (number key)], [.drop (number key)], ?_⟩
      rw [Awaited.foldl_create_poll, shown.polled_signal]
      exact kept
    | idle =>
      refine ⟨[.drop (number key)], [.create (number key), .poll (number key)], ?_⟩
      rw [Awaited.foldl_create_poll, shown.polled_idle]
      exact kept
  | poll key =>
    cases found : d.waits.lookup key with
    | none =>
      have same : d.step (.poll key) = d := by simp [Drain.step, Drain.poll, found]
      rw [same]
      exact ⟨[], [], shown⟩
    | some entry =>
      obtain ⟨target, w⟩ := entry
      have polled : d.step (.poll key) = (d.pollWait key target w).2 := by simp [Drain.step, Drain.poll, found]
      rw [polled]
      have kept := shown.pollWait numbered key target w
      have here : d.wait? target key = some w := by simp [wait?, found]
      cases target with
      | signal =>
        refine ⟨[.poll (number key)], [.drop (number key)], ?_⟩
        rw [List.foldl_cons, List.foldl_nil, Awaited.move_poll _ ((signalled key).trans here), shown.polled_signal]
        exact kept
      | idle =>
        refine ⟨[.drop (number key)], [.poll (number key)], ?_⟩
        rw [List.foldl_cons, List.foldl_nil, List.foldl_cons, List.foldl_nil,
          Awaited.move_poll _ ((ended key).trans here), shown.polled_idle]
        exact kept

/-- The end of a server, whatever is done with it, is a run of waits for the signal beside one of waits for the last
    connection. -/
theorem run_shows (numbered : Function.Injective number) (moves : List DrainMove) :
    ∃ first second, (run moves).Shows number (ShutdownSignal.awaited.run first)
      (ConnectionTracker.awaited.run second) := by
  induction moves using List.reverseRecOn with
  | nil =>
    exact ⟨[], [], rfl, ⟨rfl, rfl, List.forall_mem_nil _, fun _ => "", .refl _⟩, fun _ => rfl, fun _ => rfl⟩
  | append_singleton moves move ih =>
    obtain ⟨first, second, shown⟩ := ih
    obtain ⟨more, also, shows⟩ := shown.step numbered move
    refine ⟨first ++ more, second ++ also, ?_⟩
    rw [Awaited.run, Awaited.run, List.foldl_append, List.foldl_append, run, List.foldl_append]
    exact shows

theorem exists_numbering : ∃ number : String → Nat, Function.Injective number := by
  have chars : Function.Injective (List.map Char.toNat) := List.map_injective_iff.mpr fun _ _ => Char.toNat_inj.mp
  have texts : Function.Injective String.toList := fun _ _ => String.toList_injective
  exact ⟨_, Encodable.encode_injective.comp (chars.comp texts)⟩

def isThere (d : Drain) : WaitTarget → Bool
  | .signal => d.signal.isGiven
  | .idle => d.tokens.isEmpty

/-- A wait that is not over is over at its next poll exactly if the signal is given then, or no token kept. -/
theorem poll_run {moves : List DrainMove} {key : String} {target : WaitTarget} {w : Wait}
    (kept : (run moves).waits.lookup key = some (target, w)) (waiting : w.isOver = false) :
    ((run moves).poll key).1 = some (if (run moves).isThere target then .ready else .pending) := by
  obtain ⟨number, numbered⟩ := exists_numbering
  obtain ⟨first, second, shown⟩ := run_shows numbered moves
  have answer : ((run moves).poll key).1 = some ((run moves).polled w target).1 := by
    cases target <;> simp [poll, kept, pollWait, polled]
  have here : (run moves).wait? target key = some w := by simp [wait?, kept]
  rw [answer]
  refine congrArg some ?_
  cases target with
  | signal =>
    have sound := Awaited.sound_run first _ w ((shown.signalled key).trans here)
    rw [← shown.polled_signal, isThere, ← shown.signal]
    exact sound.poll_eq waiting
  | idle =>
    have sound := Awaited.sound_run second _ w ((shown.ended key).trans here)
    have none : (run moves).tokens.isEmpty =
        ConnectionTracker.awaited.isThere (ConnectionTracker.awaited.run second).source := by
      obtain ⟨_, active, _, name, named⟩ := shown.tracks
      have count := named.length_eq
      rw [List.length_map] at count
      show _ = decide ((ConnectionTracker.awaited.run second).source.tracker.active = 0)
      rw [active, count]
      cases (run moves).tokens <;> rfl
    rw [← shown.polled_idle, isThere, none]
    exact sound.poll_eq waiting

end Drain

end Gateway
