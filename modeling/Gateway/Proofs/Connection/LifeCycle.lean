import Gateway.Proofs.Connection.Registry

namespace Gateway

open WebSocket (Closure Outbound)

/-- What can happen to the registry of connections. -/
inductive ConnectionCall where
  | openLine (id : ConnectionId)
  | register (id : ConnectionId) (line : Nat)
  | fade (id : ConnectionId)
  | purge
  | shutDown (closure : Closure)
  | reopen
  | send (id : ConnectionId) (frame : Outbound)
  | broadcast (frame : Outbound)
  | disconnect (id : ConnectionId) (closure : Closure)
  | modifyLine (line : Nat) (f : Line → Line)

def ConnectionCall.Quiet : ConnectionCall → Prop
  | register _ _ | fade _ | purge | shutDown _ => False
  | openLine _ | reopen | send _ _ | broadcast _ | disconnect _ _ | modifyLine _ _ => True

/-- How what is known of a connection may change in one step. -/
inductive ConnectionEntry.Becomes : Option ConnectionEntry → Option ConnectionEntry → Prop where
  | same (entry : Option ConnectionEntry) : Becomes entry entry
  | registered (line : Nat) : Becomes none (some (.live line))
  | faded (line : Nat) : Becomes (some (.live line)) (some .faded)
  | purged : Becomes (some .faded) none

theorem ConnectionEntry.Becomes.of_eq {before after : Option ConnectionEntry} (same : after = before) :
    Becomes before after :=
  same ▸ .same after

/-- A line after some more closes, which wait if there is a session to take them. -/
def Line.closedTimes (closure : Closure) (times : Nat) (line : Line) : Line :=
  { line with queued := line.queued ++ if line.receiving then .replicate times (.close closure) else [] }

theorem Line.closedTimes_close (closure : Closure) (times : Nat) (line : Line) :
    closedTimes closure times (line.close closure).2 = closedTimes closure (times + 1) line := by
  unfold closedTimes close
  by_cases receiving : line.receiving = true
  · simp [receiving, List.replicate_succ]
  · simp [receiving]

namespace ConnectionRegistry

variable {r s : ConnectionRegistry}

def call (r : ConnectionRegistry) : ConnectionCall → ConnectionRegistry
  | .openLine id => (r.openLine id).2
  | .register id line => (r.register id line).2
  | .fade id => (r.fade id).2
  | .purge => r.purge.2
  | .shutDown closure => (r.shutDown closure).2
  | .reopen => r.reopen
  | .send id frame => (r.send id frame).2
  | .broadcast frame => (r.broadcast frame).2
  | .disconnect id closure => (r.disconnect id closure).2
  | .modifyLine line f => r.modifyLine line f

def run (r : ConnectionRegistry) (calls : List ConnectionCall) : ConnectionRegistry := calls.foldl call r

theorem run_induction {invariant : ConnectionRegistry → Prop} {allowed : ConnectionCall → Prop}
    (kept : ∀ r, invariant r → ∀ call, allowed call → invariant (r.call call)) (holds : invariant r)
    {calls : List ConnectionCall} (all : ∀ call ∈ calls, allowed call) : invariant (r.run calls) := by
  induction calls generalizing r with
  | nil => exact holds
  | cons call rest ih =>
    obtain ⟨first, others⟩ := List.forall_mem_cons.mp all
    exact ih (kept r holds call first) others

/-! Lines. -/

def Rewired (r s : ConnectionRegistry) : Prop := ∃ lines, s = { r with lines }

theorem Rewired.refl (r : ConnectionRegistry) : r.Rewired r := ⟨_, rfl⟩

theorem Rewired.trans {t : ConnectionRegistry} (first : r.Rewired s) (second : s.Rewired t) : r.Rewired t := by
  obtain ⟨_, rfl⟩ := first
  obtain ⟨lines, rfl⟩ := second
  exact ⟨lines, rfl⟩

theorem rewired_modifyLine (r : ConnectionRegistry) (n : Nat) (f : Line → Line) : r.Rewired (r.modifyLine n f) :=
  ⟨_, rfl⟩

theorem rewired_sendLine (r : ConnectionRegistry) (n : Nat) (frame : Outbound) (policy : BackpressurePolicy) :
    r.Rewired (r.sendLine n frame policy).2 := by
  unfold sendLine
  split
  · exact rewired_modifyLine _ _ _
  · exact .refl r

theorem rewired_sendLines (frame : Outbound) (ns : List Nat) (r : ConnectionRegistry) :
    r.Rewired (sendLines frame ns r).2 := by
  induction ns generalizing r with
  | nil => exact .refl r
  | cons n rest ih => exact (r.rewired_sendLine n frame r.policy).trans (ih _)

theorem rewired_send (r : ConnectionRegistry) (id : ConnectionId) (frame : Outbound) :
    r.Rewired (r.send id frame).2 := by
  unfold send
  split
  · exact rewired_sendLine _ _ _ _
  · exact .refl r

theorem rewired_disconnect (r : ConnectionRegistry) (id : ConnectionId) (closure : Closure) :
    r.Rewired (r.disconnect id closure).2 := by
  unfold disconnect
  split
  · split
    · exact rewired_modifyLine _ _ _
    · exact .refl r
  · exact .refl r

theorem rewired_closeLines (closure : Closure) (ns : List Nat) (r : ConnectionRegistry) :
    r.Rewired (closeLines closure ns r) := by
  induction ns generalizing r with
  | nil => exact .refl r
  | cons n rest ih => exact (r.rewired_modifyLine n _).trans (ih _)

theorem call_quiet (r : ConnectionRegistry) {call : ConnectionCall} (quiet : call.Quiet) :
    r.Rewired (r.call call) ∨ call = .reopen := by
  cases call with
  | openLine id => exact .inl ⟨_, rfl⟩
  | reopen => exact .inr rfl
  | send id frame => exact .inl (r.rewired_send id frame)
  | broadcast frame => exact .inl (rewired_sendLines frame _ r)
  | disconnect id closure => exact .inl (r.rewired_disconnect id closure)
  | modifyLine line f => exact .inl (r.rewired_modifyLine line f)
  | register | fade | purge | shutDown => exact quiet.elim

theorem entries_quiet (r : ConnectionRegistry) {call : ConnectionCall} (quiet : call.Quiet) :
    (r.call call).entries = r.entries := by
  rcases r.call_quiet quiet with ⟨_, rewired⟩ | rfl
  · rw [rewired]
  · rfl

theorem accepting_quiet (r : ConnectionRegistry) {call : ConnectionCall} (quiet : call.Quiet)
    (keeps : call ≠ .reopen) : (r.call call).accepting = r.accepting := by
  rcases r.call_quiet quiet with ⟨_, rewired⟩ | opened
  · rw [rewired]
  · exact absurd opened keeps

theorem find?_quiet (r : ConnectionRegistry) {call : ConnectionCall} (quiet : call.Quiet) (id : ConnectionId) :
    (r.call call).find? id = r.find? id :=
  find?_congr (r.entries_quiet quiet) id

/-! Counting. -/

theorem count_eq (r : ConnectionRegistry) : r.count = r.liveCount + r.fadedCount := by
  unfold count liveCount fadedCount live
  induction r.entries with
  | nil => rfl
  | cons e rest ih =>
    obtain ⟨id, entry⟩ := e
    cases entry with
    | live line =>
      rw [List.countP_cons_of_neg Bool.false_ne_true]
      exact (congrArg (· + 1) ih).trans (Nat.add_right_comm _ _ 1)
    | faded =>
      rw [List.countP_cons_of_pos rfl]
      exact congrArg (· + 1) ih

def Balanced (r : ConnectionRegistry) : Prop := r.totalRegistered = r.count + r.totalPurged

theorem count_purge (r : ConnectionRegistry) : r.purge.2.count + r.purge.1 = r.count := by
  have parts := List.length_eq_countP_add_countP (fun e : ConnectionId × ConnectionEntry => e.2.isFaded)
    (l := r.entries)
  have kept : r.purge.2.count = r.entries.countP (!·.2.isFaded) := List.countP_eq_length_filter.symm
  have removed : r.purge.1 = r.entries.countP (·.2.isFaded) := rfl
  simp only [Bool.not_eq_true, Bool.decide_eq_false] at parts
  rw [kept, removed, count, parts]
  exact Nat.add_comm _ _

theorem Balanced.quiet (balanced : r.Balanced) {call : ConnectionCall} (quiet : call.Quiet) :
    (r.call call).Balanced := by
  rcases r.call_quiet quiet with ⟨_, rewired⟩ | rfl
  · rw [rewired]
    exact balanced
  · exact balanced

theorem Balanced.call (balanced : r.Balanced) (call : ConnectionCall) : (r.call call).Balanced := by
  cases call with
  | register id line =>
    unfold Balanced at balanced ⊢
    simp only [ConnectionRegistry.call, register_eq]
    split
    · exact balanced
    · simp only [count, List.length_append, List.length_singleton] at balanced ⊢
      omega
  | fade id =>
    unfold Balanced at balanced ⊢
    simp only [ConnectionRegistry.call, fade]
    split
    · simpa only [count, List.length_map] using balanced
    · exact balanced
  | purge =>
    have counted := r.count_purge
    show r.totalRegistered = r.purge.2.count + (r.totalPurged + r.purge.1)
    unfold Balanced at balanced
    omega
  | shutDown closure =>
    obtain ⟨_, rewired⟩ := rewired_closeLines closure (r.live.map (·.2)) r
    unfold Balanced at balanced ⊢
    simp only [ConnectionRegistry.call, shutDown, rewired, count, List.length_map]
    exact balanced
  | _ => exact balanced.quiet trivial

theorem Distinct.call (distinct : r.Distinct) (call : ConnectionCall) : (r.call call).Distinct := by
  cases call with
  | register id line => exact distinct.register id line
  | fade id => exact distinct.fade id
  | purge => exact distinct.purge
  | shutDown closure => exact distinct.shutDown closure
  | _ => exact .congr (r.entries_quiet trivial) distinct

theorem Distinct.run (distinct : r.Distinct) (calls : List ConnectionCall) : (r.run calls).Distinct := by
  apply run_induction (fun r distinct call _ => distinct.call call) distinct
  exact fun _ _ => trivial

theorem Balanced.run (balanced : r.Balanced) (calls : List ConnectionCall) : (r.run calls).Balanced := by
  apply run_induction (fun r balanced call _ => balanced.call call) balanced
  exact fun _ _ => trivial

/-! Entries. -/

open ConnectionEntry (Becomes)

theorem Distinct.becomes (distinct : r.Distinct) (call : ConnectionCall) (id : ConnectionId) :
    Becomes (r.find? id) ((r.call call).find? id) := by
  cases call with
  | register other line =>
    show Becomes _ ((r.register other line).2.find? id)
    cases accepted : (r.register other line).1 with
    | true =>
      rw [find?_register r other line accepted]
      split
      · rename_i same
        rw [same, ((r.register_accepted other line).mp accepted).2]
        exact .registered line
      · exact .same _
    | false =>
      rw [register_refused r other line accepted]
      exact .same _
  | fade other =>
    show Becomes _ ((r.fade other).2.find? id)
    rw [find?_fade]
    split
    · rename_i same
      rw [same]
      cases r.find? other with
      | none => exact .same none
      | some entry =>
        cases entry with
        | live line => exact .faded line
        | faded => exact .same _
    · exact .same _
  | purge =>
    show Becomes _ (r.purge.2.find? id)
    rw [find?_purge distinct]
    cases r.find? id with
    | none => exact .same none
    | some entry =>
      cases entry with
      | live line => exact .same _
      | faded => exact .purged
  | shutDown closure =>
    show Becomes _ ((r.shutDown closure).2.find? id)
    rw [find?_shutDown]
    cases r.find? id with
    | none => exact .same none
    | some entry =>
      cases entry with
      | live line => exact .faded line
      | faded => exact .same _
  | _ =>
    refine .of_eq (r.find?_quiet ?_ id)
    trivial

theorem faded_call {id : ConnectionId} (faded : r.find? id = some .faded) {call : ConnectionCall}
    (keeps : call ≠ .purge) : (r.call call).find? id = some .faded := by
  cases call with
  | register other line =>
    show (r.register other line).2.find? id = _
    cases accepted : (r.register other line).1 with
    | true =>
      have different : id ≠ other := by
        rintro rfl
        cases faded.symm.trans ((r.register_accepted id line).mp accepted).2
      rw [find?_register r other line accepted, if_neg different, faded]
    | false => rw [register_refused r other line accepted, faded]
  | fade other =>
    show (r.fade other).2.find? id = _
    rw [find?_fade]
    split
    · rename_i same
      rw [← same, faded]
      rfl
    · exact faded
  | purge => exact absurd rfl keeps
  | shutDown closure =>
    show (r.shutDown closure).2.find? id = _
    rw [find?_shutDown, faded]
    rfl
  | _ =>
    refine (r.find?_quiet ?_ id).trans faded
    trivial

theorem faded_run {id : ConnectionId} (faded : r.find? id = some .faded) {calls : List ConnectionCall}
    (keeps : ∀ call ∈ calls, call ≠ .purge) : (r.run calls).find? id = some .faded := by
  have kept : ∀ r : ConnectionRegistry, r.find? id = some .faded → ∀ call : ConnectionCall, call ≠ .purge →
      (r.call call).find? id = some .faded := fun r faded call keeps => faded_call faded keeps
  apply run_induction kept faded keeps

/-! Fading. -/

def isLive (r : ConnectionRegistry) (id : ConnectionId) : Bool := (r.liveLine? id).isSome

def registers (id : ConnectionId) (r : ConnectionRegistry) : ConnectionCall → Bool
  | .register other line => other == id && (r.register other line).1
  | _ => false

def fades (id : ConnectionId) (r : ConnectionRegistry) : ConnectionCall → Bool
  | .fade other => other == id && (r.fade other).1
  | .shutDown closure => (r.shutDown closure).1.contains id
  | _ => false

/-- How many calls of a run have a property at the registry that they meet. -/
def occurrences (p : ConnectionRegistry → ConnectionCall → Bool) : ConnectionRegistry → List ConnectionCall → Nat
  | _, [] => 0
  | r, call :: rest => (p r call).toNat + occurrences p (r.call call) rest

theorem isLive_eq (r : ConnectionRegistry) (id : ConnectionId) :
    r.isLive id = ((r.find? id).bind ConnectionEntry.line?).isSome := by
  rw [isLive, liveLine?_eq]

theorem isLive_quiet (r : ConnectionRegistry) {call : ConnectionCall} (quiet : call.Quiet) (id : ConnectionId) :
    (r.isLive id).toNat + (registers id r call).toNat =
      (fades id r call).toNat + ((r.call call).isLive id).toNat := by
  have silent : registers id r call = false ∧ fades id r call = false := by
    cases call with
    | register | fade | purge | shutDown => exact quiet.elim
    | _ => exact ⟨rfl, rfl⟩
  rw [isLive_eq (r.call call), r.find?_quiet quiet, ← isLive_eq, silent.1, silent.2]
  exact Nat.add_comm _ _

theorem Distinct.isLive_call (distinct : r.Distinct) (id : ConnectionId) (call : ConnectionCall) :
    (r.isLive id).toNat + (registers id r call).toNat = (fades id r call).toNat + ((r.call call).isLive id).toNat := by
  cases call with
  | register other line =>
    show _ + (other == id && (r.register other line).1).toNat = 0 + ((r.register other line).2.isLive id).toNat
    cases accepted : (r.register other line).1 with
    | true =>
      have absent := ((r.register_accepted other line).mp accepted).2
      rw [isLive_eq _ id, isLive_eq, find?_register r other line accepted]
      by_cases same : other = id
      · subst same
        simp [absent, ConnectionEntry.line?]
      · simp [same, Ne.symm same]
    | false => simp [register_refused r other line accepted]
  | fade other =>
    show _ + 0 = (other == id && (r.fade other).1).toNat + ((r.fade other).2.isLive id).toNat
    rw [fade_live, ← isLive, isLive_eq (r.fade other).2, find?_fade]
    by_cases same : other = id
    · subst same
      cases r.find? other <;> simp [ConnectionEntry.line?]
    · simp [same, Ne.symm same, isLive_eq]
  | purge =>
    show _ + 0 = 0 + (r.purge.2.isLive id).toNat
    rw [isLive_eq, isLive_eq, find?_purge distinct]
    cases r.find? id with
    | none => rfl
    | some entry => cases entry <;> rfl
  | shutDown closure =>
    show _ + 0 = ((r.shutDown closure).1.contains id).toNat + ((r.shutDown closure).2.isLive id).toNat
    have gone : (r.shutDown closure).2.isLive id = false := by
      rw [isLive_eq, find?_shutDown]
      cases r.find? id <;> rfl
    have given : (r.shutDown closure).1.contains id = r.isLive id := by
      rw [Bool.eq_iff_iff, List.contains_iff_mem, mem_shutDown distinct, isLive]
    rw [gone, given]
    rfl
  | _ =>
    apply isLive_quiet
    trivial

/-- Over any run, a connection is registered as often as it fades, but for the registration that is live. -/
theorem Distinct.isLive_run (distinct : r.Distinct) (id : ConnectionId) (calls : List ConnectionCall) :
    (r.isLive id).toNat + occurrences (registers id) r calls =
      occurrences (fades id) r calls + ((r.run calls).isLive id).toNat := by
  induction calls generalizing r with
  | nil => exact (Nat.zero_add _).symm
  | cons call rest ih =>
    have first := distinct.isLive_call id call
    have others := ih (distinct.call call)
    have after : r.run (call :: rest) = (r.call call).run rest := rfl
    simp only [occurrences, after]
    omega

/-! The shutdown. -/

theorem line?_modifyLine (r : ConnectionRegistry) (n m : Nat) (f : Line → Line) :
    (r.modifyLine n f).line? m = if n = m then (r.line? m).map f else r.line? m := by
  simp only [line?, modifyLine, List.getElem?_modify]
  split <;> simp

theorem line?_closeLines (closure : Closure) (ns : List Nat) (r : ConnectionRegistry) (m : Nat) :
    (closeLines closure ns r).line? m = (r.line? m).map (Line.closedTimes closure (ns.count m)) := by
  induction ns generalizing r with
  | nil =>
    have none : Line.closedTimes closure 0 = id := by
      funext line
      simp [Line.closedTimes]
    rw [List.count_nil, none, Option.map_id]
    rfl
  | cons n rest ih =>
    rw [closeLines, ih, line?_modifyLine]
    -- a line gets one close for each time that it is listed
    by_cases same : n = m
    · subst same
      rw [if_pos rfl, List.count_cons_self, Option.map_map]
      exact Option.map_congr fun line _ => Line.closedTimes_close closure _ line
    · rw [if_neg same, List.count_cons_of_ne same]

theorem Distinct.count_live (distinct : r.Distinct) (n : Nat) :
    (r.live.map (·.2)).count n = ((r.live.map (·.1)).filter fun id => r.liveLine? id == some n).length := by
  rw [← List.countP_eq_length_filter, List.count, List.countP_map, List.countP_map]
  refine List.countP_congr fun pair listed => ?_
  have found := (find?_eq_some_iff distinct _ _).mpr ((r.mem_live pair.1 pair.2).mp listed)
  simp [liveLine?_eq, found, ConnectionEntry.line?]

theorem Distinct.line?_shutDown (distinct : r.Distinct) (closure : Closure) (n : Nat) :
    (r.shutDown closure).2.line? n = (r.line? n).map (Line.closedTimes closure
      ((r.shutDown closure).1.filter fun id => r.liveLine? id == some n).length) := by
  have given : (r.shutDown closure).1 = r.live.map (·.1) := rfl
  rw [given, ← distinct.count_live]
  exact line?_closeLines closure _ r n

structure Shut (r : ConnectionRegistry) : Prop where
  accepting : r.accepting = false
  live : ∀ id, r.isLive id = false

theorem shut_shutDown (r : ConnectionRegistry) (closure : Closure) : (r.shutDown closure).2.Shut := by
  refine ⟨rfl, fun id => ?_⟩
  rw [isLive_eq, find?_shutDown]
  cases r.find? id <;> rfl

theorem Shut.registers (shut : r.Shut) (id : ConnectionId) (call : ConnectionCall) : registers id r call = false := by
  cases call with
  | register other line =>
    have refused : (r.register other line).1 ≠ true := by
      intro accepted
      cases shut.accepting.symm.trans ((r.register_accepted other line).mp accepted).1
    simp [ConnectionRegistry.registers, refused]
  | _ => rfl

theorem Shut.call (shut : r.Shut) (distinct : r.Distinct) {call : ConnectionCall} (keeps : call ≠ .reopen) :
    (r.call call).Shut := by
  constructor
  · have accepting := shut.accepting
    cases call with
    | register id line =>
      simp only [ConnectionRegistry.call, register_eq, accepting]
      exact accepting
    | fade id =>
      simp only [ConnectionRegistry.call, fade]
      split <;> exact accepting
    | purge => exact accepting
    | shutDown closure => rfl
    | _ =>
      refine (r.accepting_quiet ?_ keeps).trans accepting
      trivial
  · intro id
    -- the call registers nothing, so what was not live stays so
    have balance := distinct.isLive_call id call
    rw [shut.live id, shut.registers id call] at balance
    exact Bool.toNat_eq_zero.mp (Nat.eq_zero_of_add_eq_zero_left balance.symm)

theorem Shut.run (shut : r.Shut) (distinct : r.Distinct) {calls : List ConnectionCall}
    (keeps : ∀ call ∈ calls, call ≠ .reopen) : (r.run calls).Shut := by
  have kept : ∀ r : ConnectionRegistry, r.Shut ∧ r.Distinct → ∀ call : ConnectionCall, call ≠ .reopen →
      (r.call call).Shut ∧ (r.call call).Distinct :=
    fun r held call keeps => ⟨held.1.call held.2 keeps, held.2.call call⟩
  exact (run_induction kept ⟨shut, distinct⟩ keeps).1

theorem Shut.live_eq (shut : r.Shut) (distinct : r.Distinct) : r.live = [] := by
  rw [List.eq_nil_iff_forall_not_mem]
  rintro ⟨id, line⟩ listed
  have found := (find?_eq_some_iff distinct _ _).mpr ((r.mem_live id line).mp listed)
  have gone := shut.live id
  rw [isLive_eq, found] at gone
  cases gone

theorem Shut.shutDown (shut : r.Shut) (distinct : r.Distinct) (closure : Closure) : (r.shutDown closure).1 = [] := by
  show r.live.map (·.1) = []
  rw [shut.live_eq distinct, List.map_nil]

theorem Distinct.fade_after (distinct : r.Distinct) {id : ConnectionId} {call : ConnectionCall}
    (faded : fades id r call = true) (later : List ConnectionCall)
    (absent : occurrences (registers id) (r.call call) later = 0) : (((r.call call).run later).fade id).1 = false := by
  -- the call found the connection live and left it faded; nothing registers it later
  have first := distinct.isLive_call id call
  have others := (distinct.call call).isLive_run id later
  have silent : (registers id r call).toNat = 0 := by
    cases call with
    | register => exact absurd faded Bool.false_ne_true
    | _ => rfl
  have bound := (r.isLive id).toNat_le
  rw [faded, Bool.toNat_true] at first
  have gone : (((r.call call).run later).isLive id).toNat = 0 := by omega
  rw [fade_live]
  exact Bool.toNat_eq_zero.mp gone

/-- For every run of calls on a registry that is empty at first:

    * each entry is live or faded, and whatever was registered is an entry or was purged;
    * an entry is registered, fades and is purged in this order; a faded one is found until then, and a
      purge takes just the faded ones;
    * a connection is registered exactly if the registry takes any and does not know it; else nothing
      changes;
    * a connection fades exactly if it is live, once for each registration;
    * a shutdown gives the connections that were live and closes their lines, and until the registry is
      opened again there is none to give. -/
theorem life_cycle (policy : BackpressurePolicy) (calls : List ConnectionCall) :
    let r := (empty policy).run calls
    (r.count = r.liveCount + r.fadedCount ∧ r.totalRegistered = r.count + r.totalPurged) ∧
    ((∀ call id, Becomes (r.find? id) ((r.call call).find? id)) ∧
      (∀ id later, r.find? id = some .faded → (∀ call ∈ later, call ≠ .purge) →
        (r.run later).find? id = some .faded) ∧
      r.purge.1 = r.fadedCount ∧ ∀ id, r.purge.2.find? id = (r.find? id).filter (!·.isFaded)) ∧
    (∀ (α : Type) (onRegistered : α → α) (a : α) (id : ConnectionId) (line : Nat),
      let (accepted, b, s) := r.registerThen id line onRegistered a
      (accepted = true ↔ r.accepting = true ∧ r.find? id = none) ∧
      (accepted = true → b = onRegistered a ∧
        ∀ other, s.find? other = if other = id then some (.live line) else r.find? other) ∧
      (accepted = false → b = a ∧ s = r)) ∧
    (∀ id, ((r.fade id).1 = true ↔ r.isLive id = true) ∧
      occurrences (registers id) (empty policy) calls =
        occurrences (fades id) (empty policy) calls + (r.isLive id).toNat ∧
      ∀ call later, fades id r call = true → occurrences (registers id) (r.call call) later = 0 →
        (((r.call call).run later).fade id).1 = false) ∧
    ∀ closure,
      let (given, s) := r.shutDown closure
      given.Nodup ∧ (∀ id, id ∈ given ↔ r.isLive id = true) ∧
      (∀ n, s.line? n =
        (r.line? n).map (Line.closedTimes closure (given.filter fun id => r.liveLine? id == some n).length)) ∧
      ∀ later, (∀ call ∈ later, call ≠ .reopen) → (s.run later).accepting = false ∧
        (∀ id, (s.run later).isLive id = false) ∧ ∀ again, ((s.run later).shutDown again).1 = [] := by
  intro r
  have empty_distinct : (empty policy).Distinct := List.nodup_nil
  have distinct : r.Distinct := empty_distinct.run calls
  have empty_balanced : (empty policy).Balanced := rfl
  refine ⟨⟨r.count_eq, empty_balanced.run calls⟩,
    ⟨distinct.becomes, fun id later faded => faded_run faded, rfl, find?_purge distinct⟩, ?_, ?_, ?_⟩
  · intro α onRegistered a id line
    rw [registerThen_eq]
    refine ⟨r.register_accepted id line, fun accepted => ⟨if_pos accepted, r.find?_register id line accepted⟩,
      fun refused => ⟨?_, ?_⟩⟩
    · exact if_neg (Bool.eq_false_iff.mp refused)
    · exact r.register_refused id line refused
  · intro id
    refine ⟨by rw [fade_live, isLive], ?_, fun call later faded => distinct.fade_after faded later⟩
    have balance := empty_distinct.isLive_run id calls
    exact (Nat.zero_add _).symm.trans balance
  · intro closure
    refine ⟨distinct.nodup_shutDown closure, mem_shutDown distinct closure, distinct.line?_shutDown closure, ?_⟩
    intro later keeps
    have gone := distinct.shutDown closure
    have shut := (r.shut_shutDown closure).run gone keeps
    exact ⟨shut.accepting, shut.live, shut.shutDown (gone.run later)⟩

/-- Of two live connections one has lost its session: a shutdown gives both and closes the line of the other
    one, and a shutdown after a purge gives none. -/
theorem life_cycle_shut_twice :
    let first : ConnectionId := ⟨.fresh 0 1⟩
    let second : ConnectionId := ⟨.fresh 0 2⟩
    let closure : Closure := .of .goingAway "bye"
    let r := (empty {}).run [.openLine first, .openLine second, .register first 0, .register second 1,
      .register first 1, .modifyLine 1 Line.hangUp]
    let (given, s) := r.shutDown closure
    r.totalRegistered = 2 ∧ given = [first, second] ∧
    s.line? 0 = some ⟨first, [.close closure], 0, true, false⟩ ∧ s.line? 1 = some ⟨second, [], 0, false, false⟩ ∧
    ((s.run [.purge, .register first 0]).shutDown closure).1 = [] := by
  intro first second closure r
  obtain ⟨⟨_, balance⟩, _, _, _, shutDown⟩ := life_cycle {} [.openLine first, .openLine second,
    .register first 0, .register second 1, .register first 1, .modifyLine 1 Line.hangUp]
  obtain ⟨_, _, lines, later⟩ := shutDown closure
  obtain ⟨_, _, none⟩ := later [.purge, .register first 0] (by simp)
  exact ⟨balance, by decide, (lines 0).trans (by decide), (lines 1).trans (by decide), none closure⟩

end ConnectionRegistry

end Gateway
