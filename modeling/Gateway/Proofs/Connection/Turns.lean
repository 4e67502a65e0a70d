import Gateway.Connection.Session
import Gateway.Proofs.Connection.Lines
import Gateway.Proofs.Text.Utf8

namespace Gateway

open WebSocket (Closure Message Outbound)
open WebSocket.Outbound (dataFrames total)

namespace WebSocket.Closure

/-- Reads a closure back: two bytes are the code, the high one first, and the others the text. -/
def decode? : Bytes → Option (Option Closure)
  | [] => some none
  | [_] => none
  | high :: low :: reason =>
    (Text.ofBytes? reason).map fun reason => some ⟨.ofNat (256 * high.toNat + low.toNat), reason⟩

theorem ofNat_codeBytes (code : UInt16) :
    UInt16.ofNat (256 * (code >>> 8).toUInt8.toNat + code.toUInt8.toNat) = code := by
  have high : (code >>> 8).toUInt8.toNat = code.toNat / 256 := by
    have small : code.toNat < 65536 := code.toNat_lt
    rw [UInt16.toNat_toUInt8, UInt16.toNat_shiftRight]
    show code.toNat >>> 8 % 256 = code.toNat / 256
    rw [Nat.shiftRight_eq_div_pow]
    omega
  have low : code.toUInt8.toNat = code.toNat % 256 := UInt16.toNat_toUInt8 code
  rw [high, low, Nat.div_add_mod, UInt16.ofNat_toNat]

theorem decode?_closePayload (closure? : Option Closure) : decode? (closePayload closure?) = some closure? := by
  cases closure? with
  | none => rfl
  | some closure =>
    have reason : Text.ofBytes? (Text.bytes closure.reason) = some closure.reason :=
      (Text.ofBytes?_eq_some_iff _ _).mpr rfl
    show (Text.ofBytes? (Text.bytes closure.reason)).map _ = _
    rw [reason, Option.map_some, ofNat_codeBytes]

end WebSocket.Closure

/-- One turn of a session: the session before it, what it noticed and when, and what became of the frame that it
    wrote. -/
structure SessionTurn where
  session : Session
  now : Nat
  event : SessionEvent
  written : Option Nat
  deriving DecidableEq, Repr

namespace SessionTurn

def step (t : SessionTurn) : SessionStep := t.session.step t.now t.event t.written

def frame? (t : SessionTurn) : Option Outbound :=
  match t.event with
  | .outbound frame => some frame
  | _ => none

def closes (t : SessionTurn) : Bool :=
  match t.step.write with
  | some (.close _) => true
  | _ => false

def pings (t : SessionTurn) : Bool :=
  match t.step.write with
  | some (.ping _) => true
  | _ => false

/-- Why the connection ends, as far as the turn tells: the client closes it, or the session starts to. -/
def cause? (t : SessionTurn) : Option (Option Closure) :=
  match t.event with
  | .frame (.close closure?) => some closure?
  | _ =>
    match t.step.write with
    | some (.close closure?) => some closure?
    | _ => none

def Open (t : SessionTurn) : Prop :=
  match t.event with
  | .outbound _ | .abandoned => t.session.takesOutbound = true
  | _ => True

/-- What comes after the start of a close is no other, no ping and no frame of the host. -/
def Apart (a b : SessionTurn) : Prop :=
  a.closes = true → b.closes = false ∧ b.pings = false ∧ b.frame? = none

def taken (turns : List SessionTurn) : List Outbound := turns.filterMap frame?

def delivered (turns : List SessionTurn) : List Outbound := taken (turns.filter (·.written.isSome))

end SessionTurn

namespace Session

variable (s : Session) (now : Nat)

theorem cause_settle (cause : Option Closure) : (s.settle cause).cause = s.cause.or (some cause) := by
  unfold settle
  cases known : s.cause <;> simp [known]

theorem closing_settle (cause : Option Closure) : (s.settle cause).closing = s.closing := by
  unfold settle
  split <;> rfl

theorem startClose_cause (closure : Closure) (written : Option Nat) :
    (s.startClose now closure written).session.cause = s.cause.or (some (some closure)) :=
  cause_settle { s with closing := some now } (some closure)

theorem startClose_closing (closure : Closure) (written : Option Nat) :
    (s.startClose now closure written).session.closing = some now :=
  closing_settle { s with closing := some now } (some closure)

end Session

namespace SessionTurn

inductive Outcome (t : SessionTurn) : SessionStep → Prop where
  | closes (closure : Closure)
      (noticed : t.event = .outbound (.close closure) ∨ t.event = .abandoned ∨
        t.event = .timer ∧ t.session.closing = none) :
      Outcome t (t.session.startClose t.now closure t.written)
  | transmits (frame : Outbound) (noticed : t.event = .outbound frame) (data : frame.isClose = false) (s : Session)
      (cause : s.cause = t.session.cause) (closing : s.closing = t.session.closing) :
      Outcome t ⟨s, t.written.isNone, some frame.message, none, frame.size⟩
  | hears (closure? : Option Closure) (noticed : t.event = .frame (.close closure?)) (s : Session)
      (cause : s.cause = t.session.cause) (closing : s.closing = t.session.closing) :
      Outcome t (s.settle closure?).continues
  | echoes (message : Message) (noticed : t.event = .frame message) (data : message.isControl = false) (s : Session)
      (cause : s.cause = t.session.cause) (closing : s.closing = t.session.closing) :
      Outcome t ⟨s, t.written.isNone, some message, if t.written.isSome then some message.payload else none, 0⟩
  | pings (noticed : t.event = .timer) (running : t.session.closing = none) (s : Session)
      (cause : s.cause = t.session.cause) (closing : s.closing = t.session.closing) :
      Outcome t ⟨s, t.written.isNone, some (.ping []), none, 0⟩
  | rests (quiet : t.frame? = none) (other : ∀ closure?, t.event ≠ .frame (.close closure?)) (s : Session)
      (cause : s.cause = t.session.cause) (closing : s.closing = t.session.closing) (message : Option Bytes) :
      Outcome t ⟨s, false, none, message, 0⟩
  | ends (quiet : t.frame? = none) (other : ∀ closure?, t.event ≠ .frame (.close closure?)) :
      Outcome t t.session.ends

theorem outcome (t : SessionTurn) : t.Outcome t.step := by
  obtain ⟨session, now, event, written⟩ := t
  cases event with
  | frame message =>
    have quiet : frame? ⟨session, now, .frame message, written⟩ = none := rfl
    let heard : Session := { session with lastActivity := now, pingSent := false }
    cases message with
    | text data | binary data =>
      unfold step Session.step Session.receive
      dsimp only
      split
      · exact .echoes _ rfl rfl _ rfl rfl
      · exact .rests quiet nofun heard rfl rfl _
    | close closure? => exact .hears closure? rfl _ rfl rfl
    | ping | pong => exact .rests quiet nofun heard rfl rfl none
  | readEnd => exact .ends rfl nofun
  | outbound frame =>
    cases frame with
    | close closure => exact .closes closure (.inl rfl)
    | text | binary => exact .transmits _ rfl rfl _ rfl rfl
  | abandoned => exact .closes Session.shuttingDown (.inr (.inl rfl))
  | timer =>
    have quiet : frame? ⟨session, now, .timer, written⟩ = none := rfl
    unfold step Session.step Session.wake
    dsimp only
    by_cases closing : session.closing.isSome = true
    · rw [if_pos closing]
      exact .ends quiet nofun
    · rw [if_neg closing]
      have running : session.closing = none := Option.not_isSome_iff_eq_none.mp closing
      split
      · exact .closes _ (.inr (.inr ⟨rfl, running⟩))
      · split
        · exact .closes _ (.inr (.inr ⟨rfl, running⟩))
        · split
          · exact .rests quiet nofun session rfl rfl _
          · exact .pings rfl running _ rfl rfl

variable {t : SessionTurn}

theorem cause_step (t : SessionTurn) : t.step.session.cause = t.session.cause.or t.cause? := by
  have out := t.outcome
  have nothing {s : Session} (cause : s.cause = t.session.cause) : s.cause = t.session.cause.or none :=
    cause.trans (Option.or_none ..).symm
  unfold cause?
  generalize t.step = step at *
  cases out with
  | closes closure noticed =>
    rw [Session.startClose_cause]
    rcases noticed with same | same | ⟨same, _⟩ <;> rw [same] <;> rfl
  | transmits frame noticed data s cause closing =>
    rw [noticed]
    cases frame with
    | close => cases data
    | text | binary => exact nothing cause
  | hears closure? noticed s cause closing =>
    rw [noticed]
    exact (s.cause_settle closure?).trans (by rw [cause])
  | echoes message noticed data s cause closing =>
    rw [noticed]
    cases message with
    | text | binary => exact nothing cause
    | _ => cases data
  | pings noticed running s cause closing =>
    rw [noticed]
    exact nothing cause
  | rests quiet other s cause closing message =>
    split
    · rename_i closure? same
      exact absurd same (other closure?)
    · exact nothing cause
  | ends quiet other =>
    split
    · rename_i closure? same
      exact absurd same (other closure?)
    · exact nothing rfl

theorem closing_step (t : SessionTurn) :
    t.step.session.closing.isSome = (t.session.closing.isSome || t.closes) := by
  have out := t.outcome
  have goesOn {s : Session} (closing : s.closing = t.session.closing) :
      s.closing.isSome = (t.session.closing.isSome || false) := by
    rw [closing, Bool.or_false]
  unfold closes
  generalize t.step = step at *
  cases out with
  | closes closure noticed =>
    rw [Session.startClose_closing]
    exact (Bool.or_true _).symm
  | transmits frame noticed data s cause closing =>
    cases frame with
    | close => cases data
    | text | binary => exact goesOn closing
  | hears closure? noticed s cause closing => exact goesOn ((s.closing_settle closure?).trans closing)
  | echoes message noticed data s cause closing =>
    cases message with
    | text | binary => exact goesOn closing
    | _ => cases data
  | pings noticed running s cause closing => exact goesOn closing
  | rests quiet other s cause closing message => exact goesOn closing
  | ends quiet other => exact goesOn rfl

theorem quiet_of_closing (isOpen : t.Open) (closing : t.session.closing.isSome = true) :
    t.closes = false ∧ t.pings = false ∧ t.frame? = none := by
  have shut : t.session.takesOutbound = false := Option.isNone_eq_false_iff.mpr closing
  have out := t.outcome
  unfold Open at isOpen
  unfold closes pings frame?
  generalize t.step = step at *
  cases out with
  | closes closure noticed =>
    rcases noticed with same | same | ⟨_, running⟩
    · rw [same] at isOpen
      cases shut.symm.trans isOpen
    · rw [same] at isOpen
      cases shut.symm.trans isOpen
    · rw [running] at closing
      cases closing
  | transmits frame noticed data s cause _ =>
    rw [noticed] at isOpen
    cases shut.symm.trans isOpen
  | hears closure? noticed s cause _ =>
    rw [noticed]
    exact ⟨rfl, rfl, rfl⟩
  | echoes message noticed data s cause _ =>
    rw [noticed]
    cases message with
    | text | binary => exact ⟨rfl, rfl, rfl⟩
    | _ => cases data
  | pings noticed running s cause _ =>
    rw [running] at closing
    cases closing
  | rests quiet other s cause _ message => exact ⟨rfl, rfl, quiet⟩
  | ends quiet other => exact ⟨rfl, rfl, quiet⟩

theorem flushed_step (t : SessionTurn) : t.step.flushed = total (dataFrames t.frame?.toList) := by
  have out := t.outcome
  unfold frame?
  generalize t.step = step at *
  cases out with
  | closes closure noticed => rcases noticed with same | same | ⟨same, _⟩ <;> rw [same] <;> rfl
  | transmits frame noticed data s cause closing =>
    rw [noticed]
    show frame.size = total (dataFrames [frame])
    rw [WebSocket.Outbound.dataFrames_single data]
    exact (Nat.add_zero _).symm
  | hears closure? noticed | echoes message noticed | pings noticed =>
    rw [noticed]
    rfl
  | rests quiet | ends quiet =>
    unfold frame? at quiet
    rw [quiet]
    rfl

theorem write_step {frame : Outbound} (took : t.frame? = some frame) : t.step.write = some frame.message := by
  have out := t.outcome
  generalize t.step = step at *
  unfold frame? at took
  cases out with
  | closes closure noticed =>
    rcases noticed with same | same | ⟨same, _⟩ <;> rw [same] at took <;> cases took
    rfl
  | transmits other noticed =>
    rw [noticed] at took
    cases took
    rfl
  | hears closure? noticed | echoes message noticed | pings noticed =>
    rw [noticed] at took
    cases took
  | rests quiet | ends quiet => cases quiet.symm.trans took

theorem isOver_of_lost (writes : t.step.write ≠ none) (lost : t.written = none) : t.step.isOver = true := by
  have out := t.outcome
  generalize t.step = step at *
  cases out with
  | closes closure noticed => exact Option.isNone_iff_eq_none.mpr lost
  | transmits | echoes | pings => exact Option.isNone_iff_eq_none.mpr lost
  | hears | rests | ends => exact absurd rfl writes

theorem message_of_isOver (last : t.step.isOver = true) : t.step.message = none := by
  have out := t.outcome
  generalize t.step = step at *
  cases out with
  | closes | transmits | pings | ends => rfl
  | hears | rests => cases last
  | echoes message noticed data s cause closing =>
    have lost : t.written.isSome = false := by simpa using last
    simp [lost]

theorem taken_append (first second : List SessionTurn) : taken (first ++ second) = taken first ++ taken second :=
  List.filterMap_append

theorem taken_single (t : SessionTurn) : taken [t] = t.frame?.toList := by
  unfold taken
  cases took : t.frame? <;> simp [took]

theorem countP_closes_le {turns : List SessionTurn} (apart : turns.Pairwise Apart) : turns.countP closes ≤ 1 := by
  induction apart with
  | nil => exact Nat.zero_le 1
  | @cons first rest later _ ih =>
    cases closing : first.closes with
    | false => rwa [List.countP_cons_of_neg (by simp [closing])]
    | true =>
      have none : rest.countP closes = 0 :=
        List.countP_eq_zero.mpr fun t within => by simp [(later t within closing).1]
      exact Nat.le_of_eq (by rw [List.countP_cons_of_pos closing, none])

theorem takeWhile_taken {turns : List SessionTurn} (apart : turns.Pairwise Apart) :
    (taken turns).takeWhile (!·.isClose) = dataFrames (taken turns) := by
  induction apart with
  | nil => rfl
  | @cons first rest later _ ih =>
    rw [show first :: rest = [first] ++ rest from rfl, taken_append, taken_single]
    cases took : first.frame? with
    | none => exact ih
    | some frame =>
      show (frame :: taken rest).takeWhile _ = dataFrames (frame :: taken rest)
      unfold dataFrames at *
      cases close : frame.isClose with
      | false => rw [List.takeWhile_cons_of_pos (by simp [close]), ih, List.filter_cons_of_pos (by simp [close])]
      | true =>
        have closes : first.closes = true := by
          unfold SessionTurn.closes
          rw [write_step took]
          cases frame with
          | close => rfl
          | text | binary => cases close
        have none : taken rest = [] := List.filterMap_eq_nil_iff.mpr fun t within => (later t within closes).2.2
        rw [none]
        simp [close]

theorem dataFrames_taken {turns : List SessionTurn} {posted : List Outbound} (apart : turns.Pairwise Apart)
    (inOrder : taken turns <+: posted) : dataFrames (taken turns) <+: posted.takeWhile (!·.isClose) := by
  obtain ⟨rest, rfl⟩ := inOrder
  rw [← takeWhile_taken apart, List.takeWhile_append]
  split
  · exact (List.takeWhile_prefix _).trans (List.prefix_append _ _)
  · exact List.prefix_rfl

theorem delivered_append (first second : List SessionTurn) :
    delivered (first ++ second) = delivered first ++ delivered second := by
  rw [delivered, List.filter_append, taken_append]
  rfl

theorem delivered_eq_taken {turns : List SessionTurn} (going : ∀ t ∈ turns, t.step.isOver = false) :
    delivered turns = taken turns := by
  induction turns with
  | nil => rfl
  | cons t rest ih =>
    obtain ⟨first, others⟩ := List.forall_mem_cons.mp going
    rw [show t :: rest = [t] ++ rest from rfl, delivered_append, taken_append, ih others]
    refine congrArg (· ++ taken rest) ?_
    cases written : t.written with
    | some time => rw [delivered, List.filter_cons_of_pos (by rw [written]; rfl), List.filter_nil]
    | none =>
      rw [delivered, List.filter_cons_of_neg (by rw [written]; exact Bool.false_ne_true), List.filter_nil, taken_single]
      cases took : t.frame? with
      | none => rfl
      | some frame =>
        have last : t.step.isOver = true :=
          isOver_of_lost (by rw [write_step took]; exact Option.some_ne_none _) written
        cases first.symm.trans last

theorem delivered_prefix (turns : List SessionTurn) (last : SessionTurn)
    (going : ∀ t ∈ turns, t.step.isOver = false) : delivered (turns ++ [last]) <+: taken (turns ++ [last]) := by
  rw [delivered_append, taken_append, delivered_eq_taken going, delivered, List.filter_singleton]
  cases last.written.isSome with
  | true => exact List.prefix_rfl
  | false => exact (List.prefix_append_right_inj _).mpr List.nil_prefix

end SessionTurn

namespace Session

open SessionTurn (Apart taken)

/-- A session takes turns, each of them where the one before left it. -/
inductive Takes (first : Session) : List SessionTurn → Session → Prop where
  | nil : Takes first [] first
  | snoc {turns : List SessionTurn} {t : SessionTurn} (before : Takes first turns t.session) (isOpen : t.Open) :
      Takes first (turns ++ [t]) t.step.session

variable {config : SessionConfig} {since : Nat} {turns : List SessionTurn} {s : Session}

theorem Takes.closing (takes : (start config since).Takes turns s) : s.closing.isSome = turns.any (·.closes) := by
  induction takes with
  | nil => rfl
  | @snoc turns t _ _ ih => rw [t.closing_step, ih, List.any_append, List.any_cons, List.any_nil, Bool.or_false]

theorem Takes.cause (takes : (start config since).Takes turns s) : s.cause = turns.findSome? (·.cause?) := by
  induction takes with
  | nil => rfl
  | @snoc turns t _ _ ih =>
    have last : [t].findSome? (·.cause?) = t.cause? := by
      rw [List.findSome?_cons]
      cases t.cause? <;> rfl
    rw [t.cause_step, ih, List.findSome?_append, last]

theorem Takes.apart (takes : (start config since).Takes turns s) : turns.Pairwise Apart := by
  induction takes with
  | nil => exact .nil
  | @snoc turns t before isOpen ih =>
    refine List.pairwise_append.mpr ⟨ih, List.pairwise_singleton _ _, fun earlier within last here closes => ?_⟩
    rw [List.mem_singleton.mp here]
    refine SessionTurn.quiet_of_closing isOpen ?_
    rw [before.closing]
    exact List.any_eq_true.mpr ⟨earlier, within, closes⟩

theorem Takes.reported (takes : (start config since).Takes turns s) :
    Closure.decode? s.closePayload = some ((turns.findSome? (·.cause?)).getD (some ⟨1006, ""⟩)) := by
  unfold closePayload
  rw [takes.cause]
  cases turns.findSome? (·.cause?) with
  | none => exact Closure.decode?_closePayload (some ⟨1006, ""⟩)
  | some closure? => exact Closure.decode?_closePayload closure?

end Session

end Gateway
