import Gateway.Metrics
import Mathlib.Algebra.BigOperators.Group.List.Basic
import Mathlib.Algebra.Ring.Int.Defs

namespace Gateway

namespace Measurement

def queued? : Measurement → Option (EventKind × Bool)
  | eventQueued kind truncated => some (kind, truncated)
  | _ => none

def sent? : Measurement → Option SendStatus
  | messageSent status => some status
  | _ => none

def isRequest : Measurement → Bool
  | requestTaken verb => verb != some .ws
  | _ => false

def opening : Measurement → Int
  | connectionOpened => 1
  | connectionClosed => -1
  | _ => 0

/-- Measurements account for events that were queued, for the number of sessions that begin less that of those
    that end, and for the outcomes of sending, in order. -/
structure Balanced (log : List Measurement) (events : List Envelope) (opened : Int) (sent : List SendStatus) :
    Prop where
  queued : log.filterMap queued? = events.map fun x => (x.kind, x.truncated)
  requests : log.countP isRequest = events.countP (·.kind = .requestStart)
  opened : (log.map opening).sum = opened
  sent : log.filterMap sent? = sent

theorem Balanced.nil : Balanced [] [] 0 [] := ⟨rfl, rfl, rfl, rfl⟩

theorem Balanced.append {log log' : List Measurement} {events events' : List Envelope} {opened opened' : Int}
    {sent sent' : List SendStatus} (first : Balanced log events opened sent)
    (second : Balanced log' events' opened' sent') :
    Balanced (log ++ log') (events ++ events') (opened + opened') (sent ++ sent') where
  queued := by rw [List.filterMap_append, List.map_append, first.queued, second.queued]
  requests := by rw [List.countP_append, List.countP_append, first.requests, second.requests]
  opened := by rw [List.map_append, List.sum_append, first.opened, second.opened]
  sent := by rw [List.filterMap_append, first.sent, second.sent]

theorem Balanced.sent_statuses (statuses : List SendStatus) :
    Balanced (statuses.map messageSent) [] 0 statuses := by
  induction statuses with
  | nil => exact .nil
  | cons status rest ih =>
    have one : Balanced [messageSent status] [] 0 [status] := ⟨rfl, rfl, rfl, rfl⟩
    exact one.append ih

end Measurement

namespace Series

/-- The total of a series, which is nothing as long as nothing was measured for it. -/
def total (series : Series) (log : List Measurement) : Int := (series.total? log).getD 0

theorem total_eq_sum (series : Series) (log : List Measurement) :
    series.total log = (log.filterMap series.change?).sum := by
  unfold total total?
  cases log.filterMap series.change? with
  | nil => rfl
  | cons change changes => exact (List.sum_eq_foldl).symm

theorem total_cons (series : Series) (m : Measurement) (log : List Measurement) :
    series.total (m :: log) = (series.change? m).getD 0 + series.total log := by
  simp only [total_eq_sum, List.filterMap_cons]
  cases series.change? m with
  | none => exact (Int.zero_add _).symm
  | some change => exact List.sum_cons

variable (log : List Measurement)

theorem total_eventsQueued (kind : EventKind) : (eventsQueued kind).total log =
    ((log.filterMap Measurement.queued?).countP (·.1 = kind) : Nat) := by
  induction log with
  | nil => rfl
  | cons m log ih =>
    rw [total_cons, ih]
    cases m with
    | eventQueued kind' truncated =>
      by_cases same : kind = kind' <;> simp [change?, Measurement.queued?, same, eq_comm, Int.add_comm]
    | _ => exact Int.zero_add _

theorem total_payloadTruncations : payloadTruncations.total log =
    ((log.filterMap Measurement.queued?).countP (·.2) : Nat) := by
  induction log with
  | nil => rfl
  | cons m log ih =>
    rw [total_cons, ih]
    cases m with
    | eventQueued kind truncated => cases truncated <;> simp [change?, Measurement.queued?, Int.add_comm]
    | _ => exact Int.zero_add _

theorem total_connectionsOpen : connectionsOpen.total log = (log.map Measurement.opening).sum := by
  induction log with
  | nil => rfl
  | cons m log ih =>
    rw [total_cons, ih, List.map_cons, List.sum_cons]
    cases m <;> rfl

theorem total_messagesSent (status : SendStatus) : (messagesSent status).total log =
    ((log.filterMap Measurement.sent?).count status : Nat) := by
  induction log with
  | nil => rfl
  | cons m log ih =>
    rw [total_cons, ih]
    cases m with
    | messageSent status' =>
      by_cases same : status = status'
      · simp [change?, Measurement.sent?, same, Int.add_comm]
      · simp [change?, Measurement.sent?, same, Ne.symm same]
    | _ => exact Int.zero_add _

theorem sum_total_cons {α : Type} (labels : List α) (series : α → Series) (m : Measurement) :
    (labels.map fun label => (series label).total (m :: log)).sum =
      (labels.map fun label => ((series label).change? m).getD 0).sum +
        (labels.map fun label => (series label).total log).sum := by
  simp only [total_cons, List.sum_map_add]

theorem sum_messagesSent : (SendStatus.all.map fun status => (messagesSent status).total log).sum =
    ((log.filterMap Measurement.sent?).length : Nat) := by
  induction log with
  | nil => rfl
  | cons m log ih =>
    rw [sum_total_cons, ih]
    cases m with
    | messageSent status =>
      have one : (SendStatus.all.map fun label => ((messagesSent label).change? (.messageSent status)).getD 0).sum = 1 := by
        cases status <;> rfl
      rw [one]
      exact Int.add_comm _ _
    | _ => exact Int.zero_add _

/-- The labels under which requests are counted that the host is to answer. -/
def requestLabels : List (Option Verb) := (none :: Verb.all.map some).filter (· != some .ws)

theorem sum_requests : (requestLabels.map fun verb => (requests verb).total log).sum =
    (log.countP Measurement.isRequest : Nat) := by
  induction log with
  | nil => rfl
  | cons m log ih =>
    rw [sum_total_cons, ih, List.countP_cons, Int.natCast_add, Int.add_comm]
    refine congrArg _ ?_
    cases m with
    | requestTaken verb =>
      cases verb with
      | none => rfl
      | some verb => cases verb <;> rfl
    | _ => rfl

end Series

end Gateway
