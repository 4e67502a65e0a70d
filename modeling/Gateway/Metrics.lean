import Gateway.Event
import Gateway.Status
import Gateway.Verb

namespace Gateway

inductive Measurement where
  | eventQueued (kind : EventKind) (truncated : Bool)
  | connectionOpened
  | connectionClosed
  | messageSent (status : SendStatus)
  /-- A request was taken, under a verb if its method has one. -/
  | requestTaken (verb : Option Verb)
  deriving DecidableEq, Repr

inductive Series where
  | eventsQueued (kind : EventKind)
  | payloadTruncations
  | connectionsOpen
  | messagesSent (status : SendStatus)
  | requests (verb : Option Verb)
  deriving DecidableEq, Repr

namespace Series

def all : List Series :=
  EventKind.all.map eventsQueued ++ [payloadTruncations, connectionsOpen] ++
    SendStatus.all.map messagesSent ++ Verb.all.map (requests ∘ some) ++ [requests none]

def name : Series → String
  | eventsQueued _ => "pylon_events_queued_total"
  | payloadTruncations => "pylon_payload_truncations_total"
  | connectionsOpen => "pylon_connections_open"
  | messagesSent _ => "pylon_messages_sent_total"
  | requests _ => "pylon_requests_total"

def label? : Series → Option (String × String)
  | eventsQueued kind => some ("kind", kind.name)
  | payloadTruncations | connectionsOpen => none
  | messagesSent status => some ("status", status.name)
  | requests (some verb) => some ("verb", verb.name)
  | requests none => some ("verb", "OTHER")

def text (series : Series) : String :=
  match series.label? with
  | some (label, value) => series.name ++ "\x7b" ++ label ++ "=" ++ value ++ "\x7d"
  | none => series.name

def change? : Series → Measurement → Option Int
  | eventsQueued kind, .eventQueued kind' _ => if kind = kind' then some 1 else none
  | payloadTruncations, .eventQueued _ true => some 1
  | connectionsOpen, .connectionOpened => some 1
  | connectionsOpen, .connectionClosed => some (-1)
  | messagesSent status, .messageSent status' => if status = status' then some 1 else none
  | requests verb, .requestTaken verb' => if verb = verb' then some 1 else none
  | _, _ => none

def total? (series : Series) (log : List Measurement) : Option Int :=
  match log.filterMap series.change? with
  | [] => none
  | changes => some (changes.foldl (· + ·) 0)

def descriptions : List (String × Bool × String) :=
  [("pylon_events_queued_total", false, "Total envelopes pushed onto the deferred queue by kind"),
    ("pylon_connections_open", true, "Number of live WebSocket connections"),
    ("pylon_messages_sent_total", false, "Total WebSocket messages sent by outcome"),
    ("pylon_requests_total", false, "Total HTTP requests handed to the host"),
    ("pylon_payload_truncations_total", false,
      "Total envelope payloads truncated to the configured maximum")]

end Series

def Measurement.totals (log : List Measurement) : List (Series × Int) :=
  Series.all.filterMap fun series => (series.total? log).map fun total => (series, total)

end Gateway
