import Gateway.Named

namespace Gateway

inductive SendStatus where
  | success
  | backpressure
  | dropped
  | notFound
  deriving DecidableEq, Repr

namespace SendStatus

def all : List SendStatus := [success, backpressure, dropped, notFound]

def name : SendStatus → String
  | success => "success"
  | backpressure => "backpressure"
  | dropped => "dropped"
  | notFound => "not_found"

def code : SendStatus → Int
  | success => 0
  | backpressure => 1
  | dropped => 2
  | notFound => 3

def isDelivered : SendStatus → Bool
  | success | backpressure => true
  | dropped | notFound => false

end SendStatus

instance : Named SendStatus where
  all := SendStatus.all
  name := SendStatus.name
  mem_all := by intro a; cases a <;> decide
  name_injective := by intro a b; cases a <;> cases b <;> decide

/-- The answer to sending one message to every connection. -/
inductive BroadcastStatus where
  | success
  /-- At least one connection did not get the message. -/
  | dropped
  | noRecipients
  deriving DecidableEq, Repr

namespace BroadcastStatus

def all : List BroadcastStatus := [success, dropped, noRecipients]

def name : BroadcastStatus → String
  | success => "success"
  | dropped => "dropped"
  | noRecipients => "no_recipients"

def code : BroadcastStatus → Int
  | success => 0
  | dropped => 1
  | noRecipients => 2

def merge : BroadcastStatus → SendStatus → BroadcastStatus
  | dropped, _ => dropped
  | _, status => if status.isDelivered then success else dropped

end BroadcastStatus

instance : Named BroadcastStatus where
  all := BroadcastStatus.all
  name := BroadcastStatus.name
  mem_all := by intro a; cases a <;> decide
  name_injective := by intro a b; cases a <;> cases b <;> decide

inductive ResponseStatus where
  | noSuchRequest
  | notSent
  | sentNotEnded
  | sentAndEnded
  deriving DecidableEq, Repr

namespace ResponseStatus

def all : List ResponseStatus := [noSuchRequest, notSent, sentNotEnded, sentAndEnded]

def name : ResponseStatus → String
  | noSuchRequest => "no_such_request"
  | notSent => "not_sent"
  | sentNotEnded => "sent_not_ended"
  | sentAndEnded => "sent_and_ended"

/-- The code of a status: bit 0 tells that data was sent, bit 1 that the response has ended. -/
def code : ResponseStatus → Int
  | noSuchRequest => -1
  | notSent => 0
  | sentNotEnded => 1
  | sentAndEnded => 3

def isSent : ResponseStatus → Bool
  | sentNotEnded | sentAndEnded => true
  | noSuchRequest | notSent => false

def isEnded : ResponseStatus → Bool
  | sentAndEnded => true
  | noSuchRequest | notSent | sentNotEnded => false

end ResponseStatus

instance : Named ResponseStatus where
  all := ResponseStatus.all
  name := ResponseStatus.name
  mem_all := by intro a; cases a <;> decide
  name_injective := by intro a b; cases a <;> cases b <;> decide

/-- The answer to setting a part of the head of a response. -/
inductive RequestStatus where
  | ok
  | noSuchRequest
  | headersSent
  | invalidValue
  deriving DecidableEq, Repr

namespace RequestStatus

def all : List RequestStatus := [ok, noSuchRequest, headersSent, invalidValue]

def name : RequestStatus → String
  | ok => "ok"
  | noSuchRequest => "no_such_request"
  | headersSent => "headers_sent"
  | invalidValue => "invalid_value"

def code : RequestStatus → Int
  | ok => 0
  | noSuchRequest => 1
  | headersSent => 2
  | invalidValue => 3

end RequestStatus

instance : Named RequestStatus where
  all := RequestStatus.all
  name := RequestStatus.name
  mem_all := by intro a; cases a <;> decide
  name_injective := by intro a b; cases a <;> cases b <;> decide

end Gateway
