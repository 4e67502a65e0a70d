import Gateway.Proofs.Http.Header
import Gateway.Proofs.Request.Response
import Gateway.Request.Registry

namespace Gateway

open Http (Headers StatusCode)

/-- What was asked of one response, by the host and by the connection. -/
inductive AnswerMove where
  | setStatus (line : String)
  | setHeader (name value : String)
  | write (data : Bytes)
  | tryEnd (data : Bytes) (totalSize : Nat)
  | finish (data : Bytes)
  | abortAll (status : StatusCode)
  | abortWith (status : StatusCode)
  | pollHead
  | pollBody
  deriving DecidableEq, Repr

inductive Reply where
  | status (status : RequestStatus)
  | sent (status : ResponseStatus)
  | head (poll : HeadPoll)
  | body (poll : BodyPoll)
  | done
  deriving DecidableEq, Repr

structure Ledger where
  status : StatusCode
  fields : List (String × Bytes)
  headOut : Bool
  isTaken : Bool
  isAborted : Bool
  accepted : Bytes
  polled : Bytes
  deriving DecidableEq, Repr

namespace Ledger

def start : Ledger := ⟨.ok, [], false, false, false, [], []⟩

def values (l : Ledger) (name : String) : List Bytes := (l.fields.filter (·.1 == name)).map (·.2)

/-- A part of the body is accepted, unless the response was given up before. -/
def send (l : Ledger) (data : Bytes) : Ledger :=
  if l.isAborted then l else { l with accepted := l.accepted ++ data, headOut := true }

def abort (l : Ledger) (status : StatusCode) : Ledger :=
  if l.headOut then { l with isAborted := true }
  else { l with isAborted := true, headOut := true, status := status, fields := [] }

def note (l : Ledger) : AnswerMove → Reply → Ledger
  | .setStatus line, .status .ok =>
    match StatusCode.ofLine? line with
    | some status => { l with status }
    | none => l
  | .setHeader name value, .status .ok =>
    { l with fields := l.fields ++ [(Text.Ascii.lower name, Text.bytes value)] }
  | .write data, .sent .sentNotEnded => l.send data
  | .tryEnd data _, .sent .sentNotEnded => l.send data
  | .tryEnd data _, .sent .sentAndEnded => l.send data
  | .finish data, .sent .sentAndEnded => l.send data
  | .abortAll status, _ => l.abort status
  | .abortWith status, _ => l.abort status
  | .pollHead, .head (.head _) => { l with isTaken := true }
  | .pollBody, .body (.data chunk) => { l with polled := l.polled ++ chunk }
  | _, _ => l

def ofTranscript (transcript : List (AnswerMove × Reply)) : Ledger :=
  transcript.foldl (fun l (move, reply) => l.note move reply) start

def Agrees (l : Ledger) (head : ResponseHead) : Prop :=
  head.status = l.status ∧ ∀ name, head.headers.values name = l.values name

def MatchesHead (l : Ledger) : HeadSlot → Prop
  | .pending head => l.headOut = false ∧ l.isTaken = false ∧ l.Agrees head
  | .ready head => l.headOut = true ∧ l.isTaken = false ∧ l.Agrees head
  | .taken => l.headOut = true ∧ l.isTaken = true
  | .closed => False

/-- A response that is as its account tells. -/
structure Matches (l : Ledger) (response : Response) : Prop where
  receiving : response.receiving = true
  head : l.MatchesHead response.head
  data : l.accepted = l.polled ++ response.chunks.flatten
  queued : response.queued = l.accepted.length
  buffered : response.buffered = response.chunks.flatten.length
  early : l.headOut = false → response.chunks = [] ∧ response.isOpen = true
  aborted : l.isAborted = true → response.isOpen = false

variable {l : Ledger} {response : Response}

theorem matches_start : start.Matches .start := by
  refine ⟨rfl, ⟨rfl, rfl, rfl, fun _ => rfl⟩, rfl, rfl, rfl, fun _ => ⟨rfl, rfl⟩, nofun⟩

theorem Matches.headSent (matched : l.Matches response) : response.headSent = l.headOut := by
  have head := matched.head
  unfold MatchesHead at head
  unfold Response.headSent
  cases slot : response.head <;> simp only [slot] at head ⊢
  case pending => exact head.1.symm
  case ready => exact head.1.symm
  case taken => exact head.1.symm

theorem Matches.headOut_of_closed (matched : l.Matches response) (closed : response.isOpen = false) :
    l.headOut = true := by
  cases out : l.headOut with
  | true => rfl
  | false =>
    cases closed.symm.trans (matched.early out).2

theorem Matches.buffered_add_polled (matched : l.Matches response) :
    response.buffered + l.polled.length = response.queued := by
  rw [matched.queued, matched.buffered, matched.data, List.length_append]
  omega

theorem Matches.polled_prefix (matched : l.Matches response) : l.polled <+: l.accepted :=
  ⟨_, matched.data.symm⟩

theorem Matches.setStatus (matched : l.Matches response) (line : String) :
    (l.note (.setStatus line) (.status (response.setStatus line).1)).Matches (response.setStatus line).2 := by
  have known := matched.head
  unfold Response.setStatus
  cases slot : response.head with
  | pending head =>
    rw [slot] at known
    obtain ⟨out, taken, _, values⟩ := known
    cases read : StatusCode.ofLine? line with
    | none => exact matched
    | some status =>
      simp only [note, read]
      exact ⟨matched.receiving, ⟨out, taken, rfl, values⟩, matched.data, matched.queued, matched.buffered,
        matched.early, matched.aborted⟩
  | ready head | taken | closed => exact matched

theorem values_append_field (l : Ledger) (field : String × Bytes) (name : String) :
    values { l with fields := l.fields ++ [field] } name =
      l.values name ++ if field.1 = name then [field.2] else [] := by
  by_cases same : field.1 = name <;> simp [values, same]

theorem Matches.setHeader (matched : l.Matches response) (name value : String) :
    (l.note (.setHeader name value) (.status (response.setHeader name value).1)).Matches
      (response.setHeader name value).2 := by
  have known := matched.head
  unfold Response.setHeader
  cases slot : response.head with
  | pending head =>
    rw [slot] at known
    obtain ⟨out, taken, status, values⟩ := known
    dsimp only
    split
    · rename_i lower bytes named valued
      have lowered : lower = Text.Ascii.lower name := by
        unfold Http.fieldName? at named
        split at named <;> cases named
        rfl
      have whole : bytes = Text.bytes value := by
        unfold Http.fieldValue? at valued
        split at valued <;> cases valued
        rfl
      subst lowered whole
      have agrees (other : String) :
          (head.headers.append ⟨Text.Ascii.lower name, Text.bytes value⟩).values other =
            Ledger.values { l with fields := l.fields ++ [(Text.Ascii.lower name, Text.bytes value)] } other := by
        rw [Headers.values_append, values_append_field, values]
      exact ⟨matched.receiving, ⟨out, taken, status, agrees⟩, matched.data, matched.queued, matched.buffered,
        matched.early, matched.aborted⟩
    · exact matched
  | ready head | taken | closed => exact matched

theorem Matches.flushHead (matched : l.Matches response) :
    Matches { l with headOut := true } response.flushHead := by
  obtain ⟨head, chunks, isOpen, receiving, buffered, queued, wanted⟩ := response
  obtain ⟨received, known, data, counted, waiting, early, aborted⟩ := matched
  cases head with
  | pending head | ready head | taken =>
    exact ⟨received, ⟨rfl, known.2⟩, data, counted, waiting, nofun, aborted⟩
  | closed => exact known.elim

theorem Matches.push (matched : l.Matches response) (out : l.headOut = true) (isOpen : response.isOpen = true)
    (data : Bytes) : (response.push data).1 = true ∧ (response.push data).2.isOpen = true ∧
      Matches { l with accepted := l.accepted ++ data } (response.push data).2 := by
  have running : l.isAborted = true → False := fun aborted => by
    cases isOpen.symm.trans (matched.aborted aborted)
  cases data with
  | nil =>
    simp only [Response.push, isOpen, List.append_nil]
    exact ⟨rfl, isOpen, matched⟩
  | cons b rest =>
    have pushed : response.push (b :: rest) = (true, { response with
        chunks := response.chunks ++ [b :: rest]
        buffered := response.buffered + (b :: rest).length
        queued := response.queued + (b :: rest).length }) := by
      simp [Response.push, isOpen, matched.receiving]
    rw [pushed]
    refine ⟨rfl, isOpen, matched.receiving, matched.head, ?_, ?_, ?_, fun early => ?_,
      fun aborted => (running aborted).elim⟩
    · simp [matched.data]
    · simp [matched.queued]
    · simp [matched.buffered]
    · cases out.symm.trans early

theorem Matches.write (matched : l.Matches response) (isOpen : response.isOpen = true) (data : Bytes) :
    (response.write data).1 = true ∧ (response.write data).2.isOpen = true ∧
      (l.send data).Matches (response.write data).2 := by
  have running : l.isAborted = false := by
    cases aborted : l.isAborted with
    | false => rfl
    | true => cases isOpen.symm.trans (matched.aborted aborted)
  have opened : response.flushHead.isOpen = true := response.isOpen_flushHead.trans isOpen
  obtain ⟨accepted, still, pushed⟩ := matched.flushHead.push rfl opened data
  refine ⟨accepted, still, ?_⟩
  rw [send, if_neg (by simp [running])]
  exact pushed

theorem Matches.write_closed (matched : l.Matches response) (closed : response.isOpen = false) (data : Bytes) :
    response.write data = (false, response) := by
  have out : response.headSent = true := matched.headSent.trans (matched.headOut_of_closed closed)
  rw [Response.write, Response.flushHead_of_headSent out, Response.push, closed]
  rfl

theorem Matches.finish (matched : l.Matches response) (out : l.headOut = true) : l.Matches response.finish := by
  refine ⟨matched.receiving, matched.head, matched.data, matched.queued, matched.buffered, fun early => ?_,
    fun _ => rfl⟩
  cases out.symm.trans early

theorem Matches.finishWith (matched : l.Matches response) (isOpen : response.isOpen = true) (data : Bytes) :
    (l.send data).Matches (response.finishWith data).2 := by
  obtain ⟨_, _, written⟩ := matched.write isOpen data
  refine written.finish ?_
  unfold send
  split
  · rename_i aborted
    cases isOpen.symm.trans (matched.aborted aborted)
  · rfl

theorem Matches.finishWith_closed (matched : l.Matches response) (closed : response.isOpen = false)
    (data : Bytes) : (response.finishWith data).2 = response := by
  rw [Response.finishWith, matched.write_closed closed data]
  cases response
  cases closed
  rfl

theorem Matches.wantWritable (matched : l.Matches response) : l.Matches response.wantWritable.2 := by
  unfold Response.wantWritable
  split <;>
    exact ⟨matched.receiving, matched.head, matched.data, matched.queued, matched.buffered, matched.early,
      matched.aborted⟩

theorem Matches.abortWith (matched : l.Matches response) (status : StatusCode) :
    (l.abort status).Matches (response.abortWith status) := by
  obtain ⟨head, chunks, isOpen, receiving, buffered, queued, wanted⟩ := response
  obtain ⟨received, known, data, counted, waiting, early, aborted⟩ := matched
  unfold abort
  cases head with
  | pending head =>
    rw [if_neg (by simp [known.1])]
    exact ⟨received, ⟨rfl, known.2.1, rfl, fun _ => rfl⟩, data, counted, waiting, nofun, fun _ => rfl⟩
  | ready head | taken =>
    rw [if_pos known.1]
    refine ⟨received, known, data, counted, waiting, fun early => ?_, fun _ => rfl⟩
    cases known.1.symm.trans early
  | closed => exact known.elim

theorem Matches.pollHead (matched : l.Matches response) :
    (l.note .pollHead (.head response.pollHead.1)).Matches response.pollHead.2 ∧
    (l.headOut = false → response.pollHead.1 = .pending) ∧
    (l.headOut = true → l.isTaken = true → response.pollHead.1 = .closed) ∧
    (l.headOut = true → l.isTaken = false → ∃ head, response.pollHead.1 = .head head ∧ l.Agrees head) := by
  have whole := matched
  obtain ⟨head, chunks, isOpen, receiving, buffered, queued, wanted⟩ := response
  obtain ⟨received, known, data, counted, waiting, early, aborted⟩ := matched
  cases head with
  | pending head =>
    refine ⟨whole, fun _ => rfl, fun out _ => ?_, fun out _ => ?_⟩
    · cases known.1.symm.trans out
    · cases known.1.symm.trans out
  | ready head =>
    refine ⟨⟨received, ⟨known.1, rfl⟩, data, counted, waiting, early, aborted⟩, fun out => ?_, fun _ taken => ?_,
      fun _ _ => ⟨head, rfl, known.2.2⟩⟩
    · cases known.1.symm.trans out
    · cases known.2.1.symm.trans taken
  | taken =>
    refine ⟨whole, fun out => ?_, fun _ _ => rfl, fun _ taken => ?_⟩
    · cases known.1.symm.trans out
    · cases known.2.symm.trans taken
  | closed => exact known.elim

theorem Matches.pollBody (matched : l.Matches response) :
    (l.note .pollBody (.body response.pollBody.1)).Matches response.pollBody.2.2 ∧
    (response.pollBody.1 = .done → l.polled = l.accepted) ∧
    (∀ chunk, response.pollBody.1 = .data chunk → l.headOut = true) := by
  have whole := matched
  obtain ⟨head, chunks, isOpen, receiving, buffered, queued, wanted⟩ := response
  obtain ⟨received, known, data, counted, waiting, early, aborted⟩ := matched
  cases chunks with
  | nil =>
    refine ⟨?_, fun _ => ?_, fun chunk given => ?_⟩
    · cases isOpen <;> exact whole
    · simpa using data.symm
    · cases isOpen <;> cases given
  | cons chunk rest =>
    have out : l.headOut = true := by
      cases pending : l.headOut with
      | true => rfl
      | false => cases (early pending).1
    have next : Matches { l with polled := l.polled ++ chunk }
        ⟨head, rest, isOpen, receiving, buffered - chunk.length, queued, wanted⟩ := by
      refine ⟨received, known, ?_, counted, ?_, fun pending => ?_, aborted⟩
      · simp only [data, List.flatten_cons, List.append_assoc]
      · have sized : buffered = chunk.length + rest.flatten.length := by simpa using waiting
        show buffered - chunk.length = rest.flatten.length
        omega
      · cases out.symm.trans pending
    by_cases drained : buffered - chunk.length = 0 ∧ wanted = true
    · simp only [Response.pollBody, if_pos drained]
      refine ⟨?_, fun ended => ?_, fun _ _ => out⟩
      · exact ⟨next.receiving, next.head, next.data, next.queued, next.buffered, next.early, next.aborted⟩
      · cases ended
    · simp only [Response.pollBody, if_neg drained]
      refine ⟨next, fun ended => ?_, fun _ _ => out⟩
      cases ended

theorem polled_send (l : Ledger) (data : Bytes) : (l.send data).polled = l.polled := by
  unfold send
  split <;> rfl

theorem polled_abort (l : Ledger) (status : StatusCode) : (l.abort status).polled = l.polled := by
  unfold abort
  split <;> rfl

theorem polled_note (l : Ledger) (move : AnswerMove) (reply : Reply) : l.polled <+: (l.note move reply).polled := by
  unfold note
  split
  case h_10 chunk => exact List.prefix_append _ chunk
  case h_1 => split <;> exact List.prefix_refl _
  all_goals first
    | exact List.prefix_refl _
    | exact (l.polled_send _).symm ▸ List.prefix_refl _
    | exact (l.polled_abort _).symm ▸ List.prefix_refl _

end Ledger

end Gateway
