import Gateway.Proofs.Abi.Deployed
import Gateway.Proofs.Abi.NextEvent
import Gateway.Proofs.Id.Spelling
import Gateway.Proofs.Server.Subject

namespace Gateway

theorem Envelope.isNothing_of_id {x : Envelope} {id : Uuid} (carries : x.id = id.text) : x.isNothing = false := by
  rw [isNothing, carries, beq_eq_false_iff_ne.mpr (Uuid.serverId_ne_text id).symm, Bool.and_false]

namespace Abi

namespace TextPointer

variable {pointer : TextPointer}

theorem read_of_text? {s : String} (spelt : pointer.text? = some s) (argument : String) :
    pointer.read argument = .ok s := by
  obtain ⟨bytes, rfl, read⟩ := Option.bind_eq_some_iff.mp spelt
  rw [TextPointer.read, read]

theorem readUuid_of_text? {id : Uuid} (spelt : pointer.text? = some id.text) (argument : String) :
    pointer.readUuid argument = .ok id := by
  rw [readUuid, read_of_text? spelt]
  dsimp only
  rw [Uuid.read_text]
  rfl

end TextPointer

namespace EventRecord

variable {r after : EventRecord} {x : Envelope} {id : Uuid}

theorem Shows.whole_id (shows : r.Shows after x) (carries : x.id = id.text) :
    after.id = Text.bytes x.id ++ 0 :: r.id.drop 37 ∧
      (after.truncated = true ↔ x.truncated = true ∨ r.payloadCapacity < x.payload.length) ∧
      TextPointer.text? (some after.id) = some id.text := by
  have length : (Text.bytes x.id).length = 36 := by rw [carries, id.length_bytes_text]
  refine ⟨?_, ?_, ?_⟩
  · rw [shows.id, length, List.take_of_length_le (by omega)]
    rfl
  · rw [shows.truncated, length]
    simp
  · rw [← carries]
    exact shows.text?_id (by omega) (carries ▸ id.zero_not_mem_bytes_text)

end EventRecord

namespace Host

def FrameKind.send (s : Server) (id : ConnectionId) (data : Bytes) : FrameKind → SendStatus × Server
  | text => s.sendText id data
  | binary => s.sendBinary id data
  | compressedText => s.sendCompressedText id data

/-- Every call that is given a text for an identifier does with its other arguments, if they are good, what the server
    does for that identifier. -/
structure Reaches (h : Host) (pointer : ServerPointer) (s : Server) (text : TextPointer) (id : Uuid) : Prop where
  send : ∀ data length kind bytes, DataPointer.read data length = .ok bytes →
    h.send pointer text data length kind = h.run (.ok (FrameKind.send s ⟨id⟩ bytes kind))
  disconnect : h.disconnect pointer text = h.run (.ok (s.disconnect ⟨id⟩))
  hasRequest : h.hasRequest pointer text = (s.hasRequest ⟨id⟩, h)
  copyField : ∀ argument part buffer, FieldArgument.read argument = .ok part →
    let copy := s.copyRequestField ⟨id⟩ part buffer
    h.copyField pointer text argument (some buffer) = ((copy.1, some copy.2), h)
  write : ∀ data length bytes, DataPointer.read data length = .ok bytes →
    h.write pointer text data length = h.run (.ok (s.write ⟨id⟩ bytes))
  finish : ∀ data length bytes, DataPointer.read data length = .ok bytes →
    h.finish pointer text data length = h.run (.ok (s.finish ⟨id⟩ bytes))
  tryEnd : ∀ data length totalSize bytes, DataPointer.read data length = .ok bytes →
    h.tryEnd pointer text data length totalSize = h.run (.ok (s.tryEnd ⟨id⟩ bytes totalSize))
  setStatus : ∀ line status, TextPointer.read line "status" = .ok status →
    h.setStatus pointer text line = h.run (.ok (s.setStatus ⟨id⟩ status))
  setHeader : ∀ name value field content, TextPointer.read name "name" = .ok field →
    TextPointer.read value "value" = .ok content →
    h.setHeader pointer text name value = h.run (.ok (s.setHeader ⟨id⟩ field content))

theorem reaches {h : Host} {pointer : ServerPointer} {s : Server} {text : TextPointer} {id : Uuid}
    (held : h.server? pointer = some s) (spelt : text.text? = some id.text) : h.Reaches pointer s text id := by
  have found : h.resolve pointer = .ok s := by rw [resolve, held]
  have connection : text.readConnectionId "connection_id" = .ok ⟨id⟩ := by
    rw [TextPointer.readConnectionId_eq, TextPointer.readUuid_of_text? spelt]
    rfl
  have request : text.readRequestId "request_id" = .ok ⟨id⟩ := by
    rw [TextPointer.readRequestId_eq, TextPointer.readUuid_of_text? spelt]
    rfl
  have target : h.target pointer text = .ok (s, ⟨id⟩) := by
    simp only [Host.target, found, request]
    rfl
  constructor
  case send =>
    intro data length kind bytes given
    simp only [send, found, connection, given]
    cases kind <;> rfl
  case disconnect =>
    simp only [disconnect, found, connection]
    rfl
  case hasRequest =>
    simp only [hasRequest, found, request]
    rfl
  case copyField => exact fun argument part buffer asked => copyField_good held request asked buffer
  case write =>
    intro data length bytes given
    simp only [write, withBody, target, given]
    rfl
  case finish =>
    intro data length bytes given
    simp only [finish, withBody, target, given]
    rfl
  case tryEnd =>
    intro data length totalSize bytes given
    simp only [tryEnd, withBody, target, given]
    rfl
  case setStatus =>
    intro line status given
    simp only [setStatus, target, given]
    rfl
  case setHeader =>
    intro name value field content named given
    simp only [setHeader, target, named, given]
    rfl

/-- What the interface and the server make of an identifier.

    Its text has 36 characters and is that of no other. A text is read as it exactly if that is its text, this in braces
    or after `urn:uuid:`, or the bare digits, in any case; and its JSON, which is its text in quotes, is read as it.

    Every server that a host holds, after any calls and any work of the tasks beside it, is that of a run. For every run
    of a server with its tasks, the log has all the events that were ever queued, in order, each with what it is about.
    An event carries the text of that subject, and of all that the server has entered at any later time, each once, none
    but the subject goes by that text. If the event is about a connection or a request, its identifier finds that
    subject, as long as it is entered, and finds nothing among the others. If a host takes the event, the record has the
    whole text and a zero byte behind it, and only the payload may be cut. And the text in the record, given to any call
    about any server, means that identifier. -/
theorem identifiers_lead_back :
    (∀ id : Uuid, id.text.length = 36 ∧ (∀ other : Uuid, id.text = other.text ↔ id = other) ∧
      (∀ s, (ConnectionId.read s = .ok ⟨id⟩ ↔ id.SpelledBy s) ∧ (RequestId.read s = .ok ⟨id⟩ ↔ id.SpelledBy s)) ∧
      ((ConnectionId.mk id).json.text = "\"" ++ id.text ++ "\"" ∧
        (Json.read? (ConnectionId.mk id).json.text).bind ConnectionId.ofJson? = some ⟨id⟩) ∧
      ((RequestId.mk id).json.text = "\"" ++ id.text ++ "\"" ∧
        (Json.read? (RequestId.mk id).json.text).bind RequestId.ofJson? = some ⟨id⟩)) ∧
    (∀ (moves : List EmbeddingMove) s, (Embedding.start.run moves).host.server = some s →
      ∃ config course, ((Deployment.create config).run course).server = s) ∧
    ∀ (config : ServerConfig) (moves later : List DeploymentMove),
      let log := (Deployment.create config).log moves
      let d := (Deployment.create config).run moves
      let t := d.run later
      log.map Prod.snd = d.history ∧ t.entries.Nodup ∧
      ∀ subject x, (subject, x) ∈ log →
        (x.id = subject.text ∧ x.kind ∈ subject.kinds) ∧
        (∀ entry ∈ t.entries, entry.text = x.id ↔ entry = subject) ∧
        ∀ id, subject.uuid? = some id →
          (t.server.engine.connections.contains ⟨id⟩ = true ↔ subject = .connection ⟨id⟩ ∧ subject ∈ t.entries) ∧
          (t.server.hasRequest ⟨id⟩ = true ↔ subject = .request ⟨id⟩ ∧ subject ∈ t.entries) ∧
          ∀ (h : Host) pointer rest (r : EventRecord),
            h.server? pointer = some d.server → d.server.engine.queue.events = x :: rest →
            r.Sized → (r.payload = none → r.payloadCapacity = 0) →
            ∃ after : EventRecord, h.nextEvent pointer (some r) =
                ((true, some after), { h with server := some (d.server.withEvents rest) }) ∧
              after.id = Text.bytes x.id ++ 0 :: r.id.drop 37 ∧
              (after.truncated = true ↔ x.truncated = true ∨ r.payloadCapacity < x.payload.length) ∧
              ∀ (g : Host) other s, g.server? other = some s → g.Reaches other s (some after.id) id := by
  refine ⟨fun id => ⟨?_, fun other => Uuid.text_inj, fun s => ?_, ?_, ?_⟩, fun moves s held => ?_, ?_⟩
  · rw [Uuid.text, String.length_ofList, id.length_chars]
  · rw [ConnectionId.read_eq, RequestId.read_eq]
    exact ⟨Uuid.map_read_eq_ok_iff fun _ _ => congrArg ConnectionId.uuid,
      Uuid.map_read_eq_ok_iff fun _ _ => congrArg RequestId.uuid⟩
  · refine ⟨id.text_string, Eq.trans (congrArg _ ?_) (id.read?_string ConnectionId.mk)⟩
    funext value
    simp only [ConnectionId.ofJson?, ConnectionId.read_eq]
    rfl
  · refine ⟨id.text_string, Eq.trans (congrArg _ ?_) (id.read?_string RequestId.mk)⟩
    funext value
    simp only [RequestId.ofJson?, RequestId.read_eq]
    rfl
  · obtain ⟨config, course, server, -⟩ := Embedding.deployed_run Embedding.deployed_start moves s held
    exact ⟨config, course, server⟩
  · intro config moves later log d t
    obtain ⟨history, once, told⟩ := Deployment.log_create config moves later
    refine ⟨history.symm, once, fun subject x logged => ?_⟩
    obtain ⟨about, only⟩ := told subject x logged
    refine ⟨about, only, fun id named => ?_⟩
    have carries : x.id = id.text := by
      rw [about.1]
      cases subject <;> cases named <;> rfl
    obtain ⟨connection, request⟩ := Deployment.found_iff carries only
    refine ⟨connection, request, fun h pointer rest r held queued sized promised => ?_⟩
    have shows := sized.shows_write promised x
    obtain ⟨whole, cut, spelt⟩ := shows.whole_id carries
    refine ⟨r.write x, ?_, whole, cut, fun g other s held => reaches held spelt⟩
    rw [nextEvent_popped held promised (popEvent_cons queued), Envelope.isNothing_of_id carries]
    rfl

/-- The event about a client that has connected comes with a text by which the host can close that connection. -/
theorem identifiers_lead_back_caller :
    let d := (Deployment.create {}).run (Deployment.served ++ [.pop])
    let h : Host := { Host.start with server := some d.server }
    let id := Deployment.caller
    ConnectionId.read "URN:UUID:00000000-0000-7000-8000-000000000001" = .ok ⟨id⟩ ∧
    ∃ after : EventRecord, (h.nextEvent .held (some .blank)).1 = (true, some after) ∧ after.truncated = false ∧
      d.server.engine.connections.contains ⟨id⟩ = true ∧ d.server.hasRequest ⟨id⟩ = false ∧
      h.disconnect .held (some after.id) = h.run (.ok (d.server.disconnect ⟨id⟩)) := by
  intro d h id
  obtain ⟨texts, -, runs⟩ := identifiers_lead_back
  obtain ⟨-, -, events⟩ := runs {} (Deployment.served ++ [.pop]) []
  have logged : (Subject.connection ⟨id⟩, Envelope.whole .opened id.text []) ∈
      (Deployment.create {}).log (Deployment.served ++ [.pop]) := by decide
  have spelt : id.SpelledBy "URN:UUID:00000000-0000-7000-8000-000000000001" :=
    ⟨"urn:uuid:" ++ id.text, by simp [Uuid.spellings], by decide⟩
  have queued : d.server.engine.queue.events =
      [.whole .opened id.text [], .whole .requestStart (Uuid.fresh 0 2).text []] := by
    decide
  obtain ⟨-, -, found⟩ := events _ _ logged
  obtain ⟨connection, request, taken⟩ := found id rfl
  have sized : EventRecord.blank.Sized := ⟨rfl, fun _ given => by cases given⟩
  obtain ⟨after, answer, -, cut, reaches⟩ := taken h .held _ .blank rfl queued sized fun _ => rfl
  refine ⟨((texts id).2.2.1 _).1.mpr spelt, after, by rw [answer], ?_, connection.mpr ⟨rfl, by decide⟩, ?_,
    (reaches h .held d.server rfl).disconnect⟩
  · rw [← Bool.not_eq_true, cut]
    decide
  · rw [← Bool.not_eq_true]
    intro other
    cases (request.mp other).1

end Host

end Abi

end Gateway
