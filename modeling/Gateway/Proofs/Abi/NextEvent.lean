import Gateway.Proofs.Abi.Field

namespace Gateway

theorem Buffer.copy_eq (value buffer : Bytes) : copy value buffer =
    ⟨value.take buffer.length ++ buffer.drop (min value.length buffer.length), min value.length buffer.length,
      decide (buffer.length < value.length)⟩ := by
  have length : (value.take buffer.length).length = min value.length buffer.length := by
    rw [List.length_take, Nat.min_comm]
  have cut : min value.length buffer.length < value.length ↔ buffer.length < value.length := by omega
  simp only [copy, length, cut]

def Server.withEvents (s : Server) (events : List Envelope) : Server :=
  { s with engine := { s.engine with queue := { s.engine.queue with events } } }

namespace Abi

namespace EventRecord

/-- A record as the interface lays it out: with room for an identifier, and the room for the payload that it promises
    behind its pointer, if that is not null. -/
structure Sized (r : EventRecord) : Prop where
  id : r.id.length = idCapacity
  payload : ∀ bytes, r.payload = some bytes → r.payloadCapacity ≤ bytes.length

/-- What a record tells of an event, once it is written to a record that was `r`. Behind the parts of the event that it
    has room for stand the bytes that stood there before. -/
structure Shows (r after : EventRecord) (e : Envelope) : Prop where
  kind : after.kind = e.kind.code
  id : after.id = (Text.bytes e.id).take 39 ++ 0 :: r.id.drop (min (Text.bytes e.id).length 39 + 1)
  noPayload : r.payload = none → after.payload = none
  payload : ∀ bytes, r.payload = some bytes → after.payload =
    some (e.payload.take r.payloadCapacity ++ bytes.drop (min e.payload.length r.payloadCapacity))
  payloadCapacity : after.payloadCapacity = r.payloadCapacity
  payloadLength : after.payloadLength = min e.payload.length r.payloadCapacity
  truncated : after.truncated = true ↔
    e.truncated = true ∨ 39 < (Text.bytes e.id).length ∨ r.payloadCapacity < e.payload.length

variable {r after : EventRecord} {e : Envelope}

theorem copy_room {bytes : Bytes} {capacity : Nat} (room : capacity ≤ bytes.length) (payload : Bytes) :
    (Buffer.copy payload (bytes.take capacity)).buffer ++ bytes.drop capacity =
      payload.take capacity ++ bytes.drop (min payload.length capacity) := by
  have length : (bytes.take capacity).length = capacity := List.length_take_of_le room
  have within : min payload.length capacity ≤ (bytes.take capacity).length := by omega
  rw [Buffer.copy_eq, length, List.append_assoc]
  congr 1
  calc (bytes.take capacity).drop (min payload.length capacity) ++ bytes.drop capacity
      = (bytes.take capacity ++ bytes.drop capacity).drop (min payload.length capacity) :=
        (List.drop_append_of_le_length within).symm
    _ = bytes.drop (min payload.length capacity) := by rw [List.take_append_drop]

theorem Sized.length_room (sized : r.Sized) (promised : r.payload = none → r.payloadCapacity = 0) :
    ((r.payload.getD []).take r.payloadCapacity).length = r.payloadCapacity := by
  cases buffer : r.payload with
  | none => rw [promised buffer, List.take_zero, List.length_nil]
  | some bytes => exact List.length_take_of_le (sized.payload bytes buffer)

theorem Sized.shows_write (sized : r.Sized) (promised : r.payload = none → r.payloadCapacity = 0) (e : Envelope) :
    r.Shows (r.write e) e := by
  have capacity : r.id.length = 40 := sized.id
  have room : r.id ≠ [] := by
    intro empty
    rw [empty] at capacity
    cases capacity
  have id := Buffer.copyTerminated_eq (Text.bytes e.id) room
  rw [capacity] at id
  have payload := Buffer.copy_eq e.payload ((r.payload.getD []).take r.payloadCapacity)
  rw [sized.length_room promised] at payload
  constructor
  case kind => rfl
  case id => exact congrArg Buffer.Copy.buffer id
  case noPayload =>
    intro none
    simp only [write, none, Option.map_none]
  case payload =>
    intro bytes buffer
    simp only [write, buffer, Option.map_some, Option.getD_some, copy_room (sized.payload bytes buffer)]
  case payloadCapacity => rfl
  case payloadLength => exact congrArg Buffer.Copy.copied payload
  case truncated =>
    simp only [write, id, payload, Bool.or_eq_true, decide_eq_true_eq, or_assoc]
    exact Iff.rfl

theorem Shows.text?_id (shows : r.Shows after e) (short : (Text.bytes e.id).length ≤ 39) (free : 0 ∉ Text.bytes e.id) :
    TextPointer.text? (some after.id) = some e.id := by
  rw [shows.id, List.take_of_length_le short]
  exact (congrArg Text.ofBytes? (Buffer.terminated_append free)).trans ((Text.ofBytes?_eq_some_iff _ _).mpr rfl)

theorem Shows.envelope? (shows : r.Shows after e) (promised : r.payload = none → r.payloadCapacity = 0)
    (whole : after.truncated = false) (free : 0 ∉ Text.bytes e.id) : after.envelope? = some e := by
  have fits : ¬ (e.truncated = true ∨ 39 < (Text.bytes e.id).length ∨ r.payloadCapacity < e.payload.length) := by
    rw [← shows.truncated, whole]
    nofun
  simp only [not_or, Bool.not_eq_true, Nat.not_lt] at fits
  obtain ⟨uncut, short, small⟩ := fits
  have payload : (after.payload.getD []).take after.payloadLength = e.payload := by
    rw [shows.payloadLength, Nat.min_eq_left small]
    cases buffer : r.payload with
    | none =>
      have empty : e.payload = [] := List.length_eq_zero_iff.mp (by rw [promised buffer] at small; omega)
      rw [empty, List.length_nil, List.take_zero]
    | some bytes => rw [shows.payload bytes buffer, Option.getD_some, List.take_of_length_le small, List.take_left]
  rw [EventRecord.envelope?, shows.kind, EventKind.ofCode?_code, shows.text?_id short free, payload, whole, ← uncut]
  rfl

theorem Shows.of_nothing (shows : r.Shows after .nothing) : after.kind = EventKind.error.code ∧
    TextPointer.text? (some after.id) = some "server" ∧ after.payloadLength = 0 ∧ after.payload = r.payload ∧
    after.truncated = false := by
  have length : Envelope.nothing.payload.length = 0 := rfl
  refine ⟨shows.kind, shows.text?_id (by decide) (by decide), ?_, ?_, ?_⟩
  · rw [shows.payloadLength, length, Nat.zero_min]
  · cases buffer : r.payload with
    | none => exact shows.noPayload buffer
    | some bytes => rw [shows.payload bytes buffer, length, Nat.zero_min, List.drop_zero, Envelope.nothing,
        Envelope.ofServer, Envelope.whole, List.take_nil, List.nil_append]
  · have short : ¬ 39 < (Text.bytes Envelope.nothing.id).length := by decide
    rw [← Bool.not_eq_true, shows.truncated, length]
    rintro (cut | long | full)
    · cases cut
    · exact short long
    · exact Nat.not_lt_zero _ full

end EventRecord

namespace Host

variable {h : Host} {s : Server} {pointer : ServerPointer} {r : EventRecord}

theorem popEvent_cons {e : Envelope} {rest : List Envelope} (queued : s.engine.queue.events = e :: rest) :
    s.popEvent = (e, s.withEvents rest) := by
  rw [Server.popEvent, Server.withQueue, Server.withEngine, Engine.withQueue, EventQueue.pop_cons queued]
  rfl

theorem popEvent_nil (queued : s.engine.queue.events = []) : s.popEvent = (.nothing, s) := by
  rw [Server.popEvent, Server.withQueue, Server.withEngine, Engine.withQueue, EventQueue.pop_nil queued]

theorem server_of_server? (held : h.server? pointer = some s) : pointer = .held ∧ h.server = some s := by
  cases pointer with
  | null => cases held
  | held => exact ⟨rfl, held⟩

theorem nextEvent_popped (held : h.server? pointer = some s) (promised : r.payload = none → r.payloadCapacity = 0)
    {e : Envelope} {left : Server} (popped : s.popEvent = (e, left)) :
    h.nextEvent pointer (some r) = ((!e.isNothing, some (r.write e)), { h with server := some left }) := by
  obtain ⟨rfl, server⟩ := server_of_server? held
  rw [nextEvent_valid server promised, popped]

/-- For every server, whatever is in its queue, and every record of the caller. With good arguments a call takes the
    oldest event out of the queue, and no other, and the record shows that event; a record that has lost nothing of it
    gives all of it back. If there is none the queue stays empty, and the record shows an error of the server without a
    payload. With a bad argument the call is refused for the first bad one: no event is taken and the record is as it
    was. -/
theorem next_event (h : Host) (pointer : ServerPointer) (record : Option EventRecord)
    (sized : ∀ r, record = some r → r.Sized) :
    (∀ s r, h.server? pointer = some s → record = some r → (r.payload = none → r.payloadCapacity = 0) →
      (∀ e rest, s.engine.queue.events = e :: rest → ∃ after,
        h.nextEvent pointer record = ((!e.isNothing, some after), { h with server := some (s.withEvents rest) }) ∧
        r.Shows after e ∧
        (after.truncated = false → 0 ∉ Text.bytes e.id → after.envelope? = some e)) ∧
      (s.engine.queue.events = [] → ∃ after,
        h.nextEvent pointer record = ((false, some after), h) ∧
        r.Shows after .nothing ∧ after.kind = EventKind.error.code ∧
        TextPointer.text? (some after.id) = some "server" ∧ after.payloadLength = 0 ∧ after.payload = r.payload ∧
        after.truncated = false)) ∧
    (h.server? pointer = none →
      h.nextEvent pointer record = ((false, record), h.fail (.nullPointer "server"))) ∧
    (h.server? pointer ≠ none → record = none →
      h.nextEvent pointer record = ((false, record), h.fail (.nullPointer "event"))) ∧
    (∀ r, h.server? pointer ≠ none → record = some r → r.payload = none → 0 < r.payloadCapacity →
      h.nextEvent pointer record = ((false, record), h.fail (.nullPointer "event.payload"))) := by
  refine ⟨fun s r held given promised => ⟨fun e rest queued => ?_, fun queued => ?_⟩, fun missing => ?_,
    fun held missing => ?_, fun r held given missing wanted => ?_⟩
  · subst given
    have shows := (sized r rfl).shows_write promised e
    exact ⟨r.write e, nextEvent_popped held promised (popEvent_cons queued), shows,
      fun whole free => shows.envelope? promised whole free⟩
  · subst given
    have shows := (sized r rfl).shows_write promised .nothing
    have same : { h with server := some s } = h := by rw [← (server_of_server? held).2]
    refine ⟨r.write .nothing, ?_, shows, shows.of_nothing⟩
    rw [nextEvent_popped held promised (popEvent_nil queued), same]
    rfl
  · simp only [nextEvent, resolve, missing]
    rfl
  · obtain ⟨s, held⟩ := Option.ne_none_iff_exists'.mp held
    subst missing
    simp only [nextEvent, resolve, held]
    rfl
  · obtain ⟨s, held⟩ := Option.ne_none_iff_exists'.mp held
    subst given
    have bad : r.check = .error (.nullPointer "event.payload") := by
      rw [EventRecord.check, missing, if_pos (by simpa using wanted)]
    simp only [nextEvent, resolve, held, bad]
    rfl

def announced : Host :=
  (Embedding.start.run [.call (.create (some {})), .call (.startListening .held 0 (.ok 54321))]).host

/-- The port does not fit two bytes, and the third byte of the buffer is not touched. After it there is no event, which
    a record without a buffer shows whole. A record that promises room without a buffer is refused, and the event
    stays. -/
theorem next_event_announced :
    let h := announced
    let narrow : EventRecord := { EventRecord.blank with payload := some [7, 7, 7], payloadCapacity := 2 }
    let hollow : EventRecord := { EventRecord.blank with payloadCapacity := 1 }
    (h.nextEvent .held (some hollow)).1 = (false, some hollow) ∧
    (h.nextEvent .held (some hollow)).2.eventCount .held = 1 ∧
    ∃ s after h', h.server = some s ∧ h' = { h with server := some (s.withEvents []) } ∧
      h.nextEvent .held (some narrow) = ((true, some after), h') ∧ after.kind = 3 ∧
      TextPointer.text? (some after.id) = some "server" ∧ after.payload = some [0x35, 0x34, 7] ∧
      after.payloadLength = 2 ∧ after.truncated = true ∧
      ∃ last, h'.nextEvent .held (some .blank) = ((false, some last), h') ∧ last.kind = 10 ∧
        last.truncated = false := by
  intro h narrow hollow
  have sized {r : EventRecord} (id : r.id = EventRecord.blank.id)
      (payload : ∀ bytes, r.payload = some bytes → r.payloadCapacity ≤ bytes.length) : r.Sized :=
    ⟨by rw [id]; rfl, payload⟩
  have narrowSized : narrow.Sized := sized rfl fun bytes buffer => by cases buffer; decide
  have hollowSized : hollow.Sized := sized rfl fun bytes buffer => by cases buffer
  have blankSized : EventRecord.blank.Sized := sized rfl fun bytes buffer => by cases buffer
  have only {x : EventRecord} (fits : x.Sized) : ∀ r, some x = some r → r.Sized := by
    intro r given
    exact Option.some.inj given ▸ fits
  obtain ⟨s, held⟩ : ∃ s, h.server = some s := ⟨_, rfl⟩
  have queued : s.engine.queue.events = [.ofServer .listening (Text.bytes "54321")] := by
    cases held
    decide
  obtain ⟨taken, -⟩ := next_event h .held (some narrow) (only narrowSized)
  obtain ⟨after, answer, shows, -⟩ := (taken s narrow held rfl fun missing => by cases missing).1 _ _ queued
  obtain ⟨-, -, -, refused⟩ := next_event h .held (some hollow) (only hollowSized)
  have untouched := refused hollow (by rw [server?, held]; exact Option.some_ne_none s) rfl rfl Nat.one_pos
  obtain ⟨emptied, -⟩ := next_event { h with server := some (s.withEvents []) } .held (some .blank)
    (only blankSized)
  obtain ⟨last, none, -, kind, -, -, -, whole⟩ := (emptied _ _ rfl rfl fun _ => rfl).2 rfl
  refine ⟨by rw [untouched], ?_, s, after, _, held, rfl, answer, shows.kind, ?_, shows.payload _ rfl,
    shows.payloadLength, ?_, last, none, kind, whole⟩
  · rw [untouched]
    rfl
  · exact shows.text?_id (by decide) (by decide)
  · exact shows.truncated.mpr (.inr (.inr (by decide)))

end Host

end Abi

end Gateway
