import Gateway.Proofs.Abi.Events
import Gateway.Proofs.Service.Legible

namespace Gateway

namespace Buffer

variable {value buffer : Bytes}

theorem copyTerminated_eq (value : Bytes) (room : buffer ≠ []) : copyTerminated value buffer =
    ⟨value.take (buffer.length - 1) ++ 0 :: buffer.drop (min value.length (buffer.length - 1) + 1),
      min value.length (buffer.length - 1), decide (buffer.length ≤ value.length)⟩ := by
  have positive := List.length_pos_iff.mpr room
  have length : (value.take (buffer.length - 1)).length = min value.length (buffer.length - 1) := by
    rw [List.length_take, Nat.min_comm]
  have cut : min value.length (buffer.length - 1) < value.length ↔ buffer.length ≤ value.length := by omega
  rw [copyTerminated, if_neg (List.length_eq_zero_iff.not.mpr room)]
  simp only [length, cut]

theorem copyTerminated_clearFirst (value buffer : Bytes) :
    copyTerminated value (Server.clearFirst buffer) = copyTerminated value buffer := by
  cases buffer <;> rfl

theorem terminated_append {part rest : Bytes} (free : 0 ∉ part) :
    Abi.TextPointer.terminated (part ++ 0 :: rest) = part := by
  have all : ∀ b ∈ part, (b != 0) = true := by
    intro b within
    exact bne_iff_ne.mpr fun zero => free (zero ▸ within)
  rw [Abi.TextPointer.terminated, List.takeWhile_append_of_pos all]
  simp

end Buffer

theorem RequestRecord.bytes_fieldText? {record : RequestRecord} {part : RequestField} {value : Bytes}
    (found : record.field? part = some value) : (record.fieldText? part).map Text.bytes = some value ↔
      (part.isHeader = true → (Text.ofBytes? value).isSome = true) := by
  cases part with
  | header name =>
    have text : record.fieldText? (.header name) = some (String.ofList (Text.Utf8.lossy value)) :=
      congrArg (Option.map _) found
    simp only [text, Option.map_some, Option.some.injEq, RequestField.isHeader, true_implies, Option.isSome_iff_exists,
      Text.ofBytes?_eq_some_iff]
    constructor
    · intro same
      exact ⟨_, same.symm⟩
    · rintro ⟨s, rfl⟩
      have same : Text.Utf8.lossy (Text.bytes s) = s.toList := Text.Utf8.lossy_encode s.toList
      rw [same, String.ofList_toList]
  | method | url | query | endpoint | allHeaders =>
    cases found
    exact ⟨fun _ => nofun, fun _ => rfl⟩

namespace Server

variable {s : Server} {id : RequestId} {part : RequestField} {buffer : Bytes}

/-- The bytes of a part of a request, if it is in flight and has that part. -/
def fieldBytes? (s : Server) (id : RequestId) (part : RequestField) : Option Bytes :=
  (s.engine.requests.find? id).bind (·.field? part)

theorem fieldBytes?_eq_none_iff : s.fieldBytes? id part = none ↔ s.hasRequest id = false ∨
    ∃ name, part = .header name ∧ ∀ record, s.engine.requests.find? id = some record → record.header? name = none := by
  unfold fieldBytes? hasRequest RequestRegistry.has
  cases s.engine.requests.find? id with
  | none => simp
  | some record => cases part <;> simp [RequestRecord.field?]

theorem copyRequestField_none (absent : s.fieldBytes? id part = none) (buffer : Bytes) :
    s.copyRequestField id part buffer = (false, clearFirst buffer) := by
  have copied : s.engine.requests.copyField id part buffer = none := by
    unfold fieldBytes? at absent
    unfold RequestRegistry.copyField
    cases found : s.engine.requests.find? id with
    | none => rfl
    | some record =>
      rw [found] at absent
      exact congrArg (Option.map _) absent
  rw [copyRequestField, copied]

theorem copyRequestField_some {value : Bytes} (present : s.fieldBytes? id part = some value) (buffer : Bytes) :
    s.copyRequestField id part buffer = ((Buffer.copyTerminated value buffer).isComplete || part.isHeader,
      (Buffer.copyTerminated value buffer).buffer) := by
  obtain ⟨record, found, some⟩ := Option.bind_eq_some_iff.mp present
  have copied : s.engine.requests.copyField id part buffer = .some (Buffer.copyTerminated value buffer) := by
    rw [RequestRegistry.copyField, found]
    exact congrArg (Option.map _) some
  rw [copyRequestField, copied]

theorem copyRequestField_clearFirst (s : Server) (id : RequestId) (part : RequestField) (buffer : Bytes) :
    s.copyRequestField id part (clearFirst buffer) = s.copyRequestField id part buffer := by
  cases present : s.fieldBytes? id part with
  | none =>
    rw [copyRequestField_none present, copyRequestField_none present]
    cases buffer <;> rfl
  | some value => rw [copyRequestField_some present, copyRequestField_some present, Buffer.copyTerminated_clearFirst]

theorem requestField_eq (s : Server) (id : RequestId) (part : RequestField) :
    s.requestField id part = (s.engine.requests.find? id).bind (·.fieldText? part) := by
  unfold requestField
  cases s.engine.requests.find? id <;> rfl

end Server

theorem Engine.Legible.apply {s : Server} (legible : s.engine.Legible) {call : ServerCall} (spelt : call.Spelt) :
    (call.apply s).engine.Legible := by
  cases call with
  | addRoute verb pattern => exact legible.addRoute verb spelt
  | start requested bound => exact legible.retains (s.retains_startListening requested bound)
  | stop => exact legible.retains s.retains_stopListening
  | sendText id data | sendCompressedText id data => exact legible.retains (s.retains_sendText id data)
  | broadcastText data | broadcastCompressedText data => exact legible.retains (s.retains_broadcastText data)
  | sendBinary | broadcastBinary | disconnect | purge => exact legible.retains (.of_records rfl rfl)
  | setStatus id line => exact legible.retains (.of_records rfl (s.engine.requests.records_setStatus id line))
  | setHeader id name value =>
    exact legible.retains (.of_records rfl (s.engine.requests.records_setHeader id name value))
  | write id data => exact legible.retains (.of_records rfl (s.engine.requests.records_write id data))
  | tryEnd id data totalSize => exact legible.retains ⟨rfl, fun _ => RequestRegistry.mem_records_tryEnd⟩
  | finish id data => exact legible.retains ⟨rfl, fun _ => RequestRegistry.mem_records_finish⟩

namespace Abi

namespace Host

/-- The server that a host holds, if it does, has requests whose parts a host reads whole. -/
def Legible (h : Host) : Prop := ∀ s, h.server = some s → s.engine.Legible

theorem Legible.call {h : Host} (legible : h.Legible) (call : HostCall) : (h.call call).2.Legible := by
  have new (config : ServerConfig) (_ : 0 < config.maxPayloadSize) : (Server.create config).engine.Legible :=
    Engine.legible_start config
  refine kept_call (P := fun s => s.engine.Legible) new (fun s s' legible moves => ?_) legible call
  rcases moves with ⟨call, spelt, rfl⟩ | rfl
  · exact legible.apply spelt
  · exact legible.retains (.of_records rfl rfl)

theorem copyField_good {h : Host} {s : Server} {id : RequestId} {part : RequestField} {pointer : ServerPointer}
    {text : TextPointer} {argument : FieldArgument} (held : h.server? pointer = some s)
    (named : text.readRequestId "request_id" = .ok id) (asked : argument.read = .ok part) (buffer : Bytes) :
    h.copyField pointer text argument (some buffer) =
      (((s.copyRequestField id part buffer).1, some (s.copyRequestField id part buffer).2), h) := by
  have found : h.resolve pointer = .ok s := by rw [resolve, held]
  simp only [copyField, BufferPointer.read, found, named, asked]
  exact congrArg (fun copy : Bool × Bytes => ((copy.1, some copy.2), h)) (s.copyRequestField_clearFirst id part buffer)

end Host

def EmbeddingMove.Readable : EmbeddingMove → Prop
  | request _ move => move.Readable
  | _ => True

namespace Embedding

variable {e : Embedding}

theorem legible_start : start.host.Legible := by
  intro s held
  cases held

theorem legible_step (legible : e.host.Legible) {move : EmbeddingMove} (readable : move.Readable) :
    (e.step move).host.Legible := by
  cases move with
  | call call => exact legible.call call
  | session id move =>
    have moved (s : Server) := Service.retains_moveSession ⟨s.engine, e.task, []⟩ id move
    exact kept_serve legible fun s legible => legible.retains (moved s)
  | request id move =>
    have moved (s : Server) (legible : s.engine.Legible) :=
      Service.legible_moveRequest (v := ⟨s.engine, e.task, []⟩) legible id readable
    exact kept_serve legible moved

theorem legible_run (legible : e.host.Legible) {moves : List EmbeddingMove}
    (readable : ∀ move ∈ moves, move.Readable) : (e.run moves).host.Legible := by
  induction moves generalizing e with
  | nil => exact legible
  | cons move rest ih =>
    obtain ⟨first, others⟩ := List.forall_mem_cons.mp readable
    exact ih (legible_step legible first) others

end Embedding

end Abi

namespace Server

open Abi (Embedding EmbeddingMove Host TextPointer)

/-- For every server, request, part of it and buffer with room: if the part is there, the buffer has its bytes as far
    as they fit before a zero byte, and keeps its own behind that, and the answer tells whether all of them fit, or that
    the part is a header field. If the part is absent, the answer is no and only the first byte is cleared. A part that
    fits has the bytes of its text, but for a header field that is no text. The interface does the same for good
    pointers. And where a host has added the routes over the interface and requests arrive with heads that were read, it
    reads just what was copied. -/
theorem field_copied (s : Server) (id : RequestId) (part : RequestField) (buffer : Bytes) (room : buffer ≠ []) :
    let copy := s.copyRequestField id part buffer
    (s.fieldBytes? id part = none ↔ s.hasRequest id = false ∨ ∃ name, part = .header name ∧
      ∀ record, s.engine.requests.find? id = some record → record.header? name = none) ∧
    (s.fieldBytes? id part = none → copy = (false, 0 :: buffer.tail) ∧ TextPointer.terminated copy.2 = []) ∧
    (∀ value, s.fieldBytes? id part = some value →
      copy.1 = (decide (value.length < buffer.length) || part.isHeader) ∧
      copy.2 = value.take (buffer.length - 1) ++ 0 :: buffer.drop (min value.length (buffer.length - 1) + 1) ∧
      (value.length < buffer.length → ((s.requestField id part).map Text.bytes = some (copy.2.take value.length) ↔
        (part.isHeader = true → (Text.ofBytes? value).isSome = true))) ∧
      ∀ moves : List EmbeddingMove, (∀ move ∈ moves, move.Readable) →
        (Embedding.start.run moves).host.server = some s →
        TextPointer.terminated copy.2 = value.take (buffer.length - 1)) ∧
    ∀ (h : Host) pointer text argument, h.server? pointer = some s →
      TextPointer.readRequestId text "request_id" = .ok id → argument.read = .ok part →
      h.copyField pointer text argument (some buffer) = ((copy.1, some copy.2), h) := by
  intro copy
  have positive := List.length_pos_iff.mpr room
  refine ⟨fieldBytes?_eq_none_iff, fun absent => ?_, fun value present => ?_,
    fun h pointer text argument held named asked => Host.copyField_good held named asked buffer⟩
  · obtain ⟨b, rest, rfl⟩ := List.exists_cons_of_ne_nil room
    have cleared : copy = (false, 0 :: rest) := copyRequestField_none absent _
    rw [cleared]
    exact ⟨rfl, rfl⟩
  · have copied : copy = (decide (value.length < buffer.length) || part.isHeader,
        value.take (buffer.length - 1) ++ 0 :: buffer.drop (min value.length (buffer.length - 1) + 1)) := by
      rw [show copy = _ from copyRequestField_some present buffer, Buffer.copyTerminated_eq value room]
      simp only [Buffer.Copy.isComplete, ← decide_not, Nat.not_le]
    obtain ⟨record, found, asked⟩ := Option.bind_eq_some_iff.mp present
    rw [copied]
    refine ⟨rfl, rfl, fun fits => ?_, fun moves readable held => ?_⟩
    · have whole : value.take (buffer.length - 1) = value := List.take_of_length_le (by omega)
      rw [whole, List.take_left, requestField_eq, found]
      exact RequestRecord.bytes_fieldText? asked
    · have legible := Embedding.legible_run Embedding.legible_start readable s held
      have free := legible.requests record (List.mem_of_find?_eq_some found) part value asked
      exact Buffer.terminated_append fun zero => free (List.mem_of_mem_take zero)

theorem isToken_get : Http.isToken "GET" = true := by decide

/-- A route whose text ends at a zero byte, and a request to it with a header field that is no text. -/
def visited : List EmbeddingMove :=
  [.call (.create (some {})), .call (.addRoute .held 0 (some (Text.bytes "/items/:id" ++ [0, 33]))),
    .request (.fresh 0 1) (.arrive ⟨"GET", isToken_get⟩ ⟨"/items/é", some "q=1"⟩ [⟨"x-raw", [0x61, 0xFF, 0x62]⟩])]

theorem readable_visited : ∀ move ∈ visited, move.Readable := by
  have read : Http.RequestHead.read? "GET" "/items/é?q=1" [("X-Raw", [0x61, 0xFF, 0x62])] =
      some ⟨⟨"GET", isToken_get⟩, ⟨"/items/é", some "q=1"⟩, [⟨"x-raw", [0x61, 0xFF, 0x62]⟩]⟩ := by rfl
  simp only [visited, List.forall_mem_cons, List.not_mem_nil, false_implies, implies_true, and_true]
  exact ⟨trivial, trivial, "GET", "/items/é?q=1", _, read⟩

/-- The header field is cut and said to be there, the route is whole, an absent field clears one byte, and the pointers
    to the identifier and to the name of the field are good. -/
theorem field_copied_visited :
    let id : RequestId := ⟨.fresh 0 1⟩
    let h := (Embedding.start.run visited).host
    ∃ s, h.server = some s ∧
      h.copyField .held (some (Text.bytes id.text)) (.header (some (Text.bytes "X-RAW"))) (some [1, 2, 3, 4]) =
        ((true, some [0x61, 0xFF, 0x62, 0]), h) ∧
      s.copyRequestField id (.header "X-RAW") [1, 2, 3] = (true, [0x61, 0xFF, 0]) ∧
      TextPointer.terminated (s.copyRequestField id (.header "X-RAW") [1, 2, 3]).2 = [0x61, 0xFF] ∧
      (s.requestField id (.header "X-RAW")).map Text.bytes ≠ some [0x61, 0xFF, 0x62] ∧
      s.copyRequestField id .endpoint (List.replicate 12 7) = (true, Text.bytes "/items/:id" ++ [0, 7]) ∧
      (s.requestField id .endpoint).map Text.bytes = some (Text.bytes "/items/:id") ∧
      s.copyRequestField id .endpoint [7, 7] = (false, [0x2F, 0]) ∧
      s.copyRequestField id (.header "cookie") [1, 2] = (false, [0, 2]) := by
  intro id h
  let s : Server := (h.server.getD (.create {}))
  have held : h.server = some s := by rfl
  have raw : s.fieldBytes? id (.header "X-RAW") = some [0x61, 0xFF, 0x62] := by decide
  have route : s.fieldBytes? id .endpoint = some (Text.bytes "/items/:id") := by decide
  obtain ⟨_, _, cut, _⟩ := field_copied s id (.header "X-RAW") [1, 2, 3] nofun
  obtain ⟨_, _, full, good⟩ := field_copied s id (.header "X-RAW") [1, 2, 3, 4] nofun
  obtain ⟨_, _, whole, _⟩ := field_copied s id .endpoint (List.replicate 12 7) nofun
  obtain ⟨_, _, short, _⟩ := field_copied s id .endpoint [7, 7] nofun
  obtain ⟨_, absent, _, _⟩ := field_copied s id (.header "cookie") [1, 2] nofun
  obtain ⟨answer, buffer, _, shown⟩ := cut _ raw
  obtain ⟨fullAnswer, fullBuffer, text, _⟩ := full _ raw
  obtain ⟨wholeAnswer, wholeBuffer, same, _⟩ := whole _ route
  obtain ⟨shortAnswer, shortBuffer, _, _⟩ := short _ route
  refine ⟨s, held, ?_, Prod.ext answer buffer, shown visited readable_visited held, ?_,
    Prod.ext wholeAnswer wholeBuffer, ?_, Prod.ext shortAnswer shortBuffer, (absent (by decide)).1⟩
  · rw [good h .held (some (Text.bytes id.text)) (.header (some (Text.bytes "X-RAW"))) held (by decide) (by decide),
      fullAnswer, fullBuffer]
    rfl
  · intro equal
    have broken := (text (by decide)).mp (by rw [fullBuffer]; exact equal) rfl
    exact absurd broken (by decide)
  · have copied := (same (by decide)).mpr nofun
    rw [copied, wholeBuffer]
    decide

end Server

end Gateway
