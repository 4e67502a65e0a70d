import Gateway.Proofs.Engine.Broadcast
import Gateway.Proofs.Server.Metrics

namespace Gateway

open WebSocket (Outbound)

namespace Server

variable {s : Server}

def isLive (s : Server) (id : ConnectionId) : Bool := s.engine.connections.isLive id

def BinaryOf (data : Bytes) (frame : Outbound) : Prop := frame = .binary data

/-- The frames that bytes make as a text message: none, if they are no text. -/
def TextOf (data : Bytes) (frame : Outbound) : Prop := ∃ text, frame = .text text ∧ data = Text.bytes text

def Took (s after : Server) (id : ConnectionId) (frame : Outbound) : Prop :=
  ∃ line, s.connection? id = some line ∧ after.connection? id =
    some { line with queued := line.queued ++ [frame], buffered := line.buffered + frame.size }

/-- The answer to a broadcast is true: there was no live connection, or there was one that did not accept what was to
    be sent, or there were some and all of them did. -/
structure Truthful (s : Server) (makes : Outbound → Prop) (result : BroadcastStatus × Server) : Prop where
  nobody : result.1 = .noRecipients ↔ ∀ id, s.isLive id = false
  missed : result.1 = .dropped ↔ ∃ id, s.isLive id = true ∧ ¬ ∃ frame, makes frame ∧ s.Took result.2 id frame
  reached : result.1 = .success ↔ (∃ id, s.isLive id = true) ∧
    ∀ id, s.isLive id = true → ∃ frame, makes frame ∧ s.Took result.2 id frame

/-- A live connection accepts a frame that is broadcast exactly if the same frame, sent to it, is not dropped. -/
theorem took_iff (wired : s.engine.connections.Wired) {id : ConnectionId} (live : s.isLive id = true)
    {frame : Outbound} (data : frame.isClose = false) :
    s.Took (s.withEngine (·.broadcast frame)).2 id frame ↔ (s.engine.send id frame).1 ≠ .dropped := by
  obtain ⟨n, known⟩ := Option.isSome_iff_exists.mp live
  obtain ⟨line, found, _⟩ := Option.map_eq_some_iff.mp (wired.own id n known)
  have before : s.connection? id = some line := by rw [connection?, known]; exact found
  have listed : n ∈ s.engine.connections.live.map (·.2) :=
    List.mem_map.mpr ⟨(id, n), (ConnectionRegistry.mem_live_iff wired.distinct id n).mpr known, rfl⟩
  have after : (s.withEngine (·.broadcast frame)).2.connection? id =
      some (line.send frame s.engine.connections.policy).2 := by
    refine (connection?_congr (s.engine.connections.entries_broadcast frame) known).trans ?_
    refine (wired.line?_broadcast frame n).trans ?_
    rw [if_pos listed, found]
    rfl
  have answer : (s.engine.send id frame).1 = (line.send frame s.engine.connections.policy).1 :=
    ConnectionRegistry.send_answer known found frame
  rw [Took, before, after, answer]
  by_cases accepted : line.receiving = true ∧ line.buffered ≤ s.engine.connections.policy.maxBackpressure
  · rw [Line.send_accepted accepted.1 accepted.2]
    have delivered : (if s.engine.connections.policy.maxBackpressure < line.buffered + frame.size then SendStatus.backpressure
        else .success) ≠ .dropped := by split <;> simp
    exact iff_of_true ⟨line, rfl, rfl⟩ delivered
  · rw [Line.send_dropped accepted]
    refine iff_of_false ?_ (fun other => other rfl)
    rintro ⟨_, ⟨rfl⟩, same⟩
    have queued := congrArg Line.queued (Option.some.inj same)
    -- what a dropped frame leaves is no frame, or a close, which is not the frame
    split at queued
    · have close : frame = .close Line.overLimit := by simpa using queued.symm
      rw [close] at data
      cases data
    · simp at queued

/-- The answer is true if it is chosen by whether nobody is there, and then by whether somebody was missed. -/
theorem truthful_of_chosen {makes : Outbound → Prop} {result : BroadcastStatus × Server} {empty lost : Prop}
    [Decidable empty] [Decidable lost]
    (chosen : result.1 = if empty then .noRecipients else if lost then .dropped else .success)
    (nobody : empty ↔ ∀ id, s.isLive id = false)
    (missed : lost ↔ ∃ id, s.isLive id = true ∧ ¬ ∃ frame, makes frame ∧ s.Took result.2 id frame) :
    s.Truthful makes result := by
  by_cases absent : empty
  · rw [if_pos absent] at chosen
    have dead := nobody.mp absent
    refine ⟨iff_of_true chosen dead, iff_of_false (by simp [chosen]) ?_, iff_of_false (by simp [chosen]) ?_⟩
    · rintro ⟨id, live, _⟩
      simp [dead id] at live
    · rintro ⟨⟨id, live⟩, _⟩
      simp [dead id] at live
  · rw [if_neg absent] at chosen
    rw [nobody] at absent
    by_cases gone : lost
    · rw [if_pos gone] at chosen
      rw [missed] at gone
      refine ⟨iff_of_false (by simp [chosen]) absent, iff_of_true chosen gone, iff_of_false (by simp [chosen]) ?_⟩
      rintro ⟨_, all⟩
      obtain ⟨id, live, untaken⟩ := gone
      exact untaken (all id live)
    · rw [if_neg gone] at chosen
      rw [missed] at gone
      have someone : ∃ id, s.isLive id = true := by simpa using absent
      have all (id : ConnectionId) (live : s.isLive id = true) : ∃ frame, makes frame ∧ s.Took result.2 id frame :=
        not_not.mp fun untaken => gone ⟨id, live, untaken⟩
      exact ⟨iff_of_false (by simp [chosen]) absent, iff_of_false (by simp [chosen]) gone,
        iff_of_true chosen ⟨someone, all⟩⟩

theorem truthful_frame (wired : s.engine.connections.Wired) {frame : Outbound} (data : frame.isClose = false)
    {makes : Outbound → Prop} (made : ∀ other, makes other ↔ other = frame) :
    s.Truthful makes (s.withEngine (·.broadcast frame)) := by
  have status : (s.withEngine (·.broadcast frame)).1 = _ :=
    Engine.broadcast_status wired.apart frame (List.Perm.refl _)
  have took {id : ConnectionId} (live : s.isLive id = true) :
      (∃ other, makes other ∧ s.Took (s.withEngine (·.broadcast frame)).2 id other) ↔
        (s.engine.send id frame).1 ≠ .dropped := by
    rw [← took_iff wired live data]
    simp [made]
  have nobody : s.engine.connections.live.map (·.1) = [] ↔ ∀ id, s.isLive id = false := by
    simp only [List.eq_nil_iff_forall_not_mem, wired.distinct.mem_live_ids, Bool.not_eq_true]
    rfl
  have missed : (∃ id ∈ s.engine.connections.live.map (·.1), (s.engine.send id frame).1 = .dropped) ↔
      ∃ id, s.isLive id = true ∧ ¬ ∃ other, makes other ∧ s.Took (s.withEngine (·.broadcast frame)).2 id other := by
    simp only [wired.distinct.mem_live_ids]
    refine exists_congr fun id => and_congr_right fun live => ?_
    rw [took live, not_not]
  exact truthful_of_chosen status nobody missed

theorem broadcastText_bytes (s : Server) (text : String) :
    s.broadcastText (Text.bytes text) = s.withEngine (·.broadcast (.text text)) := by
  unfold broadcastText
  rw [Outbound.ofBytes_bytes]

theorem broadcastText_malformed (s : Server) {data : Bytes} (malformed : ∀ text, data ≠ Text.bytes text) :
    s.broadcastText data = (.dropped, s) := by
  obtain ⟨fault, refused⟩ := Outbound.ofBytes_malformed malformed
  unfold broadcastText
  rw [refused]

theorem truthful_text (wired : s.engine.connections.Wired) (text : String) :
    s.Truthful (TextOf (Text.bytes text)) (s.broadcastText (Text.bytes text)) := by
  have only (frame : Outbound) : TextOf (Text.bytes text) frame ↔ frame = .text text := by
    constructor
    · rintro ⟨other, rfl, same⟩
      have read := (Text.ofBytes?_eq_some_iff (Text.bytes text) other).mpr same
      have own := (Text.ofBytes?_eq_some_iff (Text.bytes text) text).mpr rfl
      rw [Option.some.inj (read.symm.trans own)]
    · rintro rfl
      exact ⟨text, rfl, rfl⟩
  rw [broadcastText_bytes]
  exact truthful_frame wired rfl only

/-- That bytes which are no text are dropped is true of every live connection, and untrue if there is none. -/
theorem truthful_malformed {data : Bytes} (malformed : ∀ text, data ≠ Text.bytes text) :
    s.Truthful (TextOf data) (s.broadcastText data) ↔ ∃ id, s.isLive id = true := by
  rw [broadcastText_malformed s malformed]
  have nothing (frame : Outbound) : ¬ TextOf data frame := fun ⟨text, _, same⟩ => malformed text same
  constructor
  · intro truthful
    obtain ⟨id, live, _⟩ := truthful.missed.mp rfl
    exact ⟨id, live⟩
  · rintro ⟨id, live⟩
    refine ⟨iff_of_false nofun fun absent => ?_, iff_of_true rfl ⟨id, live, ?_⟩, iff_of_false nofun fun reached => ?_⟩
    · simp [absent id] at live
    · rintro ⟨frame, made, _⟩
      exact nothing frame made
    · obtain ⟨frame, made, _⟩ := reached.2 id live
      exact nothing frame made

/-- In every state of a server with each live connection on its own line, as all states are that a run can reach, and
    for all bytes: a broadcast of a binary message is answered truthfully, and so is one of a text message exactly if
    the bytes are a text or somebody is there. Bytes that are no text are told as dropped, and change nothing. -/
theorem broadcast_answers (s : Server) (data : Bytes) :
    (∀ config moves, s = ((Deployment.create config).run moves).server → s.engine.connections.Wired) ∧
    (s.engine.connections.Wired → s.Truthful (BinaryOf data) (s.broadcastBinary data) ∧
      ∀ broadcast ∈ [s.broadcastText, s.broadcastCompressedText],
        (s.Truthful (TextOf data) (broadcast data) ↔ (∃ text, data = Text.bytes text) ∨ ∃ id, s.isLive id = true) ∧
        ((∀ text, data ≠ Text.bytes text) → broadcast data = (.dropped, s))) := by
  constructor
  · rintro config moves rfl
    exact ((Deployment.measured_create config).run moves).wired
  · intro wired
    refine ⟨truthful_frame wired rfl fun _ => Iff.rfl, fun broadcast listed => ?_⟩
    have same : broadcast = s.broadcastText := by
      rcases List.mem_cons.mp listed with first | listed
      · exact first
      · exact List.mem_singleton.mp listed
    rw [same]
    refine ⟨?_, fun malformed => broadcastText_malformed s malformed⟩
    by_cases written : ∃ text, data = Text.bytes text
    · obtain ⟨text, rfl⟩ := written
      exact iff_of_true (truthful_text wired text) (.inl ⟨text, rfl⟩)
    · have malformed (text : String) : data ≠ Text.bytes text := fun same => written ⟨text, same⟩
      rw [truthful_malformed malformed]
      exact (or_iff_right written).symm

/-- One client is there, and no text gets to it. -/
theorem broadcast_answers_client :
    let s := ((Deployment.create { maxBackpressure := 4 }).run
      [.call (.start 0 (.ok 8080)), .session (.fresh 0 1) (.start {} 0), .call (.broadcastText (Text.bytes "hello"))]).server
    s.Truthful (BinaryOf [7]) (s.broadcastBinary [7]) ∧ (s.broadcastBinary [7]).1 = .dropped ∧
      s.Truthful (TextOf [0xFF]) (s.broadcastText [0xFF]) ∧ s.broadcastCompressedText [0xFF] = (.dropped, s) := by
  intro s
  obtain ⟨reached, answers⟩ := broadcast_answers s [7]
  have wired := reached _ _ rfl
  obtain ⟨binary, _⟩ := answers wired
  obtain ⟨_, texts⟩ := (broadcast_answers s [0xFF]).2 wired
  have malformed (text : String) : [0xFF] ≠ Text.bytes text := by
    intro same
    have read := (Text.ofBytes?_eq_some_iff [0xFF] text).mpr same
    cases read.symm.trans (show Text.ofBytes? [0xFF] = none by decide)
  have live : s.isLive ⟨.fresh 0 1⟩ = true := by decide
  refine ⟨binary, by decide, (texts _ List.mem_cons_self).1.mpr (.inr ⟨_, live⟩), ?_⟩
  exact (texts s.broadcastCompressedText (by simp)).2 malformed

/-- Of bytes that are no text it is told that somebody missed them, although nobody is there. -/
theorem broadcast_answers_nobody :
    ((create {}).broadcastText [0xFF, 0xFE]).1 = .dropped ∧ (∀ id, (create {}).isLive id = false) ∧
      ¬ (create {}).Truthful (TextOf [0xFF, 0xFE]) ((create {}).broadcastText [0xFF, 0xFE]) := by
  have dropped : ((create {}).broadcastText [0xFF, 0xFE]).1 = .dropped := by decide
  have absent (id : ConnectionId) : (create {}).isLive id = false := rfl
  refine ⟨dropped, absent, fun truthful => ?_⟩
  have told := truthful.nobody.mpr absent
  rw [dropped] at told
  cases told

end Server

end Gateway
