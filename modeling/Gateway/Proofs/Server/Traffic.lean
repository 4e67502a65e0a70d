import Gateway.Proofs.Engine.Lines
import Gateway.Proofs.Server.Deployment
import Gateway.Proofs.Text.Utf8
import Mathlib.Data.List.Perm.Basic
import Mathlib.Data.List.Perm.Subperm

namespace Gateway

open ConnectionRegistry (policy_call posted_gains)
open WebSocket (Closure CloseCode Outbound)
open WebSocket.Outbound (dataFrames total total_append total_perm dataFrames_append dataFrames_single)

/-- What became of the data frames of a line: those that were accepted, those of them that were taken off it
    and not flushed yet, and those that were flushed. -/
structure FrameLog where
  accepted : List Outbound
  taken : List Outbound
  flushed : List Outbound

structure Traffic where
  server : Server
  log : Nat → FrameLog

inductive TrafficMove where
  | call (call : ServerCall)
  | connect (id : ConnectionId)
  | receive (line : Nat)
  /-- The session of a line is done with one of the data frames that it has taken. -/
  | flush (line which : Nat)
  | leave (line : Nat) (session : Session)

namespace FrameLog

def empty : FrameLog := ⟨[], [], []⟩

def accept (log : FrameLog) (frames : List Outbound) : FrameLog :=
  { log with accepted := log.accepted ++ dataFrames frames }

def take (log : FrameLog) (frame : Outbound) : FrameLog :=
  { log with taken := log.taken ++ dataFrames [frame] }

def flush (log : FrameLog) (which : Nat) (frame : Outbound) : FrameLog :=
  { log with taken := log.taken.eraseIdx which, flushed := log.flushed ++ [frame] }

end FrameLog

namespace Traffic

def create (config : ServerConfig) : Traffic := ⟨.create config, fun _ => .empty⟩

def connections (t : Traffic) : ConnectionRegistry := t.server.engine.connections

def line? (t : Traffic) (n : Nat) : Option Line := t.connections.line? n

def withEngine (t : Traffic) (engine : Engine) : Traffic := { t with server := { t.server with engine } }

def progress (t : Traffic) (n : Nat) (f : Line → Line) (log : FrameLog) : Traffic :=
  { t.withEngine (t.server.engine.modifyLine n f) with log := Function.update t.log n log }

def receive (t : Traffic) (n : Nat) : Traffic :=
  match (t.line? n).bind Line.take? with
  | some (frame, _) => t.progress n Line.advance ((t.log n).take frame)
  | none => t

def flush (t : Traffic) (n which : Nat) : Traffic :=
  match (t.log n).taken[which]? with
  | some frame => t.progress n (·.flush frame.size) ((t.log n).flush which frame)
  | none => t

def leave (t : Traffic) (n : Nat) (session : Session) : Traffic :=
  match t.line? n with
  | some line => if line.receiving then t.withEngine (t.server.engine.closeSession line.id n session) else t
  | none => t

def step (t : Traffic) : TrafficMove → Traffic
  | .call call =>
    let server := call.apply t.server
    ⟨server, fun n => (t.log n).accept (t.connections.posted server.engine.connections n)⟩
  | .connect id => t.withEngine (t.server.engine.openSession id).2
  | .receive n => t.receive n
  | .flush n which => t.flush n which
  | .leave n session => t.leave n session

def run (t : Traffic) (moves : List TrafficMove) : Traffic := moves.foldl step t

end Traffic

/-! What a call of the host is to the registry of connections. -/

namespace WebSocket.Outbound

def ofBytes? (data : Bytes) : Option Outbound := (Outbound.ofBytes data).toOption

theorem ofBytes_bytes (text : String) : ofBytes (Text.bytes text) = .ok (.text text) := by
  unfold ofBytes
  rw [Text.bytes, (Text.Utf8.decode_eq_ok_iff _ _).mpr rfl]
  exact congrArg (fun s => Except.ok (Outbound.text s)) String.ofList_toList

theorem ofBytes_malformed {data : Bytes} (malformed : ∀ text, data ≠ Text.bytes text) :
    ∃ fault, ofBytes data = .error fault := by
  unfold ofBytes
  cases read : Text.Utf8.decode data with
  | ok chars =>
    refine absurd ?_ (malformed (String.ofList chars))
    rw [Text.bytes, String.toList_ofList]
    exact (Text.Utf8.decode_eq_ok_iff _ _).mp read
  | error fault => exact ⟨fault, rfl⟩

end WebSocket.Outbound

namespace ServerCall

def connectionCall? (s : Server) : ServerCall → Option ConnectionCall
  | start _ (.ok _) => if s.state = .idle then some .reopen else none
  | stop => if s.state = .listening ∧ s.port.isSome then some (.shutDown Server.stopping) else none
  | sendText id data | sendCompressedText id data => (Outbound.ofBytes? data).map (.send id)
  | sendBinary id data => some (.send id (.binary data))
  | broadcastText data | broadcastCompressedText data => (Outbound.ofBytes? data).map .broadcast
  | broadcastBinary data => some (.broadcast (.binary data))
  | disconnect id => some (.disconnect id (.of .normal ""))
  | purge => some .purge
  | _ => none

end ServerCall

namespace Server

theorem connections_sendText (s : Server) (id : ConnectionId) (data : Bytes) :
    (s.sendText id data).2.engine.connections =
      (((Outbound.ofBytes? data).map (.send id)).map s.engine.connections.call).getD s.engine.connections := by
  unfold sendText Outbound.ofBytes?
  cases Outbound.ofBytes data <;> rfl

theorem connections_broadcastText (s : Server) (data : Bytes) :
    (s.broadcastText data).2.engine.connections =
      (((Outbound.ofBytes? data).map .broadcast).map s.engine.connections.call).getD s.engine.connections := by
  unfold broadcastText Outbound.ofBytes?
  cases Outbound.ofBytes data <;> rfl

theorem connections_startListening (s : Server) (requested : Nat) (bound : Except String Nat) :
    (s.startListening requested bound).2.engine.connections =
      (((ServerCall.start requested bound).connectionCall? s).map s.engine.connections.call).getD
        s.engine.connections := by
  by_cases idle : s.state = .idle
  · cases bound with
    | ok port =>
      rw [startListening_bound idle, ServerCall.connectionCall?, if_pos idle]
      rfl
    | error fault =>
      rw [startListening_failed idle]
      rfl
  · rw [startListening_busy idle]
    cases bound with
    | ok port =>
      rw [ServerCall.connectionCall?, if_neg idle]
      rfl
    | error fault => rfl

theorem connections_stop (s : Server) : s.stopListening.2.engine.connections =
    ((ServerCall.stop.connectionCall? s).map s.engine.connections.call).getD s.engine.connections := by
  by_cases listening : s.state = .listening
  · by_cases port : s.port.isSome = true
    · rw [connections_stopListening listening port, ServerCall.connectionCall?, if_pos ⟨listening, port⟩]
      rfl
    · have none : s.port = none := by simpa using port
      rw [ServerCall.connectionCall?, if_neg (fun both => port both.2), stopListening,
        if_neg (not_not_intro listening), none]
      rfl
  · rw [stopListening_idle listening, ServerCall.connectionCall?, if_neg (fun both => listening both.1)]
    rfl

end Server

namespace ServerCall

theorem connections_apply (s : Server) (call : ServerCall) : (call.apply s).engine.connections =
    ((call.connectionCall? s).map s.engine.connections.call).getD s.engine.connections := by
  cases call with
  | start requested bound => exact s.connections_startListening requested bound
  | stop => exact s.connections_stop
  | sendText id data | sendCompressedText id data => exact s.connections_sendText id data
  | broadcastText data | broadcastCompressedText data => exact s.connections_broadcastText data
  | _ => rfl

structure Hosted (asked : ConnectionCall) : Prop where
  adds : asked.Adds
  opens : ∀ id, asked ≠ .openLine id
  registers : ∀ id n, asked ≠ .register id n
  data : ∀ frame, asked.frame? = some frame → frame.isClose = false

theorem hosted_text {make : Outbound → ConnectionCall} (hosted : ∀ frame, frame.isClose = false → Hosted (make frame))
    {data : Bytes} {asked : ConnectionCall} (asks : (Outbound.ofBytes? data).map make = some asked) : Hosted asked := by
  unfold Outbound.ofBytes? Outbound.ofBytes at asks
  cases decoded : Text.Utf8.decode data <;> rw [decoded] at asks <;> cases asks
  exact hosted _ rfl

theorem hosted_connectionCall? {s : Server} {call : ServerCall} {asked : ConnectionCall}
    (asks : call.connectionCall? s = some asked) : Hosted asked := by
  have send (id : ConnectionId) (frame : Outbound) (data : frame.isClose = false) : Hosted (.send id frame) :=
    ⟨trivial, nofun, nofun, fun _ given => Option.some.inj given ▸ data⟩
  have broadcast (frame : Outbound) (data : frame.isClose = false) : Hosted (.broadcast frame) :=
    ⟨trivial, nofun, nofun, fun _ given => Option.some.inj given ▸ data⟩
  cases call with
  | start requested bound =>
    cases bound with
    | ok port =>
      simp only [connectionCall?, Option.ite_none_right_eq_some, Option.some.injEq] at asks
      obtain ⟨_, rfl⟩ := asks
      exact ⟨trivial, nofun, nofun, nofun⟩
    | error fault => cases asks
  | stop =>
    simp only [connectionCall?, Option.ite_none_right_eq_some, Option.some.injEq] at asks
    obtain ⟨_, rfl⟩ := asks
    exact ⟨trivial, nofun, nofun, nofun⟩
  | sendText id data | sendCompressedText id data => exact hosted_text (send id) asks
  | broadcastText data | broadcastCompressedText data => exact hosted_text broadcast asks
  | sendBinary id data =>
    cases asks
    exact send id _ rfl
  | broadcastBinary data =>
    cases asks
    exact broadcast _ rfl
  | disconnect id | purge =>
    cases asks
    exact ⟨trivial, nofun, nofun, nofun⟩
  | _ => cases asks

structure Leaves (r r' : ConnectionRegistry) : Prop where
  wired : r'.Wired
  policy : r'.policy = r.policy
  absent : ∀ n, r.line? n = none → r'.line? n = none
  gains : ∀ n line, r.line? n = some line → ∃ after sent frames, r'.line? n = some after ∧
    line.Gains r.policy sent frames after ∧ ∀ frame, sent = some frame → frame.isClose = false

theorem leaves_apply {s : Server} (wired : s.engine.connections.Wired) (call : ServerCall) :
    Leaves s.engine.connections (call.apply s).engine.connections := by
  rw [connections_apply]
  cases asks : call.connectionCall? s with
  | none => exact ⟨wired, rfl, fun _ absent => absent, fun n line found => ⟨line, none, [], found, .nothing, nofun⟩⟩
  | some asked =>
    have hosted := hosted_connectionCall? asks
    refine ⟨wired.call hosted.adds fun id n same => absurd same (hosted.registers id n), policy_call _ _,
      fun n absent => wired.absent hosted.adds hosted.opens absent, fun n line found => ?_⟩
    obtain ⟨after, frames, left, gains⟩ := wired.gains hosted.adds found
    exact ⟨after, _, frames, left, gains, hosted.data⟩

end ServerCall

/-! The account of a line. -/

/-- What a line counts is what was accepted on it and is not flushed: it was taken, it waits, or it was lost
    when the session hung up. The frame that came last may have passed the limit, and no other. -/
structure FrameLog.Accounts (log : FrameLog) (limit : Nat) (line : Line) : Prop where
  parts : ∃ lost, log.accepted.Perm (log.flushed ++ (log.taken ++ (dataFrames line.queued ++ lost))) ∧
    line.buffered = total (log.taken ++ (dataFrames line.queued ++ lost))
  bound : line.buffered ≤ limit + (log.accepted.getLast?.map (·.size)).getD 0

namespace FrameLog.Accounts

variable {log : FrameLog} {limit : Nat} {line : Line}

theorem opened (limit : Nat) (id : ConnectionId) : FrameLog.empty.Accounts limit (.opened id) :=
  ⟨⟨[], .nil, rfl⟩, Nat.zero_le _⟩

theorem of_count {log' : FrameLog} {line' : Line} (lost : List Outbound)
    (count : ∀ frame, log'.accepted.count frame = log'.flushed.count frame + log'.taken.count frame +
      (dataFrames line'.queued).count frame + lost.count frame)
    (amount : line'.buffered = total log'.taken + total (dataFrames line'.queued) + total lost)
    (bound : line'.buffered ≤ limit + (log'.accepted.getLast?.map (·.size)).getD 0) : log'.Accounts limit line' := by
  refine ⟨⟨lost, List.perm_iff_count.mpr fun frame => ?_, ?_⟩, bound⟩
  · simp only [List.count_append, count frame, Nat.add_assoc]
  · simp only [total_append, amount, Nat.add_assoc]

theorem count (accounts : log.Accounts limit line) : ∃ lost : List Outbound,
    (∀ frame, log.accepted.count frame = log.flushed.count frame + log.taken.count frame +
      (dataFrames line.queued).count frame + lost.count frame) ∧
    line.buffered = total log.taken + total (dataFrames line.queued) + total lost := by
  obtain ⟨⟨lost, perm, amount⟩, _⟩ := accounts
  refine ⟨lost, fun frame => ?_, ?_⟩
  · simpa only [List.count_append, Nat.add_assoc] using perm.count_eq frame
  · simpa only [total_append, Nat.add_assoc] using amount

theorem gains (accounts : log.Accounts limit line) {policy : BackpressurePolicy}
    (same : policy.maxBackpressure = limit) {sent : Option Outbound} {frames : List Outbound} {after : Line}
    (data : ∀ frame, sent = some frame → frame.isClose = false) (gains : line.Gains policy sent frames after) :
    (log.accept frames).Accounts limit after := by
  obtain ⟨lost, count, amount⟩ := accounts.count
  cases gains with
  | nothing =>
    have nothing : log.accept [] = log := by simp [FrameLog.accept, dataFrames]
    rw [nothing]
    exact accounts
  | @frame frame given receiving room =>
    have single := dataFrames_single (data frame given)
    have size : total [frame] = frame.size := Nat.add_zero _
    refine of_count lost (fun other => ?_) ?_ ?_
    · have parts := count other
      simp only [FrameLog.accept, dataFrames_append, single, List.count_append]
      omega
    · simp only [FrameLog.accept, dataFrames_append, single, total_append, size]
      omega
    · simp only [FrameLog.accept, single, List.getLast?_append, List.getLast?_singleton]
      exact Nat.add_le_add_right (same ▸ room) _
  | close closure receiving =>
    have nothing : log.accept [.close closure] = log := by simp [FrameLog.accept, dataFrames, Outbound.isClose]
    have silent : dataFrames (line.queued ++ [.close closure]) = dataFrames line.queued := by
      simp [dataFrames, Outbound.isClose]
    rw [nothing]
    refine of_count lost (fun other => ?_) ?_ accounts.bound
    · rw [silent]
      exact count other
    · rw [silent]
      exact amount

theorem take (accounts : log.Accounts limit line) {frame : Outbound} {after : Line}
    (taken : line.take? = some (frame, after)) : (log.take frame).Accounts limit line.advance := by
  obtain ⟨lost, count, amount⟩ := accounts.count
  unfold Line.take? at taken
  split at taken
  · cases taken
  · rename_i rest queued
    cases taken
    have advanced : line.advance = { line with queued := rest } := by rw [Line.advance, queued, List.tail_cons]
    rw [advanced]
    have parts : dataFrames line.queued = dataFrames [frame] ++ dataFrames rest := by
      rw [queued, ← dataFrames_append]
      rfl
    refine of_count lost (fun other => ?_) ?_ accounts.bound
    · have parts := parts ▸ count other
      simp only [FrameLog.take, List.count_append] at parts ⊢
      omega
    · have parts := parts ▸ amount
      simp only [FrameLog.take, total_append] at parts ⊢
      omega

theorem size_le (accounts : log.Accounts limit line) {frame : Outbound} (held : frame ∈ log.taken) :
    frame.size ≤ line.buffered := by
  obtain ⟨_, _, amount⟩ := accounts.count
  have part : total log.taken = frame.size + total (log.taken.erase frame) := total_perm (List.perm_cons_erase held)
  omega

theorem flush (accounts : log.Accounts limit line) {which : Nat} {frame : Outbound}
    (held : log.taken[which]? = some frame) : (log.flush which frame).Accounts limit (line.flush frame.size) := by
  obtain ⟨lost, count, amount⟩ := accounts.count
  obtain ⟨inside, rfl⟩ := List.getElem?_eq_some_iff.mp held
  have perm := List.getElem_cons_eraseIdx_perm inside
  have size : total log.taken = log.taken[which].size + total (log.taken.eraseIdx which) := (total_perm perm).symm
  refine of_count lost (fun other => ?_) ?_ ?_
  · have parts := count other
    have moved := perm.count_eq other
    rw [List.count_cons] at moved
    simp only [FrameLog.flush, Line.flush, List.count_append, List.count_singleton] at parts ⊢
    omega
  · simp only [FrameLog.flush, Line.flush]
    omega
  · have bound := accounts.bound
    simp only [FrameLog.flush, Line.flush]
    omega

theorem hangUp (accounts : log.Accounts limit line) : log.Accounts limit line.hangUp := by
  obtain ⟨lost, count, amount⟩ := accounts.count
  refine of_count (dataFrames line.queued ++ lost) (fun other => ?_) ?_ accounts.bound
  · have parts := count other
    simp only [Line.hangUp, dataFrames, List.filter_nil, List.count_nil, List.count_append] at parts ⊢
    omega
  · simp only [Line.hangUp, dataFrames, List.filter_nil, total_append, amount]
    simp [total, Nat.add_assoc]

theorem subperm (accounts : log.Accounts limit line) : log.flushed.Subperm log.accepted := by
  obtain ⟨_, perm, _⟩ := accounts.parts
  exact (List.sublist_append_left ..).subperm.trans perm.symm.subperm

theorem balance (accounts : log.Accounts limit line) : total log.accepted = total log.flushed + line.buffered := by
  obtain ⟨_, perm, amount⟩ := accounts.parts
  rw [total_perm perm, total_append, amount]

theorem buffered (accounts : log.Accounts limit line) :
    line.buffered = total (log.accepted.diff log.flushed) := by
  have balance := accounts.balance
  have whole := total_perm (List.subperm_append_diff_self_of_count_le (List.subperm_ext_iff.mp accounts.subperm))
  rw [total_append] at whole
  omega

theorem settled (accounts : log.Accounts limit line) (all : log.flushed.Perm log.accepted) : line.buffered = 0 := by
  have balance := accounts.balance
  rw [total_perm all] at balance
  omega

end FrameLog.Accounts

/-! Any run. -/

namespace Traffic

variable {t : Traffic} {policy : BackpressurePolicy}

/-- Every line has its account, and none was opened for a number that is still free. -/
structure Sound (t : Traffic) (policy : BackpressurePolicy) : Prop where
  wired : t.connections.Wired
  limited : t.connections.policy = policy
  accounts : ∀ n line, t.line? n = some line → (t.log n).Accounts policy.maxBackpressure line
  fresh : ∀ n, t.line? n = none → t.log n = .empty

theorem sound_create (config : ServerConfig) : (create config).Sound config.backpressure where
  wired := ConnectionRegistry.wired_empty _
  limited := rfl
  accounts := nofun
  fresh := fun _ _ => rfl

theorem Sound.call (sound : t.Sound policy) (call : ServerCall) : (t.step (.call call)).Sound policy := by
  have leaves := ServerCall.leaves_apply sound.wired call
  refine ⟨leaves.wired, leaves.policy.trans sound.limited, fun n line found => ?_, fun n absent => ?_⟩
  · cases before : t.line? n with
    | none => cases (leaves.absent n before).symm.trans found
    | some line' =>
      obtain ⟨after, sent, frames, left, gains, data⟩ := leaves.gains n line' before
      cases left.symm.trans found
      show ((t.log n).accept (t.connections.posted (call.apply t.server).engine.connections n)).Accounts
        policy.maxBackpressure line
      rw [posted_gains before left gains]
      exact (sound.accounts n line' before).gains (congrArg (·.maxBackpressure) sound.limited) data gains
  · cases before : t.line? n with
    | none =>
      have silent : (call.apply t.server).engine.connections.waiting n = [] :=
        ConnectionRegistry.waiting_absent absent
      show (t.log n).accept (t.connections.posted (call.apply t.server).engine.connections n) = .empty
      rw [sound.fresh n before, ConnectionRegistry.posted, silent, List.drop_nil]
      rfl
    | some line' =>
      obtain ⟨_, _, _, left, _⟩ := leaves.gains n line' before
      cases absent.symm.trans left

theorem Sound.progress (sound : t.Sound policy) {n : Nat} {line : Line} (found : t.line? n = some line)
    {f : Line → Line} (keeps : ∀ line, (f line).id = line.id) {log : FrameLog}
    (accounts : log.Accounts policy.maxBackpressure (f line)) : (t.progress n f log).Sound policy := by
  have lines (m : Nat) : (t.progress n f log).line? m = if n = m then (t.line? m).map f else t.line? m :=
    t.connections.line?_modifyLine n m f
  refine ⟨sound.wired.modifyLine n keeps, sound.limited, fun m other there => ?_, fun m absent => ?_⟩
  · show (Function.update t.log n log m).Accounts policy.maxBackpressure other
    rw [lines] at there
    by_cases same : n = m
    · subst same
      rw [if_pos rfl, found] at there
      cases there
      rwa [Function.update_self]
    · rw [if_neg same] at there
      rw [Function.update_of_ne (Ne.symm same)]
      exact sound.accounts m other there
  · show Function.update t.log n log m = .empty
    rw [lines] at absent
    by_cases same : n = m
    · subst same
      rw [if_pos rfl, found] at absent
      cases absent
    · rw [if_neg same] at absent
      rw [Function.update_of_ne (Ne.symm same)]
      exact sound.fresh m absent

theorem Sound.connect (sound : t.Sound policy) (id : ConnectionId) : (t.step (.connect id)).Sound policy := by
  have lines (m : Nat) := t.server.engine.line?_openSession id m
  refine ⟨Engine.wired_openSession sound.wired id, ?_, fun m line found => ?_, fun m absent => ?_⟩
  · exact (t.server.engine.policy_openSession id).trans sound.limited
  · rw [step, line?, connections, withEngine, lines] at found
    split at found
    · rename_i last
      have free : t.line? m = none := List.getElem?_eq_none (Nat.le_of_eq last.symm)
      have opened := FrameLog.Accounts.opened policy.maxBackpressure id
      rw [step, withEngine, sound.fresh m free]
      split at found <;> cases found
      · exact opened
      · exact opened.hangUp
    · exact sound.accounts m line found
  · rw [step, line?, connections, withEngine, lines] at absent
    split at absent
    · cases absent
    · exact sound.fresh m absent

theorem Sound.leave (sound : t.Sound policy) (n : Nat) (session : Session) : (t.leave n session).Sound policy := by
  unfold Traffic.leave
  split
  · rename_i line found
    split
    · have lines (m : Nat) := t.server.engine.line?_closeSession line.id n session m
      refine ⟨Engine.wired_closeSession sound.wired _ n session, ?_, fun m other there => ?_, fun m absent => ?_⟩
      · exact (t.server.engine.policy_closeSession _ n session).trans sound.limited
      · rw [line?, connections, withEngine, lines] at there
        split at there
        · obtain ⟨before, found, rfl⟩ := Option.map_eq_some_iff.mp there
          exact (sound.accounts m before found).hangUp
        · exact sound.accounts m other there
      · rw [line?, connections, withEngine, lines] at absent
        refine sound.fresh m ?_
        split at absent
        · exact Option.map_eq_none_iff.mp absent
        · exact absent
    · exact sound
  · exact sound

theorem Sound.receive (sound : t.Sound policy) (n : Nat) : (t.receive n).Sound policy := by
  unfold Traffic.receive
  split
  · rename_i frame _ taken
    obtain ⟨line, found, took⟩ := Option.bind_eq_some_iff.mp taken
    exact sound.progress (f := Line.advance) found (fun _ => rfl) ((sound.accounts n line found).take took)
  · exact sound

theorem Sound.flush (sound : t.Sound policy) (n which : Nat) : (t.flush n which).Sound policy := by
  unfold Traffic.flush
  split
  · rename_i frame held
    cases found : t.line? n with
    | none =>
      rw [sound.fresh n found] at held
      cases held
    | some line =>
      have flushed := (sound.accounts n line found).flush held
      exact sound.progress (f := (·.flush frame.size)) found (fun _ => rfl) flushed
  · exact sound

theorem Sound.step (sound : t.Sound policy) (move : TrafficMove) : (t.step move).Sound policy := by
  cases move with
  | call call => exact sound.call call
  | connect id => exact sound.connect id
  | receive n => exact sound.receive n
  | flush n which => exact sound.flush n which
  | leave n session => exact sound.leave n session

theorem Sound.run (sound : t.Sound policy) (moves : List TrafficMove) : (t.run moves).Sound policy := by
  induction moves generalizing t with
  | nil => exact sound
  | cons move rest ih => exact ih (sound.step move)

end Traffic

/-! One send. -/

namespace Server

variable {s : Server}

def connection? (s : Server) (id : ConnectionId) : Option Line :=
  (s.engine.connections.liveLine? id).bind s.engine.connections.line?

/-- What the sending of a frame to a connection answers, and what it leaves. The frame is accepted exactly if
    the connection is live, its session receives and no more waits than may; it is told whether more waits
    then. Otherwise nothing waits that did not, but for the close of a connection that lets too much wait. No
    other connection is concerned. -/
structure Sends (s : Server) (policy : BackpressurePolicy) (id : ConnectionId) (frame : Outbound)
    (result : SendStatus × Server) : Prop where
  accepted : result.1.isDelivered = true ↔
    ∃ line, s.connection? id = some line ∧ line.receiving = true ∧ line.buffered ≤ policy.maxBackpressure
  grows : result.1.isDelivered = true → ∀ line, s.connection? id = some line →
    result.1 = (if policy.maxBackpressure < line.buffered + frame.size then .backpressure else .success) ∧
    result.2.connection? id =
      some { line with queued := line.queued ++ [frame], buffered := line.buffered + frame.size }
  refused : result.1.isDelivered = false →
    result.1 = (if s.connection? id = none then .notFound else .dropped) ∧
    result.2.connection? id = (s.connection? id).map fun line =>
      if line.receiving = true ∧ policy.maxBackpressure < line.buffered ∧ policy.closeOnLimit = true then
        { line with queued := line.queued ++ [.close ⟨1008, "backpressure limit exceeded"⟩] }
      else line
  apart : ∀ n, s.engine.connections.liveLine? id ≠ some n →
    result.2.engine.connections.line? n = s.engine.connections.line? n
  others : ∀ other, other ≠ id → result.2.connection? other = s.connection? other

theorem connection?_congr {s' : Server} (entries : s'.engine.connections.entries = s.engine.connections.entries)
    {id : ConnectionId} {n : Nat} (live : s.engine.connections.liveLine? id = some n) :
    s'.connection? id = s'.engine.connections.line? n := by
  rw [connection?, ConnectionRegistry.liveLine?_congr entries, live]
  rfl

theorem connection?_isSome (wired : s.engine.connections.Wired) (id : ConnectionId) :
    (s.connection? id).isSome = s.engine.connections.isLive id := by
  unfold connection? ConnectionRegistry.isLive
  cases live : s.engine.connections.liveLine? id with
  | none => rfl
  | some n =>
    obtain ⟨line, found, _⟩ := Option.map_eq_some_iff.mp (wired.own id n live)
    rw [Option.bind_some, found]
    rfl

theorem sends_absent {policy : BackpressurePolicy} {id : ConnectionId}
    (absent : s.engine.connections.liveLine? id = none) (frame : Outbound) :
    s.Sends policy id frame (s.withEngine (·.send id frame)) := by
  have unknown : s.connection? id = none := by rw [connection?, absent]; rfl
  have refused := ConnectionRegistry.send_absent absent frame
  have answer : (s.withEngine (·.send id frame)).1 = .notFound := congrArg (·.1) refused
  have same : (s.withEngine (·.send id frame)).2.engine.connections = s.engine.connections := congrArg (·.2) refused
  have connections (other : ConnectionId) : (s.withEngine (·.send id frame)).2.connection? other = s.connection? other := by
    rw [connection?, same]
    rfl
  refine ⟨?_, ?_, fun _ => ⟨?_, ?_⟩, fun n _ => congrArg (·.line? n) same, fun other _ => connections other⟩
  · rw [answer, unknown]
    exact ⟨nofun, nofun⟩
  · rw [answer]
    nofun
  · rw [answer, if_pos unknown]
  · rw [connections, unknown]
    rfl

theorem sends_live (wired : s.engine.connections.Wired) {policy : BackpressurePolicy}
    (limited : s.engine.connections.policy = policy) {id : ConnectionId} {n : Nat}
    (live : s.engine.connections.liveLine? id = some n) (frame : Outbound) :
    s.Sends policy id frame (s.withEngine (·.send id frame)) := by
  obtain ⟨line, found, _⟩ := Option.map_eq_some_iff.mp (wired.own id n live)
  have known : s.connection? id = some line := by rw [connection?, live]; exact found
  have entries := s.engine.connections.entries_send id frame
  have lines := ConnectionRegistry.line?_send live frame
  have answer : (s.withEngine (·.send id frame)).1 = (line.send frame policy).1 :=
    limited ▸ ConnectionRegistry.send_answer live found frame
  have own : (s.withEngine (·.send id frame)).2.connection? id = some (line.send frame policy).2 := by
    refine (connection?_congr entries live).trans ((lines n).trans ?_)
    rw [if_pos rfl, found, limited]
    rfl
  have apart (m : Nat) (other : s.engine.connections.liveLine? id ≠ some m) :
      (s.withEngine (·.send id frame)).2.engine.connections.line? m = s.engine.connections.line? m := by
    refine (lines m).trans (if_neg fun same => ?_)
    exact other (same ▸ live)
  have others (other : ConnectionId) (different : other ≠ id) :
      (s.withEngine (·.send id frame)).2.connection? other = s.connection? other := by
    cases there : s.engine.connections.liveLine? other with
    | none =>
      have gone : (s.withEngine (·.send id frame)).2.engine.connections.liveLine? other = none :=
        (ConnectionRegistry.liveLine?_congr entries other).trans there
      rw [connection?, connection?, there, gone]
      rfl
    | some m =>
      rw [connection?_congr entries there, connection?_congr rfl there]
      exact apart m fun same => different (wired.injective there same)
  by_cases accepted : line.receiving = true ∧ line.buffered ≤ policy.maxBackpressure
  · rw [Line.send_accepted accepted.1 accepted.2] at answer own
    have delivered : (s.withEngine (·.send id frame)).1.isDelivered = true := by
      rw [answer]
      dsimp only
      split <;> rfl
    refine ⟨iff_of_true delivered ⟨line, known, accepted⟩, fun _ other same => ?_, fun refused => ?_, apart, others⟩
    · cases known.symm.trans same
      exact ⟨answer, own⟩
    · cases delivered.symm.trans refused
  · rw [Line.send_dropped accepted] at answer own
    have refused : (s.withEngine (·.send id frame)).1.isDelivered ≠ true := by
      rw [answer]
      nofun
    refine ⟨iff_of_false refused ?_, fun delivered => absurd delivered refused, fun _ => ⟨?_, ?_⟩, apart, others⟩
    · rintro ⟨other, same, open_⟩
      cases known.symm.trans same
      exact accepted open_
    · rw [answer, known, if_neg (Option.some_ne_none line)]
    · rw [own, known]
      rfl

theorem sends_frame (wired : s.engine.connections.Wired) {policy : BackpressurePolicy}
    (limited : s.engine.connections.policy = policy) (id : ConnectionId) (frame : Outbound) :
    s.Sends policy id frame (s.withEngine (·.send id frame)) := by
  cases live : s.engine.connections.liveLine? id with
  | none => exact sends_absent live frame
  | some n => exact sends_live wired limited live frame

theorem sendText_bytes (s : Server) (id : ConnectionId) (text : String) :
    s.sendText id (Text.bytes text) = s.withEngine (·.send id (.text text)) := by
  unfold sendText
  rw [Outbound.ofBytes_bytes]

theorem sendText_malformed (s : Server) (id : ConnectionId) {data : Bytes} (malformed : ∀ text, data ≠ Text.bytes text) :
    (s.sendText id data).1 = .dropped ∧ (s.sendText id data).2.engine.connections = s.engine.connections := by
  obtain ⟨fault, refused⟩ := Outbound.ofBytes_malformed malformed
  unfold sendText
  rw [refused]
  exact ⟨rfl, rfl⟩

end Server

namespace Traffic

/-- For every run of a server with its host and its sessions, on every line: what was flushed was accepted
    before, and the amount is that of the frames that were accepted and are not flushed; so it is zero when
    all are, passes the limit at most by the frame that was accepted last, and covers each frame that is about
    to be flushed. A send to a connection answers and does as `Server.Sends` tells, and bytes that are no text
    are dropped. -/
theorem buffered_account (config : ServerConfig) (moves : List TrafficMove) :
    let t := (create config).run moves
    let s := t.server
    (∀ n line, t.line? n = some line →
      (t.log n).flushed.Subperm (t.log n).accepted ∧
      line.buffered = total ((t.log n).accepted.diff (t.log n).flushed) ∧
      ((t.log n).flushed.Perm (t.log n).accepted → line.buffered = 0) ∧
      line.buffered ≤ config.maxBackpressure + ((t.log n).accepted.getLast?.map (·.size)).getD 0 ∧
      ∀ frame ∈ (t.log n).taken, frame.size ≤ line.buffered) ∧
    ∀ id, (s.connection? id).isSome = s.engine.connections.isLive id ∧
      (∀ data, s.Sends config.backpressure id (.binary data) (s.sendBinary id data)) ∧
      (∀ text, s.Sends config.backpressure id (.text text) (s.sendText id (Text.bytes text))) ∧
      ∀ data, (∀ text, data ≠ Text.bytes text) → (s.sendText id data).1 = .dropped ∧
        (s.sendText id data).2.engine.connections = s.engine.connections := by
  intro t s
  have sound : t.Sound config.backpressure := (sound_create config).run moves
  refine ⟨fun n line found => ?_, fun id => ⟨Server.connection?_isSome sound.wired id, fun data => ?_, fun text => ?_,
    fun data => s.sendText_malformed id⟩⟩
  · have accounts := sound.accounts n line found
    exact ⟨accounts.subperm, accounts.buffered, accounts.settled, accounts.bound, fun _ => accounts.size_le⟩
  · exact Server.sends_frame sound.wired sound.limited id _
  · rw [Server.sendText_bytes]
    exact Server.sends_frame sound.wired sound.limited id _

def client : ConnectionId := ⟨.fresh 0 1⟩

def crowded : List TrafficMove :=
  [.call (.start 0 (.ok 8080)), .connect client, .call (.sendBinary client [1, 2, 3]),
    .call (.broadcastText (Text.bytes "hey")), .call (.sendBinary client [9]), .receive 0, .receive 0, .flush 0 1]

/-- The frame that is not flushed yet still counts, and leaves room for the next. -/
theorem buffered_account_crowded :
    let t := (create { maxBackpressure := 4, closeOnBackpressureLimit := true }).run crowded
    (t.log 0).accepted = [.binary [1, 2, 3], .text "hey"] ∧ (t.log 0).flushed = [.text "hey"] ∧
    (∃ line, t.line? 0 = some line ∧ line.buffered = 3 ∧ line.queued = [.close Line.overLimit]) ∧
    (t.server.sendBinary client [7, 7]).1 = .backpressure ∧ (t.server.sendText client [0xFF]).1 = .dropped := by
  intro t
  have accepted : (t.log 0).accepted = [.binary [1, 2, 3], .text "hey"] := by decide
  have flushed : (t.log 0).flushed = [.text "hey"] := by decide
  have there : t.line? 0 = some ⟨client, [.close Line.overLimit], 3, true, false⟩ := by decide
  have connected : t.server.connection? client = some ⟨client, [.close Line.overLimit], 3, true, false⟩ := by decide
  obtain ⟨lines, sends⟩ := buffered_account { maxBackpressure := 4, closeOnBackpressureLimit := true } crowded
  obtain ⟨_, amount, _⟩ := lines 0 _ there
  obtain ⟨_, binary, _, malformed⟩ := sends client
  refine ⟨accepted, flushed, ⟨_, there, ?_, rfl⟩, ?_, (malformed [0xFF] fun text same => ?_).1⟩
  · rw [amount]
    show total ((t.log 0).accepted.diff (t.log 0).flushed) = 3
    rw [accepted, flushed]
    decide
  · have sent := binary [7, 7]
    exact (sent.grows (sent.accepted.mpr ⟨_, connected, rfl, by decide⟩) _ connected).1
  · have read := (Text.ofBytes?_eq_some_iff [0xFF] text).mpr same
    cases read.symm.trans (show Text.ofBytes? [0xFF] = none by decide)

end Traffic

end Gateway
