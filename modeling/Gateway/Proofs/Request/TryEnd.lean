import Gateway.Proofs.Request.InFlight

namespace Gateway

namespace Response

/-- The response with one more part of its body. The head is out, and an empty part adds no chunk. -/
def accept (x : Response) (data : Bytes) : Response :=
  { x.flushHead with
    chunks := if data = [] then x.chunks else x.chunks ++ [data]
    buffered := x.buffered + data.length
    queued := x.queued + data.length }

theorem write_eq_accept {x : Response} (isOpen : x.isOpen = true) (receiving : x.receiving = true)
    (data : Bytes) : x.write data = (true, x.accept data) := by
  obtain ⟨head, chunks, _, _, buffered, queued, wanted⟩ := x
  cases isOpen
  cases receiving
  cases head <;> cases data <;> rfl

theorem length_chunks_accept (x : Response) (data : Bytes) :
    (x.accept data).chunks.length ≤ x.chunks.length + 1 := by
  cases data with
  | nil => exact Nat.le_succ _
  | cons b rest =>
    show (x.chunks ++ [b :: rest]).length ≤ _
    exact Nat.le_of_eq List.length_append

end Response

namespace RequestRegistry

variable {r : RequestRegistry} {id : RequestId} {n : Nat} {response : Response}

theorem modifyResponse_congr (found : r.response? n = some response) {f g : Response → Response}
    (same : f response = g response) : r.modifyResponse n f = r.modifyResponse n g := by
  rw [← modifyResponse_const found f, ← modifyResponse_const found g, same]

theorem tryEnd_full (known : r.responseOf? id = some (n, response)) {data : Bytes}
    (full : 0 < response.buffered ∧ r.maxBackpressure < response.buffered + data.length) (totalSize : Nat) :
    r.tryEnd id data totalSize =
      (.notSent, r.modifyResponse n fun x => { x with writableWanted := true }) := by
  obtain ⟨_, _, _, found⟩ := responseOf?_eq_some_iff.mp known
  have wanted : response.wantWritable.2 = { response with writableWanted := true } := by
    rw [Response.wantWritable, if_pos full.1]
  simp only [tryEnd, known, if_pos full]
  rw [modifyResponse_congr found (g := fun x => { x with writableWanted := true }) wanted]

theorem tryEnd_last (known : r.responseOf? id = some (n, response)) (isOpen : response.isOpen = true)
    (receiving : response.receiving = true) {data : Bytes} {totalSize : Nat}
    (room : ¬(0 < response.buffered ∧ r.maxBackpressure < response.buffered + data.length))
    (complete : totalSize ≤ response.queued + data.length) :
    r.tryEnd id data totalSize =
      (.sentAndEnded, (r.remove id).modifyResponse n fun x => (x.accept data).finish) := by
  obtain ⟨_, _, _, found⟩ := responseOf?_eq_some_iff.mp known
  have left : (r.remove id).response? n = some response := found
  have accepted : (response.finishWith data).2 = (response.accept data).finish := by
    rw [Response.finishWith, Response.write_eq_accept isOpen receiving]
  simp only [tryEnd, known, if_neg room, if_pos complete]
  rw [finish_known known,
    modifyResponse_congr left (g := fun x => (x.accept data).finish) accepted]

theorem tryEnd_part (known : r.responseOf? id = some (n, response)) (isOpen : response.isOpen = true)
    (receiving : response.receiving = true) {data : Bytes} {totalSize : Nat}
    (room : ¬(0 < response.buffered ∧ r.maxBackpressure < response.buffered + data.length))
    (more : response.queued + data.length < totalSize) :
    r.tryEnd id data totalSize = (.sentNotEnded, r.modifyResponse n fun x => x.accept data) := by
  obtain ⟨_, _, _, found⟩ := responseOf?_eq_some_iff.mp known
  have accepted := Response.write_eq_accept isOpen receiving data
  simp only [tryEnd, known, if_neg room, if_neg (Nat.not_le.mpr more)]
  rw [write, withResponse_known known]
  dsimp only
  rw [modifyResponse_congr found (g := fun x => x.accept data) (congrArg Prod.snd accepted), accepted]
  rfl

/-- A part is refused exactly if something waits and the part does not fit beside it. -/
theorem tryEnd_notSent_iff (known : r.responseOf? id = some (n, response)) (data : Bytes) (totalSize : Nat) :
    (r.tryEnd id data totalSize).1 = .notSent ↔
      0 < response.buffered ∧ r.maxBackpressure < response.buffered + data.length := by
  by_cases full : 0 < response.buffered ∧ r.maxBackpressure < response.buffered + data.length
  · rw [tryEnd_full known full]
    exact ⟨fun _ => full, fun _ => rfl⟩
  · refine ⟨fun refused => ?_, fun fits => absurd fits full⟩
    simp only [tryEnd, known, if_neg full] at refused
    split at refused
    · rw [finish_known known] at refused
      cases refused
    · rw [write, withResponse_known known] at refused
      dsimp only at refused
      split at refused <;> cases refused

theorem has_leave (r : RequestRegistry) (id : RequestId) (n : Nat) (f : Response → Response) :
    ((r.remove id).modifyResponse n f).has id = false :=
  congrArg Option.isSome (r.find?_remove id)

end RequestRegistry

/-- Who acts next on a body that is offered in parts. -/
inductive Turn where
  | offer
  | poll
  deriving DecidableEq, Repr

/-- A host with the parts of a body that it still has to offer, and a connection that takes the body. -/
structure Offering where
  registry : RequestRegistry
  remaining : List Bytes
  /-- The parts that were not refused, each with the answer to it. -/
  taken : List (Bytes × ResponseStatus)
  polled : Bytes

namespace Offering

def start (registry : RequestRegistry) (parts : List Bytes) : Offering := ⟨registry, parts, [], []⟩

def turn (id : RequestId) (n totalSize : Nat) (o : Offering) : Turn → Offering
  | .offer =>
    match o.remaining with
    | [] => o
    | part :: rest =>
      let (answer, registry) := o.registry.tryEnd id part totalSize
      if answer = .notSent then { o with registry }
      else { o with registry, remaining := rest, taken := o.taken ++ [(part, answer)] }
  | .poll =>
    let (poll, _, registry) := o.registry.pollBody n
    match poll with
    | .data chunk => { o with registry, polled := o.polled ++ chunk }
    | .pending | .done => { o with registry }

def along (id : RequestId) (n totalSize : Nat) (schedule : Nat → Turn) (o : Offering) : Nat → Offering
  | 0 => o
  | m + 1 => (o.along id n totalSize schedule m).turn id n totalSize (schedule m)

/-- The answers to the parts of a whole body: the last one ends it. -/
def verdicts : List Bytes → List (Bytes × ResponseStatus)
  | [] => []
  | [part] => [(part, .sentAndEnded)]
  | part :: next :: rest => (part, .sentNotEnded) :: verdicts (next :: rest)

def waiting (o : Offering) (n : Nat) : Nat :=
  match o.registry.response? n with
  | some response => response.chunks.length
  | none => 0

theorem parts_verdicts (parts : List Bytes) : (verdicts parts).map (·.1) = parts := by
  induction parts with
  | nil => rfl
  | cons part rest ih =>
    cases rest with
    | nil => rfl
    | cons next rest => exact congrArg (part :: ·) ih

theorem verdicts_cons (part : Bytes) (rest : List Bytes) :
    verdicts (part :: rest) =
      (part, if rest = [] then .sentAndEnded else .sentNotEnded) :: verdicts rest := by
  cases rest <;> rfl

variable {id : RequestId} {n totalSize : Nat} {parts : List Bytes} {o : Offering}

/-- The ledger of the response agrees with what host and connection have seen, and the request is in
    flight as long as parts remain. -/
structure Steady (id : RequestId) (n : Nat) (parts : List Bytes) (o : Offering) (l : Ledger) : Prop where
  accounts : l.Accounts o.registry id n
  kept : l.isAborted = false
  polled : l.polled = o.polled
  accepted : l.accepted = (o.taken.map (·.1)).flatten
  answers : o.taken ++ verdicts o.remaining = verdicts parts
  inFlight : o.registry.has id = true ↔ o.remaining ≠ []

theorem Steady.split {l : Ledger} (steady : Steady id n parts o l) :
    o.taken.map (·.1) ++ o.remaining = parts := by
  have answers := congrArg (List.map (·.1)) steady.answers
  rwa [List.map_append, parts_verdicts, parts_verdicts] at answers

theorem Steady.response {l : Ledger} (steady : Steady id n parts o l) :
    ∃ response, o.registry.response? n = some response ∧ l.Matches response ∧
      (response.isOpen = true ↔ o.remaining ≠ []) := by
  obtain ⟨response, found, matched, isOpen⟩ := steady.accounts.response
  rw [steady.kept, Bool.not_false, Bool.and_true] at isOpen
  refine ⟨response, found, matched, ?_⟩
  rw [isOpen]
  exact steady.inFlight

theorem steady_start (r : RequestRegistry) (record : RequestRecord) (fresh : r.has record.id = false)
    (nonempty : parts ≠ []) :
    Steady record.id r.responses.length parts (start (r.takeIn record) parts) .start := by
  refine ⟨Ledger.accounts_takeIn record fresh, rfl, rfl, rfl, rfl, fun _ => nonempty, fun _ => ?_⟩
  obtain ⟨_, found, _, isOpen⟩ := (Ledger.accounts_takeIn record fresh).response
  have opened : RequestRegistry.response? (r.takeIn record) r.responses.length = some .start := by
    rw [RequestRegistry.takeIn_free record fresh]
    exact List.getElem?_concat_length
  cases opened.symm.trans found
  show (r.takeIn record).has record.id = true
  simpa [Response.start, Ledger.start] using isOpen.symm

/-- How a part is answered: it is refused, and all but the flag for the host's wait stays, or it is taken
    whole, and the last one lets the request leave. -/
theorem Steady.tryEnd {l : Ledger} (steady : Steady id n parts o l) (sized : totalSize = parts.flatten.length)
    (filled : ∀ part ∈ parts, part ≠ []) {part : Bytes} {rest : List Bytes} (remaining : o.remaining = part :: rest)
    {response : Response} (found : o.registry.response? n = some response) :
    (0 < response.buffered ∧ o.registry.maxBackpressure < response.buffered + part.length ∧
      o.registry.tryEnd id part totalSize =
        (.notSent, o.registry.modifyResponse n fun x => { x with writableWanted := true })) ∨
    ∃ f : Response → Response, (f response).chunks = (response.accept part).chunks ∧
      ∃ registry, o.registry.tryEnd id part totalSize =
        (if rest = [] then .sentAndEnded else .sentNotEnded, registry) ∧
        (registry.has id = true ↔ rest ≠ []) ∧ registry.response? n = some (f response) := by
  obtain ⟨_, same, matched, isOpen⟩ := steady.response
  cases found.symm.trans same
  have has : o.registry.has id = true := steady.inFlight.mpr (by rw [remaining]; exact List.cons_ne_nil _ _)
  have known := steady.accounts.responseOf? found has
  have opened : response.isOpen = true := isOpen.mpr (by rw [remaining]; exact List.cons_ne_nil _ _)
  have queued : response.queued = ((o.taken.map (·.1)).flatten).length := by
    rw [matched.queued, steady.accepted]
  have split := steady.split
  have total : totalSize = response.queued + part.length + rest.flatten.length := by
    rw [sized, queued, ← split, remaining, List.flatten_append, List.flatten_cons]
    simp only [List.length_append]
    omega
  by_cases full : 0 < response.buffered ∧ o.registry.maxBackpressure < response.buffered + part.length
  · exact .inl ⟨full.1, full.2, RequestRegistry.tryEnd_full known full totalSize⟩
  · cases rest with
    | nil =>
      have complete : totalSize ≤ response.queued + part.length := by
        rw [total]
        exact Nat.le_refl _
      have last := RequestRegistry.tryEnd_last known opened matched.receiving full complete
      refine .inr ⟨fun x => (x.accept part).finish, rfl, _, last, ?_, ?_⟩
      · rw [RequestRegistry.has_leave]
        simp
      · rw [RequestRegistry.response?_modifyResponse]
        exact congrArg (Option.map _) found
    | cons next rest =>
      have inside : next ∈ parts := by
        rw [← split, remaining]
        simp
      have more : response.queued + part.length < totalSize := by
        have positive := List.length_pos_iff.mpr (filled next inside)
        rw [total, List.flatten_cons, List.length_append]
        omega
      have taken := RequestRegistry.tryEnd_part known opened matched.receiving full more
      refine .inr ⟨fun x => x.accept part, rfl, _, taken, ?_, ?_⟩
      · exact ⟨fun _ => List.cons_ne_nil _ _, fun _ => has⟩
      · rw [RequestRegistry.response?_modifyResponse, found]
        rfl

/-! Each turn either brings the offering on, or leaves what remains and what waits as it is. -/

def weight (o : Offering) (n : Nat) : Nat := 2 * o.remaining.length + o.waiting n

theorem weight_congr {after : Offering} (remaining : after.remaining = o.remaining)
    (waiting : after.waiting n = o.waiting n) : after.weight n = o.weight n := by
  rw [weight, weight, remaining, waiting]

def Advances (n : Nat) (o after : Offering) : Prop :=
  after.weight n < o.weight n ∨ after.remaining = o.remaining ∧ after.waiting n = o.waiting n

theorem waiting_found {response : Response} (found : o.registry.response? n = some response) :
    o.waiting n = response.chunks.length := by
  rw [waiting, found]

theorem Steady.refuse {l : Ledger} (steady : Steady id n parts o l) {part : Bytes} {registry : RequestRegistry}
    (refused : o.registry.tryEnd id part totalSize = (.notSent, registry))
    (records : registry.records = o.registry.records) : Steady id n parts { o with registry } l := by
  have accounts := steady.accounts.tryEnd part totalSize
  rw [refused] at accounts
  refine ⟨accounts, steady.kept, steady.polled, steady.accepted, steady.answers, ?_⟩
  show registry.has id = true ↔ _
  rw [RequestRegistry.has_congr records]
  exact steady.inFlight

theorem Steady.take {l : Ledger} (steady : Steady id n parts o l) {part : Bytes} {rest : List Bytes}
    (remaining : o.remaining = part :: rest) {registry : RequestRegistry}
    (taken : o.registry.tryEnd id part totalSize =
      (if rest = [] then .sentAndEnded else .sentNotEnded, registry))
    (inFlight : registry.has id = true ↔ rest ≠ []) :
    Steady id n parts { o with
      registry, remaining := rest
      taken := o.taken ++ [(part, if rest = [] then .sentAndEnded else .sentNotEnded)] } (l.send part) := by
  have accounts := steady.accounts.tryEnd part totalSize
  rw [taken] at accounts
  have sent : l.note (.tryEnd part totalSize) (.sent (if rest = [] then .sentAndEnded else .sentNotEnded)) =
      l.send part := by
    split <;> rfl
  have accepted : l.send part = { l with accepted := l.accepted ++ part, headOut := true } := by
    rw [Ledger.send, if_neg (by simp [steady.kept])]
  rw [sent] at accounts
  refine ⟨accounts, ?_, ?_, ?_, ?_, inFlight⟩
  · rw [Ledger.isAborted_send, steady.kept]
  · rw [accepted]
    exact steady.polled
  · rw [accepted, steady.accepted]
    simp
  · rw [← steady.answers, remaining, verdicts_cons, List.append_assoc]
    rfl

theorem Steady.offer {l : Ledger} (steady : Steady id n parts o l) (sized : totalSize = parts.flatten.length)
    (filled : ∀ part ∈ parts, part ≠ []) :
    (∃ m, Steady id n parts (o.turn id n totalSize .offer) m) ∧
      Advances n o (o.turn id n totalSize .offer) ∧
      (o.remaining ≠ [] → o.waiting n = 0 → (o.turn id n totalSize .offer).weight n < o.weight n) := by
  obtain ⟨response, found, matched, _⟩ := steady.response
  have waits := waiting_found found
  cases remaining : o.remaining with
  | nil =>
    have stays : o.turn id n totalSize .offer = o := by
      simp only [turn, remaining]
    rw [stays]
    exact ⟨⟨l, steady⟩, .inr ⟨rfl, rfl⟩, fun some => absurd rfl some⟩
  | cons part rest =>
    rcases steady.tryEnd sized filled remaining found with
      ⟨buffered, _, refused⟩ | ⟨f, chunks, registry, taken, inFlight, after⟩
    · have turned : o.turn id n totalSize .offer = { o with
          registry := o.registry.modifyResponse n fun x => { x with writableWanted := true } } := by
        simp only [turn, remaining, refused, if_true]
      have flagged : (o.registry.modifyResponse n fun x => { x with writableWanted := true }).response? n =
          some { response with writableWanted := true } := by
        rw [RequestRegistry.response?_modifyResponse, found]
        rfl
      rw [turned]
      refine ⟨⟨l, steady.refuse refused rfl⟩, .inr ⟨rfl, ?_⟩, fun _ empty => ?_⟩
      · exact (waiting_found (o := { o with registry := _ }) flagged).trans waits.symm
      · -- a part is refused only while something waits
        rw [waits, List.length_eq_zero_iff] at empty
        rw [matched.buffered, empty] at buffered
        cases buffered
    · have turned : o.turn id n totalSize .offer = { o with
          registry, remaining := rest
          taken := o.taken ++ [(part, if rest = [] then .sentAndEnded else .sentNotEnded)] } := by
        have answered : (if rest = [] then ResponseStatus.sentAndEnded else .sentNotEnded) ≠ .notSent := by
          split <;> decide
        simp only [turn, remaining, taken, if_neg answered]
      have grown : (f response).chunks.length ≤ o.waiting n + 1 := by
        rw [chunks, waits]
        exact response.length_chunks_accept part
      have lighter : (o.turn id n totalSize .offer).weight n < o.weight n := by
        rw [turned, weight, weight, waiting_found (o := { o with registry, remaining := rest, taken := _ }) after,
          remaining, List.length_cons]
        dsimp only
        omega
      refine ⟨⟨l.send part, ?_⟩, .inl lighter, fun _ _ => lighter⟩
      rw [turned]
      exact steady.take remaining taken inFlight

theorem turn_poll_nil {response : Response} (found : o.registry.response? n = some response)
    (empty : response.chunks = []) :
    o.turn id n totalSize .poll = { o with registry := (o.registry.pollBody n).2.2 } := by
  have answer := (Ledger.pollBody_found found).1
  rw [Response.pollBody_nil empty] at answer
  cases opened : response.isOpen <;> simp only [turn, answer, opened] <;> rfl

theorem turn_poll_cons {response : Response} (found : o.registry.response? n = some response) {chunk : Bytes}
    {rest : List Bytes} (parts : response.chunks = chunk :: rest) :
    o.turn id n totalSize .poll =
      { o with registry := (o.registry.pollBody n).2.2, polled := o.polled ++ chunk } := by
  have answer := (Ledger.pollBody_found found).1
  rw [Response.pollBody_cons parts] at answer
  simp only [turn, answer]

theorem Steady.poll {l : Ledger} (steady : Steady id n parts o l) (totalSize : Nat) :
    (∃ m, Steady id n parts (o.turn id n totalSize .poll) m) ∧
      Advances n o (o.turn id n totalSize .poll) ∧
      (o.waiting n ≠ 0 → (o.turn id n totalSize .poll).weight n < o.weight n) := by
  obtain ⟨response, found, matched, _⟩ := steady.response
  have accounts := steady.accounts.pollBody
  have inFlight : (o.registry.pollBody n).2.2.has id = true ↔ o.remaining ≠ [] := by
    rw [RequestRegistry.has_congr (o.registry.records_pollBody n)]
    exact steady.inFlight
  obtain ⟨answer, after⟩ := Ledger.pollBody_found found
  have left : (o.registry.pollBody n).2.2.response? n = some response.pollBody.2.2 := by
    rw [after, RequestRegistry.response?_modifyResponse, found]
    rfl
  have waited := waiting_found found
  rw [answer] at accounts
  cases body : response.chunks with
  | nil =>
    have turned : o.turn id n totalSize .poll = { o with registry := (o.registry.pollBody n).2.2 } :=
      turn_poll_nil found body
    have quiet : l.note .pollBody (.body response.pollBody.1) = l := by
      rw [Response.pollBody_nil body]
      cases response.isOpen <;> rfl
    rw [quiet] at accounts
    rw [turned]
    refine ⟨⟨l, accounts, steady.kept, steady.polled, steady.accepted, steady.answers, inFlight⟩, .inr ⟨rfl, ?_⟩,
      fun some => ?_⟩
    · rw [waiting_found (o := { o with registry := _ }) left, Response.chunks_pollBody, waited, body]
      rfl
    · rw [waited, body] at some
      exact absurd rfl some
  | cons chunk rest =>
    have turned : o.turn id n totalSize .poll =
        { o with registry := (o.registry.pollBody n).2.2, polled := o.polled ++ chunk } :=
      turn_poll_cons found body
    have given : l.note .pollBody (.body response.pollBody.1) = { l with polled := l.polled ++ chunk } := by
      rw [Response.pollBody_cons body]
      rfl
    have lighter : (o.turn id n totalSize .poll).weight n < o.weight n := by
      rw [turned, weight, weight, waiting_found (o := { o with registry := _, polled := _ }) left,
        Response.chunks_pollBody, waited, body, List.tail_cons, List.length_cons]
      dsimp only
      omega
    rw [given] at accounts
    refine ⟨⟨{ l with polled := l.polled ++ chunk }, ?_⟩, .inl lighter, fun _ => lighter⟩
    rw [turned]
    exact ⟨accounts, steady.kept, congrArg (· ++ chunk) steady.polled, steady.accepted, steady.answers, inFlight⟩

/-! Along a schedule. -/

def IsSteady (id : RequestId) (n : Nat) (parts : List Bytes) (o : Offering) : Prop :=
  ∃ l, Steady id n parts o l

theorem IsSteady.turn (steady : IsSteady id n parts o) (sized : totalSize = parts.flatten.length)
    (filled : ∀ part ∈ parts, part ≠ []) (t : Turn) :
    IsSteady id n parts (o.turn id n totalSize t) ∧ Advances n o (o.turn id n totalSize t) := by
  obtain ⟨l, steady⟩ := steady
  cases t with
  | offer =>
    obtain ⟨kept, advances, _⟩ := steady.offer sized filled
    exact ⟨kept, advances⟩
  | poll =>
    obtain ⟨kept, advances, _⟩ := steady.poll totalSize
    exact ⟨kept, advances⟩

theorem IsSteady.along (steady : IsSteady id n parts o) (sized : totalSize = parts.flatten.length)
    (filled : ∀ part ∈ parts, part ≠ []) (schedule : Nat → Turn) (m : Nat) :
    IsSteady id n parts (o.along id n totalSize schedule m) := by
  induction m with
  | zero => exact steady
  | succ m ih => exact (ih.turn sized filled (schedule m)).1

theorem Advances.refl (n : Nat) (o : Offering) : Advances n o o := .inr ⟨rfl, rfl⟩

theorem Advances.weight_le {after : Offering} (advances : Advances n o after) :
    after.weight n ≤ o.weight n := by
  rcases advances with less | ⟨remaining, waiting⟩
  · exact Nat.le_of_lt less
  · exact Nat.le_of_eq (weight_congr remaining waiting)

theorem Advances.trans {middle after : Offering} (first : Advances n o middle) (second : Advances n middle after) :
    Advances n o after := by
  rcases first with less | ⟨remaining, waiting⟩
  · exact .inl (Nat.lt_of_le_of_lt second.weight_le less)
  · rcases second with less | ⟨remaining', waiting'⟩
    · rw [weight_congr remaining waiting] at less
      exact .inl less
    · exact .inr ⟨remaining'.trans remaining, waiting'.trans waiting⟩

theorem IsSteady.advances (steady : IsSteady id n parts o) (sized : totalSize = parts.flatten.length)
    (filled : ∀ part ∈ parts, part ≠ []) (schedule : Nat → Turn) {early late : Nat} (later : early ≤ late) :
    Advances n (o.along id n totalSize schedule early) (o.along id n totalSize schedule late) := by
  induction later with
  | refl => exact .refl n _
  | step _ ih =>
    exact ih.trans ((steady.along sized filled schedule _).turn sized filled (schedule _)).2

def Settled (n : Nat) (o : Offering) : Prop := o.remaining = [] ∧ o.waiting n = 0

theorem Settled.of_advances {after : Offering} (settled : Settled n o) (advances : Advances n o after) :
    Settled n after := by
  have empty : after.weight n = 0 := by
    have bound := advances.weight_le
    rw [weight, weight, settled.1, settled.2] at bound
    exact Nat.le_zero.mp bound
  rw [weight] at empty
  refine ⟨List.length_eq_zero_iff.mp ?_, ?_⟩ <;> omega

theorem IsSteady.brings_on (steady : IsSteady id n parts o) (sized : totalSize = parts.flatten.length)
    (filled : ∀ part ∈ parts, part ≠ []) {schedule : Nat → Turn} {early poll offer : Nat} (first : early ≤ poll)
    (second : poll + 1 ≤ offer) (polls : schedule poll = .poll) (offers : schedule offer = .offer)
    (unsettled : ¬ Settled n (o.along id n totalSize schedule early)) :
    (o.along id n totalSize schedule (offer + 1)).weight n < (o.along id n totalSize schedule early).weight n := by
  have untilPoll := steady.advances sized filled schedule first
  have pastPoll := steady.advances sized filled schedule (Nat.le_add_right poll 1)
  have untilOffer := steady.advances sized filled schedule second
  have pastOffer := (steady.advances sized filled schedule (Nat.le_add_right offer 1)).weight_le
  obtain ⟨l, atPoll⟩ := steady.along sized filled schedule poll
  obtain ⟨m, atOffer⟩ := steady.along sized filled schedule offer
  have polled := (atPoll.poll totalSize).2.2
  have offered := (atOffer.offer sized filled).2.2
  rw [← polls] at polled
  rw [← offers] at offered
  -- unless something gets lighter before, the poll finds nothing, and so does the offer
  rcases untilPoll with less | ⟨remaining, waiting⟩
  · have fromPoll := (pastPoll.trans untilOffer).weight_le
    omega
  · have same := weight_congr remaining waiting
    by_cases none : (o.along id n totalSize schedule early).waiting n = 0
    · have rest : (o.along id n totalSize schedule early).remaining ≠ [] := fun taken => unsettled ⟨taken, none⟩
      rcases pastPoll.trans untilOffer with less | ⟨remaining', waiting'⟩
      · omega
      · have same' := weight_congr remaining' waiting'
        have less := offered (by rwa [remaining', remaining]) (by rw [waiting', waiting, none])
        exact Nat.lt_of_lt_of_eq less (same'.trans same)
    · have less := polled (by rwa [waiting])
      have fromPoll := untilOffer.weight_le
      exact Nat.lt_of_le_of_lt (Nat.le_trans pastOffer fromPoll) (Nat.lt_of_lt_of_eq less same)

def Fair (schedule : Nat → Turn) : Prop := ∀ (t : Turn) (m : Nat), ∃ k, m ≤ k ∧ schedule k = t

theorem IsSteady.settles (steady : IsSteady id n parts o) (sized : totalSize = parts.flatten.length)
    (filled : ∀ part ∈ parts, part ≠ []) {schedule : Nat → Turn} (fair : Fair schedule) :
    ∃ m, ∀ k, m ≤ k → Settled n (o.along id n totalSize schedule k) := by
  suffices reached : ∀ w m, (o.along id n totalSize schedule m).weight n ≤ w →
      ∃ k, Settled n (o.along id n totalSize schedule k) by
    obtain ⟨m, settled⟩ := reached _ 0 (Nat.le_refl _)
    exact ⟨m, fun k later => settled.of_advances (steady.advances sized filled schedule later)⟩
  intro w
  induction w with
  | zero =>
    intro m light
    rw [weight] at light
    exact ⟨m, List.length_eq_zero_iff.mp (by omega), by omega⟩
  | succ w ih =>
    intro m light
    by_cases settled : Settled n (o.along id n totalSize schedule m)
    · exact ⟨m, settled⟩
    · obtain ⟨poll, first, polls⟩ := fair .poll m
      obtain ⟨offer, second, offers⟩ := fair .offer (poll + 1)
      have lighter := steady.brings_on sized filled first second polls offers settled
      exact ih (offer + 1) (by omega)

/-- At the end all answers were given, the body was handed out whole, and the connection is told so. -/
theorem IsSteady.of_settled (steady : IsSteady id n parts o) (settled : Settled n o) :
    o.taken = verdicts parts ∧ o.polled = parts.flatten ∧ (o.registry.pollBody n).1 = .done := by
  obtain ⟨l, steady⟩ := steady
  obtain ⟨response, found, matched, isOpen⟩ := steady.response
  have answers := steady.answers
  have split := steady.split
  rw [settled.1] at answers split
  have empty : response.chunks = [] := by
    rw [← List.length_eq_zero_iff, ← waiting_found found]
    exact settled.2
  have closed : response.isOpen = false := by
    rw [← Bool.not_eq_true, isOpen, settled.1]
    simp
  refine ⟨?_, ?_, ?_⟩
  · rwa [verdicts, List.append_nil] at answers
  · have whole := matched.data
    rw [empty, List.flatten_nil, List.append_nil, steady.accepted, steady.polled] at whole
    rw [← whole, ← split, List.append_nil]
  · rw [(Ledger.pollBody_found found).1, Response.pollBody_nil empty, closed]
    rfl

/-- At any time, what was handed out begins the body, and a part that is offered while nothing waits is not
    refused. -/
theorem IsSteady.always (steady : IsSteady id n parts o) :
    o.taken ++ verdicts o.remaining = verdicts parts ∧ o.polled <+: parts.flatten ∧
      ∀ response, o.registry.response? n = some response → response.buffered = 0 →
        ∀ data totalSize, (o.registry.tryEnd id data totalSize).1 ≠ .notSent := by
  obtain ⟨l, steady⟩ := steady
  have split := steady.split
  refine ⟨steady.answers, ?_, ?_⟩
  · obtain ⟨response, found, matched, _⟩ := steady.response
    rw [← steady.polled, ← split, List.flatten_append]
    refine matched.polled_prefix.trans ?_
    rw [steady.accepted]
    exact List.prefix_append _ _
  · intro response found empty data totalSize refused
    cases has : o.registry.has id with
    | true =>
      have known := steady.accounts.responseOf? found has
      have full := (RequestRegistry.tryEnd_notSent_iff known data totalSize).mp refused
      omega
    | false =>
      rw [RequestRegistry.tryEnd, Ledger.responseOf?_none o.registry id has] at refused
      cases refused

end Offering

namespace RequestRegistry

/-- In every state of the registry, and for every request in flight whose connection still takes the body:
    a part is refused exactly if something waits and it would exceed the limit together with that, and then
    only the flag for the host's wait is set; otherwise it is accepted whole, and the request leaves exactly
    if the total is reached. And whoever offers the non-empty parts of a body to a new request, each again
    until it is taken, gets the answers of `Offering.verdicts` in order, under every schedule of offers and
    polls; a part is not refused while nothing waits; and if host and connection act again and again, all
    parts are taken at last, and the body that was handed out is all of them. -/
theorem tryEnd_whole_body (maxBackpressure : Nat) (calls : List RequestCall) :
    let r := (empty maxBackpressure).run calls
    (∀ (id : RequestId) (record : RequestRecord) (response : Response) (data : Bytes) (totalSize : Nat),
      r.find? id = some record → r.response? record.response = some response → response.receiving = true →
      let answer := r.tryEnd id data totalSize
      (answer.1 = .notSent ↔ 0 < response.buffered ∧ maxBackpressure < response.buffered + data.length) ∧
      (answer.1 = .notSent →
        answer.2 = r.modifyResponse record.response fun x => { x with writableWanted := true }) ∧
      (answer.1 ≠ .notSent → totalSize ≤ response.queued + data.length → answer =
        (.sentAndEnded, (r.remove id).modifyResponse record.response fun x => (x.accept data).finish)) ∧
      (answer.1 ≠ .notSent → response.queued + data.length < totalSize → answer =
        (.sentNotEnded, r.modifyResponse record.response fun x => x.accept data))) ∧
    ∀ (record : RequestRecord) (parts : List Bytes) (schedule : Nat → Turn), r.has record.id = false →
      parts ≠ [] → (∀ part ∈ parts, part ≠ []) →
      let n := r.responses.length
      let after := (Offering.start (r.takeIn record) parts).along record.id n parts.flatten.length schedule
      (∀ m, (after m).taken ++ Offering.verdicts (after m).remaining = Offering.verdicts parts ∧
        (after m).polled <+: parts.flatten ∧
        ∀ response, (after m).registry.response? n = some response → response.buffered = 0 →
          ∀ data totalSize, ((after m).registry.tryEnd record.id data totalSize).1 ≠ .notSent) ∧
      (Offering.Fair schedule → ∃ m, ∀ k, m ≤ k → (after k).taken = Offering.verdicts parts ∧
        (after k).polled = parts.flatten ∧ ((after k).registry.pollBody n).1 = .done) := by
  intro r
  constructor
  · intro id record response data totalSize found numbered receiving answer
    have limit : r.maxBackpressure = maxBackpressure := maxBackpressure_run _ calls
    have known : r.responseOf? id = some (record.response, response) :=
      responseOf?_eq_some_iff.mpr ⟨record, found, rfl, numbered⟩
    have isOpen : response.isOpen = true := by
      have sound := (sound_empty maxBackpressure).run calls
      obtain ⟨_, same, opened⟩ := sound.opened record (List.mem_of_find?_eq_some found)
      cases numbered.symm.trans same
      exact opened
    have refused := tryEnd_notSent_iff known data totalSize
    refine ⟨by rw [← limit]; exact refused, ?_, ?_, ?_⟩
    · intro answered
      exact congrArg Prod.snd (tryEnd_full known (refused.mp answered) totalSize)
    · intro answered complete
      exact tryEnd_last known isOpen receiving (fun full => answered (refused.mpr full)) complete
    · intro answered more
      exact tryEnd_part known isOpen receiving (fun full => answered (refused.mpr full)) more
  · intro record parts schedule fresh nonempty filled n after
    have steady : Offering.IsSteady record.id n parts (Offering.start (r.takeIn record) parts) :=
      ⟨.start, Offering.steady_start r record fresh nonempty⟩
    refine ⟨fun m => (steady.along rfl filled schedule m).always, fun fair => ?_⟩
    obtain ⟨m, settled⟩ := steady.settles rfl filled fair
    exact ⟨m, fun k later => (steady.along rfl filled schedule k).of_settled (settled k later)⟩

def alternately (m : Nat) : Turn := if m % 2 = 0 then .offer else .poll

theorem fair_alternately : Offering.Fair alternately := by
  intro t m
  cases t with
  | offer =>
    refine ⟨2 * m, by omega, ?_⟩
    rw [alternately, if_pos (by omega)]
  | poll =>
    refine ⟨2 * m + 1, by omega, ?_⟩
    rw [alternately, if_neg (by omega)]

/-- One request has three bytes waiting, so that two more are refused; to another one a body of seven bytes
    is offered, in parts of which no two fit beside each other. -/
theorem tryEnd_whole_body_alternately :
    let r := (empty 4).run [.takeIn posted, .write posted.id [1, 2, 3]]
    let next := { posted with id := ⟨.fresh 0 3⟩ }
    let parts : List Bytes := [[1, 2, 3], [4, 5, 6], [7]]
    (r.tryEnd posted.id [4, 5] 9).1 = .notSent ∧
    ∃ m, ∀ k, m ≤ k →
      ((Offering.start (r.takeIn next) parts).along next.id 1 7 alternately k).taken =
        [([1, 2, 3], .sentNotEnded), ([4, 5, 6], .sentNotEnded), ([7], .sentAndEnded)] ∧
      ((Offering.start (r.takeIn next) parts).along next.id 1 7 alternately k).polled = [1, 2, 3, 4, 5, 6, 7] := by
  intro r next parts
  obtain ⟨answers, deliveries⟩ := tryEnd_whole_body 4 [.takeIn posted, .write posted.id [1, 2, 3]]
  obtain ⟨refused, _⟩ := answers posted.id posted ⟨.ready .initial, [[1, 2, 3]], true, true, 3, 3, false⟩
    [4, 5] 9 rfl rfl rfl
  obtain ⟨_, settles⟩ := deliveries next parts alternately rfl (by decide) (by decide)
  obtain ⟨m, settled⟩ := settles fair_alternately
  exact ⟨refused.mpr (by decide), m, fun k later => ⟨(settled k later).1, (settled k later).2.1⟩⟩

end RequestRegistry

end Gateway
