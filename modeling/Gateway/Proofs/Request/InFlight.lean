import Gateway.Proofs.Request.Answer

namespace Gateway

open Http (StatusCode)

/-- A call on the requests in flight, by the host or by a connection. -/
inductive RequestCall where
  | takeIn (record : RequestRecord)
  | setStatus (id : RequestId) (line : String)
  | setHeader (id : RequestId) (name value : String)
  | write (id : RequestId) (data : Bytes)
  | tryEnd (id : RequestId) (data : Bytes) (totalSize : Nat)
  | finish (id : RequestId) (data : Bytes)
  | abort (id : RequestId)
  | abortAll (status : StatusCode)
  | pollHead (n : Nat)
  | pollBody (n : Nat)
  | hangUp (n : Nat)
  deriving DecidableEq, Repr

namespace Response

variable {x : Response}

def Early (x : Response) : Prop := x.headSent = false → x.chunks = []

theorem Early.of_headSent (out : x.headSent = true) : x.Early := by
  intro pending
  cases out.symm.trans pending

theorem headSent_flushHead (x : Response) : x.flushHead.headSent = true := by
  unfold flushHead
  split
  · rfl
  all_goals
    rename_i slot
    simp only [headSent, slot]

theorem headSent_push (x : Response) (data : Bytes) : (x.push data).2.headSent = x.headSent := by
  unfold push
  split
  · rfl
  · split
    · rfl
    · split <;> rfl

theorem headSent_write (x : Response) (data : Bytes) : (x.write data).2.headSent = true :=
  (headSent_push _ _).trans x.headSent_flushHead

theorem headSent_finishWith (x : Response) (data : Bytes) : (x.finishWith data).2.headSent = true :=
  x.headSent_write data

theorem headSent_abortWith (x : Response) (status : StatusCode) : (x.abortWith status).headSent = true := by
  unfold abortWith
  split
  · rfl
  all_goals
    rename_i slot
    simp only [headSent, slot]

theorem headSent_discard (x : Response) : x.discard.headSent = true := by
  unfold discard
  split
  · rfl
  all_goals
    rename_i slot
    simp only [headSent, slot]

theorem Early.setStatus (early : x.Early) (line : String) : (x.setStatus line).2.Early := by
  unfold Response.setStatus
  cases slot : x.head with
  | pending head =>
    have empty : x.chunks = [] := early (by rw [headSent, slot])
    dsimp only
    split
    · exact fun _ => empty
    · exact early
  | ready head | taken | closed => exact early

theorem Early.setHeader (early : x.Early) (name value : String) : (x.setHeader name value).2.Early := by
  unfold Response.setHeader
  cases slot : x.head with
  | pending head =>
    have empty : x.chunks = [] := early (by rw [headSent, slot])
    dsimp only
    split
    · exact fun _ => empty
    · exact early
  | ready head | taken | closed => exact early

theorem Early.wantWritable (early : x.Early) : x.wantWritable.2.Early := by
  unfold Response.wantWritable
  split <;> exact early

theorem Early.pollHead (early : x.Early) : x.pollHead.2.Early := by
  unfold Response.pollHead
  split
  · exact early
  · exact .of_headSent rfl
  all_goals exact early

theorem Early.pollBody (early : x.Early) : x.pollBody.2.2.Early := by
  cases parts : x.chunks with
  | nil =>
    rw [Response.pollBody, parts]
    exact early
  | cons chunk rest =>
    have out : x.headSent = true := by
      rw [← Bool.not_eq_false]
      intro pending
      cases parts.symm.trans (early pending)
    apply Early.of_headSent
    rw [Response.pollBody, parts]
    dsimp only
    split <;> exact out

theorem Early.hangUp (x : Response) : x.hangUp.Early := fun _ => rfl

theorem isOpen_push (x : Response) (data : Bytes) : (x.push data).2.isOpen = x.isOpen := by
  unfold push
  split
  · rfl
  · split
    · rfl
    · split <;> rfl

theorem isOpen_write (x : Response) (data : Bytes) : (x.write data).2.isOpen = x.isOpen :=
  (isOpen_push _ _).trans x.isOpen_flushHead

end Response

namespace RequestRegistry

variable {r : RequestRegistry} {id : RequestId} {n : Nat} {response : Response}

def call (r : RequestRegistry) : RequestCall → RequestRegistry
  | .takeIn record => r.takeIn record
  | .setStatus id line => (r.setStatus id line).2
  | .setHeader id name value => (r.setHeader id name value).2
  | .write id data => (r.write id data).2
  | .tryEnd id data totalSize => (r.tryEnd id data totalSize).2
  | .finish id data => (r.finish id data).2
  | .abort id => (r.abort id).2
  | .abortAll status => (r.abortAll status).2
  | .pollHead n => (r.pollHead n).2
  | .pollBody n => (r.pollBody n).2.2
  | .hangUp n => r.modifyResponse n Response.hangUp

def run (r : RequestRegistry) (calls : List RequestCall) : RequestRegistry := calls.foldl call r

theorem run_append (r : RequestRegistry) (first second : List RequestCall) :
    r.run (first ++ second) = (r.run first).run second := List.foldl_append

/-! Every call changes the response of one request, all of them, or only what is in flight. -/

theorem responseOf?_eq_some_iff : r.responseOf? id = some (n, response) ↔
    ∃ record, r.find? id = some record ∧ record.response = n ∧ r.response? n = some response := by
  unfold responseOf?
  cases r.find? id with
  | none => simp
  | some record =>
    simp only [Option.map_eq_some_iff, Prod.mk.injEq, Option.some.injEq, exists_eq_left']
    constructor
    · rintro ⟨x, found, rfl, rfl⟩
      exact ⟨rfl, found⟩
    · rintro ⟨rfl, found⟩
      exact ⟨response, found, rfl, rfl⟩

theorem modifyResponse_const (found : r.response? n = some response) (f : Response → Response) :
    (r.modifyResponse n fun _ => f response) = r.modifyResponse n f := by
  simp only [modifyResponse, mk.injEq, true_and]
  apply List.ext_getElem?
  intro m
  simp only [List.getElem?_modify]
  by_cases same : n = m
  · subst same
    rw [show r.responses[n]? = some response from found]
    rfl
  · simp only [same, if_false]

theorem withResponse_known {α : Type} (known : r.responseOf? id = some (n, response)) (unknown : α)
    (f : Response → α × Response) :
    r.withResponse id unknown f = ((f response).1, r.modifyResponse n fun x => (f x).2) := by
  obtain ⟨_, _, _, found⟩ := responseOf?_eq_some_iff.mp known
  rw [withResponse, known, ← modifyResponse_const found fun x => (f x).2]

theorem withResponse_unknown {α : Type} (absent : r.responseOf? id = none) (unknown : α)
    (f : Response → α × Response) : r.withResponse id unknown f = (unknown, r) := by
  rw [withResponse, absent]

theorem finish_known (known : r.responseOf? id = some (n, response)) (data : Bytes) :
    r.finish id data =
      (.sentAndEnded, (r.remove id).modifyResponse n fun x => (x.finishWith data).2) := by
  obtain ⟨_, _, _, found⟩ := responseOf?_eq_some_iff.mp known
  have left : (r.remove id).response? n = some response := found
  rw [finish, known]
  dsimp only
  rw [modifyResponse_const left fun x => (x.finishWith data).2]

theorem finish_unknown (absent : r.responseOf? id = none) (data : Bytes) :
    r.finish id data = (.noSuchRequest, r) := by
  rw [finish, absent]

theorem pollHead_eq (r : RequestRegistry) (n : Nat) :
    (r.pollHead n).2 = r.modifyResponse n fun x => x.pollHead.2 := by
  unfold pollHead
  split
  · rename_i found
    exact modifyResponse_const found fun x => x.pollHead.2
  · rename_i absent
    have beyond : r.responses.length ≤ n := by simpa [response?] using absent
    rw [modifyResponse, List.modify_eq_self beyond]

theorem pollBody_eq (r : RequestRegistry) (n : Nat) :
    (r.pollBody n).2.2 = r.modifyResponse n fun x => x.pollBody.2.2 := by
  unfold pollBody
  split
  · rename_i found
    exact modifyResponse_const found fun x => x.pollBody.2.2
  · rename_i absent
    have beyond : r.responses.length ≤ n := by simpa [response?] using absent
    rw [modifyResponse, List.modify_eq_self beyond]

/-- Each request in flight has an open response that it shares with none of another identifier. -/
structure Sound (r : RequestRegistry) : Prop where
  opened : ∀ x ∈ r.records, ∃ response, r.response? x.response = some response ∧ response.isOpen = true
  apart : ∀ x ∈ r.records, ∀ y ∈ r.records, x.response = y.response → x.id = y.id
  early : ∀ n response, r.response? n = some response → response.Early

theorem sound_empty (maxBackpressure : Nat) : (empty maxBackpressure).Sound := by
  refine ⟨?_, ?_, ?_⟩
  · intro x listed
    cases listed
  · intro x listed
    cases listed
  · intro n response found
    cases found

theorem early_modifyResponse (early : ∀ n response, r.response? n = some response → response.Early) (m : Nat)
    {f : Response → Response} (kept : ∀ x : Response, x.Early → (f x).Early) :
    ∀ n response, (r.modifyResponse m f).response? n = some response → response.Early := by
  intro n response found
  by_cases same : m = n
  · subst same
    rw [response?_modifyResponse, Option.map_eq_some_iff] at found
    obtain ⟨x, before, rfl⟩ := found
    exact kept x (early m x before)
  · rw [response?_modifyResponse_other r same] at found
    exact early n response found

theorem Sound.modify (sound : r.Sound) (n : Nat) {f : Response → Response}
    (kept : ∀ x : Response, x.Early → (f x).Early) (opens : ∀ x : Response, (f x).isOpen = x.isOpen) :
    (r.modifyResponse n f).Sound := by
  refine ⟨?_, sound.apart, early_modifyResponse sound.early n kept⟩
  intro x listed
  obtain ⟨response, found, opened⟩ := sound.opened x listed
  by_cases same : n = x.response
  · subst same
    refine ⟨f response, ?_, (opens response).trans opened⟩
    rw [response?_modifyResponse, found]
    rfl
  · exact ⟨response, (response?_modifyResponse_other r same f).trans found, opened⟩

theorem Sound.leave (sound : r.Sound) {record : RequestRecord} (listed : record ∈ r.records)
    {f : Response → Response} (kept : ∀ x : Response, x.Early → (f x).Early) :
    ((r.remove record.id).modifyResponse record.response f).Sound := by
  have stays : ∀ x ∈ (r.remove record.id).records, x ∈ r.records ∧ x.id ≠ record.id := by
    intro x member
    have filtered := List.mem_filter.mp member
    exact ⟨filtered.1, bne_iff_ne.mp filtered.2⟩
  refine ⟨?_, ?_, early_modifyResponse (r := r.remove record.id) sound.early record.response kept⟩
  · intro x member
    obtain ⟨known, other⟩ := stays x member
    obtain ⟨response, found, opened⟩ := sound.opened x known
    have different : record.response ≠ x.response := by
      intro same
      exact other (sound.apart record listed x known same).symm
    exact ⟨response, (response?_modifyResponse_other (r.remove record.id) different f).trans found, opened⟩
  · intro x first y second same
    exact sound.apart x (stays x first).1 y (stays y second).1 same

theorem Sound.withResponse {α : Type} (sound : r.Sound) (id : RequestId) (unknown : α)
    (f : Response → α × Response) (kept : ∀ x : Response, x.Early → (f x).2.Early)
    (opens : ∀ x : Response, (f x).2.isOpen = x.isOpen) : (r.withResponse id unknown f).2.Sound := by
  cases known : r.responseOf? id with
  | none =>
    rw [withResponse_unknown known]
    exact sound
  | some found =>
    rw [withResponse_known known]
    exact sound.modify found.1 kept opens

theorem Sound.finish (sound : r.Sound) (id : RequestId) (data : Bytes) : (r.finish id data).2.Sound := by
  cases known : r.responseOf? id with
  | none =>
    rw [finish_unknown known]
    exact sound
  | some found =>
    obtain ⟨record, listed, numbered, _⟩ := responseOf?_eq_some_iff.mp known
    have named : record.id = id := by simpa using List.find?_some listed
    rw [finish_known known, ← named, ← numbered]
    apply sound.leave (List.mem_of_find?_eq_some listed)
    intro x _
    exact .of_headSent (x.headSent_finishWith data)

theorem Sound.write (sound : r.Sound) (id : RequestId) (data : Bytes) : (r.write id data).2.Sound := by
  apply sound.withResponse
  · intro x _
    exact .of_headSent (x.headSent_write data)
  · intro x
    exact x.isOpen_write data

theorem Sound.tryEnd (sound : r.Sound) (id : RequestId) (data : Bytes) (totalSize : Nat) :
    (r.tryEnd id data totalSize).2.Sound := by
  unfold RequestRegistry.tryEnd
  split
  · exact sound
  · split
    · exact sound.modify _ (fun _ early => early.wantWritable) Response.isOpen_wantWritable
    · split
      · exact sound.finish id data
      · exact sound.write id data

theorem Sound.abort (sound : r.Sound) (id : RequestId) : (r.abort id).2.Sound := by
  unfold RequestRegistry.abort
  split
  · exact sound
  · rename_i record found
    have named : record.id = id := by simpa using List.find?_some found
    rw [← named]
    apply sound.leave (List.mem_of_find?_eq_some found)
    intro x _
    exact .of_headSent x.headSent_discard

theorem Sound.abortAll (sound : r.Sound) (status : StatusCode) : (r.abortAll status).2.Sound := by
  have empty := r.records_abortAll status
  refine ⟨?_, ?_, ?_⟩
  · rw [empty]
    exact List.forall_mem_nil _
  · rw [empty]
    exact List.forall_mem_nil _
  · intro n response found
    rw [response?_abortAll, Option.map_eq_some_iff] at found
    obtain ⟨x, before, rfl⟩ := found
    split
    · exact .of_headSent (x.headSent_abortWith status)
    · exact sound.early n x before

theorem takeIn_taken (record : RequestRecord) (taken : r.has record.id = true) :
    r.takeIn record = r.openResponse.2 := by
  have used : r.openResponse.2.has record.id = true := taken
  exact congrArg Prod.snd (if_pos used)

theorem takeIn_free (record : RequestRecord) (free : r.has record.id = false) :
    r.takeIn record = { r.openResponse.2 with
      records := r.records ++ [{ record with response := r.responses.length }] } := by
  have fresh : r.openResponse.2.has record.id = false := free
  exact congrArg Prod.snd (if_neg (Bool.eq_false_iff.mp fresh))

theorem Sound.takeIn (sound : r.Sound) (record : RequestRecord) : (r.takeIn record).Sound := by
  have numbered : ∀ x ∈ r.records, x.response < r.responses.length := by
    intro x listed
    obtain ⟨response, found, _⟩ := sound.opened x listed
    exact (List.getElem?_eq_some_iff.mp found).1
  have stays : ∀ x ∈ r.records, ∃ response, r.openResponse.2.response? x.response = some response ∧
      response.isOpen = true := by
    intro x listed
    obtain ⟨response, found, opened⟩ := sound.opened x listed
    refine ⟨response, ?_, opened⟩
    exact (List.getElem?_append_left (numbered x listed)).trans found
  have early : ∀ n response, r.openResponse.2.response? n = some response → response.Early := by
    intro n response found
    rcases List.mem_append.mp (List.mem_of_getElem? found) with old | new
    · obtain ⟨m, before⟩ := List.mem_iff_getElem?.mp old
      exact sound.early m response before
    · rw [List.mem_singleton.mp new]
      exact fun _ => rfl
  cases used : r.has record.id with
  | true =>
    rw [takeIn_taken record used]
    exact ⟨stays, sound.apart, early⟩
  | false =>
    rw [takeIn_free record used]
    refine ⟨?_, ?_, early⟩
    · intro x member
      rcases List.mem_append.mp member with old | new
      · exact stays x old
      · rw [List.mem_singleton.mp new]
        exact ⟨.start, List.getElem?_concat_length, rfl⟩
    · intro x first y second same
      rcases List.mem_append.mp first with old | new <;> rcases List.mem_append.mp second with old' | new'
      · exact sound.apart x old y old' same
      · have below := numbered x old
        rw [List.mem_singleton.mp new'] at same
        simp only at same
        omega
      · have below := numbered y old'
        rw [List.mem_singleton.mp new] at same
        simp only at same
        omega
      · rw [List.mem_singleton.mp new, List.mem_singleton.mp new']

theorem Sound.call (sound : r.Sound) (c : RequestCall) : (r.call c).Sound := by
  cases c with
  | takeIn record => exact sound.takeIn record
  | setStatus id line =>
    exact sound.withResponse id _ _ (fun _ early => early.setStatus line) fun x => x.isOpen_setStatus line
  | setHeader id name value =>
    exact sound.withResponse id _ _ (fun _ early => early.setHeader name value)
      fun x => x.isOpen_setHeader name value
  | write id data => exact sound.write id data
  | tryEnd id data totalSize => exact sound.tryEnd id data totalSize
  | finish id data => exact sound.finish id data
  | abort id => exact sound.abort id
  | abortAll status => exact sound.abortAll status
  | pollHead n =>
    rw [RequestRegistry.call, pollHead_eq]
    exact sound.modify n (fun _ early => early.pollHead) Response.isOpen_pollHead
  | pollBody n =>
    rw [RequestRegistry.call, pollBody_eq]
    exact sound.modify n (fun _ early => early.pollBody) Response.isOpen_pollBody
  | hangUp n => exact sound.modify n (fun x _ => .hangUp x) fun _ => rfl

theorem Sound.run (sound : r.Sound) (calls : List RequestCall) : (r.run calls).Sound := by
  induction calls generalizing r with
  | nil => exact sound
  | cons c rest ih => exact ih (sound.call c)

/-! No identifier is in flight twice. -/

def Distinct (r : RequestRegistry) : Prop := (r.records.map (·.id)).Nodup

theorem distinct_empty (maxBackpressure : Nat) : (empty maxBackpressure).Distinct := List.nodup_nil

theorem Distinct.of_sublist {s : RequestRegistry} (distinct : r.Distinct) (left : s.records.Sublist r.records) :
    s.Distinct :=
  List.Nodup.sublist (left.map _) distinct

theorem Distinct.takeIn (distinct : r.Distinct) (record : RequestRecord) : (r.takeIn record).Distinct := by
  cases used : r.has record.id with
  | true =>
    rw [takeIn_taken record used]
    exact distinct
  | false =>
    have fresh : ∀ id ∈ r.records.map (·.id), id ≠ record.id := by
      rintro id listed rfl
      obtain ⟨x, within, same⟩ := List.mem_map.mp listed
      rw [(has_iff r record.id).mpr ⟨x, within, same⟩] at used
      cases used
    rw [takeIn_free record used, Distinct, List.map_append, List.nodup_append]
    exact ⟨distinct, List.pairwise_singleton _ _,
      fun id listed other last => List.mem_singleton.mp last ▸ fresh id listed⟩

theorem records_finish_sublist (r : RequestRegistry) (id : RequestId) (data : Bytes) :
    (r.finish id data).2.records.Sublist r.records := by
  unfold finish
  split
  · exact .refl _
  · exact List.filter_sublist

theorem records_call_sublist {c : RequestCall} (others : ∀ record, c ≠ .takeIn record) :
    (r.call c).records.Sublist r.records := by
  cases c with
  | takeIn record => exact absurd rfl (others record)
  | setStatus | setHeader | write | pollHead | pollBody | hangUp => simp [call]
  | finish id data => exact r.records_finish_sublist id data
  | tryEnd id data totalSize =>
    simp only [call, tryEnd]
    split
    · exact .refl _
    · split
      · exact .refl _
      · split
        · exact r.records_finish_sublist id data
        · simp
  | abort id =>
    simp only [call, abort]
    split
    · exact .refl _
    · exact List.filter_sublist
  | abortAll status =>
    rw [call, records_abortAll]
    exact List.nil_sublist _

theorem Distinct.call (distinct : r.Distinct) (c : RequestCall) : (r.call c).Distinct := by
  by_cases taken : ∃ record, c = .takeIn record
  · obtain ⟨record, rfl⟩ := taken
    exact distinct.takeIn record
  · exact distinct.of_sublist (records_call_sublist fun record same => taken ⟨record, same⟩)

theorem Distinct.run (distinct : r.Distinct) (calls : List RequestCall) : (r.run calls).Distinct := by
  induction calls generalizing r with
  | nil => exact distinct
  | cons c rest ih => exact ih (distinct.call c)

/-! The limit of what may wait stays. -/

theorem maxBackpressure_withResponse {α : Type} (r : RequestRegistry) (id : RequestId) (unknown : α)
    (f : Response → α × Response) : (r.withResponse id unknown f).2.maxBackpressure = r.maxBackpressure := by
  unfold withResponse
  split <;> rfl

theorem maxBackpressure_finish (r : RequestRegistry) (id : RequestId) (data : Bytes) :
    (r.finish id data).2.maxBackpressure = r.maxBackpressure := by
  unfold finish
  split <;> rfl

theorem maxBackpressure_abortAll (r : RequestRegistry) (status : StatusCode) :
    (r.abortAll status).2.maxBackpressure = r.maxBackpressure := by
  have keeps : ∀ (xs : List RequestRecord) (s : RequestRegistry),
      (xs.foldl (fun s x => s.modifyResponse x.response (·.abortWith status)) s).maxBackpressure =
        s.maxBackpressure := by
    intro xs
    induction xs with
    | nil => exact fun _ => rfl
    | cons x rest ih => exact fun s => ih _
  exact keeps _ _

theorem maxBackpressure_call (r : RequestRegistry) (c : RequestCall) :
    (r.call c).maxBackpressure = r.maxBackpressure := by
  cases c with
  | takeIn record =>
    cases used : r.has record.id with
    | true =>
      rw [RequestRegistry.call, takeIn_taken record used]
      rfl
    | false =>
      rw [RequestRegistry.call, takeIn_free record used]
      rfl
  | setStatus | setHeader | write => exact maxBackpressure_withResponse _ _ _ _
  | tryEnd id data totalSize =>
    simp only [RequestRegistry.call, tryEnd]
    split
    · rfl
    · split
      · rfl
      · split
        · exact maxBackpressure_finish _ _ _
        · exact maxBackpressure_withResponse _ _ _ _
  | finish => exact maxBackpressure_finish _ _ _
  | abort id =>
    simp only [RequestRegistry.call, abort]
    split <;> rfl
  | abortAll => exact maxBackpressure_abortAll _ _
  | pollHead n =>
    rw [RequestRegistry.call, pollHead_eq]
    rfl
  | pollBody n =>
    rw [RequestRegistry.call, pollBody_eq]
    rfl
  | hangUp => rfl

theorem maxBackpressure_run (r : RequestRegistry) (calls : List RequestCall) :
    (r.run calls).maxBackpressure = r.maxBackpressure := by
  induction calls generalizing r with
  | nil => rfl
  | cons c rest ih => exact (ih _).trans (r.maxBackpressure_call c)

end RequestRegistry

end Gateway
