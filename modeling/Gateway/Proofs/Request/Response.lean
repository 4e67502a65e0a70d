import Gateway.Request.Response

namespace Gateway.Response

open Http (StatusCode)

variable {response : Response}

theorem isOpen_setStatus (response : Response) (line : String) :
    (response.setStatus line).2.isOpen = response.isOpen := by
  unfold setStatus
  split
  · split <;> rfl
  all_goals rfl

theorem isOpen_setHeader (response : Response) (name value : String) :
    (response.setHeader name value).2.isOpen = response.isOpen := by
  unfold setHeader
  split
  · split <;> rfl
  all_goals rfl

theorem setStatus_refused (line : String) (refused : (response.setStatus line).1 ≠ .ok) :
    (response.setStatus line).2 = response := by
  unfold setStatus at refused ⊢
  split
  · split
    · simp_all
    · rfl
  all_goals rfl

theorem setHeader_refused (name value : String) (refused : (response.setHeader name value).1 ≠ .ok) :
    (response.setHeader name value).2 = response := by
  unfold setHeader at refused ⊢
  split
  · split
    · simp_all
    · rfl
  all_goals rfl

theorem setStatus_headersSent (response : Response) (line : String) :
    (response.setStatus line).1 = .headersSent ↔ response.headSent = true := by
  unfold setStatus headSent
  split
  · split <;> simp
  all_goals simp

theorem setHeader_headersSent (response : Response) (name value : String) :
    (response.setHeader name value).1 = .headersSent ↔ response.headSent = true := by
  unfold setHeader headSent
  split
  · split <;> simp
  all_goals simp

theorem isOpen_flushHead (response : Response) : response.flushHead.isOpen = response.isOpen := by
  unfold flushHead
  split <;> rfl

theorem flushHead_of_headSent (out : response.headSent = true) : response.flushHead = response := by
  unfold flushHead
  unfold headSent at out
  cases slot : response.head with
  | pending head =>
    rw [slot] at out
    cases out
  | ready head | taken | closed => rfl

theorem isOpen_wantWritable (response : Response) : response.wantWritable.2.isOpen = response.isOpen := by
  unfold wantWritable
  split <;> rfl

theorem isOpen_abortWith (response : Response) (status : StatusCode) :
    (response.abortWith status).isOpen = false := by
  unfold abortWith
  split <;> rfl

theorem abortWith_abortWith (response : Response) (status : StatusCode) :
    (response.abortWith status).abortWith status = response.abortWith status := by
  cases slot : response.head <;> simp [abortWith, slot]

theorem isOpen_pollHead (response : Response) : response.pollHead.2.isOpen = response.isOpen := by
  unfold pollHead
  split <;> rfl

theorem isOpen_pollBody (response : Response) : response.pollBody.2.2.isOpen = response.isOpen := by
  unfold pollBody
  split
  · rfl
  · dsimp only
    split <;> rfl

theorem pollBody_nil (empty : response.chunks = []) :
    response.pollBody = (if response.isOpen then .pending else .done, none, response) := by
  rw [pollBody, empty]

theorem pollBody_cons {chunk : Bytes} {rest : List Bytes} (parts : response.chunks = chunk :: rest) :
    response.pollBody.1 = .data chunk := by
  rw [pollBody, parts]
  dsimp only
  split <;> rfl

theorem chunks_pollBody (response : Response) : response.pollBody.2.2.chunks = response.chunks.tail := by
  cases parts : response.chunks with
  | nil =>
    rw [pollBody_nil parts]
    exact parts
  | cons chunk rest =>
    rw [pollBody, parts]
    dsimp only
    split <;> rfl

theorem queued_pollBody (response : Response) : response.pollBody.2.2.queued = response.queued := by
  unfold pollBody
  split
  · rfl
  · dsimp only
    split <;> rfl

end Gateway.Response
