import StreamMux.Proofs.Connection.Effects

/-!
# One stream on its own

What becomes of a stream, and what is reported about it, depends on nothing but the stream and the
calls that name it, together with the flushes (`Alone.step`). What its fields say of each other
stays true (`Stream.Coherent.after?`), and a flush ends exactly the streams that were reset.
-/

namespace StreamMux

/-- A call that has a part in what becomes of the stream of `id`. -/
def Call.concerns (id : StreamId) (call : Call) : Bool := call.target? == some id || call == .flush

theorem Call.concerns_iff {id : StreamId} {call : Call} :
    call.concerns id = true ↔ call.target? = some id ∨ call = .flush := by
  rw [concerns, Bool.or_eq_true, beq_iff_eq, beq_iff_eq]

namespace Stream

variable {stream later : Stream} {call : Call} {initial : Int32}

/-- What the fields of a stream say of each other between calls. A stream is closed when it was
reset. It has no payload then, and its peer is owed the reset. -/
structure Coherent (stream : Stream) : Prop where
  coded : stream.resetCode.isSome = stream.isClosed
  emptied : stream.isClosed = true → stream.pendingData = []
  owed : stream.queued.reset = stream.isClosed

def wasCancelled (stream : Stream) : Bool := stream.isClosed && stream.queued.send

/-- The stream after a call that names it or after a flush, if it is still there. -/
def after? (initial : Int32) (call : Call) (stream : Stream) : Option Stream :=
  match call with
  | .send _ chunk => some (stream.afterSend chunk)
  | .reset _ code => some (stream.afterReset code)
  | .consume _ count => some (stream.afterConsume initial count)
  | .grant _ increment => some (stream.afterGrant increment)
  | .flush => if stream.isClosed then none else some (stream.served initial)
  | .accept _ | .census => some stream

def flushEvents (id : StreamId) (stream : Stream) : List Event :=
  let turn := stream.queued.send && stream.resetCode.isNone
  let ends := stream.payloadAfterFlush.1.isEmpty
  (if stream.wasCancelled then [.filtered .send "reset_before_write" id] else []) ++
  (if stream.isClosed then [.dispatched .reset "rst_stream" id] else []) ++
  (if stream.queued.windowUpdate && !stream.isClosed then
    [.dispatched .windowUpdate "window_update" id] else []) ++
  ((if turn && ends then [.dispatched .send "end_stream" id] else []) ++
    (if turn && !ends then [.queued .send "blocked_on_window" id] else [])) ++
  (if stream.isClosed then [.closed id] else [])

/-- What is reported about the stream of `id` in a call that names it or in a flush. -/
def events (initial : Int32) (id : StreamId) (call : Call) (stream : Stream) : List Event :=
  match call with
  | .send _ _ =>
    if stream.isClosed || stream.queued.send then [] else [.queued .send "data_ready" id]
  | .reset _ _ =>
    if stream.isClosed || stream.queued.reset then [] else [.queued .reset "local_cancel" id]
  | .consume _ count =>
    if initial / 2 < stream.recvWindow - count || stream.queued.windowUpdate ||
        stream.isClosed then
      []
    else [.queued .windowUpdate "half_window" id]
  | .flush => stream.flushEvents id
  | .accept _ | .grant _ _ | .census => []

/-- A stream is left in no queue but the one for sending, and only while it has payload. -/
theorem queued_served (initial : Int32) (stream : Stream) :
    (stream.served initial).queued =
      ⟨stream.queued.send && stream.resetCode.isNone && !stream.payloadAfterFlush.1.isEmpty,
        false, false⟩ := by
  rw [served, prepared_eq, turned, payloadAfterFlush]
  dsimp only
  cases stream.queued.send && stream.resetCode.isNone <;> rfl

theorem resetCode_served (initial : Int32) (stream : Stream) :
    (stream.served initial).resetCode = stream.resetCode := by
  rw [served, prepared_eq, turned]
  dsimp only
  split <;> rfl

/-- A flush closes no stream. -/
theorem state_served (initial : Int32) (stream : Stream) :
    (stream.served initial).state = .halfClosedLocal ∨
      (stream.served initial).state = stream.state := by
  rw [served, prepared_eq, turned]
  dsimp only [transmitted]
  split
  · split
    · exact .inl rfl
    · exact .inr rfl
  · exact .inr rfl

theorem isClosed_served (initial : Int32) (stillOpen : stream.isClosed = false) :
    (stream.served initial).isClosed = false := by
  unfold isClosed at stillOpen ⊢
  rcases state_served initial stream with ended | same
  · rw [ended]
    rfl
  · rw [same, stillOpen]

theorem Coherent.isNone_resetCode (coherent : stream.Coherent) :
    stream.resetCode.isNone = !stream.isClosed := by
  rw [← Option.not_isSome, coherent.coded]

/-- A stream that was reset is in no queue once everything is written. -/
theorem Coherent.isQueued_served (coherent : stream.Coherent) (closed : stream.isClosed = true)
    (initial : Int32) : (stream.served initial).isQueued = false := by
  rw [isQueued, queued_served, coherent.isNone_resetCode, closed, Bool.not_true, Bool.and_false,
    Bool.false_and]
  rfl

theorem Coherent.afterSend (coherent : stream.Coherent) (chunk : Chunk) :
    (stream.afterSend chunk).Coherent := by
  unfold Stream.afterSend
  split
  · exact coherent
  · rename_i stillOpen
    exact ⟨coherent.coded, fun closed => absurd closed stillOpen, coherent.owed⟩

theorem Coherent.afterReset (coherent : stream.Coherent) (code : UInt32) :
    (stream.afterReset code).Coherent := by
  unfold Stream.afterReset
  split
  · exact coherent
  · exact ⟨rfl, fun _ => rfl, rfl⟩

theorem Coherent.afterConsume (coherent : stream.Coherent) (initial count : Int32) :
    (stream.afterConsume initial count).Coherent := by
  rw [afterConsume_eq]
  exact ⟨coherent.coded, coherent.emptied, coherent.owed⟩

theorem Coherent.served (coherent : stream.Coherent) (stillOpen : stream.isClosed = false)
    (initial : Int32) : (stream.served initial).Coherent := by
  have remains := isClosed_served initial stillOpen
  constructor
  · rw [resetCode_served, coherent.coded, stillOpen, remains]
  · rw [remains]
    exact nofun
  · rw [queued_served, remains]

/-- A stream that is there after a call is as coherent as before it. -/
theorem Coherent.after? (coherent : stream.Coherent)
    (left : stream.after? initial call = some later) : later.Coherent := by
  unfold Stream.after? at left
  cases call with
  | send named chunk =>
    cases left
    exact coherent.afterSend chunk
  | reset named code =>
    cases left
    exact coherent.afterReset code
  | consume named count =>
    cases left
    exact coherent.afterConsume initial count
  | grant named increment =>
    cases left
    exact ⟨coherent.coded, coherent.emptied, coherent.owed⟩
  | flush =>
    dsimp only at left
    split at left
    · cases left
    · rename_i stillOpen
      cases left
      exact coherent.served (Bool.not_eq_true _ ▸ stillOpen) initial
  | accept named | census =>
    cases left
    exact coherent

/-- Only a reset cancels a stream. -/
theorem wasCancelled_afterSend (chunk : Chunk) (stream : Stream) :
    (stream.afterSend chunk).wasCancelled = stream.wasCancelled := by
  unfold afterSend
  split
  · rfl
  · rename_i stillOpen
    rw [Bool.not_eq_true] at stillOpen
    rw [wasCancelled, wasCancelled, stillOpen, Bool.false_and]
    exact Bool.and_eq_false_imp.2 fun closed => absurd (stillOpen ▸ closed) Bool.false_ne_true

theorem wasCancelled_afterConsume (initial count : Int32) (stream : Stream) :
    (stream.afterConsume initial count).wasCancelled = stream.wasCancelled := by
  rw [afterConsume_eq]
  rfl

/-- A reset cancels a stream that waits to send. -/
theorem wasCancelled_afterReset (stillOpen : stream.isClosed = false) (code : UInt32) :
    (stream.afterReset code).wasCancelled = stream.queued.send := by
  rw [afterReset, stillOpen]
  rfl

/-- What is reported about a stream names it. -/
theorem stream_of_mem_events {id : StreamId} {event : Event}
    (reported : event ∈ stream.events initial id call) : event.stream = id := by
  unfold events at reported
  cases call with
  | send named chunk | reset named code | consume named count =>
    dsimp only at reported
    split at reported
    · cases reported
    · rw [List.mem_singleton] at reported
      rw [reported]
      rfl
  | flush =>
    have one {condition : Bool} {report : Event}
        (listed : event ∈ if condition then [report] else []) : event = report := by
      cases condition with
      | true => exact List.mem_singleton.1 listed
      | false => cases listed
    simp only [flushEvents, List.mem_append] at reported
    rcases reported with ((((filtered | reset) | window) | (ended | waits)) | closed)
    · rw [one filtered]; rfl
    · rw [one reset]; rfl
    · rw [one window]; rfl
    · rw [one ended]; rfl
    · rw [one waits]; rfl
    · rw [one closed]; rfl
  | accept named | grant named increment | census => cases reported

theorem coherent_opened (window : Int32) :
    ({ withWindow window with state := .opened } : Stream).Coherent :=
  ⟨rfl, nofun, rfl⟩

end Stream

namespace Alone

/-- What becomes of the stream of `id` in a call that names it or in a flush, and what is reported
about it. `accepted` is the answer, where the call asks for a new stream. -/
def step (initial : Int32) (id : StreamId) (accepted : Bool) (call : Call) :
    Option Stream → Option Stream × List Event
  | some stream => (stream.after? initial call, stream.events initial id call)
  | none =>
    match call with
    | .accept _ =>
      if accepted then (some { Stream.withWindow initial with state := .opened }, [.opened id])
      else (none, [])
    | _ => (none, [])

def asks : Call → Bool
  | .accept _ => true
  | _ => false

theorem eq_accept {id : StreamId} {call : Call} (target : call.target? = some id)
    (asked : asks call = true) : call = .accept id := by
  cases call with
  | accept named =>
    cases target
    rfl
  | send named chunk | reset named code | consume named count | grant named increment | flush
  | census => cases asked

/-- Where there is no stream, only a call that asks for one does anything. -/
theorem step_none {id : StreamId} {call : Call} (asked : asks call = false) (initial : Int32)
    (accepted : Bool) : step initial id accepted call none = (none, []) := by
  cases call with
  | accept named => cases asked
  | send named chunk | reset named code | consume named count | grant named increment | flush
  | census => rfl

/-- The answer matters only to a call that asks for a stream. -/
theorem step_congr {call : Call} (asked : asks call = false) (initial : Int32) (id : StreamId)
    (first second : Bool) (stream : Option Stream) :
    step initial id first call stream = step initial id second call stream := by
  cases stream with
  | none => rw [step_none asked, step_none asked]
  | some stream => rfl

/-- What holds of a new stream, and after a call where it held before, holds whenever there is a
stream. -/
theorem step_keeps {initial : Int32} {holds : Stream → Prop}
    (opens : holds { Stream.withWindow initial with state := .opened })
    (keeps : ∀ {stream later : Stream} {call : Call}, holds stream →
      stream.after? initial call = some later → holds later)
    {stream : Option Stream} (held : ∀ one ∈ stream, holds one) (id : StreamId) (accepted : Bool)
    (call : Call) : ∀ one ∈ (step initial id accepted call stream).1, holds one := by
  intro one left
  cases stream with
  | none =>
    cases call with
    | accept named =>
      cases accepted with
      | true =>
        cases left
        exact opens
      | false => cases left
    | send named chunk | reset named code | consume named count | grant named increment | flush
    | census => cases left
  | some old => exact keeps (held old rfl) left

/-- One call after the other, with the answers to those that ask for a new stream. -/
def run (initial : Int32) (id : StreamId) :
    List Call → List Answer → Option Stream → Option Stream × List Event
  | [], _, stream => (stream, [])
  | call :: rest, answers, stream =>
    let (stream, events) := step initial id (answers.head? == some (.accepted true)) call stream
    let (stream, later) := run initial id rest (if asks call then answers.tail else answers) stream
    (stream, events ++ later)

/-- A call that asks for the stream takes the next answer. -/
theorem run_accept (initial : Int32) (id : StreamId) (rest : List Call) (yes : Bool)
    (answers : List Answer) (stream : Option Stream) :
    run initial id (.accept id :: rest) (.accepted yes :: answers) stream =
      ((run initial id rest answers (step initial id yes (.accept id) stream).1).1,
        (step initial id yes (.accept id) stream).2 ++
          (run initial id rest answers (step initial id yes (.accept id) stream).1).2) := by
  cases yes <;> rfl

/-- Any other call leaves the answers to those that come. -/
theorem run_of_not_asks {call : Call} (asked : asks call = false) (initial : Int32) (id : StreamId)
    (rest : List Call) (yes : Bool) (answers : List Answer) (stream : Option Stream) :
    run initial id (call :: rest) answers stream =
      ((run initial id rest answers (step initial id yes call stream).1).1,
        (step initial id yes call stream).2 ++
          (run initial id rest answers (step initial id yes call stream).1).2) := by
  rw [run, asked, step_congr asked initial id _ yes]
  rfl

/-- What each call keeps of a stream, any calls keep. -/
theorem run_keeps {initial : Int32} {holds : Stream → Prop}
    (opens : holds { Stream.withWindow initial with state := .opened })
    (keeps : ∀ {stream later : Stream} {call : Call}, holds stream →
      stream.after? initial call = some later → holds later)
    {stream : Option Stream} (held : ∀ one ∈ stream, holds one) (id : StreamId)
    (calls : List Call) (answers : List Answer) :
    ∀ one ∈ (run initial id calls answers stream).1, holds one := by
  induction calls generalizing stream answers with
  | nil => exact held
  | cons call rest ih => exact ih (step_keeps opens keeps held id _ call) _

end Alone

end StreamMux
