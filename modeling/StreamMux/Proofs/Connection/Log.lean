import StreamMux.Proofs.Connection.Lifecycle

/-!
# What the events tell of a stream

The events that name a stream tell its lives one after the other, each from the stream's opening to
its removal, and between the two every turn in the queue for sending and the one reset
(`Alone.Logged`). Whatever is called, the log goes on in this way (`Alone.Logged.run`).
-/

namespace StreamMux

namespace Event

/-- Whether the event is one of a stream that is live, neither its opening nor its removal. -/
structure Inside (id : StreamId) (event : Event) : Prop where
  stream : event.stream = id
  opens : event.kind ≠ .opened
  closes : event.kind ≠ .closed

/-- What is reported of a queue is neither. -/
theorem Inside.of_queue {kind : EventKind} {queue : QueueKind} {reason : String} {id : StreamId}
    (between : kind ∈ [.queued, .dispatched, .filtered]) :
    Inside id { kind, stream := id, queue := queue.label, reason } where
  stream := rfl
  opens same := by
    cases same
    exact absurd between (by decide)
  closes same := by
    cases same
    exact absurd between (by decide)

end Event

/-- Turns in the queue for sending, one after the other, and whether the last of them goes on. A
turn starts when data is ready, and may be blocked any number of times. -/
inductive SendTurns (id : StreamId) : Bool → List Event → Prop where
  | none : SendTurns id false []
  | ready {events : List Event} (turns : SendTurns id false events) :
    SendTurns id true (events ++ [.queued .send "data_ready" id])
  | blocked {events : List Event} (turns : SendTurns id true events) :
    SendTurns id true (events ++ [.queued .send "blocked_on_window" id])
  | ended {events : List Event} (turns : SendTurns id true events) :
    SendTurns id false (events ++ [.dispatched .send "end_stream" id])
  | filtered {events : List Event} (turns : SendTurns id true events) :
    SendTurns id false (events ++ [.filtered .send "reset_before_write" id])

/-- The events of a stream while it is live: whether a turn in the queue for sending goes on, and
what there was in the queue for resets. -/
structure Life (id : StreamId) (waits : Bool) (resets events : List Event) : Prop where
  inside : ∀ event ∈ events, event.Inside id
  send : SendTurns id waits (events.filter (Event.within .send))
  reset : events.filter (Event.within .reset) = resets

/-- Lives that came to an end, one after the other. By then each had one reset, which was written,
and no turn in the queue for sending was left. -/
inductive Lives (id : StreamId) : List Event → Prop where
  | none : Lives id []
  | next {past events : List Event} (lived : Lives id past)
      (life : Life id false
        [.queued .reset "local_cancel" id, .dispatched .reset "rst_stream" id] events) :
    Lives id (past ++ .opened id :: events ++ [.closed id])

namespace Life

variable {id : StreamId} {waits : Bool} {resets events : List Event}

theorem begin (id : StreamId) : Life id false [] [] := ⟨nofun, .none, rfl⟩

/-- One event more, with what it says of the two queues. -/
theorem append (life : Life id waits resets events) (event : Event) {waits' : Bool}
    (inside : event.Inside id) (send : SendTurns id waits'
      (events.filter (Event.within .send) ++ [event].filter (Event.within .send))) :
    Life id waits' (resets ++ [event].filter (Event.within .reset)) (events ++ [event]) where
  inside one member := by
    rcases List.mem_append.1 member with before | last
    · exact life.inside one before
    · rw [List.mem_singleton.1 last]
      exact inside
  send := by
    rw [List.filter_append]
    exact send
  reset := by rw [List.filter_append, life.reset]

/-- A turn in the queue for sending starts, is blocked or comes to an end. -/
theorem turn (life : Life id waits resets events) (event : Event) {waits' : Bool}
    (inside : event.Inside id) (sends : event.within .send = true)
    (apart : event.within .reset = false)
    (send : SendTurns id waits' (events.filter (Event.within .send) ++ [event])) :
    Life id waits' resets (events ++ [event]) := by
  have only : [event].filter (Event.within .send) = [event] := List.filter_cons_of_pos sends
  have more := life.append event inside (only.symm ▸ send)
  simpa [apart] using more

/-- An event of another queue is none of the queue for sending. -/
theorem other (life : Life id waits resets events) (event : Event) (inside : event.Inside id)
    (apart : event.within .send = false) :
    Life id waits (resets ++ [event].filter (Event.within .reset)) (events ++ [event]) := by
  refine life.append event inside ?_
  simpa [apart] using life.send

/-- What there is to say about the window says nothing of the two queues. -/
theorem window (life : Life id waits resets events) (event : Event) (inside : event.Inside id)
    (sends : event.within .send = false) (resetting : event.within .reset = false) :
    Life id waits resets (events ++ [event]) := by
  simpa [resetting] using life.other event inside sends

end Life

namespace Stream

variable {id : StreamId} {stream later : Stream} {events : List Event}

/-- The events of a stream that is live say whether it waits to send and whether its peer is owed
the reset. -/
def Recounted (id : StreamId) (stream : Stream) (events : List Event) : Prop :=
  Life id stream.queued.send
    (if stream.queued.reset then [.queued .reset "local_cancel" id] else []) events

theorem Recounted.congr (recounted : stream.Recounted id events)
    (send : later.queued.send = stream.queued.send)
    (reset : later.queued.reset = stream.queued.reset) : later.Recounted id events := by
  rw [Recounted, send, reset]
  exact recounted

theorem Recounted.afterSend (recounted : stream.Recounted id events) (initial : Int32)
    (chunk : Chunk) :
    (stream.afterSend chunk).Recounted id
      (events ++ stream.events initial id (.send id chunk)) := by
  rw [Stream.events]
  cases closed : stream.isClosed with
  | true =>
    rw [Stream.afterSend, closed, Bool.true_or, if_pos rfl, if_pos rfl, List.append_nil]
    exact recounted
  | false =>
    rw [Stream.afterSend, closed, Bool.false_or]
    cases queued : stream.queued.send with
    | true =>
      rw [if_pos rfl, List.append_nil]
      exact recounted.congr queued.symm rfl
    | false =>
      rw [Recounted, queued] at recounted
      exact recounted.turn (.queued .send "data_ready" id) (.of_queue (by decide)) rfl rfl
        (.ready recounted.send)

theorem Recounted.afterReset (recounted : stream.Recounted id events) (coherent : stream.Coherent)
    (initial : Int32) (code : UInt32) :
    (stream.afterReset code).Recounted id
      (events ++ stream.events initial id (.reset id code)) := by
  cases closed : stream.isClosed with
  | true =>
    rw [Stream.events, Stream.afterReset, closed, Bool.true_or, if_pos rfl, if_pos rfl,
      List.append_nil]
    exact recounted
  | false =>
    rw [coherent.events_reset closed, Stream.afterReset, closed]
    have before : Life id stream.queued.send [] events := by
      rw [Recounted, coherent.owed, closed] at recounted
      exact recounted
    exact before.other (.queued .reset "local_cancel" id) (.of_queue (by decide)) rfl

theorem Recounted.afterConsume (recounted : stream.Recounted id events) (initial count : Int32) :
    (stream.afterConsume initial count).Recounted id
      (events ++ stream.events initial id (.consume id count)) := by
  have send : (stream.afterConsume initial count).queued.send = stream.queued.send := by
    rw [Stream.afterConsume_eq]
  have reset : (stream.afterConsume initial count).queued.reset = stream.queued.reset := by
    rw [Stream.afterConsume_eq]
  have told : stream.Recounted id (events ++ stream.events initial id (.consume id count)) := by
    rw [Stream.events]
    split
    · rw [List.append_nil]
      exact recounted
    · exact Life.window recounted (.queued .windowUpdate "half_window" id) (.of_queue (by decide))
        rfl rfl
  exact told.congr send reset

/-- A flush of a stream that is not closed tells of its window and of its turn. -/
theorem Recounted.served (recounted : stream.Recounted id events) (coherent : stream.Coherent)
    (stillOpen : stream.isClosed = false) (initial : Int32) :
    (stream.served initial).Recounted id (events ++ stream.flushEvents id) := by
  have before : Life id stream.queued.send [] events := by
    rw [Recounted, coherent.owed, stillOpen] at recounted
    exact recounted
  have advertised : Life id stream.queued.send [] (events ++ if stream.queued.windowUpdate then
      [.dispatched .windowUpdate "window_update" id] else []) := by
    split
    · exact before.window (.dispatched .windowUpdate "window_update" id)
        (.of_queue (by decide)) rfl rfl
    · rw [List.append_nil]
      exact before
  rw [Recounted, queued_served, flushEvents, wasCancelled, coherent.isNone_resetCode, stillOpen]
  simp only [Bool.false_and, Bool.and_true, Bool.not_false, Bool.false_eq_true, if_false,
    List.nil_append, List.append_nil, ← List.append_assoc]
  generalize events ++ (if stream.queued.windowUpdate then _ else _) = told at advertised ⊢
  cases waits : stream.queued.send with
  | false =>
    rw [waits] at advertised
    simpa using advertised
  | true =>
    rw [waits] at advertised
    cases ends : stream.payloadAfterFlush.1.isEmpty with
    | true =>
      simpa using advertised.turn (.dispatched .send "end_stream" id)
        (.of_queue (by decide)) rfl rfl (.ended advertised.send)
    | false =>
      simpa using advertised.turn (.queued .send "blocked_on_window" id)
        (.of_queue (by decide)) rfl rfl (.blocked advertised.send)

/-- A flush of a closed stream brings its life to an end. -/
theorem Recounted.removed (recounted : stream.Recounted id events) (coherent : stream.Coherent)
    (closed : stream.isClosed = true) :
    ∃ last, stream.flushEvents id = last ++ [.closed id] ∧
      Life id false [.queued .reset "local_cancel" id, .dispatched .reset "rst_stream" id]
        (events ++ last) := by
  have before : Life id stream.queued.send [.queued .reset "local_cancel" id] events := by
    rw [Recounted, coherent.owed, closed] at recounted
    exact recounted
  have left : Life id false [.queued .reset "local_cancel" id]
      (events ++ if stream.queued.send then [.filtered .send "reset_before_write" id] else []) := by
    cases waits : stream.queued.send with
    | true =>
      rw [waits] at before
      exact before.turn (.filtered .send "reset_before_write" id) (.of_queue (by decide)) rfl rfl
        (.filtered before.send)
    | false =>
      rw [waits] at before
      rw [if_neg Bool.false_ne_true, List.append_nil]
      exact before
  refine ⟨(if stream.queued.send then [.filtered .send "reset_before_write" id] else []) ++
    [.dispatched .reset "rst_stream" id], ?_, ?_⟩
  · simp [flushEvents, wasCancelled, closed, coherent.isNone_resetCode]
  · rw [← List.append_assoc]
    exact left.other (.dispatched .reset "rst_stream" id) (.of_queue (by decide)) rfl

/-- A stream that is there after a call goes on with the life that it had. -/
theorem Recounted.after? (recounted : stream.Recounted id events) (coherent : stream.Coherent)
    {initial : Int32} {call : Call} (left : stream.after? initial call = some later) :
    later.Recounted id (events ++ stream.events initial id call) := by
  unfold Stream.after? at left
  cases call with
  | send named chunk =>
    cases left
    exact recounted.afterSend initial chunk
  | reset named code =>
    cases left
    exact recounted.afterReset coherent initial code
  | consume named count =>
    cases left
    exact recounted.afterConsume initial count
  | grant named increment =>
    cases left
    rw [Stream.events, List.append_nil]
    exact recounted.congr rfl rfl
  | accept named | census =>
    cases left
    rw [Stream.events, List.append_nil]
    exact recounted
  | flush =>
    dsimp only at left
    split at left
    · cases left
    · rename_i stillOpen
      cases left
      exact recounted.served coherent (Bool.not_eq_true _ ▸ stillOpen) initial

/-- Only a flush removes a stream, and only one that is closed. -/
theorem after?_eq_none {initial : Int32} {call : Call} (gone : stream.after? initial call = none) :
    call = .flush ∧ stream.isClosed = true := by
  unfold Stream.after? at gone
  cases call with
  | flush =>
    dsimp only at gone
    split at gone
    · rename_i closed
      exact ⟨rfl, closed⟩
    · cases gone
  | send named chunk | reset named code | consume named count | grant named increment
  | accept named | census => cases gone

end Stream

namespace Alone

variable {id : StreamId} {stream : Option Stream} {log : List Event}

/-- The events that name a stream: its lives so far, and the one that goes on if it is live. -/
def Logged (id : StreamId) : Option Stream → List Event → Prop
  | none, log => Lives id log
  | some stream, log =>
    ∃ past events, Lives id past ∧ stream.Recounted id events ∧ log = past ++ .opened id :: events

/-- What is reported in a call goes on with the lives of the stream. -/
theorem Logged.step (logged : Logged id stream log) (coherent : ∀ one ∈ stream, one.Coherent)
    (initial : Int32) (accepted : Bool) (call : Call) :
    Logged id (step initial id accepted call stream).1
      (log ++ (step initial id accepted call stream).2) := by
  cases stream with
  | none =>
    cases asked : asks call with
    | false =>
      rw [step_none asked, List.append_nil]
      exact logged
    | true =>
      cases call with
      | accept named =>
        cases accepted with
        | true => exact ⟨log, [], logged, .begin id, rfl⟩
        | false =>
          rw [show step initial id false (.accept named) none = (none, []) from rfl,
            List.append_nil]
          exact logged
      | send named chunk | reset named code | consume named count | grant named increment | flush
      | census => cases asked
  | some one =>
    obtain ⟨past, events, lived, recounted, rfl⟩ := logged
    have coherent := coherent one rfl
    rw [step]
    dsimp only
    cases after : one.after? initial call with
    | some later =>
      refine ⟨past, events ++ one.events initial id call, lived,
        recounted.after? coherent after, ?_⟩
      rw [List.append_assoc, List.cons_append]
    | none =>
      obtain ⟨rfl, closed⟩ := Stream.after?_eq_none after
      obtain ⟨last, flushed, life⟩ := recounted.removed coherent closed
      have ended := Lives.next lived life
      show Lives id (past ++ .opened id :: events ++ one.flushEvents id)
      rw [flushed]
      simpa using ended

theorem Logged.run (logged : Logged id stream log) (coherent : ∀ one ∈ stream, one.Coherent)
    (initial : Int32) (calls : List Call) (answers : List Answer) :
    Logged id (run initial id calls answers stream).1
      (log ++ (run initial id calls answers stream).2) := by
  induction calls generalizing stream log answers with
  | nil =>
    rw [Alone.run, List.append_nil]
    exact logged
  | cons call rest ih =>
    rw [Alone.run]
    dsimp only
    rw [← List.append_assoc]
    refine ih (logged.step coherent initial _ call) ?_ _
    exact step_keeps (Stream.coherent_opened initial) (fun coherent left => coherent.after? left)
      coherent id _ call

/-- What is reported about a stream that has not been opened yet tells its lives from the first. -/
theorem logged_run (initial : Int32) (id : StreamId) (calls : List Call) (answers : List Answer) :
    Logged id (run initial id calls answers none).1 (run initial id calls answers none).2 := by
  have begins : Logged id none [] := Lives.none
  simpa using begins.run (by simp) initial calls answers

end Alone

end StreamMux
