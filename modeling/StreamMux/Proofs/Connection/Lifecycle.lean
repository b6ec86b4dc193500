import StreamMux.Proofs.Connection.View

/-!
# How streams end

A stream ends with a reset and the flush that follows. The reset closes it for good: until the
flush nothing but its credit changes, and nothing more is reported about it (`Alone.run_closed`).
The flush writes the reset and removes the stream, with every other stream that was closed and none
that was not (`Connection.Swept`), so nothing that a reset leaves to be done outlives a flush.
-/

namespace StreamMux

/-- Whether the event ends a stream: its reset is written, or it is removed. -/
def Event.ends (event : Event) : Bool :=
  event.kind == .closed || event.kind == .dispatched && event.within .reset

namespace Event

variable {id : StreamId} {kind : QueueKind} {reason : String}

@[simp] theorem ends_closed : (closed id).ends = true := rfl

@[simp] theorem ends_dispatched : (dispatched kind reason id).ends = (kind == .reset) := by
  cases kind <;> rfl

@[simp] theorem ends_filtered : (filtered kind reason id).ends = false := rfl

@[simp] theorem ends_queued : (queued kind reason id).ends = false := rfl

end Event

namespace Stream

variable {stream : Stream}

/-- A stream of a connection is open, has ended its side or is closed. It is closed when it has an
error code, and then it has no payload. -/
structure Staged (stream : Stream) : Prop where
  state : stream.state = .opened ∨ stream.state = .halfClosedLocal ∨ stream.state = .closed
  coded : stream.state = .closed ↔ stream.resetCode.isSome = true
  emptied : stream.state = .closed → stream.pendingData = []

/-- What a reset with `code` makes of a stream, and what stays so until the stream is removed. -/
structure ResetWith (code : UInt32) (before after : Stream) : Prop where
  state : after.state = .closed
  coded : after.resetCode = some code
  emptied : after.pendingData = []
  windowUpdate : after.queued.windowUpdate = before.queued.windowUpdate

/-- A flush ends the streams that are closed and no other. -/
theorem ends_flushEvents (id : StreamId) (stream : Stream) :
    (stream.flushEvents id).filter Event.ends =
      if stream.isClosed then [.dispatched .reset "rst_stream" id, .closed id] else [] := by
  have chosen {condition : Bool} {report : Event} :
      (if condition then [report] else []).filter Event.ends =
        if condition && report.ends then [report] else [] := by
    cases condition <;> cases ends : report.ends <;> simp [ends]
  simp only [flushEvents, List.filter_append, chosen, Event.ends_closed, Event.ends_dispatched,
    Event.ends_filtered, Event.ends_queued]
  cases stream.isClosed <;> simp

/-- Resetting a stream that is not closed reports that the peer is owed the reset. -/
theorem Coherent.events_reset (coherent : stream.Coherent) (stillOpen : stream.isClosed = false)
    (initial : Int32) (id : StreamId) (code : UInt32) :
    stream.events initial id (.reset id code) = [.queued .reset "local_cancel" id] := by
  rw [events, stillOpen, coherent.owed, stillOpen]
  rfl

end Stream

namespace Alone

variable {stream : Stream} {calls : List Call}

/-- Until the next flush only the credit of a closed stream changes, and nothing is reported. -/
theorem step_closed (closed : stream.isClosed = true) {call : Call} (calm : call ≠ .flush)
    (initial : Int32) (id : StreamId) (accepted : Bool) :
    ∃ sendWindow recvWindow, step initial id accepted call (some stream) =
      (some { stream with sendWindow, recvWindow }, []) := by
  cases call with
  | accept named | census => exact ⟨stream.sendWindow, stream.recvWindow, rfl⟩
  | send named chunk =>
    refine ⟨stream.sendWindow, stream.recvWindow, ?_⟩
    rw [step, Stream.after?, Stream.afterSend, Stream.events, closed]
    rfl
  | reset named code =>
    refine ⟨stream.sendWindow, stream.recvWindow, ?_⟩
    rw [step, Stream.after?, Stream.afterReset, Stream.events, closed]
    rfl
  | consume named count =>
    refine ⟨stream.sendWindow, stream.recvWindow - count, ?_⟩
    rw [step, Stream.after?, Stream.afterConsume, Stream.events, closed, Bool.or_true, Bool.or_true]
    rfl
  | grant named increment => exact ⟨grantWindow stream.sendWindow increment, stream.recvWindow, rfl⟩
  | flush => exact absurd rfl calm

theorem run_closed (closed : stream.isClosed = true) (unflushed : .flush ∉ calls) (initial : Int32)
    (id : StreamId) (answers : List Answer) :
    ∃ sendWindow recvWindow, run initial id calls answers (some stream) =
      (some { stream with sendWindow, recvWindow }, []) := by
  induction calls generalizing stream answers with
  | nil => exact ⟨stream.sendWindow, stream.recvWindow, rfl⟩
  | cons call rest ih =>
    obtain ⟨calm, unflushed⟩ := List.ne_and_not_mem_of_not_mem_cons unflushed
    obtain ⟨sendWindow, recvWindow, stepped⟩ := step_closed closed (Ne.symm calm) initial id
      (answers.head? == some (.accepted true))
    let credited : Stream := { stream with sendWindow, recvWindow }
    have remains : credited.isClosed = true := closed
    obtain ⟨sendWindow', recvWindow', ran⟩ := ih remains unflushed
      (if asks call then answers.tail else answers)
    refine ⟨sendWindow', recvWindow', ?_⟩
    rw [run, stepped]
    dsimp only
    rw [ran]
    rfl

end Alone

namespace Connection

/-- A flush that answers `next` and `events` removes exactly the streams that were closed, each
with one event that its reset is written and a later one that it is removed. It leaves no closed
stream, and nothing that a reset or a window update waits for. -/
structure Swept (conn next : Connection) (events : List Event) : Prop where
  kept : ∀ id, next.store.contains id = (conn.store.lookup id).any (!·.isClosed)
  ended : ∀ id, (events.filter (Event.about id)).filter Event.ends =
    if (conn.store.lookup id).any Stream.isClosed then
      [.dispatched .reset "rst_stream" id, .closed id]
    else []
  live : ∀ id stream, next.store.lookup id = some stream → stream.state ≠ .closed
  reset : next.queues.reset = .empty
  windowUpdate : next.queues.windowUpdate = .empty
  closing : next.closing = []
  cancelled : next.cancelled = []

variable {conn next : Connection} {plain : Plain} {id : StreamId} {stream : Stream}
  {later : List Call}

/-- A queue whose list is empty has no head. -/
theorem Models.queue_eq_empty (models : conn.Models plain) {kind : QueueKind}
    (line : plain.lines.get kind = []) : conn.queues.get kind = .empty := by
  obtain ⟨keys, names, owns⟩ := models.tracks.owns kind
  rw [line] at names
  cases names
  exact owns.toHolds.eq_empty

/-- The stream of an id in the store is that of the plain connection but for its links. -/
theorem Models.streams_of_lookup (models : conn.Models plain)
    (found : conn.store.lookup id = some stream) : plain.streams id = some stream.unlinked := by
  rw [models.streams_eq, found, Option.map_some]

/-- The streams of a flushed connection are those that the flush leaves, but for their links. -/
theorem Models.lookup_flush (models : conn.Models plain) (orderly : plain.Orderly)
    (models' : next.Models plain.flush.1) (found : conn.store.lookup id = some stream) :
    (next.store.lookup id).map Stream.unlinked =
      stream.unlinked.after? plain.config.initialWindowSize .flush := by
  rw [← models'.streams_eq, orderly.streams_flush models.sound, models.streams_eq, found,
    Option.map_some, Option.bind_some]

/-- A stream that is not closed is there after a flush, as its turn leaves it. -/
theorem Models.lookup_flush_of_open (models : conn.Models plain) (orderly : plain.Orderly)
    (models' : next.Models plain.flush.1) (found : conn.store.lookup id = some stream)
    (stillOpen : stream.unlinked.isClosed = false) :
    ∃ later, next.store.lookup id = some later ∧
      later.unlinked = stream.unlinked.served plain.config.initialWindowSize := by
  have left := models.lookup_flush orderly models' found
  rw [Stream.after?, stillOpen, if_neg Bool.false_ne_true] at left
  exact Option.map_eq_some_iff.1 left

theorem Models.staged (models : conn.Models plain) (orderly : plain.Orderly)
    (found : conn.store.lookup id = some stream) : stream.Staged := by
  have present := models.streams_of_lookup found
  have coherent := orderly.coherent present
  have closed : stream.unlinked.isClosed = true ↔ stream.state = .closed := beq_iff_eq
  refine ⟨(models.sound.states present :), ?_, fun closes => ?_⟩
  · rw [← closed, ← coherent.coded]
    rfl
  · exact coherent.emptied (closed.2 closes)

/-- A reset closes a stream, and it stays as the reset made it through any calls but flushes. -/
theorem Models.reset_lasts (models : conn.Models plain) (orderly : plain.Orderly)
    (found : conn.store.lookup id = some stream) (stillOpen : stream.isClosed = false)
    (code : UInt32) (unflushed : .flush ∉ later) :
    ∃ last events closed, conn.run (.reset id code :: later) = .ok (last, events) ∧
      last.store.lookup id = some closed ∧ stream.ResetWith code closed ∧
      events.filter (Event.about id) = [.queued .reset "local_cancel" id] := by
  obtain ⟨last, ran, models'⟩ := models.run (.reset id code :: later)
  obtain ⟨answers, -, shown⟩ := models.view_run orderly (.reset id code :: later) id
  have present := models.streams_of_lookup found
  have coherent := orderly.coherent present
  have open' : stream.unlinked.isClosed = false := stillOpen
  let closed := stream.unlinked.afterReset code
  have closes : closed = { stream.unlinked.setQueued .reset true with
      state := .closed, resetCode := some code, pendingData := [] } := if_neg (by simp [open'])
  have concerned : Call.concerns id (.reset id code) = true := by simp [Call.concerns, Call.target?]
  have calm : .flush ∉ later.filter (Call.concerns id) := fun member =>
    unflushed (List.mem_filter.1 member).1
  have isClosed : closed.isClosed = true := by rw [closes]; rfl
  obtain ⟨sendWindow, recvWindow, remains⟩ :=
    Alone.run_closed isClosed calm plain.config.initialWindowSize id answers
  have stepped : Alone.step plain.config.initialWindowSize id true (.reset id code)
      (some stream.unlinked) = (some closed, [.queued .reset "local_cancel" id]) := by
    rw [Alone.step, coherent.events_reset open']
    rfl
  rw [present, List.filter_cons_of_pos concerned, Alone.run_of_not_asks rfl _ id _ true, stepped,
    remains, models'.streams_eq] at shown
  obtain ⟨left, reported⟩ := Prod.mk.inj shown
  obtain ⟨final, present', same⟩ := Option.map_eq_some_iff.1 left
  rw [closes] at same
  exact ⟨last, _, final, ran, present',
    ⟨(congrArg Stream.state same :), (congrArg Stream.resetCode same :),
      (congrArg Stream.pendingData same :), (congrArg (·.queued.windowUpdate) same :)⟩, reported⟩

/-- A flush removes the streams that were reset, and leaves nothing of them. -/
theorem Models.swept (models : conn.Models plain) (orderly : plain.Orderly) :
    ∃ next events, conn.flush = .ok (next, events) ∧ conn.Swept next events := by
  obtain ⟨next, flushed, models'⟩ := models.flush
  have sound := models.sound
  obtain ⟨-, reset, windowUpdate⟩ := sound.lines_flush
  refine ⟨next, _, flushed, fun id => ?_, fun id => ?_, fun id stream found => ?_,
    models'.queue_eq_empty reset, models'.queue_eq_empty windowUpdate, ?_, ?_⟩
  · rw [models'.contains_eq, orderly.streams_flush sound, models.streams_eq]
    cases conn.store.lookup id with
    | none => rfl
    | some stream =>
      rw [Option.map_some, Option.bind_some, Stream.after?, Option.any_some]
      cases closed : stream.isClosed with
      | true => rw [if_pos (show stream.unlinked.isClosed = true from closed)]; rfl
      | false => rw [if_neg (by simp [show stream.unlinked.isClosed = false from closed])]; rfl
  · rw [orderly.flush_about sound, models.streams_eq]
    cases conn.store.lookup id with
    | none => rfl
    | some stream => exact stream.unlinked.ends_flushEvents id
  · have stillOpen := orderly.isClosed_flush sound (models'.streams_of_lookup found)
    exact fun closed => absurd (stillOpen.symm.trans (beq_iff_eq.2 closed)) Bool.false_ne_true
  · rw [models'.closing, orderly.closing_flush sound]
  · rw [models'.cancelled, Plain.cancelled_flush]

/-- After any calls: each stream is in one of three states and closed when it has an error code; a
reset of a stream that is not closed closes it for as long as there is no flush; and a flush removes
the streams that are closed, leaving nothing to be done for them. -/
theorem Fresh.lifecycle_of_run (fresh : conn.Fresh) (calls : List Call) :
    ∃ after events, conn.run calls = .ok (after, events) ∧
      (∀ id stream, after.store.lookup id = some stream → stream.Staged) ∧
      (∀ id stream code later, after.store.lookup id = some stream → stream.isClosed = false →
        .flush ∉ later →
          ∃ last events closed, after.run (.reset id code :: later) = .ok (last, events) ∧
            last.store.lookup id = some closed ∧ stream.ResetWith code closed ∧
            events.filter (Event.about id) = [.queued .reset "local_cancel" id]) ∧
      ∃ next events, after.flush = .ok (next, events) ∧ after.Swept next events := by
  obtain ⟨after, ran, models⟩ := fresh.models_fresh.run calls
  have orderly := fresh.models_fresh.orderly_run (Plain.orderly_fresh conn.config) calls
  refine ⟨after, _, ran, fun id stream found => models.staged orderly found, ?_,
    models.swept orderly⟩
  intro id stream code later found stillOpen unflushed
  exact models.reset_lasts orderly found stillOpen code unflushed

/-- One stream waits to send and for its window to be advertised when it is reset; another one is
open. -/
theorem lifecycle_of_two_streams :
    Fresh { config := .defaults } ∧
      ∃ after events,
        run { config := .defaults } [.accept (.ofRaw 1), .accept (.ofRaw 3),
          .send (.ofRaw 1) (.filled 3 0), .consume (.ofRaw 1) 65535, .reset (.ofRaw 1) 8] =
            .ok (after, events) ∧
        (∀ id stream, after.store.lookup id = some stream → stream.Staged) ∧
        (∀ id stream code later, after.store.lookup id = some stream → stream.isClosed = false →
          .flush ∉ later →
            ∃ last events closed, after.run (.reset id code :: later) = .ok (last, events) ∧
              last.store.lookup id = some closed ∧ stream.ResetWith code closed ∧
              events.filter (Event.about id) = [.queued .reset "local_cancel" id]) ∧
        ∃ next events, after.flush = .ok (next, events) ∧ after.Swept next events :=
  ⟨.mk .defaults .empty, Fresh.lifecycle_of_run (.mk .defaults .empty) _⟩

end Connection

end StreamMux
