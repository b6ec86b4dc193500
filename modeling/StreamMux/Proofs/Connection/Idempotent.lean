import StreamMux.Proofs.Connection.Determined
import StreamMux.Proofs.Connection.View

/-!
# Flushing twice is flushing once

A flush leaves nothing that another one could write: the streams that are left were not reset, and
those that wait to send have run out of credit (`Plain.Rested`). So the next flush takes them out of
the queue for sending, puts them back in the same order, and leaves the connection as it was, slots
and links included (`Connection.Fresh.flush_idempotent_of_run`).
-/

namespace StreamMux

/-- A turn leaves nothing that another turn could write. -/
theorem transmit_transmit (chunks : List Chunk) (credit : Int32) :
    transmit (transmit chunks credit).1 (transmit chunks credit).2 = transmit chunks credit := by
  cases left : transmit chunks credit with
  | mk rest credit' =>
    cases rest with
    | nil => rfl
    | cons chunk rest =>
      have short := transmit_blocked left
      dsimp only
      rw [transmit, if_neg (by omega)]

namespace Stream

variable {stream : Stream}

/-- A flush has nothing to do for the stream. If it waits to send, its credit does not cover the
next chunk. -/
structure Rested (stream : Stream) : Prop where
  unreset : stream.resetCode = none
  unowed : stream.queued.reset = false
  unqueued : stream.queued.windowUpdate = false
  blocked : stream.queued.send = true → stream.pendingData ≠ [] ∧
    transmit stream.pendingData stream.sendWindow = (stream.pendingData, stream.sendWindow)

/-- A stream that is not closed is rested after a flush. -/
theorem Coherent.rested_served (coherent : stream.Coherent) (stillOpen : stream.isClosed = false)
    (initial : Int32) : (stream.served initial).Rested := by
  have code : stream.resetCode = none := by
    rw [← Option.isNone_iff_eq_none, coherent.isNone_resetCode, stillOpen, Bool.not_false]
  have queued := queued_served initial stream
  rw [code, Option.isNone_none, Bool.and_true] at queued
  refine ⟨(resetCode_served ..).trans code, by rw [queued], by rw [queued], fun waits => ?_⟩
  rw [queued] at waits
  obtain ⟨turn, remains⟩ := Bool.and_eq_true_iff.1 waits
  have payload : stream.payloadAfterFlush = transmit stream.pendingData stream.sendWindow := by
    rw [payloadAfterFlush, turn, code, Option.isNone_none, Bool.and_true, if_pos rfl]
  obtain ⟨data, credit⟩ := Prod.mk.inj ((payload_served initial stream).trans payload)
  rw [payload] at remains
  rw [data, credit, transmit_transmit]
  exact ⟨by simpa using remains, rfl⟩

/-- A turn of a rested stream, if it has one, writes nothing. -/
theorem Rested.payloadAfterFlush (rested : stream.Rested) :
    stream.payloadAfterFlush = (stream.pendingData, stream.sendWindow) := by
  unfold Stream.payloadAfterFlush
  split
  · rename_i turn
    exact (rested.blocked (Bool.and_eq_true_iff.1 turn).1).2
  · rfl

theorem Rested.turned (rested : stream.Rested) : stream.turned = stream := by
  unfold Stream.turned
  split
  · rename_i waits
    obtain ⟨remains, unwritten⟩ := rested.blocked waits
    have same : stream.transmitted = stream.setQueued .send false := by
      rw [transmitted, unwritten]
      simp [remains, setQueued]
    have empty : stream.pendingData.isEmpty = false := by simpa using remains
    rw [same]
    show (stream.setQueued .send false).setQueued .send (!stream.pendingData.isEmpty) = stream
    rw [empty, Bool.not_false]
    exact Stream.setQueued_of_get .send waits
  · rfl

/-- A flush leaves a rested stream as it is. -/
theorem Rested.served (rested : stream.Rested) (initial : Int32) :
    stream.served initial = stream := by
  have prepared : stream.prepared initial = stream := by
    obtain ⟨state, credit, window, data, code, ⟨send, reset, updates⟩, links⟩ := stream
    obtain ⟨rfl, rfl, rfl, -⟩ := rested
    rw [prepared_eq]
    simp
  rw [Stream.served, prepared, rested.turned]

end Stream

namespace Connection

namespace Plain

variable {plain : Plain} {id : StreamId} {stream : Stream}

/-- A flush has nothing to write and no stream to remove. -/
structure Rested (plain : Plain) : Prop where
  streams : ∀ {id stream}, plain.streams id = some stream → stream.Rested
  reset : plain.lines.get .reset = []
  windowUpdate : plain.lines.get .windowUpdate = []
  closing : plain.closing = []
  cancelled : plain.cancelled = []

theorem Orderly.rested_flush (orderly : plain.Orderly) (sound : plain.Sound) :
    plain.flush.1.Rested where
  streams {id stream} found := by
    rw [orderly.streams_flush sound] at found
    obtain ⟨old, before, left⟩ := Option.bind_eq_some_iff.1 found
    rw [Stream.after?] at left
    split at left
    · cases left
    · rename_i stillOpen
      cases left
      exact (orderly.coherent before).rested_served (Bool.not_eq_true _ ▸ stillOpen) _
  reset := sound.lines_flush.2.1
  windowUpdate := sound.lines_flush.2.2
  closing := orderly.closing_flush sound
  cancelled := cancelled_flush plain

theorem reclaim_of_idle (idle : plain.closing = []) : plain.reclaim = (plain, []) := by
  obtain ⟨config, streams, lines, closing, cancelled, openStreams, stats⟩ := plain
  cases idle
  rfl

/-- Who waits to send has payload that the credit does not cover. -/
theorem Rested.remains (rested : plain.Rested) (sound : plain.Sound)
    (waits : id ∈ plain.lines.get .send) :
    ∃ stream, plain.streams id = some stream ∧ stream.resetCode = none ∧
      stream.payloadAfterFlush.1.isEmpty = false := by
  obtain ⟨stream, found⟩ := sound.present waits
  have rest := rested.streams found
  have queued : stream.queued.send = true := (sound.flagged found .send).2 waits
  refine ⟨stream, found, rest.unreset, ?_⟩
  rw [rest.payloadAfterFlush]
  simpa using (rest.blocked queued).1

theorem Rested.waiting_eq (rested : plain.Rested) (sound : plain.Sound) :
    plain.waiting = plain.lines.get .send := by
  rw [waiting, select, List.filter_eq_self]
  intro id waits
  obtain ⟨stream, found, unreset, remains⟩ := rested.remains sound waits
  simp [found, unreset, remains]

theorem Rested.finished_eq (rested : plain.Rested) (sound : plain.Sound) :
    plain.finished = [] := by
  rw [finished, select, List.filter_eq_nil_iff]
  intro id waits
  obtain ⟨stream, found, unreset, remains⟩ := rested.remains sound waits
  simp [found, remains]

/-- A flush of a rested connection puts back who waits to send, in the same order. -/
theorem Rested.flush (rested : plain.Rested) (orderly : plain.Orderly) (sound : plain.Sound) :
    plain.flush =
      (plain, (plain.lines.get .send).map (.queued .send "blocked_on_window")) := by
  have written : plain.flush.1 = plain.written := by
    rw [flush_eq_reclaim, reclaim_of_idle ((closing_written plain).trans rested.closing)]
  have events : plain.flush.2 =
      (plain.lines.get .send).map (.queued .send "blocked_on_window") := by
    rw [orderly.flush_events sound, rested.cancelled, rested.closing, select, rested.windowUpdate,
      rested.finished_eq sound, rested.waiting_eq sound]
    simp
  have streams : plain.flush.1.streams = plain.streams := by
    funext k
    rw [sound.streams_flush, rested.closing, if_neg List.not_mem_nil]
    cases found : plain.streams k with
    | none => rfl
    | some stream => rw [Option.map_some, (rested.streams found).served]
  have lines : plain.flush.1.lines = plain.lines := by
    obtain ⟨send, reset, windowUpdate⟩ := sound.lines_flush
    apply PerQueue.ext_get
    intro kind
    cases kind with
    | send => rw [send, rested.waiting_eq sound]
    | reset => rw [reset, rested.reset]
    | windowUpdate => rw [windowUpdate, rested.windowUpdate]
  have kept : (plain.flush.1.config, plain.flush.1.openStreams, plain.flush.1.stats) =
      (plain.config, plain.openStreams, plain.stats) := by
    rw [written]
    exact plain.written_keeps (fun plain => (plain.config, plain.openStreams, plain.stats))
      fun _ _ _ => rfl
  have closing := (orderly.closing_flush sound).trans rested.closing.symm
  have cancelled := (cancelled_flush plain).trans rested.cancelled.symm
  refine Prod.ext ?_ events
  generalize plain.flush.1 = after at streams lines kept closing cancelled
  obtain ⟨config, openStreams, stats⟩ : after.config = plain.config ∧
      after.openStreams = plain.openStreams ∧ after.stats = plain.stats := by simpa using kept
  cases after
  cases plain
  cases streams
  cases lines
  cases config
  cases openStreams
  cases stats
  cases closing
  cases cancelled
  rfl

end Plain

variable {conn : Connection} {plain : Plain}

/-- The second of two flushes does nothing, and reports who waits for credit. -/
theorem Models.flush_flush (models : conn.Models plain) (orderly : plain.Orderly) :
    ∃ once more line, conn.flush = .ok (once, more) ∧ once.HasLine .send line ∧
      once.flush = .ok (once, line.map (.queued .send "blocked_on_window")) := by
  have rested := orderly.rested_flush models.sound
  obtain ⟨once, flushed, models'⟩ := models.flush
  obtain ⟨twice, flushed', models''⟩ := models'.flush
  rw [rested.flush (orderly.flush models.sound) models'.sound] at flushed' models''
  have idle : once.closing = [] := models'.closing.trans rested.closing
  obtain rfl : twice = once := models'.eq_of_kept models'' (kept_of_flush idle flushed')
  exact ⟨twice, _, _, flushed, models'.hasLine .send, flushed'⟩

/-- After any calls, flushing twice leaves the very connection that flushing once leaves. The second
flush reports the streams that wait to send, in the order of their queue, and nothing else. -/
theorem Fresh.flush_idempotent_of_run (fresh : conn.Fresh) (calls : List Call) :
    ∃ after events, conn.run calls = .ok (after, events) ∧
      ∃ once more line, after.flush = .ok (once, more) ∧ once.HasLine .send line ∧
        once.flush = .ok (once, line.map (.queued .send "blocked_on_window")) := by
  have models := fresh.models_fresh
  have orderly := Plain.orderly_fresh conn.config
  obtain ⟨after, ran, models'⟩ := models.run calls
  exact ⟨after, _, ran, models'.flush_flush (models.orderly_run orderly calls)⟩

/-- Two streams have more to send than their credit covers, one has sent everything, and one is
reset while it waits to send and for its window. -/
def creditAwaited : List Call :=
  [.accept (.ofRaw 1), .accept (.ofRaw 3), .accept (.ofRaw 5), .accept (.ofRaw 7),
    .send (.ofRaw 7) (.filled 6 0), .send (.ofRaw 1) (.filled 8 0), .send (.ofRaw 3) (.filled 4 0),
    .send (.ofRaw 5) (.filled 2 0), .send (.ofRaw 7) (.filled 6 1), .send (.ofRaw 1) (.filled 3 1),
    .consume (.ofRaw 5) 9, .consume (.ofRaw 1) 6, .reset (.ofRaw 5) 8]

theorem flush_idempotent_of_run_creditAwaited :
    Fresh { config := { initialWindowSize := 10 } } ∧
      ∃ after events,
        run { config := { initialWindowSize := 10 } } creditAwaited = .ok (after, events) ∧
        ∃ once more line, after.flush = .ok (once, more) ∧ once.HasLine .send line ∧
          once.flush = .ok (once, line.map (.queued .send "blocked_on_window")) :=
  ⟨.mk _ .empty, Fresh.flush_idempotent_of_run (.mk _ .empty) creditAwaited⟩

end Connection

end StreamMux
